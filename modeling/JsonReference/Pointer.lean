import JsonReference.Json.Basic
import JsonReference.Text.Quoted

namespace JsonReference

/-- The nodes right below a node, in document order, each with the token that leads to it. -/
def Json.children : Json → List (Text × Json)
  | .object members => members
  | .array items => items.zipIdx.map fun item => (Text.ofNat item.2, item.1)
  | _ => []

theorem Json.sizeOf_children (node : Json) :
    node.children.foldr (sizeOf ·.2 + ·) 0 < sizeOf node := by
  cases node with
  | object members =>
      have hle : members.foldr (sizeOf ·.2 + ·) 0 ≤ sizeOf members := by
        induction members with
        | nil => simp
        | cons m rest ih =>
            obtain ⟨k, x⟩ := m
            simp only [List.foldr_cons, List.cons.sizeOf_spec, Prod.mk.sizeOf_spec]
            omega
      rw [children, Json.object.sizeOf_spec]
      omega
  | array items =>
      have hle (i : Nat) : (items.zipIdx i).foldr (sizeOf ·.1 + ·) 0 ≤ sizeOf items := by
        induction items generalizing i with
        | nil => simp
        | cons x rest ih =>
            simp only [List.zipIdx_cons, List.foldr_cons, List.cons.sizeOf_spec]
            have := ih (i + 1)
            omega
      rw [children, List.foldr_map, Json.array.sizeOf_spec]
      exact Nat.lt_of_le_of_lt (hle 0) (by omega)
  | null | bool | number | string =>
      simp only [children, List.foldr_nil, Json.null.sizeOf_spec, Json.bool.sizeOf_spec,
        Json.number.sizeOf_spec, Json.string.sizeOf_spec]
      omega

structure Pointer where
  tokens : List Text
deriving DecidableEq, Repr, Inhabited

inductive PointerError where
  | noLeadingSlash (input : Text)
  | badEscape (input : Text) (offset : Nat)
deriving DecidableEq, Repr

def PointerError.message : PointerError → String
  | .noLeadingSlash input =>
      "JSON Pointer " ++ input.quoted.str ++ " must be empty or start with '/'"
  | .badEscape input offset =>
      "bad escape at offset " ++ toString offset ++ " in JSON Pointer " ++ input.quoted.str ++
        ": '~' must be followed by '0' or '1'"

namespace Pointer

def root : Pointer := ⟨[]⟩

def isRoot (p : Pointer) : Bool := p.tokens.isEmpty

def length (p : Pointer) : Nat := p.tokens.length

def last? (p : Pointer) : Option Text := p.tokens.getLast?

def parent? (p : Pointer) : Option Pointer :=
  if p.isRoot then none else some ⟨p.tokens.dropLast⟩

def append (p : Pointer) (token : Text) : Pointer := ⟨p.tokens ++ [token]⟩

def appendIndex (p : Pointer) (index : Nat) : Pointer := p.append (Text.ofNat index)

def join (p q : Pointer) : Pointer := ⟨p.tokens ++ q.tokens⟩

def escapedChar (c : Char) : Text :=
  if c = '~' then ['~', '0'] else if c = '/' then ['~', '1'] else [c]

def escape (token : Text) : Text := token.flatMap escapedChar

def text (p : Pointer) : Text := p.tokens.flatMap fun token => '/' :: escape token

/-- The tokens of what follows a slash; `read` is the present token so far in reverse, and the error
is the offset of the `~` at fault. -/
def parseTokens (offset : Nat) (read : Text) : Text → Except Nat (List Text)
  | [] => .ok [read.reverse]
  | '~' :: '0' :: rest => parseTokens (offset + 2) ('~' :: read) rest
  | '~' :: '1' :: rest => parseTokens (offset + 2) ('/' :: read) rest
  | c :: rest =>
      if c = '/' then (parseTokens (offset + 1) [] rest).map (read.reverse :: ·)
      else if c = '~' then .error offset
      else parseTokens (offset + c.utf8Size) (c :: read) rest

def parse (input : Text) : Except PointerError Pointer :=
  match input with
  | [] => .ok root
  | c :: rest =>
      if c = '/' then
        match parseTokens 1 [] rest with
        | .ok tokens => .ok ⟨tokens⟩
        | .error offset => .error (.badEscape input offset)
      else .error (.noLeadingSlash input)

/-- A position in an array is zero, or digits that begin with none, and less than `2 ^ 64`. -/
def index? (token : Text) : Option Nat :=
  match token with
  | ['0'] => some 0
  | '0' :: _ => none
  | [] => none
  | digits =>
      if digits.all Char.isDigit then
        let n := digits.foldl (fun n c => 10 * n + (c.toNat - '0'.toNat)) 0
        if n < Nat.pow 2 64 then some n else none
      else none

def child? (node : Json) (token : Text) : Option Json :=
  match node with
  | .object members => Table.find? token members
  | .array items => (index? token).bind (items[·]?)
  | _ => none

def walk : List Text → Json → Option Json
  | [], node => some node
  | token :: rest, node => (child? node token).bind (walk rest)

def get? (p : Pointer) (document : Json) : Option Json := walk p.tokens document

def isParentOf (p q : Pointer) : Bool := p.tokens.isPrefixOf q.tokens

def relativize? (p q : Pointer) : Option Pointer :=
  if p.isParentOf q then some ⟨q.tokens.drop p.tokens.length⟩ else none

def order (p q : Pointer) : Ordering :=
  if p.tokens < q.tokens then .lt else if p = q then .eq else .gt

end Pointer
end JsonReference
