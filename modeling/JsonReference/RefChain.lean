import JsonReference.Digest
import JsonReference.Loader

namespace JsonReference

inductive ChainError where
  | loop (chain : List Reference)
  | unresolvable (target site : Reference)
  | depthExceeded (maxDepth : Nat) (target : Reference)
  | invalidRef (raw : Text) (pointer : Pointer) (error : UriError)
  | load (error : LoadError)
deriving Repr

namespace ChainError

def message : ChainError → String
  | .loop chain => "$ref loop detected: " ++ (Text.join " -> ".toList (chain.map (·.text))).str
  | .unresolvable target site =>
      "unresolvable $ref '" ++ target.text.str ++ "' at '" ++ site.text.str ++ "'"
  | .depthExceeded maxDepth target =>
      "$ref chain exceeded " ++ toString maxDepth ++ " hops at '" ++ target.text.str ++ "'"
  | .invalidRef raw pointer error =>
      "invalid $ref '" ++ raw.str ++ "' at '" ++ pointer.text.str ++ "': " ++ error.message
  | .load error => error.message

def causes (e : ChainError) : List String :=
  match e with
  | .invalidRef _ _ error => [e.message, error.message]
  | .load error => error.causes
  | _ => [e.message]

def isFatal : ChainError → Bool
  | .load (.download ..) => false
  | _ => true

end ChainError

/-- What tells the documents of a chain apart: the name under which one is cached, or the content of
one that has no locator, which always has a canonical text. -/
inductive DocumentKey where
  | located (name : Text)
  | content (digest : Digest)
deriving DecidableEq

def Loader.documentKey (l : Loader) (t : Tree) : DocumentKey :=
  -- It depends on the document and its name alone, so a chain may take it anew at every hop.
  if t.loadingRef.locator.isEmpty then .content (Digest.ofJson t.document)
  else .located (l.cacheKey t.loadingRef)

structure RefChain where
  tree : Tree
  references : List Reference
  visited : List (DocumentKey × Pointer)

namespace RefChain

def start (tree : Tree) : RefChain := ⟨tree, [], []⟩

def isDirect (c : RefChain) : Bool := c.references.isEmpty

/-- The tree that holds the target: the present one if it may, or else the one that the loader
gives. -/
def holder (l : Loader) (t : Tree) (target : Reference) : Except ChainError Tree × Loader :=
  if t.containsRef target then (.ok t, l)
  else
    match l.getRef target.toLocator with
    | (.ok t, l) => (.ok t, l)
    | (.error e, l) => (.error (.load e), l)

def land (l : Loader) (t : Tree) (target : Reference) :
    Except ChainError (Tree × Pointer) × Loader :=
  match holder l t target with
  | (.error e, l) => (.error e, l)
  | (.ok held, l) =>
      match held.locate? target with
      | some pointer => (.ok (held, pointer), l)
      | none => (.error (.unresolvable target t.location), l)

/-- What becomes of a chain at a node that goes by `node`, to which `target` led. -/
def arrive (c : RefChain) (target : Reference) (node : DocumentKey × Pointer) (t : Tree) :
    Except ChainError RefChain :=
  if node ∈ c.visited then .error (.loop (c.references ++ [target]))
  else .ok ⟨t.jumpTo node.2, c.references ++ [target], node :: c.visited⟩

def hop (l : Loader) (c : RefChain) (target : Reference) : Except ChainError RefChain × Loader :=
  match land l c.tree target with
  | (.error e, l) => (.error e, l)
  | (.ok (t, pointer), l) => (c.arrive target (l.documentKey t, pointer) t, l)

def target? (t : Tree) : Except ChainError (Option Reference) :=
  match t.node?.bind Json.refText? with
  | none => .ok none
  | some raw =>
      match Reference.parse raw with
      | .ok r => .ok (some (t.resolve r))
      | .error e => .error (.invalidRef raw t.pointer e)

/-- Follows a chain for no more than `left` hops. -/
def follow (maxDepth : Nat) (left : Nat) (l : Loader) (c : RefChain) :
    Except ChainError RefChain × Loader :=
  match target? c.tree with
  | .error e => (.error e, l)
  | .ok none => (.ok c, l)
  | .ok (some target) =>
      match left with
      | 0 => (.error (.depthExceeded maxDepth target), l)
      | left + 1 =>
          match hop l c target with
          | (.error e, l) => (.error e, l)
          | (.ok c, l) => follow maxDepth left l c

def defaultMaxDepth : Nat := 100

def resolve (l : Loader) (maxDepth : Nat) (t : Tree) : Except ChainError RefChain × Loader :=
  follow maxDepth maxDepth l (start t)

end RefChain
end JsonReference
