import JsonReference.Pointer
import JsonReference.Text.Percent
import JsonReference.Uri.Resolve

namespace JsonReference

inductive Fragment where
  | pointer (p : Pointer)
  | name (name : Text)
  /-- It starts with a slash but is no pointer. -/
  | illegal (text : Text)
deriving DecidableEq, Repr

namespace Fragment

def classify (decoded : Text) : Fragment :=
  match decoded with
  | [] => .pointer .root
  | c :: _ =>
      if c = '/' then
        match Pointer.parse decoded with
        | .ok p => .pointer p
        | .error _ => .illegal decoded
      else .name decoded

def pointer? : Fragment → Option Pointer
  | .pointer p => some p
  | _ => none

def isEmpty : Fragment → Bool
  | .pointer p => p.isRoot
  | _ => false

end Fragment

inductive Reference.Kind where
  | empty
  | hierarchical
  | archive
deriving DecidableEq, Repr

inductive Reference.Resolution where
  | empty
  | hierarchical
  /-- `stem` ends in the last `!` of an opaque locator, and `entry` is the path behind it. -/
  | archive (stem : Text) (entry : Uri)
deriving DecidableEq, Repr

structure Reference where
  uri : Uri
  fragment : Fragment
deriving Repr

namespace Reference

def empty : Reference := ⟨.empty, .pointer .root⟩

instance : Inhabited Reference := ⟨empty⟩

def ofUri (uri : Uri) : Except UriError Reference :=
  match uri.fragment with
  | none => .ok ⟨uri, .pointer .root⟩
  | some raw =>
      match Percent.decode raw with
      | .ok decoded => .ok ⟨uri, .classify decoded⟩
      | .error fault => .error (.invalid uri.text (.fragmentNotText fault))

def parse (input : Text) : Except UriError Reference := do ofUri (← Uri.parse input)

def text (r : Reference) : Text := r.uri.text

def locator (r : Reference) : Text := r.uri.withoutFragment.text

def pointer? (r : Reference) : Option Pointer := r.fragment.pointer?

def isAbsolute (r : Reference) : Bool := r.uri.isAbsolute && r.fragment.isEmpty

def contains (r other : Reference) : Bool := r.locator == other.locator

def same (r other : Reference) : Bool := r.locator == other.locator && r.fragment == other.fragment

instance : BEq Reference := ⟨same⟩

def toLocator (r : Reference) : Reference := ⟨r.uri.withoutFragment, .pointer .root⟩

def encodedPointer (p : Pointer) : Text :=
  p.tokens.flatMap fun token => '/' :: Percent.encode (Pointer.escape token)

def withPointer (r : Reference) (p : Pointer) : Reference :=
  ⟨r.uri.withFragment (some (encodedPointer p)), .pointer p⟩

def withFragment (r : Reference) (fragment : Text) : Except UriError Reference :=
  parse (r.locator ++ '#' :: fragment)

/-- The archive that an opaque locator goes into, if it has a `!` with a sound path behind it. -/
def archive? (u : Uri) : Option (Text × Uri) :=
  match Text.cutLast? '!' u.specificPart with
  | none => none
  | some (front, back) =>
      match Uri.parse back with
      | .ok entry => some (u.scheme.getD [] ++ ':' :: front, entry)
      | .error _ => none

def classify (u : Uri) : Resolution :=
  if !u.isAbsolute then
    if u.authority.isNone && u.path.isEmpty && u.query.isNone then .empty else .hierarchical
  else if !u.isOpaque then .hierarchical
  else
    match archive? u with
    | some (stem, entry) => .archive stem entry
    | none => .hierarchical

def resolution (r : Reference) : Resolution := classify r.uri.withoutFragment

def kind (r : Reference) : Kind :=
  match r.resolution with
  | .empty => .empty
  | .hierarchical => .hierarchical
  | .archive .. => .archive

/-- Resolves `other` along the path inside an archive, which it leaves only by being absolute. -/
def resolveEntry (stem : Text) (entry : Uri) (other : Reference) : Reference :=
  if other.uri.isAbsolute then other
  else
    let resolved := entry.resolve other.uri
    if resolved.isAbsolute then other
    else
      match Uri.parse (stem ++ resolved.text) with
      | .ok uri => ⟨uri, other.fragment⟩
      | .error _ => other

def resolve (base other : Reference) : Reference :=
  match base.resolution with
  | .empty => other
  | .hierarchical => ⟨base.uri.resolve other.uri, other.fragment⟩
  | .archive stem entry => resolveEntry stem entry other

end Reference
end JsonReference
