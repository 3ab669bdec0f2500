import JsonReference.Dereferencing
import JsonReference.Tree.Scope

namespace JsonReference

structure IdEntry where
  reference : Reference
  pointer : Pointer
deriving Repr

structure Pending where
  pointer : Pointer
  scope : Reference
  node : Json

namespace Pending

def innerScope (next : Pending) : Reference := Scope.enter next.scope next.node

def below (next : Pending) (c : Text × Json) : Pending :=
  ⟨next.pointer.append c.1, next.innerScope, c.2⟩

@[simp] theorem below_node (next : Pending) (c : Text × Json) : (next.below c).node = c.2 := rfl

def push (next : Pending) (rest : List Pending) : List Pending :=
  next.node.children.foldr (fun c pending =>
    if c.2.isContainer then next.below c :: pending else pending) rest

noncomputable def weight (pending : List Pending) : Nat := pending.foldr (sizeOf ·.node + ·) 0

theorem weight_cons (next : Pending) (rest : List Pending) :
    weight (next :: rest) = sizeOf next.node + weight rest := rfl

theorem weight_push (next : Pending) (rest : List Pending) :
    weight (next.push rest) < sizeOf next.node + weight rest := by
  have hchildren := Json.sizeOf_children next.node
  suffices h : weight (next.push rest) ≤
      next.node.children.foldr (sizeOf ·.2 + ·) 0 + weight rest by omega
  rw [push]
  induction next.node.children with
  | nil => simp
  | cons c children ih =>
      rw [List.foldr_cons, List.foldr_cons]
      split
      · rw [weight_cons, below_node]
        omega
      · omega

end Pending

namespace IdEntry

def here (next : Pending) : List IdEntry :=
  match next.node.nodeId? with
  | some _ => [⟨next.innerScope, next.pointer⟩]
  | none => []

/-- The entries of the pending nodes and of all containers below them, in the order in which they
are visited. -/
def collect : List Pending → List IdEntry
  | [] => []
  | next :: rest => here next ++ collect (next.push rest)
termination_by pending => Pending.weight pending
decreasing_by
  rw [Pending.weight_cons]
  exact Pending.weight_push next rest

/-- The pointer fragment of an entry and what leads from there to `target`, for an entry that has
the locator of `r` and lies at or above the target. -/
def reach? (r : Reference) (target : Pointer) (e : IdEntry) : Option (Nat × Pointer) := do
  guard (e.reference.contains r)
  let front ← e.reference.pointer?
  let back ← front.relativize? target
  return (front.length, e.pointer.join back)

def longest (r : Reference) (target : Pointer) (entries : List IdEntry) : Option (Nat × Pointer) :=
  entries.foldl (fun best e =>
    match best, e.reach? r target with
    | best, none => best
    | none, found => found
    | some (n, p), some (m, q) => if n < m then some (m, q) else some (n, p)) none

/-- Where `r` leads by the entries: to the first that declares it, or else through the one that
comes closest to it. -/
def locate? (entries : List IdEntry) (r : Reference) : Option Pointer :=
  match entries.find? (·.reference.same r) with
  | some e => some e.pointer
  | none => do
      let target ← r.pointer?
      return (← longest r target entries).2

end IdEntry

inductive Index where
  | canonical
  | inline (entries : List IdEntry)
deriving Repr

namespace Index

def build (dereferencing : Dereferencing) (loadingRef : Reference) (document : Json) : Index :=
  match dereferencing with
  | .canonical => .canonical
  | .inline => .inline (IdEntry.collect [⟨.root, loadingRef, document⟩])

def dereferencing : Index → Dereferencing
  | .canonical => .canonical
  | .inline _ => .inline

def entries : Index → List IdEntry
  | .canonical => []
  | .inline entries => entries

def contains (index : Index) (loadingRef r : Reference) : Bool :=
  loadingRef.contains r || (IdEntry.locate? index.entries r).isSome

def target? (index : Index) (loadingRef r : Reference) : Option Pointer :=
  match IdEntry.locate? index.entries r with
  | some p => some p
  | none => if loadingRef.contains r then r.pointer? else none

def locate? (index : Index) (loadingRef : Reference) (document : Json) (r : Reference) :
    Option Pointer := do
  let p ← index.target? loadingRef r
  let _ ← p.get? document
  return p

end Index
end JsonReference
