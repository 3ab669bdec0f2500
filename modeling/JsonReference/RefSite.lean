import JsonReference.RefChain

namespace JsonReference

structure RefSite where
  pointer : Pointer
  raw : Text
deriving DecidableEq, Repr

/-- A node that is still to be searched, and whether the names of its members are keywords. -/
structure Unsearched where
  pointer : Pointer
  node : Json
  keywords : Bool

namespace Unsearched

def isDataKeyword (name : Text) : Bool :=
  ["enum", "default"].any (·.toList == name)

def isMapKeyword (name : Text) : Bool :=
  ["properties", "patternProperties", "definitions", "dependencies"].any (·.toList == name)

def below? (next : Unsearched) (c : Text × Json) : Option Unsearched :=
  match next.node with
  | .object _ =>
      if next.keywords && isDataKeyword c.1 then none
      else some ⟨next.pointer.append c.1, c.2, !(next.keywords && isMapKeyword c.1)⟩
  | _ => some ⟨next.pointer.append c.1, c.2, true⟩

def inside (next : Unsearched) : List Unsearched := next.node.children.filterMap next.below?

theorem node_of_below? {next u : Unsearched} {c : Text × Json} (h : next.below? c = some u) :
    u.node = c.2 := by
  rw [below?] at h
  split at h
  · split at h
    · simp at h
    · cases h
      rfl
  · cases h
    rfl

noncomputable def weight (pending : List Unsearched) : Nat := pending.foldr (sizeOf ·.node + ·) 0

theorem weight_cons (next : Unsearched) (rest : List Unsearched) :
    weight (next :: rest) = sizeOf next.node + weight rest := rfl

theorem weight_inside (next : Unsearched) (rest : List Unsearched) :
    weight (next.inside ++ rest) < sizeOf next.node + weight rest := by
  have hchildren := Json.sizeOf_children next.node
  suffices h : weight (next.inside ++ rest) ≤
      next.node.children.foldr (sizeOf ·.2 + ·) 0 + weight rest by omega
  rw [inside]
  induction next.node.children with
  | nil => simp
  | cons c children ih =>
      rw [List.filterMap_cons, List.foldr_cons]
      split
      · omega
      · next u hu =>
        rw [List.cons_append, weight_cons, node_of_below? hu]
        omega

end Unsearched

namespace RefSite

def here (next : Unsearched) : List RefSite :=
  match next.node.refText? with
  | some raw => [⟨next.pointer, raw⟩]
  | none => []

/-- The sites at the pending nodes and below them. The last node that was put on top of the others is
searched first, and those right inside of it take its place. -/
def collect : List Unsearched → List RefSite
  | [] => []
  | next :: rest => here next ++ collect (next.inside ++ rest)
termination_by pending => Unsearched.weight pending
decreasing_by
  rw [Unsearched.weight_cons]
  exact Unsearched.weight_inside next rest

def all (document : Json) : List RefSite := collect [⟨.root, document, true⟩]

end RefSite

structure RefCheck where
  site : RefSite
  outcome : Except ChainError Reference

namespace RefCheck

def isOk (c : RefCheck) : Bool :=
  match c.outcome with
  | .ok _ => true
  | .error _ => false

def atSite (l : Loader) (maxDepth : Nat) (t : Tree) (site : RefSite) : RefCheck × Loader :=
  let (outcome, l) := RefChain.resolve l maxDepth (t.fork.jumpTo site.pointer)
  (⟨site, outcome.map fun c => c.tree.location⟩, l)

def atSites (l : Loader) (maxDepth : Nat) (t : Tree) : List RefSite → List RefCheck × Loader
  | [] => ([], l)
  | site :: rest =>
      let (check, l) := atSite l maxDepth t site
      let (checks, l) := atSites l maxDepth t rest
      (check :: checks, l)

def all (l : Loader) (maxDepth : Nat) (t : Tree) : List RefCheck × Loader :=
  atSites l maxDepth t (RefSite.all t.document)

end RefCheck
end JsonReference
