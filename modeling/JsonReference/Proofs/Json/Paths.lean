import JsonReference.Proofs.Json.Children
import Mathlib.Algebra.GroupWithZero.Nat
import Mathlib.Data.List.Nodup
import Mathlib.Data.List.Perm.Subperm

namespace JsonReference.Json

mutual
def count : Json → Nat
  | .array items => countItems items + 1
  | .object members => countMembers members + 1
  | _ => 1
termination_by structural node => node

def countItems : List Json → Nat
  | [] => 0
  | x :: rest => count x + countItems rest
termination_by structural items => items

def countMembers : List (Text × Json) → Nat
  | [] => 0
  | (_, x) :: rest => count x + countMembers rest
termination_by structural members => members
end

variable {node : Json} {path : List Text}

theorem countItems_eq_sum (items : List Json) : countItems items = (items.map count).sum := by
  induction items with
  | nil => rfl
  | cons x rest ih => rw [countItems, ih, List.map_cons, List.sum_cons]

theorem countMembers_eq_sum (members : List (Text × Json)) :
    countMembers members = (members.map (count ·.2)).sum := by
  induction members with
  | nil => rfl
  | cons m rest ih => rw [countMembers, ih, List.map_cons, List.sum_cons]

theorem count_eq_sum (node : Json) : node.count = (node.children.map (count ·.2)).sum + 1 := by
  cases node with
  | array items =>
      have hitems : (items.zipIdx.map Prod.fst).map count = items.map count := by
        rw [List.zipIdx_map_fst]
      rw [count, countItems_eq_sum, children, List.map_map, ← hitems, List.map_map]
      rfl
  | object members => rw [count, countMembers_eq_sum, children]
  | _ => rfl

def paths (node : Json) : List (List Text) :=
  [] :: node.children.attach.flatMap fun c => (paths c.1.2).map (c.1.1 :: ·)
termination_by sizeOf node
decreasing_by exact sizeOf_of_mem_children c.2

theorem paths_eq (node : Json) :
    node.paths = [] :: node.children.flatMap fun c => c.2.paths.map (c.1 :: ·) := by
  rw [paths, List.flatMap_subtype (g := fun c => c.2.paths.map (c.1 :: ·)) fun _ _ => rfl,
    List.unattach_attach]

theorem length_paths (node : Json) : node.paths.length = node.count := by
  induction node using induction_children with
  | h node ih =>
      rw [paths_eq, count_eq_sum, List.length_cons, List.length_flatMap]
      congr 2
      apply List.map_congr_left
      intro c hc
      rw [List.length_map, ih c hc]

theorem mem_paths_of_walk (h : (Pointer.walk path node).isSome) : path ∈ node.paths := by
  induction path generalizing node with
  | nil =>
      rw [paths_eq]
      exact List.mem_cons_self
  | cons token rest ih =>
      rw [Pointer.walk] at h
      cases hchild : Pointer.child? node token with
      | none => simp [hchild] at h
      | some child =>
          rw [hchild, Option.bind_some] at h
          rw [paths_eq]
          apply List.mem_cons_of_mem
          rw [List.mem_flatMap]
          exact ⟨(token, child), mem_children_of_child? hchild, List.mem_map_of_mem (ih h)⟩

/-- Different pointers to nodes of a document are no more than there are nodes. -/
theorem length_le_count {pointers : List Pointer} (hnodup : pointers.Nodup)
    (h : ∀ p ∈ pointers, (p.get? node).isSome) : pointers.length ≤ node.count := by
  have hinj : Function.Injective Pointer.tokens := by
    rintro ⟨p⟩ ⟨q⟩ he
    exact congrArg Pointer.mk he
  have hsubset : pointers.map (·.tokens) ⊆ node.paths := by
    intro path hpath
    obtain ⟨p, hp, rfl⟩ := List.mem_map.mp hpath
    exact mem_paths_of_walk (h p hp)
  have hlength := (List.subperm_of_subset (hnodup.map hinj) hsubset).length_le
  rwa [List.length_map, length_paths] at hlength

end JsonReference.Json
