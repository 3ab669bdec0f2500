import JsonReference.Proofs.Json.Order
import JsonReference.Proofs.Json.Tidy

namespace JsonReference.Json

mutual
/-- A node and all below it, each with the pointer that the walk has made up since it was at `p`. -/
def nodes (p : Pointer) : Json → List (Pointer × Json)
  | .array items => (p, .array items) :: nodesOfItems p 0 items
  | .object members => (p, .object members) :: nodesOfMembers p members
  | node => [(p, node)]
termination_by structural node => node

def nodesOfItems (p : Pointer) (i : Nat) : List Json → List (Pointer × Json)
  | [] => []
  | x :: rest => nodes (p.appendIndex i) x ++ nodesOfItems p (i + 1) rest
termination_by structural items => items

def nodesOfMembers (p : Pointer) : List (Text × Json) → List (Pointer × Json)
  | [] => []
  | (name, x) :: rest => nodes (p.append name) x ++ nodesOfMembers p rest
termination_by structural members => members
end

variable {node x : Json} {p q : Pointer}

theorem nodesOfItems_eq (p : Pointer) (i : Nat) (items : List Json) :
    nodesOfItems p i items =
      (items.zipIdx i).flatMap fun item => item.1.nodes (p.appendIndex item.2) := by
  induction items generalizing i with
  | nil => rfl
  | cons x rest ih => rw [nodesOfItems, ih, List.zipIdx_cons, List.flatMap_cons]

theorem nodesOfMembers_eq (p : Pointer) (members : List (Text × Json)) :
    nodesOfMembers p members = members.flatMap fun m => m.2.nodes (p.append m.1) := by
  induction members with
  | nil => rfl
  | cons m rest ih => rw [nodesOfMembers, ih, List.flatMap_cons]

theorem nodes_eq (p : Pointer) (node : Json) :
    node.nodes p = [(p, node)] ++ node.children.flatMap fun c => c.2.nodes (p.append c.1) := by
  cases node with
  | array items =>
      rw [nodes, nodesOfItems_eq, children, List.flatMap_map]
      rfl
  | object members =>
      rw [nodes, nodesOfMembers_eq, children]
      rfl
  | _ => rfl

theorem mem_nodes_iff (h : node.WellFormed) :
    (q, x) ∈ node.nodes p ↔ ∃ path, q = p.join ⟨path⟩ ∧ Pointer.walk path node = some x := by
  induction node using induction_children generalizing p with
  | h node ih =>
      have hbelow (c : Text × Json) (hc : c ∈ node.children) :=
        ih c hc (p := p.append c.1) (wellFormed_of_mem_children h hc)
      rw [nodes_eq, List.mem_append, List.mem_singleton, Prod.mk.injEq, List.mem_flatMap]
      constructor
      · rintro (⟨rfl, rfl⟩ | ⟨c, hc, hx⟩)
        · exact ⟨[], by simp [Pointer.join], rfl⟩
        · obtain ⟨path, rfl, hwalk⟩ := (hbelow c hc).mp hx
          refine ⟨c.1 :: path, by simp [Pointer.join, Pointer.append], ?_⟩
          rw [Pointer.walk, (child?_eq_some_iff h).mpr hc, Option.bind_some, hwalk]
      · rintro ⟨_ | ⟨token, path⟩, rfl, hwalk⟩
        · exact .inl ⟨by simp [Pointer.join], (Option.some.inj hwalk).symm⟩
        · obtain ⟨child, hchild, hwalk⟩ := Option.bind_eq_some_iff.mp hwalk
          have hc := mem_children_of_child? hchild
          refine .inr ⟨(token, child), hc, (hbelow _ hc).mpr ⟨path, ?_, hwalk⟩⟩
          simp [Pointer.join, Pointer.append]

theorem mem_nodes_root_iff (h : node.WellFormed) :
    (p, x) ∈ node.nodes .root ↔ p.get? node = some x := by
  rw [mem_nodes_iff h]
  constructor
  · rintro ⟨path, rfl, hwalk⟩
    exact hwalk
  · exact fun hget => ⟨p.tokens, rfl, hget⟩

theorem inOrder_nodes (h : node.WellFormed) (p : Pointer) : node.InOrder Prod.fst p (node.nodes p) := by
  induction node using induction_children generalizing p with
  | h node ih =>
      rw [nodes_eq]
      refine .of_children h (by simp) (by simp) ?_
      intro c hc
      exact ih c hc (wellFormed_of_mem_children h hc) (p.append c.1)

/-- The pointers that lead to a node are those that the walk makes up, each of them once and with the
node that it leads to. A pointer made of two leads as the one does from where the other does, and what
leads from one pointer to another is what the one is made into the other by. -/
theorem addressed_once :
    (∀ document : Json, document.WellFormed →
      (∀ p : Pointer, (p.get? document).isSome ↔ p ∈ (document.nodes .root).map (·.1)) ∧
      (∀ v ∈ document.nodes .root, v.1.get? document = some v.2) ∧
      ((document.nodes .root).map (·.1)).Nodup) ∧
    (∀ (p q : Pointer) (document : Json),
      (p.join q).get? document = (p.get? document).bind q.get?) ∧
    ∀ p q r : Pointer, p.relativize? r = some q ↔ p.join q = r := by
  refine ⟨fun document h => ⟨fun p => ?_, fun v hv => (mem_nodes_root_iff h).mp hv,
    (inOrder_nodes h .root).nodup_place⟩, Pointer.get?_join,
    fun p q r => Pointer.relativize?_eq_some_iff⟩
  rw [Option.isSome_iff_exists, List.mem_map]
  constructor
  · rintro ⟨x, hx⟩
    exact ⟨(p, x), (mem_nodes_root_iff h).mpr hx, rfl⟩
  · rintro ⟨⟨_, x⟩, hx, rfl⟩
    exact ⟨x, (mem_nodes_root_iff h).mp hx⟩

def numbered : Json :=
  .object [
    ("0".toList, .array [.null, .object [("00".toList, .bool true), ("1".toList, .array [])]]),
    ("00".toList, .string "0".toList)]

theorem addressed_once_numbered :
    numbered.WellFormed ∧
    (numbered.nodes .root).map (·.1.text) =
      ["", "/0", "/0/0", "/0/1", "/0/1/00", "/0/1/1", "/00"].map String.toList ∧
    ((numbered.nodes .root).map (·.1)).Nodup ∧
    (∀ token ∈ ["00", "01", "+1", "-0", "2", "18446744073709551617"].map String.toList,
      ((⟨["0".toList, token]⟩ : Pointer).get? numbered).isSome = false) ∧
    ((⟨["0".toList, "1".toList, "00".toList]⟩ : Pointer).get? numbered).isSome := by
  have h : numbered.WellFormed := wellFormed_tidy numbered (by simp [numbered])
  obtain ⟨hmem, -, hnodup⟩ := addressed_once.1 numbered h
  refine ⟨h, by decide, hnodup, ?_, (hmem _).mpr (by decide)⟩
  intro token htoken
  rw [Bool.eq_false_iff, ne_eq, hmem]
  revert token
  decide

end JsonReference.Json
