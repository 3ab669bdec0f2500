import JsonReference.Proofs.Json.Order
import JsonReference.Proofs.Json.Tidy
import JsonReference.Proofs.Tree.Walk

namespace JsonReference

theorem Pending.push_append (next : Pending) (pending rest : List Pending) :
    next.push (pending ++ rest) = next.push pending ++ rest := by
  rw [push, push]
  induction next.node.children with
  | nil => rfl
  | cons c children ih =>
      rw [List.foldr_cons, List.foldr_cons, ih]
      split <;> rfl

namespace IdEntry

variable {scope : Reference} {p : Pointer} {node : Json} {e : IdEntry} {next : Pending}

/-- What is pending below other nodes is visited after them, and in the same way. -/
theorem collect_append (pending rest : List Pending) :
    collect (pending ++ rest) = collect pending ++ collect rest := by
  induction pending using collect.induct with
  | case1 => rw [collect, List.nil_append, List.nil_append]
  | case2 next pending ih =>
      rw [List.cons_append, collect, collect, Pending.push_append, ih, List.append_assoc]

theorem collect_of_not_isContainer (h : next.node.isContainer = false) : collect [next] = [] := by
  have hchildren := Json.children_of_not_isContainer h
  have hid := Json.nodeId?_of_not_isContainer h
  rw [collect, here, Pending.push, hid, hchildren, List.foldr_nil, collect, List.append_nil]

theorem collect_push (next : Pending) : collect (next.push []) =
    next.node.children.flatMap fun c => collect [next.below c] := by
  rw [Pending.push]
  induction next.node.children with
  | nil => rw [List.foldr_nil, collect, List.flatMap_nil]
  | cons c children ih =>
      rw [List.foldr_cons, List.flatMap_cons, ← ih]
      split
      · rw [← List.singleton_append, collect_append]
      · next h => rw [collect_of_not_isContainer (by simpa using h), List.nil_append]

theorem collect_eq (scope : Reference) (p : Pointer) (node : Json) :
    collect [⟨p, scope, node⟩] = here ⟨p, scope, node⟩ ++ node.children.flatMap fun c =>
      collect [⟨p.append c.1, Scope.enter scope node, c.2⟩] := by
  rw [collect, collect_push]
  rfl

theorem mem_here : e ∈ here ⟨p, scope, node⟩ ↔
    node.nodeId?.isSome ∧ e = ⟨Scope.enter scope node, p⟩ := by
  rw [here]
  cases node.nodeId? <;> simp [Pending.innerScope]

theorem mem_collect (h : node.WellFormed) : e ∈ collect [⟨p, scope, node⟩] ↔
    ∃ path, ((Pointer.walk path node).bind Json.nodeId?).isSome ∧
      e = ⟨Scope.along (Scope.enter scope node) (some node) path, p.join ⟨path⟩⟩ := by
  induction node using Json.induction_children generalizing scope p with
  | h node ih =>
      rw [collect_eq, List.mem_append, mem_here, List.mem_flatMap]
      constructor
      · rintro (⟨hid, rfl⟩ | ⟨c, hc, he⟩)
        · exact ⟨[], hid, by simp [Scope.along, Pointer.join]⟩
        · have hchild := (Json.child?_eq_some_iff h).mpr hc
          obtain ⟨path, hid, rfl⟩ := (ih c hc (Json.wellFormed_of_mem_children h hc)).mp he
          refine ⟨c.1 :: path, by simpa [Pointer.walk, hchild] using hid, ?_⟩
          simp [Scope.along, hchild, Scope.enter?, Pointer.join, Pointer.append]
      · rintro ⟨path, hid, rfl⟩
        cases path with
        | nil => exact .inl ⟨hid, by simp [Scope.along, Pointer.join]⟩
        | cons token path =>
            rw [Pointer.walk] at hid
            cases hchild : Pointer.child? node token with
            | none => simp [hchild] at hid
            | some child =>
                have hc := (Json.child?_eq_some_iff h).mp hchild
                refine .inr ⟨(token, child), hc, ?_⟩
                rw [ih _ hc (Json.wellFormed_of_mem_children h hc)]
                refine ⟨path, by simpa [hchild] using hid, ?_⟩
                simp [Scope.along, hchild, Scope.enter?, Pointer.join, Pointer.append]

theorem inOrder_collect (h : node.WellFormed) :
    node.InOrder IdEntry.pointer p (collect [⟨p, scope, node⟩]) := by
  induction node using Json.induction_children generalizing scope p with
  | h node ih =>
      rw [collect_eq]
      refine .of_children h ?_ ?_ fun c hc => ih c hc (Json.wellFormed_of_mem_children h hc)
      · intro e he
        rw [(mem_here.mp he).2]
      · rw [here]
        split <;> simp

end IdEntry

namespace Tree

theorem descend_scope (t : Tree) (p : Pointer) :
    (t.descend p).scope = Scope.along t.scope t.node? p.tokens := by
  rw [descend]
  induction p.tokens generalizing t with
  | nil => rfl
  | cons token rest ih =>
      have hnode : (t.step token).node? = t.node?.bind (Pointer.child? · token) :=
        Pointer.get?_append t.pointer token t.document
      rw [List.foldl_cons, ih, Scope.along, hnode, ← hnode]
      rfl

theorem jumpTo_scope (t : Tree) (p : Pointer) :
    (t.jumpTo p).scope = Scope.along t.rootScope (some t.document) p.tokens :=
  descend_scope t.save.toRoot p

end Tree

/-- The index of a document has one entry for each node with an `id`, in document order, and
nothing else. The reference of an entry is the scope that a tree of the document has there. -/
theorem Index.entries_inline (loadingRef : Reference) {document : Json} (h : document.WellFormed) :
    let entries := (Index.build .inline loadingRef document).entries
    (∀ p, p ∈ entries.map (·.pointer) ↔ ((p.get? document).bind Json.nodeId?).isSome) ∧
    (entries.map (·.pointer)).Nodup ∧
    (entries.map (·.pointer.tokens)).Pairwise document.Precedes ∧
    ∀ e ∈ entries, ∀ t : Tree, t.loadingRef = loadingRef → t.document = document →
      (t.jumpTo e.pointer).scope = e.reference := by
  intro entries
  have hmem {e : IdEntry} : e ∈ entries ↔
      ((e.pointer.get? document).bind Json.nodeId?).isSome ∧ e.reference =
        Scope.along (Scope.enter loadingRef document) (some document) e.pointer.tokens := by
    constructor
    · intro he
      obtain ⟨path, hid, rfl⟩ := (IdEntry.mem_collect h).mp he
      exact ⟨hid, rfl⟩
    · rintro ⟨hid, hreference⟩
      refine (IdEntry.mem_collect h).mpr ⟨e.pointer.tokens, hid, ?_⟩
      rw [← hreference]
      rfl
  have horder : document.InOrder IdEntry.pointer .root entries := IdEntry.inOrder_collect h
  refine ⟨?_, horder.nodup_place, horder.pairwise_tokens, ?_⟩
  · intro p
    rw [List.mem_map]
    constructor
    · rintro ⟨e, he, rfl⟩
      exact (hmem.mp he).1
    · intro hid
      exact ⟨⟨Scope.along (Scope.enter loadingRef document) (some document) p.tokens, p⟩,
        hmem.mpr ⟨hid, rfl⟩, rfl⟩
  · rintro e he t rfl rfl
    rw [Tree.jumpTo_scope, (hmem.mp he).2]
    rfl

theorem Index.entries_inline_nested :
    Walk.nested.WellFormed ∧
    let entries := (Index.build .inline .empty Walk.nested).entries
    entries.map (·.pointer.tokens) = [[], ["b".toList], ["b".toList, "c".toList, "0".toList]] ∧
    ∀ e ∈ entries, ∀ t : Tree, t.loadingRef = .empty → t.document = Walk.nested →
      (t.jumpTo e.pointer).scope = e.reference := by
  have h : Walk.nested.WellFormed := Json.wellFormed_tidy Walk.nested (by simp [Walk.nested])
  exact ⟨h, by decide +kernel, (entries_inline .empty h).2.2.2⟩

end JsonReference
