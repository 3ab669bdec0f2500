import JsonReference.Proofs.Reference.Archive
import JsonReference.Proofs.Tree.Ids

namespace JsonReference

namespace Scope

variable {loadingRef : Reference} {document : Json} {p back : Pointer}

theorem along_rootScope (loadingRef : Reference) (document : Json) (p : Pointer) :
    along (enter loadingRef document) (some document) p.tokens = composed loadingRef document p := by
  have hin := (Tree.InScope.make loadingRef document .canonical).jumpTo p
  have hscope := hin.scope_eq
  rw [Tree.jumpTo_scope, Tree.jumpTo_pointer] at hscope
  exact hscope

theorem composed_join
    (h : ∀ path, path ≠ [] → path <+: back.tokens →
      ((p.join ⟨path⟩).get? document).bind Json.nodeId? = none) :
    composed loadingRef document (p.join back) = composed loadingRef document p := by
  obtain ⟨tokens⟩ := back
  induction tokens using List.reverseRecOn with
  | nil => simp [Pointer.join]
  | append_singleton front token ih =>
      have hlast := h (front ++ [token]) (by simp) (List.prefix_refl _)
      have hfront := ih fun path hne hpath => h path hne (hpath.trans (List.prefix_append _ _))
      have hstep : p.join ⟨front ++ [token]⟩ = (p.join ⟨front⟩).append token := by
        simp [Pointer.join, Pointer.append]
      rw [hstep] at hlast
      rw [hstep, composed_append, enter?_eq_foldl, hlast, hfront]
      rfl

end Scope

theorem Index.mem_entries_inline {loadingRef : Reference} {document : Json}
    (h : document.WellFormed) {e : IdEntry} :
    e ∈ (build .inline loadingRef document).entries ↔
      ((e.pointer.get? document).bind Json.nodeId?).isSome ∧
        e.reference = Scope.composed loadingRef document e.pointer := by
  rw [build, entries, IdEntry.mem_collect h]
  constructor
  · rintro ⟨path, hid, rfl⟩
    exact ⟨hid, Scope.along_rootScope loadingRef document ⟨path⟩⟩
  · rintro ⟨hid, hreference⟩
    refine ⟨e.pointer.tokens, hid, ?_⟩
    rw [Scope.along_rootScope loadingRef document e.pointer, ← hreference]
    rfl

theorem Reference.pointer?_eq_some_iff {r : Reference} {p : Pointer} :
    r.pointer? = some p ↔ r.fragment = .pointer p := by
  rw [pointer?]
  cases r.fragment <;> simp [Fragment.pointer?]

namespace IdEntry

variable {entries : List IdEntry} {e : IdEntry} {r : Reference} {q target : Pointer}

theorem reach?_of_root (hroot : e.reference.fragment = .pointer .root)
    (hr : e.reference.contains r) (q : Pointer) : e.reach? r q = some (0, e.pointer.join q) := by
  have hfront : e.reference.pointer? = some .root := Reference.pointer?_eq_some_iff.mpr hroot
  simp only [reach?, hr, hfront, guard, if_true]
  rfl

theorem reach?_of_not_contains (hr : e.reference.contains r = false) : e.reach? r target = none := by
  simp only [reach?, hr, guard, Bool.false_eq_true, if_false]
  rfl

def better (r : Reference) (target : Pointer) (best : Option (Nat × Pointer)) (e : IdEntry) :
    Option (Nat × Pointer) :=
  match best, e.reach? r target with
  | best, none => best
  | none, found => found
  | some (n, p), some (m, q) => if n < m then some (m, q) else some (n, p)

theorem longest_eq_foldl (r : Reference) (target : Pointer) (entries : List IdEntry) :
    longest r target entries = entries.foldl (better r target) none := rfl

theorem better_of_unreached {best : Option (Nat × Pointer)} (h : e.reach? r target = none) :
    better r target best e = best := by
  simp only [better, h]

theorem better_of_found {best found : Option (Nat × Pointer)} (h : e.reach? r target = found)
    (hbest : best = none ∨ best = found) : better r target best e = found := by
  unfold better
  rw [h]
  cases found <;> rcases hbest with rfl | rfl <;> simp

theorem foldl_better {found : Option (Nat × Pointer)}
    (h : ∀ e ∈ entries, e.reach? r target = none ∨ e.reach? r target = found) :
    entries.foldl (better r target) found = found := by
  induction entries with
  | nil => rfl
  | cons first rest ih =>
      rw [List.forall_mem_cons] at h
      have hfirst : better r target found first = found := by
        rcases h.1 with hnone | hfound
        · exact better_of_unreached hnone
        · exact better_of_found hfound (.inr rfl)
      rw [List.foldl_cons, hfirst]
      exact ih h.2

theorem longest_of_unique (he : e ∈ entries)
    (h : ∀ e' ∈ entries, e' = e ∨ e'.reach? r target = none) :
    longest r target entries = e.reach? r target := by
  rw [longest_eq_foldl]
  induction entries with
  | nil => simp at he
  | cons first rest ih =>
      rw [List.forall_mem_cons] at h
      rw [List.foldl_cons]
      rcases h.1 with rfl | hnone
      · rw [better_of_found rfl (.inl rfl)]
        refine foldl_better fun e' he' => ?_
        rcases h.2 e' he' with rfl | hnone
        · exact .inr rfl
        · exact .inl hnone
      · rw [better_of_unreached hnone]
        rcases List.mem_cons.mp he with rfl | he
        · rw [hnone]
          exact foldl_better fun e' he' => by
            rcases h.2 e' he' with rfl | hnone'
            · exact .inl hnone
            · exact .inl hnone'
        · exact ih he h.2

theorem locate?_of_unique (he : e ∈ entries) (hroot : e.reference.fragment = .pointer .root)
    (hr : e.reference.contains r) (hq : r.fragment = .pointer q)
    (hunique : ∀ e' ∈ entries, e'.reference.contains r → e' = e) :
    locate? entries r = some (e.pointer.join q) := by
  rw [locate?]
  split
  · next e' hfind =>
    have hsame := List.find?_some hfind
    rw [Reference.same, Bool.and_eq_true] at hsame
    obtain rfl := hunique e' (List.mem_of_find?_eq_some hfind) hsame.1
    have hfragment := eq_of_beq hsame.2
    rw [hroot, hq, Fragment.pointer.injEq] at hfragment
    simp [← hfragment, Pointer.join, Pointer.root]
  · have hpointer : r.pointer? = some q := Reference.pointer?_eq_some_iff.mpr hq
    have hlongest : longest r q entries = some (0, e.pointer.join q) := by
      rw [← reach?_of_root hroot hr q]
      apply longest_of_unique he
      intro e' he'
      cases hc : e'.reference.contains r with
      | true => exact .inl (hunique e' he' hc)
      | false => exact .inr (reach?_of_not_contains hc)
    rw [hpointer, Option.bind_eq_bind, Option.bind_some, hlongest]
    rfl

end IdEntry

/-- Below a node with an `id` that alone opens its scope, with no other on the way down, a pointer
leads to where it leads from that node. -/
theorem Tree.locate?_nearest (loadingRef : Reference) {document : Json} (h : document.WellFormed)
    (moves : List Move) {t : Tree}
    (ht : t ∈ ((Walk.start (.make loadingRef document .inline)).run moves).trees)
    {p back : Pointer} (hid : ((p.get? document).bind Json.nodeId?).isSome)
    (hroot : (Scope.composed loadingRef document p).fragment = .pointer .root)
    (hkind : (Scope.composed loadingRef document p).kind ≠ .archive)
    (hunique : ∀ p', ((p'.get? document).bind Json.nodeId?).isSome →
      (Scope.composed loadingRef document p).contains (Scope.composed loadingRef document p') →
      p' = p)
    (hback : ∀ path, path ≠ [] → path <+: back.tokens →
      ((p.join ⟨path⟩).get? document).bind Json.nodeId? = none) (q : Pointer) :
    let u := t.jumpTo (p.join back)
    u.locate? (u.resolve (Reference.empty.withPointer q)) =
      if ((p.join q).get? document).isSome then some (p.join q) else none := by
  intro u
  have hin := ((Walk.InScope.start (.make loadingRef document .inline)).run moves t ht).jumpTo
    (p.join back)
  have hscope : u.scope = Scope.composed loadingRef document p := by
    rw [hin.scope_eq, jumpTo_pointer]
    exact Scope.composed_join hback
  let e : IdEntry := ⟨Scope.composed loadingRef document p, p⟩
  have he : e ∈ (Index.build .inline loadingRef document).entries :=
    (Index.mem_entries_inline h).mpr ⟨hid, rfl⟩
  have hcontains : e.reference.contains (u.resolve (Reference.empty.withPointer q)) := by
    rw [resolve, hscope]
    exact Reference.contains_resolve_of_not_archive hkind rfl
  have hfragment : (u.resolve (Reference.empty.withPointer q)).fragment = .pointer q :=
    Reference.fragment_resolve u.scope _
  have hlocate : IdEntry.locate? (Index.build .inline loadingRef document).entries
      (u.resolve (Reference.empty.withPointer q)) = some (p.join q) := by
    refine IdEntry.locate?_of_unique he hroot hcontains hfragment ?_
    intro e' he' hc
    obtain ⟨hid', hreference⟩ := (Index.mem_entries_inline h).mp he'
    have hpointer : e'.pointer = p := by
      refine hunique e'.pointer hid' ?_
      rw [← hreference, Reference.contains, beq_iff_eq]
      exact (eq_of_beq hcontains).trans (eq_of_beq hc).symm
    have heta : e' = ⟨Scope.composed loadingRef document e'.pointer, e'.pointer⟩ := by
      rw [← hreference]
    rw [heta, hpointer]
  rw [locate?, Index.locate?, hin.index_eq, hin.document_eq]
  simp only [Tree.make, Index.target?, hlocate]
  cases hnode : (p.join q).get? document <;> simp [hnode]

theorem Tree.locate?_nearest_nested :
    let u := (Tree.make .empty Walk.nested .inline).jumpTo ⟨["b".toList, "c".toList]⟩
    (u.resolve (Reference.empty.withPointer ⟨["c".toList, "0".toList]⟩)).text =
      "http://x/a/b/#/c/0".toList ∧
    u.locate? (u.resolve (Reference.empty.withPointer ⟨["c".toList, "0".toList]⟩)) =
      some ⟨["b".toList, "c".toList, "0".toList]⟩ ∧
    u.locate? (u.resolve (Reference.empty.withPointer ⟨["d".toList]⟩)) = none := by
  have h : Walk.nested.WellFormed := Json.wellFormed_tidy Walk.nested (by simp [Walk.nested])
  have ht : Tree.make .empty Walk.nested .inline ∈
      ((Walk.start (.make .empty Walk.nested .inline)).run []).trees := List.mem_singleton_self _
  have hentries : (Index.build .inline .empty Walk.nested).entries.map (·.pointer.tokens) =
      [[], ["b".toList], ["b".toList, "c".toList, "0".toList]] := by decide +kernel
  have hunique (p' : Pointer) (hid : ((p'.get? Walk.nested).bind Json.nodeId?).isSome)
      (hc : (Scope.composed .empty Walk.nested ⟨["b".toList]⟩).contains
        (Scope.composed .empty Walk.nested p')) : p' = ⟨["b".toList]⟩ := by
    have he : ⟨Scope.composed .empty Walk.nested p', p'⟩ ∈
        (Index.build .inline .empty Walk.nested).entries :=
      (Index.mem_entries_inline h).mpr ⟨hid, rfl⟩
    have hmem := List.mem_map_of_mem (f := (·.pointer.tokens)) he
    obtain ⟨tokens⟩ := p'
    rw [hentries] at hmem
    simp only [List.mem_cons, List.not_mem_nil, or_false] at hmem
    rcases hmem with rfl | rfl | rfl
    · exact absurd hc (by decide +kernel)
    · rfl
    · exact absurd hc (by decide +kernel)
  have hback (path : List Text) (hne : path ≠ []) (hpath : path <+: ["c".toList]) :
      ((Pointer.join ⟨["b".toList]⟩ ⟨path⟩).get? Walk.nested).bind Json.nodeId? = none := by
    obtain rfl : path = ["c".toList] := by simpa [List.prefix_cons_iff, hne] using hpath
    decide +kernel
  have hnearest := @locate?_nearest .empty _ h [] _ ht ⟨["b".toList]⟩ ⟨["c".toList]⟩
    (by decide +kernel) (by decide +kernel) (by decide +kernel) hunique hback
  refine ⟨by decide +kernel, (hnearest ⟨["c".toList, "0".toList]⟩).trans ?_,
    (hnearest ⟨["d".toList]⟩).trans ?_⟩ <;> decide +kernel

end JsonReference
