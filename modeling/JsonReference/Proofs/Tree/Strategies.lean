import JsonReference.Proofs.Tree.Located

namespace JsonReference

@[simp]
theorem Reference.locator_withPointer (r : Reference) (p : Pointer) :
    (r.withPointer p).locator = r.locator := rfl

theorem Reference.same_withPointer_iff {r loadingRef : Reference} {p : Pointer} :
    r.same (loadingRef.withPointer p) ↔
      r.locator = loadingRef.locator ∧ r.fragment = .pointer p := by
  rw [same, Bool.and_eq_true, beq_iff_eq, beq_iff_eq, locator_withPointer]
  rfl

namespace IdEntry

variable {entries : List IdEntry} {loadingRef r : Reference} {target : Pointer}

theorem target_of_locate? (h : ∀ e ∈ entries, e.reference.same (loadingRef.withPointer e.pointer))
    {p : Pointer} (hp : locate? entries r = some p) :
    loadingRef.contains r ∧ r.pointer? = some p := by
  rw [locate?] at hp
  split at hp
  · next e hfind =>
    cases hp
    obtain ⟨hlocator, hfragment⟩ :=
      Reference.same_withPointer_iff.mp (h e (List.mem_of_find?_eq_some hfind))
    have hsame := List.find?_some hfind
    rw [Reference.same, Bool.and_eq_true, beq_iff_eq, beq_iff_eq, hlocator, hfragment] at hsame
    exact ⟨beq_iff_eq.mpr hsame.1, Reference.pointer?_eq_some_iff.mpr hsame.2.symm⟩
  · obtain ⟨target, htarget, hp⟩ := Option.bind_eq_some_iff.mp hp
    obtain ⟨⟨n, q⟩, hlongest, hq⟩ := Option.bind_eq_some_iff.mp hp
    cases hq
    obtain ⟨e, he, hreach⟩ := exists_reach?_of_longest hlongest
    obtain ⟨hlocator, hfragment⟩ := Reference.same_withPointer_iff.mp (h e he)
    cases hc : e.reference.contains r with
    | false => simp [reach?_of_not_contains hc] at hreach
    | true =>
        have hfront : e.reference.pointer? = some e.pointer :=
          Reference.pointer?_eq_some_iff.mpr hfragment
        simp only [reach?, hc, hfront, guard, if_true, Option.pure_def, Option.bind_eq_bind,
          Option.bind_some, Option.bind_eq_some_iff] at hreach
        obtain ⟨back, hback, hreach⟩ := hreach
        cases hreach
        rw [Reference.contains, beq_iff_eq, hlocator] at hc
        exact ⟨beq_iff_eq.mpr hc, (Pointer.relativize?_eq_some_iff.mp hback) ▸ htarget⟩

end IdEntry

/-- Every node with an `id` opens its own place, counted from the loading reference, as a scope. -/
def Scope.InPlace (loadingRef : Reference) (document : Json) : Prop :=
  ∀ p : Pointer, ((p.get? document).bind Json.nodeId?).isSome →
    (composed loadingRef document p).same (loadingRef.withPointer p)

namespace Scope.InPlace

variable {loadingRef r : Reference} {document : Json}

theorem of_no_ids (h : ∀ p : Pointer, (p.get? document).bind Json.nodeId? = none) :
    InPlace loadingRef document := by
  intro p hid
  simp [h p] at hid

theorem of_root (h : ∀ p : Pointer, p ≠ .root → (p.get? document).bind Json.nodeId? = none)
    (hroot : (enter loadingRef document).same loadingRef.toLocator) :
    InPlace loadingRef document := by
  intro p hid
  by_cases hp : p = .root
  · rw [hp, composed_root]
    exact hroot
  · simp [h p hp] at hid

theorem iff_entries (h : document.WellFormed) :
    InPlace loadingRef document ↔
      ∀ e ∈ (Index.build .inline loadingRef document).entries,
        e.reference.same (loadingRef.withPointer e.pointer) := by
  constructor
  · intro hplace e he
    obtain ⟨hid, hreference⟩ := (Index.mem_entries_inline h).mp he
    rw [hreference]
    exact hplace e.pointer hid
  · intro hentries p hid
    exact hentries ⟨composed loadingRef document p, p⟩ ((Index.mem_entries_inline h).mpr ⟨hid, rfl⟩)

theorem target?_eq (h : document.WellFormed) (hplace : InPlace loadingRef document) :
    (Index.build .inline loadingRef document).target? loadingRef r =
      (Index.build .canonical loadingRef document).target? loadingRef r := by
  have hcanonical : (Index.build .canonical loadingRef document).target? loadingRef r =
      if loadingRef.contains r then r.pointer? else none := by
    cases hr : r.pointer? <;> simp [Index.target?, Index.build, Index.entries, IdEntry.locate?,
      IdEntry.longest, hr]
  rw [hcanonical, Index.target?]
  split
  · next p hp =>
    obtain ⟨hcontains, hpointer⟩ := IdEntry.target_of_locate? ((iff_entries h).mp hplace) hp
    rw [if_pos hcontains, hpointer]
  · rfl

theorem contains_eq (h : document.WellFormed) (hplace : InPlace loadingRef document) :
    (Index.build .inline loadingRef document).contains loadingRef r =
      (Index.build .canonical loadingRef document).contains loadingRef r := by
  have hcanonical : (Index.build .canonical loadingRef document).contains loadingRef r =
      loadingRef.contains r := by
    cases hr : r.pointer? <;> simp [Index.contains, Index.build, Index.entries, IdEntry.locate?,
      IdEntry.longest, hr]
  rw [hcanonical, Index.contains]
  cases hlocate : IdEntry.locate? (Index.build .inline loadingRef document).entries r with
  | none => simp
  | some p => simp [(IdEntry.target_of_locate? ((iff_entries h).mp hplace) hlocate).1]

end Scope.InPlace

/-- Where the ids say nothing new, trees of the two kinds hold the same references and lead them to
the same places, wherever their cursors are. This is so of a document without ids, and of one whose
root alone has an id that composes to the locator it was loaded under. -/
theorem Tree.inline_eq_canonical (loadingRef : Reference) {document : Json}
    (h : document.WellFormed) :
    (Scope.InPlace loadingRef document → ∀ moves moves' : List Move,
      ∀ t ∈ ((Walk.start (.make loadingRef document .inline)).run moves).trees,
      ∀ u ∈ ((Walk.start (.make loadingRef document .canonical)).run moves').trees,
      ∀ r, t.containsRef r = u.containsRef r ∧ t.locate? r = u.locate? r) ∧
    ((∀ p : Pointer, (p.get? document).bind Json.nodeId? = none) →
      Scope.InPlace loadingRef document) ∧
    ((∀ p : Pointer, p ≠ .root → (p.get? document).bind Json.nodeId? = none) →
      (Scope.enter loadingRef document).same loadingRef.toLocator →
      Scope.InPlace loadingRef document) := by
  refine ⟨?_, Scope.InPlace.of_no_ids, Scope.InPlace.of_root⟩
  intro hplace moves moves' t ht u hu r
  have hin := (Walk.InScope.start (.make loadingRef document .inline)).run moves t ht
  have hin' := (Walk.InScope.start (.make loadingRef document .canonical)).run moves' u hu
  constructor
  · rw [containsRef, containsRef, hin.index_eq, hin'.index_eq, hin.loadingRef_eq,
      hin'.loadingRef_eq]
    exact hplace.contains_eq h
  · rw [locate?, locate?, hin.index_eq, hin'.index_eq, hin.loadingRef_eq, hin'.loadingRef_eq,
      hin.document_eq, hin'.document_eq]
    simp only [Index.locate?, Tree.make, hplace.target?_eq h]

theorem Tree.inline_eq_canonical_labelled :
    let document : Json := .object [
      ("a".toList, .object [("b".toList, .bool true), ("id".toList, .string "#/a".toList)]),
      ("id".toList, .string "s".toList)]
    ∃ loadingRef r, Reference.parse "http://x/s".toList = .ok loadingRef ∧
      Reference.parse "http://x/s#/a/b".toList = .ok r ∧
      (Index.build .inline loadingRef document).entries.length = 2 ∧
      (Tree.make loadingRef document .canonical).locate? r =
        some ⟨["a".toList, "b".toList]⟩ ∧
      (Tree.make loadingRef document .inline).locate? r =
        (Tree.make loadingRef document .canonical).locate? r := by
  intro document
  have h : document.WellFormed := Json.wellFormed_tidy document (by simp [document])
  refine ⟨_, _, rfl, rfl, by decide +kernel, by decide +kernel, ?_⟩
  refine ((inline_eq_canonical _ h).1 ?_ [] [] _ (List.mem_singleton_self _) _
    (List.mem_singleton_self _) _).2
  rw [Scope.InPlace.iff_entries h]
  decide +kernel

end JsonReference
