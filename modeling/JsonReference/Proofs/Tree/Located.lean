import JsonReference.Proofs.Tree.Nearest

namespace JsonReference

namespace IdEntry

variable {entries : List IdEntry} {e e' : IdEntry} {r : Reference} {document : Json} {n : Nat}
  {target front back front' back' p q : Pointer}

/-- The entry is of the document that `r` is into, and `front` is the part of the pointer of `r`
that it names. -/
structure Covers (e : IdEntry) (r : Reference) (front back : Pointer) : Prop where
  contains : e.reference.contains r
  front_eq : e.reference.pointer? = some front
  target_eq : r.pointer? = some (front.join back)

/-- The entry is of the same node as another, or comes before it in the document. -/
def Leading (document : Json) (e e' : IdEntry) : Prop :=
  e' = e ∨ document.Precedes e.pointer.tokens e'.pointer.tokens

/-- The place of the first entry that is the same as `r`. -/
def Declared (document : Json) (entries : List IdEntry) (r : Reference) (p : Pointer) : Prop :=
  ∃ e ∈ entries, e.reference.same r ∧
    (∀ e' ∈ entries, e'.reference.same r → Leading document e e') ∧ p = e.pointer

/-- What the rest of the pointer of `r` leads to from the entry that names the longest front of it,
the first of those that name as much. -/
def Reached (document : Json) (entries : List IdEntry) (r : Reference) (p : Pointer) : Prop :=
  ∃ e ∈ entries, ∃ front back, e.Covers r front back ∧
    (∀ e' ∈ entries, ∀ front' back', e'.Covers r front' back' → front'.length < front.length ∨
      front'.length = front.length ∧ Leading document e e') ∧
    p = e.pointer.join back

theorem same_iff : e.reference.same r ↔
    e.reference.contains r ∧ e.reference.fragment = r.fragment := by
  rw [Reference.same, Reference.contains, Bool.and_eq_true, beq_iff_eq, beq_iff_eq]

theorem reach?_eq_some_iff (hr : r.pointer? = some target) : e.reach? r target = some (n, p) ↔
    ∃ front back, e.Covers r front back ∧ n = front.length ∧ p = e.pointer.join back := by
  cases hc : e.reference.contains r with
  | false =>
      rw [reach?_of_not_contains hc]
      refine ⟨fun h => (by cases h), ?_⟩
      rintro ⟨front, back, hcovers, -⟩
      exact absurd hcovers.contains (by simp [hc])
  | true =>
      simp only [reach?, hc, guard, if_true, Option.pure_def, Option.bind_eq_bind, Option.bind_some]
      constructor
      · intro h
        obtain ⟨front, hfront, h⟩ := Option.bind_eq_some_iff.mp h
        obtain ⟨back, hback, h⟩ := Option.bind_eq_some_iff.mp h
        cases h
        refine ⟨front, back, ⟨hc, hfront, ?_⟩, rfl, rfl⟩
        rw [hr, Pointer.relativize?_eq_some_iff.mp hback]
      · rintro ⟨front, back, hcovers, rfl, rfl⟩
        have hback : front.relativize? target = some back :=
          Pointer.relativize?_eq_some_iff.mpr (Option.some.inj (hcovers.target_eq.symm.trans hr))
        simp [hcovers.front_eq, hback]

theorem longest_concat (r : Reference) (target : Pointer) (entries : List IdEntry) (e : IdEntry) :
    longest r target (entries ++ [e]) = better r target (longest r target entries) e := by
  rw [longest_eq_foldl, List.foldl_append, ← longest_eq_foldl]
  rfl

/-- The place reached by the first of the entries that reach furthest. -/
def Furthest (r : Reference) (target : Pointer) (entries : List IdEntry) (n : Nat) (p : Pointer) :
    Prop :=
  ∃ before e after, entries = before ++ e :: after ∧ e.reach? r target = some (n, p) ∧
    (∀ e' ∈ before, ∀ m q, e'.reach? r target = some (m, q) → m < n) ∧
    ∀ e' ∈ after, ∀ m q, e'.reach? r target = some (m, q) → m ≤ n

namespace Furthest

theorem le (h : Furthest r target entries n p) (he : e ∈ entries) {m : Nat}
    (hreach : e.reach? r target = some (m, q)) : m ≤ n := by
  obtain ⟨before, first, after, rfl, hfirst, hbefore, hafter⟩ := h
  rw [List.mem_append, List.mem_cons] at he
  rcases he with he | rfl | he
  · exact Nat.le_of_lt (hbefore e he m q hreach)
  · cases hfirst.symm.trans hreach
    exact Nat.le_refl _
  · exact hafter e he m q hreach

theorem concat (h : Furthest r target entries n p)
    (hlast : ∀ m q, e.reach? r target = some (m, q) → m ≤ n) :
    Furthest r target (entries ++ [e]) n p := by
  obtain ⟨before, first, after, rfl, hfirst, hbefore, hafter⟩ := h
  refine ⟨before, first, after ++ [e], by simp, hfirst, hbefore, ?_⟩
  intro e' he'
  rcases List.mem_append.mp he' with he' | he'
  · exact hafter e' he'
  · obtain rfl := List.mem_singleton.mp he'
    exact hlast

theorem of_last (he : e.reach? r target = some (n, p))
    (h : ∀ e' ∈ entries, ∀ m q, e'.reach? r target = some (m, q) → m < n) :
    Furthest r target (entries ++ [e]) n p :=
  ⟨entries, e, [], rfl, he, h, by simp⟩

end Furthest

theorem better_of_some {m : Nat} (h : e.reach? r target = some (n, p)) :
    better r target (some (m, q)) e = some (if m < n then (n, p) else (m, q)) := by
  simp only [better, h]
  split <;> rfl

theorem longest_cases (r : Reference) (target : Pointer) (entries : List IdEntry) :
    (longest r target entries = none ∧ ∀ e ∈ entries, e.reach? r target = none) ∨
    ∃ n p, longest r target entries = some (n, p) ∧ Furthest r target entries n p := by
  induction entries using List.reverseRecOn with
  | nil => exact .inl ⟨rfl, by simp⟩
  | append_singleton entries last ih =>
      rw [longest_concat]
      rcases ih with ⟨hnone, hall⟩ | ⟨n, p, hbest, hfurthest⟩ <;>
        cases hlast : last.reach? r target
      case inl.none =>
          refine .inl ⟨by rw [better_of_unreached hlast, hnone], ?_⟩
          simpa [or_imp, forall_and, hlast] using hall
      case inl.some found =>
          refine .inr ⟨found.1, found.2, ?_, .of_last hlast fun e' he' m q hreach => ?_⟩
          · rw [hnone]
            exact better_of_found hlast (.inl rfl)
          · cases (hall e' he').symm.trans hreach
      case inr.none =>
          refine .inr ⟨n, p, by rw [better_of_unreached hlast, hbest], hfurthest.concat ?_⟩
          intro m q hreach
          cases hlast.symm.trans hreach
      case inr.some found =>
          rw [hbest, better_of_some hlast]
          by_cases hlt : n < found.1
          · refine .inr ⟨found.1, found.2, by rw [if_pos hlt], .of_last hlast ?_⟩
            exact fun e' he' m q hreach => Nat.lt_of_le_of_lt (hfurthest.le he' hreach) hlt
          · refine .inr ⟨n, p, by rw [if_neg hlt], hfurthest.concat ?_⟩
            intro m q hreach
            cases hlast.symm.trans hreach
            exact Nat.le_of_not_lt hlt

theorem exists_reach?_of_longest {found : Nat × Pointer}
    (h : longest r target entries = some found) :
    ∃ e ∈ entries, e.reach? r target = some found := by
  rcases longest_cases r target entries with
    ⟨hnone, -⟩ | ⟨n, p, hlongest, _, e, _, rfl, hreach, -⟩
  · cases hnone.symm.trans h
  · exact ⟨e, by simp, hreach.trans (hlongest.symm.trans h)⟩

theorem Leading.antisymm (h : Leading document e e') (h' : Leading document e' e) : e = e' := by
  rcases h with he | hlt
  · exact he.symm
  · rcases h' with he | hlt'
    · exact he
    · exact absurd hlt' hlt.asymm

theorem Declared.unique (hp : Declared document entries r p) (hq : Declared document entries r q) :
    p = q := by
  obtain ⟨e, he, hsame, hfirst, rfl⟩ := hp
  obtain ⟨e', he', hsame', hfirst', rfl⟩ := hq
  rw [(hfirst e' he' hsame').antisymm (hfirst' e he hsame)]

theorem Reached.unique (hp : Reached document entries r p) (hq : Reached document entries r q) :
    p = q := by
  obtain ⟨e, he, front, back, hcovers, hbest, rfl⟩ := hp
  obtain ⟨e', he', front', back', hcovers', hbest', rfl⟩ := hq
  have hlead : Leading document e e' ∧ Leading document e' e := by
    rcases hbest e' he' front' back' hcovers' with hlt | ⟨heq, hlead⟩ <;>
      rcases hbest' e he front back hcovers with hlt' | ⟨heq', hlead'⟩
    · omega
    · omega
    · omega
    · exact ⟨hlead, hlead'⟩
  obtain rfl := hlead.1.antisymm hlead.2
  obtain rfl := Option.some.inj (hcovers.front_eq.symm.trans hcovers'.front_eq)
  have hjoin := Option.some.inj (hcovers.target_eq.symm.trans hcovers'.target_eq)
  have hback : front.relativize? (front.join back) = some back :=
    Pointer.relativize?_eq_some_iff.mpr rfl
  rw [Option.some.inj (hback.symm.trans (Pointer.relativize?_eq_some_iff.mpr hjoin.symm))]

section InOrder

variable (horder : entries.Pairwise fun e e' =>
  document.Precedes e.pointer.tokens e'.pointer.tokens)

include horder

theorem leading_of_append {before after : List IdEntry} (h : entries = before ++ e :: after)
    (he' : e' ∈ entries) : e' ∈ before ∨ Leading document e e' := by
  subst h
  rcases List.mem_append.mp he' with hbefore | hafter
  · exact .inl hbefore
  · refine .inr ?_
    rcases List.mem_cons.mp hafter with rfl | hafter
    · exact .inl rfl
    · exact .inr ((List.pairwise_cons.mp (List.pairwise_append.mp horder).2.1).1 e' hafter)

theorem declared_of_find? (h : entries.find? (·.reference.same r) = some e) :
    Declared document entries r e.pointer := by
  obtain ⟨hsame, before, after, hentries, hbefore⟩ := List.find?_eq_some_iff_append.mp h
  refine ⟨e, List.mem_of_find?_eq_some h, hsame, fun e' he' hsame' => ?_, rfl⟩
  refine (leading_of_append horder hentries he').resolve_left fun hmem => ?_
  exact absurd hsame' (by simpa using hbefore e' hmem)

theorem reached_of_longest (hr : r.pointer? = some target)
    (h : longest r target entries = some (n, p)) : Reached document entries r p := by
  rcases longest_cases r target entries with ⟨hnone, -⟩ | ⟨_, _, hbest, hfurthest⟩
  · cases hnone.symm.trans h
  · cases hbest.symm.trans h
    have ⟨before, e, after, hentries, hreach, hbefore, _⟩ := hfurthest
    obtain ⟨front, back, hcovers, rfl, rfl⟩ := (reach?_eq_some_iff hr).mp hreach
    refine ⟨e, by simp [hentries], front, back, hcovers, ?_, rfl⟩
    intro e' he' front' back' hcovers'
    have hreach' := (reach?_eq_some_iff hr).mpr ⟨front', back', hcovers', rfl, rfl⟩
    rcases leading_of_append horder hentries he' with hmem | hlead
    · exact .inl (hbefore e' hmem _ _ hreach')
    · exact (Nat.lt_or_eq_of_le (hfurthest.le he' hreach')).imp_right fun heq => ⟨heq, hlead⟩

end InOrder

theorem covers_root_iff (hr : r.pointer? = some target) :
    e.Covers r target .root ↔ e.reference.same r := by
  rw [same_iff, Reference.pointer?_eq_some_iff.mp hr]
  constructor
  · rintro ⟨hcontains, hfront, -⟩
    exact ⟨hcontains, Reference.pointer?_eq_some_iff.mp hfront⟩
  · rintro ⟨hcontains, hfragment⟩
    refine ⟨hcontains, Reference.pointer?_eq_some_iff.mpr hfragment, ?_⟩
    simp [hr, Pointer.join, Pointer.root]

theorem Covers.length_cases (h : e.Covers r front back) (hr : r.pointer? = some target) :
    front.length < target.length ∨ front = target ∧ back = .root := by
  obtain rfl := Option.some.inj (h.target_eq.symm.trans hr)
  obtain ⟨tokens⟩ := back
  cases tokens with
  | nil => exact .inr ⟨by simp [Pointer.join], rfl⟩
  | cons token rest => exact .inl (by simp [Pointer.join, Pointer.length])

theorem declared_iff_reached (hr : r.pointer? = some target) (he : e ∈ entries)
    (hsame : e.reference.same r) :
    Declared document entries r p ↔ Reached document entries r p := by
  have hroot (q : Pointer) : q.join .root = q := by simp [Pointer.join, Pointer.root]
  constructor
  · rintro ⟨e, he, hsame, hfirst, rfl⟩
    refine ⟨e, he, target, .root, (covers_root_iff hr).mpr hsame, ?_, (hroot _).symm⟩
    intro e' he' front' back' hcovers'
    refine (hcovers'.length_cases hr).imp_right ?_
    rintro ⟨rfl, rfl⟩
    exact ⟨rfl, hfirst e' he' ((covers_root_iff hr).mp hcovers')⟩
  · rintro ⟨e₁, he₁, front, back, hcovers, hbest, rfl⟩
    have hwhole : front = target ∧ back = .root := by
      refine (hcovers.length_cases hr).resolve_left fun hlt => ?_
      rcases hbest e he target .root ((covers_root_iff hr).mpr hsame) with h | ⟨h, -⟩ <;> omega
    obtain ⟨rfl, rfl⟩ := hwhole
    refine ⟨e₁, he₁, (covers_root_iff hr).mp hcovers, ?_, hroot _⟩
    intro e' he' hsame'
    rcases hbest e' he' front .root ((covers_root_iff hr).mpr hsame') with h | ⟨-, hlead⟩
    · exact absurd h (Nat.lt_irrefl _)
    · exact hlead

theorem exists_longest (hr : r.pointer? = some target) (he : e ∈ entries)
    (hcovers : e.Covers r front back) : ∃ n p, longest r target entries = some (n, p) := by
  rcases longest_cases r target entries with ⟨-, hall⟩ | ⟨n, p, hlongest, -⟩
  · have hreach := (reach?_eq_some_iff hr).mpr ⟨front, back, hcovers, rfl, rfl⟩
    cases (hall e he).symm.trans hreach
  · exact ⟨n, p, hlongest⟩

theorem locate?_of_find? (h : entries.find? (·.reference.same r) = some e) :
    locate? entries r = some e.pointer := by
  rw [locate?, h]

theorem locate?_of_not_same (h : ∀ e ∈ entries, ¬ e.reference.same r) : locate? entries r = some p ↔
    ∃ target n, r.pointer? = some target ∧ longest r target entries = some (n, p) := by
  rw [locate?, List.find?_eq_none.mpr (by simpa using h)]
  simp only [Option.bind_eq_bind, Option.bind_eq_some_iff, Option.pure_def, Option.some.injEq]
  constructor
  · rintro ⟨target, hr, ⟨n, q⟩, hlongest, rfl⟩
    exact ⟨target, n, hr, hlongest⟩
  · rintro ⟨target, n, hr, hlongest⟩
    exact ⟨target, hr, (n, p), hlongest, rfl⟩

theorem locate?_eq_some_iff
    (horder : entries.Pairwise fun e e' => document.Precedes e.pointer.tokens e'.pointer.tokens) :
    locate? entries r = some p ↔ Declared document entries r p ∨
      (∀ e ∈ entries, ¬ e.reference.same r) ∧ Reached document entries r p := by
  cases hfind : entries.find? (·.reference.same r) with
  | some e =>
      have hdeclared := declared_of_find? horder hfind
      rw [locate?_of_find? hfind, Option.some.injEq]
      constructor
      · rintro rfl
        exact .inl hdeclared
      · rintro (h | ⟨hnone, -⟩)
        · exact hdeclared.unique h
        · exact absurd (List.find?_some hfind) (hnone e (List.mem_of_find?_eq_some hfind))
  | none =>
      have hnone : ∀ e ∈ entries, ¬ e.reference.same r := by simpa using hfind
      rw [locate?_of_not_same hnone]
      constructor
      · rintro ⟨target, n, hr, hlongest⟩
        exact .inr ⟨hnone, reached_of_longest horder hr hlongest⟩
      · rintro (⟨e, he, hsame, -⟩ | ⟨-, hreached⟩)
        · exact absurd hsame (hnone e he)
        · have ⟨e, he, front, back, hcovers, _⟩ := hreached
          obtain ⟨n, q, hlongest⟩ := exists_longest hcovers.target_eq he hcovers
          obtain rfl := hreached.unique (reached_of_longest horder hcovers.target_eq hlongest)
          exact ⟨_, n, hcovers.target_eq, hlongest⟩

theorem locate?_eq_none_iff : locate? entries r = none ↔ (∀ e ∈ entries, ¬ e.reference.same r) ∧
    ∀ e ∈ entries, ∀ front back, ¬ e.Covers r front back := by
  constructor
  · intro h
    have hnone : ∀ e ∈ entries, ¬ e.reference.same r := by
      cases hfind : entries.find? (·.reference.same r) with
      | some e => cases h.symm.trans (locate?_of_find? hfind)
      | none => simpa using hfind
    refine ⟨hnone, fun e he front back hcovers => ?_⟩
    obtain ⟨n, p, hlongest⟩ := exists_longest hcovers.target_eq he hcovers
    cases h.symm.trans ((locate?_of_not_same hnone).mpr ⟨_, n, hcovers.target_eq, hlongest⟩)
  · rintro ⟨hnone, huncovered⟩
    refine Option.eq_none_iff_forall_ne_some.mpr fun p hp => ?_
    obtain ⟨target, n, hr, hlongest⟩ := (locate?_of_not_same hnone).mp hp
    obtain ⟨e, he, hreach⟩ := exists_reach?_of_longest hlongest
    obtain ⟨front, back, hcovers, -⟩ := (reach?_eq_some_iff hr).mp hreach
    exact huncovered e he front back hcovers

end IdEntry

namespace Index

variable {loadingRef r : Reference} {document : Json} {p : Pointer}

/-- Where `r` leads by the entries and by itself, be there a node or not. -/
def Leads (loadingRef : Reference) (document : Json) (entries : List IdEntry) (r : Reference)
    (p : Pointer) : Prop :=
  IdEntry.Declared document entries r p ∨
  (∀ e ∈ entries, ¬ e.reference.same r) ∧ (IdEntry.Reached document entries r p ∨
    (∀ e ∈ entries, ∀ front back, ¬ e.Covers r front back) ∧
      loadingRef.contains r ∧ r.pointer? = some p)

theorem target?_eq_some_iff (index : Index) : index.target? loadingRef r = some p ↔
    IdEntry.locate? index.entries r = some p ∨
      IdEntry.locate? index.entries r = none ∧ loadingRef.contains r ∧ r.pointer? = some p := by
  rw [target?]
  cases IdEntry.locate? index.entries r with
  | some q => simp
  | none => simp

theorem pairwise_entries (loadingRef : Reference) (h : document.WellFormed) :
    (build .inline loadingRef document).entries.Pairwise fun e e' =>
      document.Precedes e.pointer.tokens e'.pointer.tokens :=
  List.pairwise_map.mp (IdEntry.inOrder_collect h).pairwise_tokens

theorem target?_inline_iff (h : document.WellFormed) :
    (build .inline loadingRef document).target? loadingRef r = some p ↔
      Leads loadingRef document (build .inline loadingRef document).entries r p := by
  rw [target?_eq_some_iff, IdEntry.locate?_eq_some_iff (pairwise_entries loadingRef h),
    IdEntry.locate?_eq_none_iff, Leads, and_or_left, or_assoc, and_assoc]

theorem contains_of_target? (index : Index) (h : index.target? loadingRef r = some p) :
    index.contains loadingRef r := by
  rw [contains, Bool.or_eq_true]
  rcases (target?_eq_some_iff index).mp h with hlocate | ⟨-, hcontains, -⟩
  · exact .inr (by rw [hlocate]; rfl)
  · exact .inl hcontains

end Index

/-- An indexed tree leads a reference to the place that the rules give, if a node is there. For a
pointer the rule of the same entry comes to what the rule of the longest front does. -/
theorem Tree.locate?_inline_iff (loadingRef : Reference) {document : Json} (h : document.WellFormed)
    (moves : List Move) {t : Tree}
    (ht : t ∈ ((Walk.start (.make loadingRef document .inline)).run moves).trees) (r : Reference) :
    let entries := (Index.build .inline loadingRef document).entries
    (∀ p, t.locate? r = some p ↔
      (p.get? document).isSome ∧ Index.Leads loadingRef document entries r p) ∧
    (r.pointer?.isSome → (∃ e ∈ entries, e.reference.same r) → ∀ p,
      (IdEntry.Declared document entries r p ↔ IdEntry.Reached document entries r p)) ∧
    ((t.locate? r).isSome → t.containsRef r) := by
  intro entries
  have hin := (Walk.InScope.start (.make loadingRef document .inline)).run moves t ht
  have hlocate (p : Pointer) : t.locate? r = some p ↔
      (Index.build .inline loadingRef document).target? loadingRef r = some p ∧
        (p.get? document).isSome := by
    rw [locate?, Index.locate?, hin.loadingRef_eq, hin.document_eq, hin.index_eq]
    simp only [make, Option.bind_eq_bind, Option.bind_eq_some_iff, Option.pure_def,
      Option.some.injEq, Option.isSome_iff_exists]
    constructor
    · rintro ⟨q, hq, x, hx, rfl⟩
      exact ⟨hq, x, hx⟩
    · rintro ⟨hp, x, hx⟩
      exact ⟨p, hp, x, hx, rfl⟩
  refine ⟨?_, ?_, ?_⟩
  · intro p
    rw [hlocate, Index.target?_inline_iff h, and_comm]
  · intro hr
    rintro ⟨e, he, hsame⟩ p
    obtain ⟨target, hr⟩ := Option.isSome_iff_exists.mp hr
    exact IdEntry.declared_iff_reached hr he hsame
  · intro hsome
    obtain ⟨p, hp⟩ := Option.isSome_iff_exists.mp hsome
    rw [containsRef, hin.loadingRef_eq, hin.index_eq]
    exact Index.contains_of_target? _ ((hlocate p).mp hp).1

namespace Tree

def whole : Reference :=
  ⟨⟨some "urn".toList, none, "s".toList, none, some "/d".toList⟩, .pointer ⟨["d".toList]⟩⟩

def below : Reference :=
  ⟨⟨some "urn".toList, none, "s".toList, none, some "/d/b".toList⟩,
    .pointer ⟨["d".toList, "b".toList]⟩⟩

theorem locate?_inline_iff_tied :
    let document : Json := .object [
      ("a".toList, .object [("b".toList, .null), ("id".toList, .string "urn:s#/d".toList)]),
      ("d".toList, .object [("id".toList, .string "urn:s#/d".toList), ("z".toList, .null)]),
      ("id".toList, .string "urn:s".toList)]
    let t := Tree.make .empty document .inline
    let entries := (Index.build .inline .empty document).entries
    ∃ whole below, Reference.parse "urn:s#/d".toList = .ok whole ∧
      Reference.parse "urn:s#/d/b".toList = .ok below ∧
      t.locate? whole = some ⟨["a".toList]⟩ ∧
      t.locate? below = some ⟨["a".toList, "b".toList]⟩ ∧
      Index.Leads .empty document entries below ⟨["a".toList, "b".toList]⟩ ∧
      IdEntry.Reached document entries whole ⟨["a".toList]⟩ ∧ t.containsRef below := by
  intro document t entries
  have h : document.WellFormed := Json.wellFormed_tidy document (by simp [document])
  have hlocate := locate?_inline_iff .empty h [] (t := t) (List.mem_singleton_self _)
  have hwhole : t.locate? whole = some ⟨["a".toList]⟩ := by decide +kernel
  have hbelow : t.locate? below = some ⟨["a".toList, "b".toList]⟩ := by decide +kernel
  have hsame : ∃ e ∈ entries, e.reference.same whole := by decide +kernel
  have hdeclared : IdEntry.Declared document entries whole ⟨["a".toList]⟩ := by
    refine (((hlocate whole).1 _).mp hwhole).2.resolve_right ?_
    rintro ⟨hnone, -⟩
    obtain ⟨e, he, hsame⟩ := hsame
    exact hnone e he hsame
  exact ⟨whole, below, rfl, rfl, hwhole, hbelow, (((hlocate below).1 _).mp hbelow).2,
    ((hlocate whole).2.1 rfl hsame _).mp hdeclared, (hlocate below).2.2 (by rw [hbelow]; rfl)⟩

end Tree
end JsonReference
