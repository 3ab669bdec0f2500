import JsonReference.Proofs.Cache.Alone
import JsonReference.Proofs.Cache.Gates
import Mathlib.Data.List.Nodup

namespace JsonReference

theorem Table.put_of_find?_eq_none {κ α : Type} [DecidableEq κ] {key : κ} {table : Table κ α}
    (h : table.find? key = none) (a : α) : table.put key a = table ++ [(key, a)] := by
  induction table with
  | nil => rfl
  | cons first rest ih =>
      rw [find?] at h
      split at h
      · cases h
      · next hk => rw [put, if_neg hk, ih h, List.cons_append]

namespace Cache

theorem Stage.bound?_or_parting {stage : Stage} {g : Gate} (h : stage.gate? = some g) :
    stage.bound? = some g ∨ ∃ result, stage = .parting g result := by
  cases stage <;> simp_all [gate?, bound?]

namespace Callers

variable {s t u : Callers} {i j : Nat} {key k : Text} {stage stage' : Stage} {cache : Cache}
  {gates : Table Text Gate} {filled : Option Json} {call : Call} {g : Gate} {keys : List Text}

theorem Turn.gates_cases (h : Turn s key stage stage' cache gates)
    (htest : ∀ g result, stage ≠ .outside g result) :
    (gates = s.gates ∧ (∀ g, stage.bound? = some g → stage'.bound? = some g) ∧
      ∀ g, stage'.gate? = some g → stage.gate? = some g ∨ s.gates.find? key = some g) ∨
    stage = .missed ∧ s.gates.find? key = none ∧ stage' = .waiting s.made ∧
      gates = s.gates.put key s.made := by
  cases h with
  | opened hgate => exact .inr ⟨rfl, hgate, rfl, rfl⟩
  | joined hgate =>
      refine .inl ⟨rfl, fun g hg => (by cases hg), fun g hg => .inr ?_⟩
      cases hg
      exact hgate
  | kept | removed => cases htest _ _ rfl
  | found | missed | entered | foundInside | missedInside | started | filled | failed | stored
  | left | parted => exact .inl ⟨rfl, by simp_all [Stage.bound?], by simp_all [Stage.gate?]⟩

theorem Turn.test_cases {result : Option Json}
    (h : Turn s key (.outside g result) stage' cache gates) : stage' = .parting g result ∧
      (gates = s.gates ∧ (∀ g', s.gates.find? key = some g' → 2 < s.holds g') ∨
        gates = s.gates.drop key ∧ ∃ g', s.gates.find? key = some g' ∧ s.holds g' ≤ 2) := by
  cases h with
  | kept _ _ hkept => exact ⟨rfl, .inl ⟨rfl, hkept⟩⟩
  | removed _ _ hgate hholds => exact ⟨rfl, .inr ⟨rfl, _, hgate, hholds⟩⟩

theorem Turn.find?_of_ne (h : Turn s k stage stage' cache gates) (hk : key ≠ k) :
    gates.find? key = s.gates.find? key := by
  cases h with
  | opened => rw [Table.find?_put, if_neg hk]
  | removed => rw [Table.find?_drop, if_neg hk]
  | _ => rfl

theorem removeGate_made : (s.removeGate key).made = s.made := by
  rw [removeGate]
  split
  · split <;> rfl
  · rfl

theorem look_made {found : Json → Stage} {missing : Stage} :
    (s.look i call found missing).made = s.made := by
  rw [look]
  split <;> rfl

theorem made_of_move (hcall : s.calls[i]? = some ⟨key, stage⟩) (hmove : s.move? i filled = some t) :
    s.made ≤ t.made ∧ (stage = .missed → s.gates.find? key = none → t.made = s.made + 1) := by
  simp only [move?, hcall, Option.bind_eq_bind, Option.bind_some] at hmove
  cases stage with
  | looking | entered =>
      cases hmove
      exact ⟨Nat.le_of_eq look_made.symm, fun h => by cases h⟩
  | missed =>
      simp only [approach] at hmove
      split at hmove <;> cases hmove <;> simp_all [advance]
  | waiting =>
      simp only at hmove
      split at hmove <;> cases hmove
      exact ⟨Nat.le_refl _, fun h => by cases h⟩
  | filling => cases filled <;> cases hmove <;> exact ⟨Nat.le_refl _, fun h => by cases h⟩
  | outside =>
      cases hmove
      exact ⟨Nat.le_of_eq removeGate_made.symm, fun h => by cases h⟩
  | ready | storing | leaving | parting =>
      cases hmove
      exact ⟨Nat.le_refl _, fun h => by cases h⟩
  | finished => cases hmove

/-- No gate is there twice, and a call has hold of none but its own key's. -/
structure Apart (s : Callers) : Prop where
  gates_nodup : (s.gates.map (·.2)).Nodup
  made_lt : ∀ row ∈ s.gates, row.2 < s.made
  held_lt : ∀ call ∈ s.calls, ∀ g, call.stage.gate? = some g → g < s.made
  key_eq : ∀ call ∈ s.calls, ∀ row ∈ s.gates, call.stage.gate? = some row.2 → call.key = row.1

namespace Apart

theorem start (cache : Cache) (keys : List Text) : (start cache keys).Apart := by
  have hlooking (call : Call) (h : call ∈ (Callers.start cache keys).calls) :
      call.stage.gate? = none := by
    obtain ⟨key, -, rfl⟩ := List.mem_map.mp h
    rfl
  refine ⟨.nil, by simp [Callers.start], ?_, by simp [Callers.start]⟩
  intro call hcall g hg
  cases (hlooking call hcall).symm.trans hg

theorem row_eq (h : s.Apart) {row row' : Text × Gate} (hrow : row ∈ s.gates)
    (hrow' : row' ∈ s.gates) (hsame : row.2 = row'.2) : row = row' :=
  List.inj_on_of_nodup_map h.gates_nodup hrow hrow' hsame

theorem of_sublist (h : s.Apart) (hgates : t.gates.Sublist s.gates) (hmade : s.made ≤ t.made)
    (hheld : ∀ call ∈ t.calls, ∀ g, call.stage.gate? = some g →
      (∃ call' ∈ s.calls, call'.key = call.key ∧ call'.stage.gate? = some g) ∨
        (call.key, g) ∈ s.gates) : t.Apart := by
  refine ⟨h.gates_nodup.sublist (hgates.map _), ?_, ?_, ?_⟩
  · intro row hrow
    exact Nat.lt_of_lt_of_le (h.made_lt row (hgates.subset hrow)) hmade
  · intro call hcall g hg
    refine Nat.lt_of_lt_of_le ?_ hmade
    rcases hheld call hcall g hg with ⟨call', hcall', -, hg'⟩ | hrow
    · exact h.held_lt call' hcall' g hg'
    · exact h.made_lt _ hrow
  · intro call hcall row hrow hg
    rcases hheld call hcall row.2 hg with ⟨call', hcall', hkey, hg'⟩ | hrow'
    · rw [← hkey]
      exact h.key_eq call' hcall' row (hgates.subset hrow) hg'
    · exact congrArg (·.1) (h.row_eq hrow' (hgates.subset hrow) rfl)

theorem of_opened (h : s.Apart) (hgates : t.gates = s.gates ++ [(key, s.made)])
    (hmade : t.made = s.made + 1)
    (hheld : ∀ call ∈ t.calls, call ∈ s.calls ∨ call = ⟨key, .waiting s.made⟩) : t.Apart := by
  refine ⟨?_, ?_, ?_, ?_⟩
  · have hnew : s.made ∉ s.gates.map (·.2) := by
      intro hmem
      obtain ⟨row, hrow, hsame⟩ := List.mem_map.mp hmem
      exact Nat.lt_irrefl _ (hsame ▸ h.made_lt row hrow)
    rw [hgates, List.map_append, List.nodup_append]
    refine ⟨h.gates_nodup, List.nodup_singleton _, ?_⟩
    rintro g hg _ hg' rfl
    have hsame : g = s.made := List.mem_singleton.mp hg'
    exact hnew (hsame ▸ hg)
  · intro row hrow
    rw [hgates, List.mem_append, List.mem_singleton] at hrow
    rcases hrow with hrow | rfl
    · exact hmade ▸ Nat.lt_succ_of_lt (h.made_lt row hrow)
    · exact hmade ▸ Nat.lt_succ_self _
  · intro call hcall g hg
    rcases hheld call hcall with hcall | rfl
    · exact hmade ▸ Nat.lt_succ_of_lt (h.held_lt call hcall g hg)
    · cases hg
      exact hmade ▸ Nat.lt_succ_self _
  · intro call hcall row hrow hg
    rw [hgates, List.mem_append, List.mem_singleton] at hrow
    rcases hheld call hcall with hcall | rfl <;> rcases hrow with hrow | rfl
    · exact h.key_eq call hcall row hrow hg
    · exact absurd (h.held_lt call hcall _ hg) (Nat.lt_irrefl _)
    · exact absurd (h.made_lt row hrow) (Option.some.inj hg ▸ Nat.lt_irrefl _)
    · rfl

theorem move (h : s.Apart) (hmove : s.move? i filled = some t) : t.Apart := by
  obtain ⟨key, stage, stage', hcall, hturn, hcalls⟩ := turn_of_move hmove
  obtain ⟨hmade, hopened⟩ := made_of_move hcall hmove
  have hmem := List.mem_of_getElem? hcall
  have hold {call : Call} (hcall : call ∈ t.calls) : call ∈ s.calls ∨ call = ⟨key, stage'⟩ :=
    List.mem_or_eq_of_mem_set (hcalls ▸ hcall)
  by_cases htest : ∃ g result, stage = .outside g result
  · obtain ⟨g, result, rfl⟩ := htest
    obtain ⟨rfl, hgates⟩ := hturn.test_cases
    refine h.of_sublist ?_ hmade fun call hcall g hg => .inl ?_
    · rcases hgates with ⟨hgates, -⟩ | ⟨hgates, -⟩
      · rw [hgates]
      · rw [hgates]
        exact List.filter_sublist
    · rcases hold hcall with hcall | rfl
      · exact ⟨call, hcall, rfl, hg⟩
      · exact ⟨_, hmem, rfl, hg⟩
  · have hother (g : Gate) (result : Option Json) : stage ≠ .outside g result :=
      fun he => htest ⟨g, result, he⟩
    rcases hturn.gates_cases hother with ⟨hgates, -, hheld⟩ | ⟨rfl, hmissing, rfl, hgates⟩
    · refine h.of_sublist (by rw [hgates]) hmade fun call hcall g hg => ?_
      rcases hold hcall with hcall | rfl
      · exact .inl ⟨call, hcall, rfl, hg⟩
      · rcases hheld g hg with hg | hfind
        · exact .inl ⟨_, hmem, rfl, hg⟩
        · exact .inr (Table.mem_of_find? hfind)
    · rw [Table.put_of_find?_eq_none hmissing] at hgates
      exact h.of_opened hgates (hopened rfl hmissing) fun call => hold

theorem of_reachable (h : Reachable cache keys s) : s.Apart := by
  induction h with
  | start => exact start cache keys
  | move i filled _ hmove ih => exact ih.move hmove
  | clear _ ih => exact ⟨ih.gates_nodup, ih.made_lt, ih.held_lt, ih.key_eq⟩

theorem countP_le_one (h : s.Apart) (g : Gate) : s.gates.countP (·.2 = g) ≤ 1 := by
  have hcount := List.nodup_iff_count_le_one.mp h.gates_nodup g
  rw [List.count, List.countP_map] at hcount
  exact hcount

end Apart

/-- The states that come after `s` for as long as no call tests the gate of the key. -/
inductive Untested (key : Text) (s : Callers) : Callers → Prop
  | start : Untested key s s
  | move {t u : Callers} (i : Nat) (filled : Option Json) : Untested key s t →
      (∀ g result, t.calls[i]? ≠ some ⟨key, .outside g result⟩) → t.move? i filled = some u →
      Untested key s u
  | clear {t : Callers} : Untested key s t → Untested key s { t with cache := t.cache.clear }

/-- The call is to test the gate of the key, and another has tested it and still has hold of it. -/
def Crossed (s : Callers) (key : Text) (i : Nat) : Prop :=
  ∃ (g : Gate) (result : Option Json) (j : Nat) (result' : Option Json),
    s.calls[i]? = some ⟨key, .outside g result⟩ ∧
    s.calls[j]? = some ⟨key, .parting g result'⟩

/-- The last test of the gate of the key before `u` came between another one and the return of its
call. -/
def LastCrossed (cache : Cache) (keys : List Text) (key : Text) (u : Callers) : Prop :=
  ∃ (s t : Callers) (i : Nat) (filled : Option Json), Reachable cache keys s ∧ s.Crossed key i ∧
    s.move? i filled = some t ∧ t.Untested key u

theorem exists_other (h : 2 ≤ s.calls.countP (·.stage.gate? = some g)) (i : Nat) :
    ∃ (j : Nat) (call : Call), j ≠ i ∧ s.calls[j]? = some call ∧ call.stage.gate? = some g := by
  by_contra hnone
  have hall {j : Nat} {call : Call} (hj : s.calls[j]? = some call)
      (hg : call.stage.gate? = some g) : j = i := by
    by_contra hne
    exact hnone ⟨j, call, hne, hj, hg⟩
  have hone : s.calls.countP (·.stage.gate? = some g) ≤ 1 := by
    refine Callers.countP_le_one fun a b call call' ha hb hg hg' => ?_
    rw [hall ha (by simpa using hg), hall hb (by simpa using hg')]
  omega

theorem other_of_kept {result : Option Json} (hgated : s.Gated) (hapart : s.Apart)
    (hcall : s.calls[i]? = some ⟨key, .outside g result⟩)
    (hkept : ∀ g', s.gates.find? key = some g' → 2 < s.holds g') :
    s.Crossed key i ∨ ∃ (j : Nat) (stage : Stage),
      j ≠ i ∧ s.calls[j]? = some ⟨key, stage⟩ ∧ stage.bound? = some g := by
  have hfind := hgated.find?_eq hcall rfl
  have hholds := hkept g hfind
  have htable := hapart.countP_le_one g
  rw [holds] at hholds
  obtain ⟨j, ⟨key', stage⟩, hji, hj, hg⟩ := exists_other (s := s) (g := g) (by omega) i
  obtain rfl : key' = key :=
    hapart.key_eq _ (List.mem_of_getElem? hj) (key, g) (Table.mem_of_find? hfind) hg
  rcases Stage.bound?_or_parting hg with hbound | ⟨result', rfl⟩
  · exact .inr ⟨j, stage, hji, hj, hbound⟩
  · exact .inl ⟨g, result, j, result', hcall, hj⟩

theorem LastCrossed.move (h : LastCrossed cache keys key s) (hmove : s.move? i filled = some t)
    (hother : ∀ g result, s.calls[i]? ≠ some ⟨key, .outside g result⟩) :
    LastCrossed cache keys key t := by
  obtain ⟨s', t', i', filled', hs', hcrossed, hmove', huntested⟩ := h
  exact ⟨s', t', i', filled', hs', hcrossed, hmove', huntested.move i filled hother hmove⟩

/-- A gate that was there before a move of the call `i`, which does not test it, and that the same
calls are still to test. -/
structure Carried (s t : Callers) (i : Nat) (key : Text) (g : Gate) : Prop where
  find?_eq : s.gates.find? key = some g
  untested (g : Gate) (result : Option Json) : s.calls[i]? ≠ some ⟨key, .outside g result⟩
  bound {j : Nat} {stage : Stage} : s.calls[j]? = some ⟨key, stage⟩ → stage.bound? = some g →
    ∃ stage', t.calls[j]? = some ⟨key, stage'⟩ ∧ stage'.bound? = some g

theorem carried_of_ne (hmove : s.move? i filled = some t) (hg : t.gates.find? key = some g)
    (hcall : s.calls[i]? = some ⟨k, stage⟩) (hk : key ≠ k) : s.Carried t i key g := by
  obtain ⟨k', _, stage', hcall', hturn, hcalls⟩ := turn_of_move hmove
  cases hcall.symm.trans hcall'
  refine ⟨hturn.find?_of_ne hk ▸ hg, ?_, ?_⟩
  · intro g result he
    cases hcall.symm.trans he
    exact hk rfl
  · intro j stage'' hj hbound
    have hij : i ≠ j := by
      rintro rfl
      cases hcall.symm.trans hj
      exact hk rfl
    exact ⟨stage'', by rw [hcalls, List.getElem?_set_ne hij, hj], hbound⟩

theorem gate_of_test (hgated : s.Gated) (hapart : s.Apart) (hmove : s.move? i filled = some t)
    (hg : t.gates.find? key = some g) {g' : Gate} {result : Option Json}
    (hcall : s.calls[i]? = some ⟨key, .outside g' result⟩) : s.Crossed key i ∨
      ∃ (j : Nat) (stage : Stage), t.calls[j]? = some ⟨key, stage⟩ ∧ stage.bound? = some g := by
  obtain ⟨k, _, stage', hcall', hturn, hcalls⟩ := turn_of_move hmove
  cases hcall.symm.trans hcall'
  rcases hturn.test_cases.2 with ⟨hgates, hkept⟩ | ⟨hgates, -⟩
  · have hsame : some g' = some g := (hgated.find?_eq hcall rfl).symm.trans (hgates ▸ hg)
    refine (other_of_kept hgated hapart hcall hkept).imp_right ?_
    rintro ⟨j, stage, hji, hj, hbound⟩
    exact ⟨j, stage, by rw [hcalls, List.getElem?_set_ne (Ne.symm hji), hj], hbound.trans hsame⟩
  · rw [hgates, Table.find?_drop, if_pos rfl] at hg
    cases hg

theorem gate_of_other (hmove : s.move? i filled = some t) (hg : t.gates.find? key = some g)
    (hcall : s.calls[i]? = some ⟨key, stage⟩) (hother : ∀ g result, stage ≠ .outside g result) :
    s.Carried t i key g ∨
      ∃ (j : Nat) (stage : Stage), t.calls[j]? = some ⟨key, stage⟩ ∧ stage.bound? = some g := by
  obtain ⟨k, _, stage', hcall', hturn, hcalls⟩ := turn_of_move hmove
  cases hcall.symm.trans hcall'
  have hself : t.calls[i]? = some ⟨key, stage'⟩ := by
    rw [hcalls, List.getElem?_set_self (List.getElem?_eq_some_iff.mp hcall).1]
  rcases hturn.gates_cases hother with ⟨hgates, hkeep, -⟩ | ⟨-, -, rfl, hgates⟩
  · refine .inl ⟨hgates ▸ hg, ?_, ?_⟩
    · intro g result he
      cases hcall.symm.trans he
      exact hother g result rfl
    · intro j stage'' hj hbound
      by_cases hij : i = j
      · subst hij
        cases hcall.symm.trans hj
        exact ⟨stage', hself, hkeep g hbound⟩
      · exact ⟨stage'', by rw [hcalls, List.getElem?_set_ne hij, hj], hbound⟩
  · rw [hgates, Table.find?_put, if_pos rfl] at hg
    exact .inr ⟨i, _, hself, hg⟩

theorem gate_of_move (hgated : s.Gated) (hapart : s.Apart) (hmove : s.move? i filled = some t)
    (hg : t.gates.find? key = some g) : s.Carried t i key g ∨ s.Crossed key i ∨
      ∃ (j : Nat) (stage : Stage), t.calls[j]? = some ⟨key, stage⟩ ∧ stage.bound? = some g := by
  obtain ⟨k, stage, stage', hcall, -⟩ := turn_of_move hmove
  by_cases hk : key = k
  · subst hk
    by_cases htest : ∃ g result, stage = .outside g result
    · obtain ⟨g', result, rfl⟩ := htest
      exact .inr (gate_of_test hgated hapart hmove hg hcall)
    · refine (gate_of_other hmove hg hcall fun g result he => ?_).imp_right .inr
      exact htest ⟨g, result, he⟩
  · exact .inl (carried_of_ne hmove hg hcall hk)

theorem bound_or_lastCrossed (h : Reachable cache keys s) (hg : s.gates.find? key = some g) :
    (∃ (i : Nat) (stage : Stage), s.calls[i]? = some ⟨key, stage⟩ ∧ stage.bound? = some g) ∨
      LastCrossed cache keys key s := by
  induction h generalizing g with
  | start => cases hg
  | clear _ ih =>
      refine (ih hg).imp_right ?_
      rintro ⟨s', t', i, filled, hs', hcrossed, hmove, huntested⟩
      exact ⟨s', t', i, filled, hs', hcrossed, hmove, huntested.clear⟩
  | @move s t i filled hs hmove ih =>
      rcases gate_of_move (.of_reachable hs) (.of_reachable hs) hmove hg with
        hcarried | hcrossed | hbound
      · rcases ih hcarried.find?_eq with ⟨j, stage, hj, hbound⟩ | hlast
        · obtain ⟨stage', hj', hbound'⟩ := hcarried.bound hj hbound
          exact .inl ⟨j, stage', hj', hbound'⟩
        · exact .inr (hlast.move hmove hcarried.untested)
      · exact .inr ⟨s, t, i, filled, hs, hcrossed, hmove, .start⟩
      · exact .inl hbound

theorem Crossed.isSome (h : s.Crossed key i) (hgated : s.Gated)
    (hmove : s.move? i filled = some t) : (t.gates.find? key).isSome := by
  obtain ⟨g, result, j, result', hi, hj⟩ := h
  obtain ⟨k, stage, stage', hcall, hturn, -⟩ := turn_of_move hmove
  cases hi.symm.trans hcall
  have hfind := hgated.find?_eq hi rfl
  rcases hturn.test_cases.2 with ⟨hgates, -⟩ | ⟨-, g', hg', hholds⟩
  · rw [hgates, hfind]
    rfl
  · obtain rfl := Option.some.inj (hfind.symm.trans hg')
    have hij : i ≠ j := by
      rintro rfl
      cases hi.symm.trans hj
    have hcalls : 2 ≤ s.calls.countP (·.stage.gate? = some g) :=
      two_le_countP hij hi hj (by simp [Stage.gate?]) (by simp [Stage.gate?])
    have htable : 1 ≤ s.gates.countP (·.2 = g) :=
      List.countP_pos_iff.mpr ⟨(key, g), Table.mem_of_find? hfind, by simp⟩
    rw [holds] at hholds
    omega

theorem Untested.isSome (h : t.Untested key u) (hg : (t.gates.find? key).isSome) :
    (u.gates.find? key).isSome := by
  induction h with
  | start => exact hg
  | clear _ ih => exact ih
  | move i filled _ hother hmove ih =>
      obtain ⟨k, stage, stage', hcall, hturn, -⟩ := turn_of_move hmove
      by_cases hk : key = k
      · subst hk
        rcases hturn.gates_cases fun g result he => hother g result (he ▸ hcall) with
          ⟨hgates, -⟩ | ⟨-, -, -, hgates⟩
        · rw [hgates]
          exact ih
        · rw [hgates, Table.find?_put, if_pos rfl]
          rfl
      · rw [hturn.find?_of_ne hk]
        exact ih

theorem find?_of_finished (h : Reachable cache keys u) (hfinished : u.allFinished) (key : Text) :
    (u.gates.find? key).isSome ↔ LastCrossed cache keys key u := by
  constructor
  · intro hsome
    obtain ⟨g, hg⟩ := Option.isSome_iff_exists.mp hsome
    refine (bound_or_lastCrossed h hg).resolve_left ?_
    rintro ⟨i, stage, hcall, hbound⟩
    have hstage := List.all_eq_true.mp hfinished _ (List.mem_of_getElem? hcall)
    cases stage <;> cases hbound <;> cases hstage
  · rintro ⟨s, t, i, filled, hs, hcrossed, hmove, huntested⟩
    exact huntested.isSome (hcrossed.isSome (.of_reachable hs) hmove)

/-- When all calls are finished, the gates that are still there are those whose last test came
between the test of another call and the return of that call. -/
theorem gates_left_iff (h : Reachable cache keys u) (hfinished : u.allFinished) :
    (∀ key, (u.gates.find? key).isSome ↔ LastCrossed cache keys key u) ∧
    (u.gates = [] ↔ ∀ key, ¬ LastCrossed cache keys key u) := by
  have hleft := find?_of_finished h hfinished
  refine ⟨hleft, ?_⟩
  simp only [← hleft, Table.isSome_find?_iff]
  constructor
  · intro hnil
    simp [hnil]
  · intro hnone
    refine List.eq_nil_iff_forall_not_mem.mpr fun row hrow => ?_
    exact hnone row.1 (List.mem_map_of_mem hrow)

theorem gates_left_iff_pair :
    let key := "a".toList
    let cache := Cache.empty 1
    let moves : List (Nat × Option Json) := [(0, none), (1, none), (0, none), (1, none),
      (0, none), (0, none), (0, none), (0, some .null), (0, none), (0, none),
      (1, none), (1, none), (1, none), (0, none), (1, none), (0, none), (1, none)]
    ∃ u, (Callers.start cache [key, key]).moves? moves = some u ∧
      Reachable cache [key, key] u ∧ u.allFinished ∧ u.gates = [(key, 0)] ∧
      LastCrossed cache [key, key] key u := by
  intro key cache moves
  have hmoves : ((Callers.start cache [key, key]).moves? moves).map
      (fun u => (u.allFinished, u.gates)) = some (true, [(key, 0)]) := by decide +kernel
  obtain ⟨u, hu, hend⟩ := Option.map_eq_some_iff.mp hmoves
  obtain ⟨hfinished, hgates⟩ := Prod.mk.inj hend
  have hreachable := Reachable.start.moves hu
  refine ⟨u, hu, hreachable, hfinished, hgates, ?_⟩
  exact ((gates_left_iff hreachable hfinished).1 key).mp (by rw [hgates]; rfl)

end Callers
end Cache
end JsonReference
