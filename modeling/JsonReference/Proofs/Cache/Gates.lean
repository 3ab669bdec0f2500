import JsonReference.Cache.Callers
import JsonReference.Proofs.Table
import Mathlib.Data.List.Basic

namespace JsonReference.Cache

/-- The gate that a call came to and has not tried to take away. -/
def Stage.bound? : Stage → Option Gate
  | .waiting g | .entered g | .ready g | .filling g | .storing g _ | .leaving g _
  | .outside g _ => some g
  | _ => none

theorem Stage.bound?_of_locked? {stage : Stage} {g : Gate} (h : stage.locked? = some g) :
    stage.bound? = some g := by
  cases stage <;> simp_all [locked?, bound?]

theorem Stage.gate?_of_bound? {stage : Stage} {g : Gate} (h : stage.bound? = some g) :
    stage.gate? = some g := by
  cases stage <;> simp_all [gate?, bound?]

namespace Callers

variable {s t : Callers} {i j : Nat} {key k : Text} {stage stage' stage'' : Stage} {cache : Cache}
  {gates : Table Text Gate} {filled : Option Json} {call call' : Call} {g : Gate}

/-- A move of a call for `key`: the stages that it comes from and goes on to, and the cache and the
gates after it. -/
inductive Turn (s : Callers) (key : Text) : Stage → Stage → Cache → Table Text Gate → Prop
  | found {document : Json} {cache : Cache} : s.cache.get key = (some document, cache) →
      Turn s key .looking (.finished (some document)) cache s.gates
  | missed {cache : Cache} : s.cache.get key = (none, cache) →
      Turn s key .looking .missed cache s.gates
  | joined {g : Gate} : s.gates.find? key = some g →
      Turn s key .missed (.waiting g) s.cache s.gates
  | opened : s.gates.find? key = none →
      Turn s key .missed (.waiting s.made) s.cache (s.gates.put key s.made)
  | entered {g : Gate} : s.isLocked g = false →
      Turn s key (.waiting g) (.entered g) s.cache s.gates
  | foundInside (g : Gate) {document : Json} {cache : Cache} :
      s.cache.get key = (some document, cache) →
      Turn s key (.entered g) (.leaving g (some document)) cache s.gates
  | missedInside (g : Gate) {cache : Cache} : s.cache.get key = (none, cache) →
      Turn s key (.entered g) (.ready g) cache s.gates
  | started (g : Gate) : Turn s key (.ready g) (.filling g) s.cache s.gates
  | filled (g : Gate) (document : Json) :
      Turn s key (.filling g) (.storing g document) s.cache s.gates
  | failed (g : Gate) : Turn s key (.filling g) (.leaving g none) s.cache s.gates
  | stored (g : Gate) (document : Json) :
      Turn s key (.storing g document) (.leaving g (some document)) (s.cache.insert key document)
        s.gates
  | left (g : Gate) (result : Option Json) :
      Turn s key (.leaving g result) (.outside g result) s.cache s.gates
  | kept (g : Gate) (result : Option Json) :
      (∀ g', s.gates.find? key = some g' → 2 < s.holds g') →
      Turn s key (.outside g result) (.parting g result) s.cache s.gates
  | removed (g : Gate) (result : Option Json) {g' : Gate} : s.gates.find? key = some g' →
      s.holds g' ≤ 2 →
      Turn s key (.outside g result) (.parting g result) s.cache (s.gates.drop key)
  | parted (g : Gate) (result : Option Json) :
      Turn s key (.parting g result) (.finished result) s.cache s.gates

theorem turn_of_move (h : s.move? i filled = some t) : ∃ key stage stage',
    s.calls[i]? = some ⟨key, stage⟩ ∧ Turn s key stage stage' t.cache t.gates ∧
    t.calls = s.calls.set i ⟨key, stage'⟩ := by
  obtain ⟨⟨key, stage⟩, hcall, hmove⟩ := Option.bind_eq_some_iff.mp h
  refine ⟨key, stage, ?_⟩
  cases stage with
  | looking =>
      simp only [look] at hmove
      split at hmove
      · next hget =>
        cases hmove
        exact ⟨_, hcall, .found hget, rfl⟩
      · next hget =>
        cases hmove
        exact ⟨_, hcall, .missed hget, rfl⟩
  | missed =>
      simp only [approach] at hmove
      split at hmove
      · next hgate =>
        cases hmove
        exact ⟨_, hcall, .joined hgate, rfl⟩
      · next hgate =>
        cases hmove
        exact ⟨_, hcall, .opened hgate, rfl⟩
  | waiting g =>
      simp only at hmove
      split at hmove
      · cases hmove
      · next hlocked =>
        cases hmove
        exact ⟨_, hcall, .entered (Bool.eq_false_iff.mpr hlocked), rfl⟩
  | entered g =>
      simp only [look] at hmove
      split at hmove
      · next hget =>
        cases hmove
        exact ⟨_, hcall, .foundInside g hget, rfl⟩
      · next hget =>
        cases hmove
        exact ⟨_, hcall, .missedInside g hget, rfl⟩
  | ready g =>
      cases hmove
      exact ⟨_, hcall, .started g, rfl⟩
  | filling g =>
      cases filled with
      | some document =>
          cases hmove
          exact ⟨_, hcall, .filled g document, rfl⟩
      | none =>
          cases hmove
          exact ⟨_, hcall, .failed g, rfl⟩
  | storing g document =>
      cases hmove
      exact ⟨_, hcall, .stored g document, rfl⟩
  | leaving g result =>
      cases hmove
      exact ⟨_, hcall, .left g result, rfl⟩
  | outside g result =>
      simp only [removeGate] at hmove
      cases hmove
      split
      · next hgate =>
        split
        · next hholds => exact ⟨_, hcall, .removed g result hgate hholds, rfl⟩
        · next hholds =>
          refine ⟨_, hcall, .kept g result fun g' hg' => ?_, rfl⟩
          rw [← Option.some.inj (hgate.symm.trans hg')]
          exact Nat.lt_of_not_le hholds
      · next hgate => exact ⟨_, hcall, .kept g result fun g' hg' => by simp [hgate] at hg', rfl⟩
  | parting g result =>
      cases hmove
      exact ⟨_, hcall, .parted g result, rfl⟩
  | finished result => cases hmove

theorem getElem?_set_cases {α : Type} {l : List α} {a b : α} (h : (l.set i a)[j]? = some b) :
    (j = i ∧ b = a) ∨ (j ≠ i ∧ l[j]? = some b) := by
  rw [List.getElem?_set] at h
  by_cases hij : i = j
  · rw [if_pos hij] at h
    split at h
    · exact .inl ⟨hij.symm, (Option.some.inj h).symm⟩
    · cases h
  · rw [if_neg hij] at h
    exact .inr ⟨Ne.symm hij, h⟩

theorem two_le_countP {α : Type} {l : List α} {p : α → Bool} {a b : α} (hij : i ≠ j)
    (ha : l[i]? = some a) (hb : l[j]? = some b) (hpa : p a) (hpb : p b) : 2 ≤ l.countP p := by
  induction l generalizing i j with
  | nil => simp at ha
  | cons first rest ih =>
      have hone {k : Nat} {c : α} (hc : rest[k]? = some c) (hpc : p c) : 1 ≤ rest.countP p :=
        List.countP_pos_iff.mpr ⟨c, List.mem_of_getElem? hc, hpc⟩
      rw [List.countP_cons]
      cases i with
      | zero =>
          cases j with
          | zero => exact absurd rfl hij
          | succ j =>
              obtain rfl : first = a := by simpa using ha
              have := hone hb hpb
              rw [if_pos hpa]
              omega
      | succ i =>
          cases j with
          | zero =>
              obtain rfl : first = b := by simpa using hb
              have := hone ha hpa
              rw [if_pos hpb]
              omega
          | succ j =>
              have := ih (fun he => hij (congrArg _ he)) ha hb
              omega

theorem countP_le_one {α : Type} {l : List α} {p : α → Bool}
    (h : ∀ (i j : Nat) (a b : α), l[i]? = some a → l[j]? = some b → p a → p b → i = j) :
    l.countP p ≤ 1 := by
  induction l with
  | nil => simp
  | cons first rest ih =>
      rw [List.countP_cons]
      by_cases hfirst : p first
      · have hrest : rest.countP p = 0 := by
          rw [List.countP_eq_zero]
          intro b hb hpb
          obtain ⟨j, hj⟩ := List.getElem?_of_mem hb
          have := h 0 (j + 1) first b rfl hj hfirst hpb
          omega
        simp [hrest, hfirst]
      · rw [if_neg hfirst]
        refine ih fun i j a b ha hb hpa hpb => ?_
        have := h (i + 1) (j + 1) a b ha hb hpa hpb
        omega

/-- Every call that has not tried to take its gate away came to the one in the table, and no two
calls are past the same gate. -/
structure Gated (s : Callers) : Prop where
  find?_eq {i : Nat} {key : Text} {stage : Stage} {g : Gate} :
    s.calls[i]? = some ⟨key, stage⟩ → stage.bound? = some g → s.gates.find? key = some g
  alone {i j : Nat} {call call' : Call} {g : Gate} :
    s.calls[i]? = some call → s.calls[j]? = some call' →
    call.stage.locked? = some g → call'.stage.locked? = some g → i = j

namespace Turn

theorem find?_own (h : Turn s key stage stage' cache gates)
    (hs : ∀ g, stage.bound? = some g → s.gates.find? key = some g) :
    ∀ g, stage'.bound? = some g → gates.find? key = some g := by
  intro g hg
  cases h with
  | found | missed | parted | kept | removed => cases hg
  | joined hgate =>
      cases hg
      exact hgate
  | opened =>
      cases hg
      rw [Table.find?_put, if_pos rfl]
  | entered | foundInside | missedInside | started | filled | failed | stored | left =>
      exact hs g hg

theorem find?_other (h : Turn s key stage stage' cache gates) (hgated : s.Gated)
    (hcall : s.calls[i]? = some ⟨key, stage⟩) (hij : i ≠ j)
    (hother : s.calls[j]? = some ⟨k, stage''⟩) (hg : stage''.bound? = some g) :
    gates.find? k = some g := by
  have hfind := hgated.find?_eq hother hg
  cases h with
  | opened hgate =>
      have hk : k ≠ key := by
        rintro rfl
        simp [hgate] at hfind
      rwa [Table.find?_put, if_neg hk]
  | removed g₀ result hgate hholds =>
      -- A gate with another call at it is not taken away: both calls and the table have hold of it.
      have hk : k ≠ key := by
        rintro rfl
        have hown := hgated.find?_eq hcall rfl
        have hsame : g₀ = g := Option.some.inj (hown.symm.trans hfind)
        have hcalls : 2 ≤ s.calls.countP (·.stage.gate? = some g) :=
          two_le_countP hij hcall hother (by simp [Stage.gate?, hsame])
            (by simpa using Stage.gate?_of_bound? hg)
        have htable : 1 ≤ s.gates.countP (·.2 = g) :=
          List.countP_pos_iff.mpr ⟨(k, g), Table.mem_of_find? hfind, by simp⟩
        obtain rfl := Option.some.inj (hgate.symm.trans hfind)
        rw [holds] at hholds
        omega
      rwa [Table.find?_drop, if_neg hk]
  | _ => exact hfind

theorem locked? (h : Turn s key stage stage' cache gates) (hg : stage'.locked? = some g) :
    stage.locked? = some g ∨ s.isLocked g = false := by
  cases h with
  | entered hfree =>
      cases hg
      exact .inr hfree
  | found | missed | joined | opened | left | kept | removed | parted => cases hg
  | foundInside | missedInside | started | filled | failed | stored => exact .inl hg

end Turn

namespace Gated

theorem start (cache : Cache) (keys : List Text) : (start cache keys).Gated := by
  have hlooking {i : Nat} {call : Call} (h : (Callers.start cache keys).calls[i]? = some call) :
      call.stage = .looking := by
    obtain ⟨key, -, rfl⟩ := List.mem_map.mp (List.mem_of_getElem? h)
    rfl
  constructor
  · intro i key stage g hcall hg
    obtain rfl : stage = .looking := hlooking hcall
    cases hg
  · intro i j call call' g hcall _ hg _
    rw [hlooking hcall] at hg
    cases hg

theorem move (h : s.Gated) (hmove : s.move? i filled = some t) : t.Gated := by
  obtain ⟨key, stage, stage', hcall, hturn, hcalls⟩ := turn_of_move hmove
  -- A call that was not moved and is past a gate has kept the one that moves out.
  have hout {j : Nat} {other : Call} {g : Gate} (hij : j ≠ i) (hother : s.calls[j]? = some other)
      (hg : other.stage.locked? = some g) : stage'.locked? ≠ some g := by
    intro hg'
    rcases hturn.locked? hg' with hold | hfree
    · exact hij (h.alone hother hcall hg hold)
    · rw [isLocked, List.any_eq_false] at hfree
      exact hfree other (List.mem_of_getElem? hother) (by simpa using hg)
  constructor
  · intro j k stage'' g hj hg
    rw [hcalls] at hj
    rcases getElem?_set_cases hj with ⟨-, he⟩ | ⟨hij, hj⟩
    · cases he
      exact hturn.find?_own (fun _ => h.find?_eq hcall) g hg
    · exact hturn.find?_other h hcall (Ne.symm hij) hj hg
  · intro a b call call' g ha hb hg hg'
    rw [hcalls] at ha hb
    rcases getElem?_set_cases ha with ⟨hai, hea⟩ | ⟨hai, ha⟩ <;>
      rcases getElem?_set_cases hb with ⟨hbi, heb⟩ | ⟨hbi, hb⟩
    · exact hai.trans hbi.symm
    · rw [hea] at hg
      exact absurd hg (hout hbi hb hg')
    · rw [heb] at hg'
      exact absurd hg' (hout hai ha hg)
    · exact h.alone ha hb hg hg'

theorem of_reachable {cache : Cache} {keys : List Text} (h : Reachable cache keys s) : s.Gated := by
  induction h with
  | start => exact start cache keys
  | move i filled _ hmove ih => exact ih.move hmove
  | clear _ ih => exact ⟨ih.find?_eq, ih.alone⟩

theorem eq_of_locked {g g' : Gate} (h : s.Gated) (hi : s.calls[i]? = some ⟨key, stage⟩)
    (hj : s.calls[j]? = some ⟨key, stage'⟩) (hg : stage.locked? = some g)
    (hg' : stage'.locked? = some g') : i = j := by
  have hsame := (h.find?_eq hi (Stage.bound?_of_locked? hg)).symm.trans
    (h.find?_eq hj (Stage.bound?_of_locked? hg'))
  exact h.alone hi hj hg (Option.some.inj hsame ▸ hg')

end Gated

end Callers

end JsonReference.Cache
