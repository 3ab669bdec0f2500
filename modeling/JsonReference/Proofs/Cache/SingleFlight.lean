import JsonReference.Proofs.Cache.Alone
import JsonReference.Proofs.Cache.Gates
import JsonReference.Proofs.Cache.Ideal

namespace JsonReference.Cache

def Stage.lacks : Stage → Bool
  | .ready _ | .filling _ => true
  | _ => false

theorem Stage.exists_locked_of_lacks {stage : Stage} (h : stage.lacks) :
    ∃ g, stage.locked? = some g := by
  cases stage <;> simp_all [lacks, locked?]

theorem missing_of_get {c : Cache} {key : Text} (h : (c.get key).1 = none) :
    c.entries.find? key = none := by
  rw [get] at h
  split at h
  · cases h
  · cases he : c.entries.find? key with
    | none => rfl
    | some entry => simp [(touch_of_held he).1] at h

namespace Callers

variable {s t u : Callers} {i j : Nat} {key k : Text} {filled : Option Json} {stage : Stage}
  {document : Json} {g : Gate}

theorem mem_filling {call : Call} :
    call ∈ s.filling key ↔ call ∈ s.calls ∧ ∃ g, call = ⟨key, .filling g⟩ := by
  obtain ⟨k, stage⟩ := call
  rw [filling, List.mem_filter]
  cases stage <;> simp [and_comm]

theorem Gated.filling_length_le_one (h : s.Gated) (key : Text) : (s.filling key).length ≤ 1 := by
  rw [filling, ← List.countP_eq_length_filter]
  refine countP_le_one fun i j a b ha hb hpa hpb => ?_
  have hmem : a ∈ s.filling key := List.mem_filter.mpr ⟨List.mem_of_getElem? ha, hpa⟩
  have hmem' : b ∈ s.filling key := List.mem_filter.mpr ⟨List.mem_of_getElem? hb, hpb⟩
  obtain ⟨-, g, rfl⟩ := mem_filling.mp hmem
  obtain ⟨-, g', rfl⟩ := mem_filling.mp hmem'
  exact h.eq_of_locked ha hb rfl rfl

section Turn

variable {stage' : Stage} {cache : Cache} {gates : Table Text Gate}

theorem Turn.cache_cases (h : Turn s key stage stage' cache gates) :
    cache = s.cache ∨ cache = (s.cache.get key).2 ∨
      ∃ document, cache = s.cache.insert key document := by
  cases h with
  | found hget | missed hget | foundInside _ hget | missedInside _ hget =>
      exact .inr (.inl (by rw [hget]))
  | stored _ document => exact .inr (.inr ⟨document, rfl⟩)
  | _ => exact .inl rfl

theorem Turn.cache_of_storing (h : Turn s key (.storing g document) stage' cache gates) :
    cache = s.cache.insert key document := by
  cases h
  rfl

theorem Turn.lacks_cases (h : Turn s key stage stage' cache gates) (hlacks : stage'.lacks) :
    stage.lacks ∨ (∃ g, stage = .entered g) ∧ s.cache.entries.find? key = none := by
  cases h with
  | started => exact .inl rfl
  | missedInside g hget => exact .inr ⟨⟨g, rfl⟩, missing_of_get (congrArg Prod.fst hget)⟩
  | _ => cases hlacks

end Turn

structure Running (capacity : Nat) (s : Callers) : Prop where
  gated : s.Gated
  sound : s.cache.Sound
  capacity_eq : s.cache.capacity = capacity

namespace Running

variable {capacity : Nat}

theorem move (h : s.Running capacity) (hmove : s.move? i filled = some t) : t.Running capacity := by
  have hgated := h.gated.move hmove
  obtain ⟨key, stage, stage', -, hturn, -⟩ := turn_of_move hmove
  rcases hturn.cache_cases with hcache | hcache | ⟨document, hcache⟩
  · exact ⟨hgated, hcache ▸ h.sound, hcache ▸ h.capacity_eq⟩
  · exact ⟨hgated, hcache ▸ h.sound.get key, hcache ▸ get_capacity.trans h.capacity_eq⟩
  · exact ⟨hgated, hcache ▸ h.sound.insert key document,
      hcache ▸ insert_capacity.trans h.capacity_eq⟩

theorem clear (h : s.Running capacity) :
    ({ s with cache := s.cache.clear } : Callers).Running capacity :=
  ⟨⟨h.gated.find?_eq, h.gated.alone⟩, h.sound.clear, h.capacity_eq⟩

theorem of_reachable {cache : Cache} {keys : List Text} (hcache : cache.Sound)
    (h : Reachable cache keys s) : s.Running cache.capacity := by
  induction h with
  | start => exact ⟨.start cache keys, hcache, rfl⟩
  | move i filled _ hmove ih => exact ih.move hmove
  | clear _ ih => exact ih.clear

end Running

/-- The states that come after `s` for as long as no entry of `key` has been dropped. -/
inductive Undropped (key : Text) (s : Callers) : Callers → Prop
  | start : Undropped key s s
  | move {t u : Callers} (i : Nat) (filled : Option Json) : Undropped key s t →
      t.move? i filled = some u →
      ((t.cache.entries.find? key).isSome → (u.cache.entries.find? key).isSome) →
      Undropped key s u
  | clear {t : Callers} : Undropped key s t → t.cache.entries.find? key = none →
      Undropped key s { t with cache := t.cache.clear }

/-- No call for the key is about to fill it or is filling it, and none will be, as there is an entry
for it or one on its way. -/
structure Settled (key : Text) (s : Callers) : Prop where
  lacks_eq {i : Nat} {stage : Stage} : s.calls[i]? = some ⟨key, stage⟩ → stage.lacks = false
  provided : (s.cache.entries.find? key).isSome ∨
    ∃ (i : Nat) (g : Gate) (document : Json), s.calls[i]? = some ⟨key, .storing g document⟩

namespace Settled

variable {capacity : Nat}

theorem filling_eq_nil (h : s.Settled key) : s.filling key = [] := by
  rw [List.eq_nil_iff_forall_not_mem]
  intro call hcall
  obtain ⟨hmem, g, rfl⟩ := mem_filling.mp hcall
  obtain ⟨i, hi⟩ := List.getElem?_of_mem hmem
  cases h.lacks_eq hi

theorem of_filled (h : s.Gated) (hcall : s.calls[i]? = some ⟨key, .filling g⟩)
    (hmove : s.move? i (some document) = some t) : t.Settled key := by
  have ht : t.calls = s.calls.set i ⟨key, .storing g document⟩ := by
    simp only [move?, hcall, Option.bind_eq_bind, Option.bind_some] at hmove
    cases hmove
    rfl
  have hi : i < s.calls.length := (List.getElem?_eq_some_iff.mp hcall).1
  refine ⟨?_, .inr ⟨i, g, document, by rw [ht, List.getElem?_set_self hi]⟩⟩
  intro j stage hj
  rw [ht] at hj
  rcases getElem?_set_cases hj with ⟨-, he⟩ | ⟨hij, hj⟩
  · cases he
    rfl
  · cases hlacks : stage.lacks with
    | false => rfl
    | true =>
        obtain ⟨g', hg'⟩ := Stage.exists_locked_of_lacks hlacks
        exact absurd (h.eq_of_locked hj hcall hg' rfl) hij

theorem move (h : s.Settled key) (hs : s.Running capacity) (hcapacity : capacity ≠ 0)
    (hmove : s.move? i filled = some t)
    (hkeep : (s.cache.entries.find? key).isSome → (t.cache.entries.find? key).isSome) :
    t.Settled key := by
  obtain ⟨k, stage, stage', hcall, hturn, hcalls⟩ := turn_of_move hmove
  have hi : i < s.calls.length := (List.getElem?_eq_some_iff.mp hcall).1
  constructor
  · intro j stage'' hj
    rw [hcalls] at hj
    rcases getElem?_set_cases hj with ⟨-, he⟩ | ⟨-, hj⟩
    · cases he
      rw [← Bool.not_eq_true]
      intro hlacks
      rcases hturn.lacks_cases hlacks with hold | ⟨⟨g, rfl⟩, hmissing⟩
      · simp [h.lacks_eq hcall] at hold
      · -- A call with a document on its way would be past the same gate.
        rcases h.provided with hentry | ⟨j, g', document, hj⟩
        · simp [hmissing] at hentry
        · rw [← hs.gated.eq_of_locked hcall hj rfl rfl, hcall] at hj
          cases hj
    · exact h.lacks_eq hj
  · rcases h.provided with hentry | ⟨j, g, document, hj⟩
    · exact .inl (hkeep hentry)
    · by_cases hij : j = i
      · rw [hij, hcall] at hj
        cases hj
        rw [hturn.cache_of_storing]
        exact .inl (hs.sound.isSome_find?_insert (hs.capacity_eq ▸ hcapacity) key document)
      · exact .inr ⟨j, g, document, by rw [hcalls, List.getElem?_set_ne (Ne.symm hij), hj]⟩

theorem clear (h : s.Settled key) (hmissing : s.cache.entries.find? key = none) :
    ({ s with cache := s.cache.clear } : Callers).Settled key :=
  ⟨h.lacks_eq, .inr (h.provided.resolve_left (by simp [hmissing]))⟩

theorem undropped (h : s.Settled key) (hs : s.Running capacity) (hcapacity : capacity ≠ 0)
    (hu : s.Undropped key u) : u.Settled key ∧ u.Running capacity := by
  induction hu with
  | start => exact ⟨h, hs⟩
  | move i filled _ hmove hkeep ih =>
      exact ⟨ih.1.move ih.2 hcapacity hmove hkeep, ih.2.move hmove⟩
  | clear _ hmissing ih => exact ⟨ih.1.clear hmissing, ih.2.clear⟩

end Settled

/-- However the moves of the calls come, no two of them fill the same key at the same time. Once a
call has filled a key of a cache with room for it, no call fills it for as long as its entry is not
dropped, be it by other entries or all at once. -/
theorem single_flight {ε : Type} (capacity : Nat) (ops : List (Operation ε)) (keys : List Text)
    (h : Reachable (after capacity ops) keys s) (key : Text) :
    (s.filling key).length ≤ 1 ∧
    ∀ i g document t u, capacity ≠ 0 → s.calls[i]? = some ⟨key, .filling g⟩ →
      s.move? i (some document) = some t → t.Undropped key u → u.filling key = [] := by
  have hs := Running.of_reachable (sound_after capacity ops) h
  rw [capacity_after] at hs
  refine ⟨hs.gated.filling_length_le_one key, ?_⟩
  intro i g document t u hcapacity hcall hmove hu
  have hsettled := Settled.of_filled hs.gated hcall hmove
  exact (hsettled.undropped (hs.move hmove) hcapacity hu).1.filling_eq_nil

theorem single_flight_pair :
    let key := "a".toList
    let state (cache : Cache) (first second : Stage) : Callers :=
      ⟨cache, [(key, 0)], 1, [⟨key, first⟩, ⟨key, second⟩]⟩
    let missed : Cache := { Cache.empty 1 with clock := 3 }
    let filled := missed.insert key .null
    Reachable (after 1 ([] : List (Operation Unit))) [key, key]
      (state missed (.filling 0) (.waiting 0)) ∧
    (state missed (.filling 0) (.waiting 0)).move? 0 (some .null) =
      some (state missed (.storing 0 .null) (.waiting 0)) ∧
    (state missed (.storing 0 .null) (.waiting 0)).Undropped key
      (state filled (.outside 0 (some .null)) (.entered 0)) ∧
    (state missed (.filling 0) (.waiting 0)).filling key = [⟨key, .filling 0⟩] ∧
    (state filled (.outside 0 (some .null)) (.entered 0)).filling key = [] := by
  intro key state missed filled
  have hmoves : (Callers.start (after 1 ([] : List (Operation Unit))) [key, key]).moves?
      [(0, none), (1, none), (0, none), (1, none), (0, none), (0, none), (0, none)] =
      some (state missed (.filling 0) (.waiting 0)) := rfl
  have hreachable := Reachable.start.moves hmoves
  have hundropped : (state missed (.storing 0 .null) (.waiting 0)).Undropped key
      (state filled (.outside 0 (some .null)) (.entered 0)) := by
    refine .move (t := state filled (.outside 0 (some .null)) (.waiting 0)) 1 none ?_ rfl id
    refine .move (t := state filled (.leaving 0 (some .null)) (.waiting 0)) 0 none ?_ rfl id
    exact .move 0 none .start rfl (by decide +kernel)
  refine ⟨hreachable, rfl, hundropped, rfl, ?_⟩
  exact (single_flight 1 [] [key, key] hreachable key).2 0 0 .null _ _ (by decide) rfl rfl
    hundropped

end Callers

end JsonReference.Cache
