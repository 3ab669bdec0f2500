import JsonReference.Proofs.Cache.Ideal
import Mathlib.Data.Set.Card

namespace JsonReference.Cache

variable {c : Cache} {key k : Text} {document : Json}

def HeldTwice (c : Cache) (key : Text) : Prop :=
  (c.pinned.find? key).isSome ∧ (c.entries.find? key).isSome

/-- An insertion under a pinned key, where there is room for it. -/
def Operation.Doubles {ε : Type} (op : Operation ε) (c : Cache) : Prop :=
  match op with
  | .insert key _ => c.capacity ≠ 0 ∧ (c.pinned.find? key).isSome
  | _ => False

theorem isSome_find?_of_insert (h : ((c.insert key document).entries.find? k).isSome) :
    k = key ∨ (c.entries.find? k).isSome := by
  obtain ⟨entry, hentry⟩ := Option.isSome_iff_exists.mp h
  rcases mem_insert (Table.mem_of_find? hentry) with ⟨rfl, -⟩ | hmem
  · exact .inl rfl
  · exact .inr (Table.isSome_find?_iff.mpr (List.mem_map_of_mem hmem))

theorem isSome_find?_touch (c : Cache) (key k : Text) :
    ((c.touch key).2.entries.find? k).isSome = (c.entries.find? k).isSome := by
  cases he : c.entries.find? key with
  | none => rw [touch_of_missing he]
  | some entry =>
      rw [(touch_of_held he).2.2, Table.find?_put]
      by_cases hk : k = key
      · rw [if_pos hk, hk, he]
        rfl
      · rw [if_neg hk]

theorem isSome_find?_get (c : Cache) (key k : Text) :
    ((c.get key).2.entries.find? k).isSome = (c.entries.find? k).isSome := by
  rw [get]
  split
  · rfl
  · exact isSome_find?_touch c key k

namespace HeldTwice

theorem of_insert (h : (c.insert key document).HeldTwice k) :
    c.HeldTwice k ∨ (c.capacity ≠ 0 ∧ k = key ∧ (c.pinned.find? key).isSome) := by
  obtain ⟨hpinned, hentry⟩ := h
  rw [insert_pinned] at hpinned
  by_cases hcapacity : c.capacity = 0
  · rw [insert, if_pos hcapacity] at hentry
    exact .inl ⟨hpinned, hentry⟩
  · rcases isSome_find?_of_insert hentry with rfl | hentry
    · exact .inr ⟨hcapacity, rfl, hpinned⟩
    · exact .inl ⟨hpinned, hentry⟩

theorem of_pin (h : (c.pin key document).2.HeldTwice k) : c.HeldTwice k := by
  obtain ⟨hpinned, hentry⟩ := h
  rw [pin_pinned, Table.find?_put] at hpinned
  rw [pin, Table.find?_drop] at hentry
  by_cases hk : k = key
  · simp [hk] at hentry
  · rw [if_neg hk] at hpinned hentry
    exact ⟨hpinned, hentry⟩

theorem of_get (h : (c.get key).2.HeldTwice k) : c.HeldTwice k := by
  obtain ⟨hpinned, hentry⟩ := h
  rw [isSome_find?_get] at hentry
  rw [get_pinned] at hpinned
  exact ⟨hpinned, hentry⟩

theorem of_getOrFill {ε : Type} {fill : Unit → Except ε Json}
    (h : (c.getOrFill key fill).cache.HeldTwice k) : c.HeldTwice k := by
  have ha := asked c key fill
  generalize c.getOrFill key fill = filled at ha h
  cases ha with
  | pinned | failed => exact h
  | held hp he =>
      obtain ⟨hpinned, hentry⟩ := h
      rw [isSome_find?_touch] at hentry
      rw [(touch_of_held he).2.1] at hpinned
      exact ⟨hpinned, hentry⟩
  | filled clock hp =>
      rcases of_insert h with h | ⟨-, -, hpinned⟩
      · exact h
      · simp [hp] at hpinned

end HeldTwice

section History

variable {ε : Type} {op : Operation ε}

theorem HeldTwice.of_perform (h : (op.perform c).2.HeldTwice k) : c.HeldTwice k ∨ op.Doubles c := by
  cases op with
  | insert key document =>
      rcases of_insert h with h | ⟨hcapacity, -, hpinned⟩
      · exact .inl h
      · exact .inr ⟨hcapacity, hpinned⟩
  | pin key document => exact .inl (of_pin h)
  | get key => exact .inl (of_get h)
  | contains key => exact .inl h
  | getOrFill key filling => exact .inl (of_getOrFill h)
  | clear => simp [Operation.perform, clear, HeldTwice, Table.find?] at h

theorem Operation.Doubles.heldTwice (hop : op.Doubles c) (h : c.Sound) :
    ∃ key, (op.perform c).2.HeldTwice key := by
  cases op with
  | insert key document =>
      -- What has just come in is never what is dropped.
      refine ⟨key, ?_, h.isSome_find?_insert hop.1 key document⟩
      rw [perform, insert_pinned]
      exact hop.2
  | _ => exact hop.elim

theorem Sound.encard_keys (h : c.Sound) :
    {key | c.contains key}.encard + {key | c.HeldTwice key}.encard = c.size := by
  have hunion : {key | c.contains key} =
      {key | key ∈ c.entries.map (·.1)} ∪ {key | key ∈ c.pinned.map (·.1)} := by
    ext key
    simp [contains, ← Table.isSome_find?_iff, or_comm]
  have hinter : {key | c.HeldTwice key} =
      {key | key ∈ c.entries.map (·.1)} ∩ {key | key ∈ c.pinned.map (·.1)} := by
    ext key
    simp [HeldTwice, ← Table.isSome_find?_iff, and_comm]
  have hcard (keys : List Text) (hkeys : keys.Nodup) : {key | key ∈ keys}.encard = keys.length := by
    rw [← List.coe_toFinset, Set.encard_coe_eq_coe_finsetCard, List.toFinset_card_of_nodup hkeys]
  rw [hunion, hinter, Set.encard_union_add_encard_inter, hcard _ h.inverse.keys_nodup,
    hcard _ h.pinned_nodup, size, List.length_map, List.length_map]
  rfl

/-- No key is held twice in a history if and only if nothing is inserted in it under a key that is
pinned, and the size is the number of the keys held, those that are held twice counted twice. -/
theorem heldTwice_iff_doubles (capacity : Nat) (ops : List (Operation ε)) :
    ((∀ front, front <+: ops → ∀ key, ¬ (after capacity front).HeldTwice key) ↔
      ∀ front op, front ++ [op] <+: ops → ¬ op.Doubles (after capacity front)) ∧
    {key | (after capacity ops).contains key}.encard +
      {key | (after capacity ops).HeldTwice key}.encard = (after capacity ops).size := by
  refine ⟨⟨?_, ?_⟩, (sound_after capacity ops).encard_keys⟩
  · intro h front op hprefix hdoubles
    obtain ⟨key, hkey⟩ := hdoubles.heldTwice (sound_after capacity front)
    rw [← after_append_singleton] at hkey
    exact h _ hprefix key hkey
  · intro h front
    induction front using List.reverseRecOn with
    | nil => simp [after, Operation.run, empty, HeldTwice, Table.find?]
    | append_singleton front op ih =>
        intro hprefix key hkey
        rw [after_append_singleton] at hkey
        rcases hkey.of_perform with hkey | hdoubles
        · exact ih ((List.prefix_append _ _).trans hprefix) key hkey
        · exact h front op hprefix hdoubles

example : (after 2 ([.pin ['a'] .null, .insert ['a'] .null] : List (Operation Unit))).size = 2 :=
  rfl

end History

end JsonReference.Cache
