import JsonReference.Proofs.Cache.Entries
import Mathlib.Data.List.Nodup

namespace JsonReference.Cache

variable {c : Cache} {key : Text} {document : Json} {entry : Entry} {tick : Nat}
  {entries : Table Text Entry} {order : List (Nat × Text)}

/-- The entries and the ticks of their last use are inverse to each other, and the ticks ascend. -/
structure Inverse (entries : Table Text Entry) (order : List (Nat × Text)) : Prop where
  keys_nodup : (entries.map (·.1)).Nodup
  ticks_ascend : order.Pairwise (·.1 < ·.1)
  mem_order_iff (tick : Nat) (key : Text) :
    (tick, key) ∈ order ↔ (entries.find? key).map (·.tick) = some tick

namespace Inverse

theorem nil : Inverse [] [] :=
  ⟨List.nodup_nil, .nil, fun _ _ => by simp [Table.find?]⟩

theorem mem_keys_iff (h : Inverse entries order) :
    key ∈ order.map (·.2) ↔ (entries.find? key).isSome := by
  rw [List.mem_map]
  constructor
  · rintro ⟨⟨tick, key⟩, hmem, rfl⟩
    rw [← Option.isSome_map, (h.mem_order_iff tick key).mp hmem]
    rfl
  · intro hsome
    obtain ⟨entry, hentry⟩ := Option.isSome_iff_exists.mp hsome
    exact ⟨(entry.tick, key), (h.mem_order_iff _ _).mpr (by rw [hentry]; rfl), rfl⟩

theorem order_nodup (h : Inverse entries order) : (order.map (·.2)).Nodup := by
  rw [List.Nodup, List.pairwise_map]
  refine h.ticks_ascend.imp_of_mem ?_
  rintro ⟨tick, key⟩ ⟨tick', key'⟩ hmem hmem' hlt rfl
  have htick := ((h.mem_order_iff _ _).mp hmem).symm.trans ((h.mem_order_iff _ _).mp hmem')
  exact Nat.ne_of_lt hlt (Option.some.inj htick)

theorem length_eq (h : Inverse entries order) : order.length = entries.length := by
  have hperm : (order.map (·.2)).Perm (entries.map (·.1)) :=
    (List.perm_ext_iff_of_nodup h.order_nodup h.keys_nodup).mpr fun _ =>
      h.mem_keys_iff.trans Table.isSome_find?_iff
  simpa using hperm.length_eq

theorem filter_tick (h : Inverse entries order) (he : entries.find? key = some entry) :
    order.filter (·.1 ≠ entry.tick) = order.filter (·.2 ≠ key) := by
  have hmem : (entry.tick, key) ∈ order := (h.mem_order_iff _ _).mpr (by rw [he]; rfl)
  refine List.filter_congr fun row hrow => ?_
  -- No two rows have the same tick, and no two the same key.
  have hiff : row.1 = entry.tick ↔ row.2 = key := by
    constructor
    · intro htick
      have hnodup : (order.map (·.1)).Nodup :=
        List.pairwise_map.mpr (h.ticks_ascend.imp Nat.ne_of_lt)
      exact congrArg Prod.snd (List.inj_on_of_nodup_map hnodup hrow hmem htick)
    · intro hkey
      exact congrArg Prod.fst (List.inj_on_of_nodup_map h.order_nodup hrow hmem hkey)
  simp only [ne_eq, hiff]

theorem filter_of_missing (h : Inverse entries order) (he : entries.find? key = none) :
    order.filter (·.2 ≠ key) = order := by
  rw [List.filter_eq_self]
  intro row hrow
  have hne : row.2 ≠ key := by
    rintro rfl
    have hsome := h.mem_keys_iff.mp (List.mem_map_of_mem hrow)
    simp [he] at hsome
  simpa using hne

theorem drop (h : Inverse entries order) (key : Text) :
    Inverse (Table.drop key entries) (order.filter (·.2 ≠ key)) := by
  refine ⟨Table.nodup_drop h.keys_nodup key, h.ticks_ascend.filter _, fun tick k => ?_⟩
  rw [List.mem_filter, h.mem_order_iff, Table.find?_drop]
  by_cases hk : k = key <;> simp [hk]

theorem renew (h : Inverse entries order) (hfresh : ∀ row ∈ order, row.1 < tick) (key : Text)
    (document : Json) :
    Inverse (Table.put key ⟨document, tick⟩ entries)
      (order.filter (·.2 ≠ key) ++ [(tick, key)]) := by
  refine ⟨Table.nodup_put h.keys_nodup key _, ?_, fun tick' k => ?_⟩
  · rw [List.pairwise_append]
    refine ⟨h.ticks_ascend.filter _, List.pairwise_singleton _ _, ?_⟩
    intro row hrow last hlast
    rw [List.mem_singleton.mp hlast]
    exact hfresh row (List.mem_filter.mp hrow).1
  · rw [List.mem_append, List.mem_filter, h.mem_order_iff, Table.find?_put]
    by_cases hk : k = key
    · simp [hk, eq_comm]
    · simp [hk]

theorem evict (h : Inverse entries order) (capacity : Nat) :
    (Cache.evict capacity entries order).2 = order.drop (order.length - capacity) ∧
    Inverse (Cache.evict capacity entries order).1 (Cache.evict capacity entries order).2 := by
  induction order generalizing entries with
  | nil => exact ⟨by simp [Cache.evict], h⟩
  | cons first rest ih =>
      obtain ⟨tick, key⟩ := first
      have hlength := h.length_eq
      rw [List.length_cons] at hlength ⊢
      rw [Cache.evict]
      split
      · next hlt =>
        have hrest : Inverse (Table.drop key entries) rest := by
          have hdrop := h.drop key
          have hkeys := h.order_nodup
          rw [List.map_cons, List.nodup_cons] at hkeys
          rwa [List.filter_cons_of_neg (by simp), List.filter_eq_self.mpr] at hdrop
          intro row hrow
          have hne : row.2 ≠ key := fun he => hkeys.1 (List.mem_map.mpr ⟨row, hrow, he⟩)
          simpa using hne
        obtain ⟨horder, hinverse⟩ := ih hrest
        refine ⟨?_, hinverse⟩
        rw [horder, Nat.succ_sub (by omega), List.drop_succ_cons]
      · next hle =>
        exact ⟨by rw [Nat.sub_eq_zero_of_le (by omega), List.drop_zero], h⟩

theorem find?_evict (h : Inverse entries order) {capacity : Nat}
    (he : (Cache.evict capacity entries order).1.find? key = some entry) :
    entries.find? key = some entry :=
  Table.find?_of_mem h.keys_nodup (evict_fst_subset _ _ _ (Table.mem_of_find? he))

end Inverse

def reordered (c : Cache) (key : Text) : List (Nat × Text) :=
  c.order.filter (·.2 ≠ key) ++ [(c.clock + 1, key)]

/-- The entries and the order of their use agree, the clock has not gone back, and no key is pinned
twice. -/
structure Sound (c : Cache) : Prop where
  inverse : Inverse c.entries c.order
  ticks_le : ∀ row ∈ c.order, row.1 ≤ c.clock
  pinned_nodup : (c.pinned.map (·.1)).Nodup

namespace Sound

theorem empty (capacity : Nat) : (Cache.empty capacity).Sound :=
  ⟨.nil, by simp [Cache.empty], List.nodup_nil⟩

theorem renew (h : c.Sound) (key : Text) (document : Json) :
    Inverse (c.entries.put key ⟨document, c.clock + 1⟩) (c.reordered key) :=
  h.inverse.renew (fun row hrow => Nat.lt_succ_of_le (h.ticks_le row hrow)) key document

theorem reordered_le (h : c.Sound) (key : Text) : ∀ row ∈ c.reordered key, row.1 ≤ c.clock + 1 := by
  intro row hrow
  rcases List.mem_append.mp hrow with hrow | hrow
  · exact Nat.le_succ_of_le (h.ticks_le row (List.mem_filter.mp hrow).1)
  · simp [List.mem_singleton.mp hrow]

theorem touch_order (h : c.Sound) (he : c.entries.find? key = some entry) :
    (c.touch key).2.order = c.reordered key := by
  rw [reordered, ← h.inverse.filter_tick he]
  simp only [Cache.touch, he]

theorem touch (h : c.Sound) (key : Text) : (c.touch key).2.Sound := by
  cases he : c.entries.find? key with
  | none =>
      rw [touch_of_missing he]
      exact ⟨h.inverse, fun row hrow => Nat.le_succ_of_le (h.ticks_le row hrow), h.pinned_nodup⟩
  | some entry =>
      obtain ⟨-, hpinned, hentries⟩ := touch_of_held he
      have hclock : (c.touch key).2.clock = c.clock + 1 := by simp only [Cache.touch, he]
      refine ⟨?_, ?_, hpinned ▸ h.pinned_nodup⟩
      · rw [hentries, h.touch_order he]
        exact h.renew key entry.document
      · rw [h.touch_order he, hclock]
        exact h.reordered_le key

theorem get (h : c.Sound) (key : Text) : (c.get key).2.Sound := by
  rw [Cache.get]
  split
  · exact h
  · exact h.touch key

theorem insert_eq (h : c.Sound) (hcapacity : c.capacity ≠ 0) (key : Text) (document : Json) :
    c.insert key document =
      let left := evict c.capacity (c.entries.put key ⟨document, c.clock + 1⟩) (c.reordered key)
      { c with entries := left.1, order := left.2, clock := c.clock + 1 } := by
  rw [Cache.insert, if_neg hcapacity, reordered]
  cases he : c.entries.find? key with
  | none => simp only [h.inverse.filter_of_missing he]
  | some entry => simp only [h.inverse.filter_tick he]

theorem insert_order (h : c.Sound) (hcapacity : c.capacity ≠ 0) (key : Text) (document : Json) :
    (c.insert key document).order =
      (c.reordered key).drop ((c.reordered key).length - c.capacity) := by
  rw [h.insert_eq hcapacity]
  exact ((h.renew key document).evict c.capacity).1

theorem insert (h : c.Sound) (key : Text) (document : Json) : (c.insert key document).Sound := by
  by_cases hcapacity : c.capacity = 0
  · rwa [Cache.insert, if_pos hcapacity]
  · have horder := h.insert_order hcapacity key document
    rw [h.insert_eq hcapacity] at horder ⊢
    refine ⟨((h.renew key document).evict c.capacity).2, ?_, h.pinned_nodup⟩
    rw [horder]
    exact fun row hrow => h.reordered_le key row (List.mem_of_mem_drop hrow)

theorem isSome_find?_insert (h : c.Sound) (hcapacity : c.capacity ≠ 0) (key : Text)
    (document : Json) : ((c.insert key document).entries.find? key).isSome := by
  have hlength : (c.reordered key).length = (c.order.filter (·.2 ≠ key)).length + 1 := by
    simp [reordered]
  rw [← (h.insert key document).inverse.mem_keys_iff, h.insert_order hcapacity, hlength, reordered,
    List.drop_append_of_le_length (by omega), List.map_append]
  exact List.mem_append_right _ List.mem_cons_self

theorem find?_insert (h : c.Sound) (hcapacity : c.capacity ≠ 0) (key : Text) (document : Json) :
    (c.insert key document).entries.find? key = some ⟨document, c.clock + 1⟩ := by
  obtain ⟨entry, hentry⟩ :=
    Option.isSome_iff_exists.mp (h.isSome_find?_insert hcapacity key document)
  have hput := hentry
  rw [h.insert_eq hcapacity] at hput
  have hkept := (h.renew key document).find?_evict hput
  rw [Table.find?_put, if_pos rfl] at hkept
  rw [hentry, hkept]

theorem pin_order (h : c.Sound) (key : Text) (document : Json) :
    (c.pin key document).2.order = c.order.filter (·.2 ≠ key) := by
  cases he : c.entries.find? key with
  | none => simp only [Cache.pin, he, h.inverse.filter_of_missing he]
  | some entry => simp only [Cache.pin, he, h.inverse.filter_tick he]

theorem pin (h : c.Sound) (key : Text) (document : Json) : (c.pin key document).2.Sound := by
  refine ⟨?_, ?_, Table.nodup_put h.pinned_nodup key document⟩
  · rw [h.pin_order key document]
    exact h.inverse.drop key
  · rw [h.pin_order key document]
    exact fun row hrow => h.ticks_le row (List.mem_filter.mp hrow).1

theorem clear (h : c.Sound) : c.clear.Sound :=
  ⟨.nil, by simp [Cache.clear], h.pinned_nodup⟩

variable {ε : Type} {fill : Unit → Except ε Json}

theorem getOrFill (h : c.Sound) (key : Text) (fill : Unit → Except ε Json) :
    (c.getOrFill key fill).cache.Sound := by
  have hfirst := h.get key
  rw [Cache.getOrFill]
  split
  · next hget => rwa [hget] at hfirst
  · next hget =>
    rw [hget] at hfirst
    have hsecond := hfirst.get key
    split
    · next hagain => rwa [hagain] at hsecond
    · next hagain =>
      rw [hagain] at hsecond
      split
      · exact hsecond.insert key _
      · exact hsecond

theorem get_getOrFill (h : c.Sound) (hroom : c.capacity ≠ 0 ∨ (c.pinned.find? key).isSome)
    (hd : (c.getOrFill key fill).result = .ok document) :
    ((c.getOrFill key fill).cache.get key).1 = some document := by
  cases hp : c.pinned.find? key with
  | some pin =>
      have hget : c.get key = (some pin, c) := by simp only [Cache.get, hp]
      rw [getOrFill_of_some (congrArg Prod.fst hget)] at hd ⊢
      cases hd
      rw [hget, hget]
  | none =>
      cases he : c.entries.find? key with
      | some entry =>
          have hget : c.get key = c.touch key := by simp only [Cache.get, hp]
          obtain ⟨-, hpinned, hentries⟩ := touch_of_held he
          rw [getOrFill_of_some (get_of_held hp he)] at hd ⊢
          cases hd
          have hagain : (c.touch key).2.entries.find? key = some ⟨entry.document, c.clock + 1⟩ := by
            rw [hentries, Table.find?_put, if_pos rfl]
          rw [hget, get_of_held (c := (c.touch key).2) (hpinned ▸ hp) hagain]
      | none =>
          have hcapacity : c.capacity ≠ 0 := hroom.resolve_right (by simp [hp])
          have hfirst := get_of_missing hp he
          have hsecond : ((c.get key).2.get key).1 = none := by
            rw [hfirst]
            exact congrArg Prod.fst (get_of_missing (c := { c with clock := c.clock + 1 }) hp he)
          rw [getOrFill_of_none (congrArg Prod.fst hfirst) hsecond] at hd ⊢
          cases hf : fill () with
          | error e => simp [hf] at hd
          | ok filled =>
              simp only [hf, Except.ok.injEq] at hd ⊢
              subst hd
              have hinsert := ((h.get key).get key).find?_insert (by simpa using hcapacity) key filled
              exact get_of_held (by simpa using hp) hinsert

end Sound

end JsonReference.Cache
