import JsonReference.Proofs.Cache.Recency
import Mathlib.Data.List.Induction
import Mathlib.Logic.Function.Basic

namespace JsonReference.Cache

inductive Operation (ε : Type) where
  | insert (key : Text) (document : Json)
  | pin (key : Text) (document : Json)
  | get (key : Text)
  | contains (key : Text)
  | getOrFill (key : Text) (filling : Except ε Json)
  | clear

inductive Answer (ε : Type) where
  | done
  | document (found : Option Json)
  | held (held : Bool)
  | filled (result : Except ε Json) (ran : Bool)

namespace Operation

variable {ε σ : Type}

def perform : Operation ε → Cache → Answer ε × Cache
  | .insert key document, c => (.done, c.insert key document)
  | .pin key document, c => (.document (c.pin key document).1, (c.pin key document).2)
  | .get key, c => (.document (c.get key).1, (c.get key).2)
  | .contains key, c => (.held (c.contains key), c)
  | .getOrFill key filling, c =>
      let filled := c.getOrFill key fun _ => filling
      (.filled filled.result filled.ran, filled.cache)
  | .clear, c => (.done, c.clear)

def run (perform : Operation ε → σ → Answer ε × σ) :
    List (Operation ε) → σ → List (Answer ε) × σ
  | [], s => ([], s)
  | op :: rest, s =>
      ((perform op s).1 :: (run perform rest (perform op s).2).1,
        (run perform rest (perform op s).2).2)

end Operation

def after {ε : Type} (capacity : Nat) (ops : List (Operation ε)) : Cache :=
  (Operation.run Operation.perform ops (.empty capacity)).2

theorem after_append_singleton {ε : Type} (capacity : Nat) (front : List (Operation ε))
    (op : Operation ε) :
    after capacity (front ++ [op]) = (op.perform (after capacity front)).2 := by
  rw [after, after]
  generalize Cache.empty capacity = c
  induction front generalizing c with
  | nil => rfl
  | cons first rest ih => exact ih (first.perform c).2

theorem Operation.perform_capacity {ε : Type} (op : Operation ε) (c : Cache) :
    (op.perform c).2.capacity = c.capacity := by
  cases op with
  | insert => exact insert_capacity
  | get => exact get_capacity
  | getOrFill key => exact getOrFill_capacity c key _
  | pin | contains | clear => rfl

theorem capacity_after {ε : Type} (capacity : Nat) (ops : List (Operation ε)) :
    (after capacity ops).capacity = capacity := by
  induction ops using List.reverseRecOn with
  | nil => rfl
  | append_singleton front op ih => rw [after_append_singleton, op.perform_capacity, ih]

/-- The documents that are pinned, and the others with the one used last in front. -/
structure Ideal where
  capacity : Nat
  pins : Text → Option Json
  recent : List (Text × Json)

namespace Ideal

def empty (capacity : Nat) : Ideal := ⟨capacity, fun _ => none, []⟩

def find? (m : Ideal) (key : Text) : Option Json := (m.pins key).or (m.recent.lookup key)

def others (m : Ideal) (key : Text) : List (Text × Json) := m.recent.filter (·.1 ≠ key)

def use (m : Ideal) (key : Text) : Ideal :=
  match m.pins key, m.recent.lookup key with
  | none, some document => { m with recent := (key, document) :: m.others key }
  | _, _ => m

def insert (m : Ideal) (key : Text) (document : Json) : Ideal :=
  { m with recent := ((key, document) :: m.others key).take m.capacity }

def pin (m : Ideal) (key : Text) (document : Json) : Ideal :=
  { m with pins := Function.update m.pins key (some document), recent := m.others key }

def clear (m : Ideal) : Ideal := { m with recent := [] }

def perform {ε : Type} : Operation ε → Ideal → Answer ε × Ideal
  | .insert key document, m => (.done, m.insert key document)
  | .pin key document, m => (.document (m.find? key), m.pin key document)
  | .get key, m => (.document (m.find? key), m.use key)
  | .contains key, m => (.held (m.find? key).isSome, m)
  | .getOrFill key filling, m =>
      match m.find? key, filling with
      | some document, _ => (.filled (.ok document) false, m.use key)
      | none, .ok document => (.filled (.ok document) true, m.insert key document)
      | none, .error e => (.filled (.error e) true, m)
  | .clear, m => (.done, m.clear)

theorem use_of_missing {m : Ideal} {key : Text} (h : m.find? key = none) : m.use key = m := by
  obtain ⟨hpins, hlookup⟩ := Option.or_eq_none_iff.mp h
  simp only [use, hpins, hlookup]

end Ideal

/-- The cache keeps what the ideal one does, and its entries come in the order in which the ideal
one would drop them. -/
structure Refines (c : Cache) (m : Ideal) : Prop where
  sound : c.Sound
  capacity_eq : m.capacity = c.capacity
  pins_eq (key : Text) : m.pins key = c.pinned.find? key
  keys_eq : m.recent.map (·.1) = (c.order.map (·.2)).reverse
  document_eq : ∀ row ∈ m.recent, (c.entries.find? row.1).map (·.document) = some row.2
  length_le : m.recent.length ≤ m.capacity

namespace Refines

variable {ε : Type} {c : Cache} {m : Ideal} {key : Text} {entry : Entry}

theorem empty (capacity : Nat) : (Cache.empty capacity).Refines (.empty capacity) :=
  ⟨.empty capacity, rfl, fun _ => rfl, rfl, by simp [Ideal.empty], by simp [Ideal.empty]⟩

theorem lookup_eq (h : c.Refines m) (key : Text) :
    m.recent.lookup key = (c.entries.find? key).map (·.document) := by
  cases hlookup : m.recent.lookup key with
  | some document =>
      obtain ⟨front, back, hrecent, -⟩ := List.lookup_eq_some_iff.mp hlookup
      exact (h.document_eq (key, document) (by simp [hrecent])).symm
  | none =>
      have hnot : key ∉ m.recent.map (·.1) := by
        intro hmem
        obtain ⟨row, hrow, rfl⟩ := List.mem_map.mp hmem
        simpa using List.lookup_eq_none_iff.mp hlookup row hrow
      rw [h.keys_eq, List.mem_reverse, h.sound.inverse.mem_keys_iff] at hnot
      rw [Option.not_isSome_iff_eq_none.mp hnot, Option.map_none]

theorem find?_eq (h : c.Refines m) (key : Text) :
    m.find? key = (c.pinned.find? key).or ((c.entries.find? key).map (·.document)) := by
  rw [Ideal.find?, h.pins_eq, h.lookup_eq]

theorem others_keys (h : c.Refines m) (key : Text) :
    (m.others key).map (·.1) = ((c.order.filter (·.2 ≠ key)).map (·.2)).reverse := by
  have hfilter := congrArg (List.filter (· ≠ key)) h.keys_eq
  rwa [List.filter_map, List.filter_reverse, List.filter_map] at hfilter

theorem front_keys (h : c.Refines m) (key : Text) (document : Json) :
    ((key, document) :: m.others key).map (·.1) = ((c.reordered key).map (·.2)).reverse := by
  rw [List.map_cons, h.others_keys key, reordered, List.map_append, List.reverse_append]
  rfl

theorem front_document (h : c.Refines m) (key : Text) (document : Json) :
    ∀ row ∈ (key, document) :: m.others key,
      ((c.entries.put key ⟨document, c.clock + 1⟩).find? row.1).map (·.document) = some row.2 := by
  intro row hrow
  rw [Table.find?_put]
  rcases List.mem_cons.mp hrow with rfl | hrow
  · rw [if_pos rfl]
    rfl
  · obtain ⟨hmem, hne⟩ := List.mem_filter.mp hrow
    rw [if_neg (by simpa using hne)]
    exact h.document_eq row hmem

theorem front_length (h : c.Refines m) (he : c.entries.find? key = some entry) (document : Json) :
    ((key, document) :: m.others key).length ≤ m.capacity := by
  have hlookup : m.recent.lookup key = some entry.document := by
    rw [h.lookup_eq, he, Option.map_some]
  obtain ⟨front, back, hrecent, -⟩ := List.lookup_eq_some_iff.mp hlookup
  -- The row of the key itself is left out of the others.
  have hlt : (m.others key).length < m.recent.length :=
    List.length_filter_lt_length_iff_exists.mpr ⟨(key, entry.document), by simp [hrecent], by simp⟩
  exact Nat.le_trans hlt h.length_le

theorem get (h : c.Refines m) (key : Text) :
    (c.get key).1 = m.find? key ∧ (c.get key).2.Refines (m.use key) := by
  have hsound := h.sound.get key
  rw [h.find?_eq key, Ideal.use, h.pins_eq, h.lookup_eq]
  rw [Cache.get] at hsound ⊢
  cases hp : c.pinned.find? key with
  | some document => exact ⟨rfl, h⟩
  | none =>
      simp only [hp] at hsound
      cases he : c.entries.find? key with
      | none =>
          rw [touch_of_missing he] at hsound ⊢
          exact ⟨rfl, hsound, h.capacity_eq, h.pins_eq, h.keys_eq, h.document_eq, h.length_le⟩
      | some entry =>
          obtain ⟨hfound, hpinned, hentries⟩ := touch_of_held he
          refine ⟨hfound, hsound, ?_, ?_, ?_, ?_, ?_⟩
          · rw [touch_capacity]
            exact h.capacity_eq
          · rw [hpinned]
            exact h.pins_eq
          · rw [h.sound.touch_order he]
            exact h.front_keys key entry.document
          · rw [hentries]
            exact h.front_document key entry.document
          · exact h.front_length he entry.document

theorem insert (h : c.Refines m) (key : Text) (document : Json) :
    (c.insert key document).Refines (m.insert key document) := by
  have hsound := h.sound.insert key document
  by_cases hcapacity : c.capacity = 0
  · have hrecent : m.recent = [] :=
      List.length_eq_zero_iff.mp (Nat.le_zero.mp (hcapacity ▸ h.capacity_eq ▸ h.length_le))
    have hm : m.insert key document = m := by
      rw [Ideal.insert, h.capacity_eq, hcapacity, List.take_zero, ← hrecent, ← hcapacity,
        ← h.capacity_eq]
    rwa [hm, Cache.insert, if_pos hcapacity]
  · have horder := h.sound.insert_order hcapacity key document
    have hkeys : (m.insert key document).recent.map (·.1) =
        ((c.insert key document).order.map (·.2)).reverse := by
      rw [Ideal.insert, List.map_take, h.front_keys key document, h.capacity_eq, horder,
        List.map_drop, List.reverse_drop, List.length_map, List.take_eq_take_iff]
      simp only [List.length_reverse, List.length_map]
      omega
    refine ⟨hsound, ?_, ?_, hkeys, ?_, List.length_take_le _ _⟩
    · rw [insert_capacity]
      exact h.capacity_eq
    · rw [insert_pinned]
      exact h.pins_eq
    · intro row hrow
      have hleft : ((c.insert key document).entries.find? row.1).isSome := by
        rw [← hsound.inverse.mem_keys_iff, ← List.mem_reverse, ← hkeys]
        exact List.mem_map_of_mem hrow
      obtain ⟨entry, hentry⟩ := Option.isSome_iff_exists.mp hleft
      rw [hentry, ← h.front_document key document row (List.mem_of_mem_take hrow)]
      rw [h.sound.insert_eq hcapacity] at hentry
      rw [(h.sound.renew key document).find?_evict hentry]

theorem pin (h : c.Refines m) (key : Text) (document : Json) :
    (c.pin key document).1 = m.find? key ∧ (c.pin key document).2.Refines (m.pin key document) := by
  refine ⟨(h.find?_eq key).symm, h.sound.pin key document, h.capacity_eq, ?_, ?_, ?_, ?_⟩
  · intro k
    simp only [pin_pinned, Table.find?_put, Ideal.pin, Function.update_apply, h.pins_eq]
  · rw [h.sound.pin_order key document]
    exact h.others_keys key
  · intro row hrow
    obtain ⟨hmem, hne⟩ := List.mem_filter.mp hrow
    rw [Cache.pin, Table.find?_drop, if_neg (by simpa using hne)]
    exact h.document_eq row hmem
  · exact Nat.le_trans (List.length_filter_le _ _) h.length_le

theorem clear (h : c.Refines m) : c.clear.Refines m.clear :=
  ⟨h.sound.clear, h.capacity_eq, h.pins_eq, rfl, by simp [Ideal.clear], Nat.zero_le _⟩

theorem contains_eq (h : c.Refines m) (key : Text) : c.contains key = (m.find? key).isSome := by
  rw [h.find?_eq, Option.isSome_or, Option.isSome_map, Cache.contains]

theorem getOrFill (h : c.Refines m) (key : Text) (filling : Except ε Json) :
    (Operation.perform (.getOrFill key filling) c).1 =
      (Ideal.perform (.getOrFill key filling) m).1 ∧
    (Operation.perform (.getOrFill key filling) c).2.Refines
      (Ideal.perform (.getOrFill key filling) m).2 := by
  obtain ⟨hfound, hfirst⟩ := h.get key
  cases hfind : m.find? key with
  | some document =>
      simp only [Operation.perform, Ideal.perform, hfind, getOrFill_of_some (hfound.trans hfind),
        true_and]
      exact hfirst
  | none =>
      -- Looking again for what is not there moves the clock and nothing else.
      rw [Ideal.use_of_missing hfind] at hfirst
      obtain ⟨hagain, hsecond⟩ := hfirst.get key
      rw [Ideal.use_of_missing hfind] at hsecond
      simp only [Operation.perform, Ideal.perform, hfind,
        getOrFill_of_none (hfound.trans hfind) (hagain.trans hfind)]
      cases filling with
      | ok document => exact ⟨rfl, hsecond.insert key document⟩
      | error e => exact ⟨rfl, hsecond⟩

theorem perform (h : c.Refines m) (op : Operation ε) :
    (op.perform c).1 = (Ideal.perform op m).1 ∧
    (op.perform c).2.Refines (Ideal.perform op m).2 := by
  cases op with
  | insert key document => exact ⟨rfl, h.insert key document⟩
  | pin key document =>
      obtain ⟨hanswer, hrefines⟩ := h.pin key document
      exact ⟨congrArg Answer.document hanswer, hrefines⟩
  | get key =>
      obtain ⟨hanswer, hrefines⟩ := h.get key
      exact ⟨congrArg Answer.document hanswer, hrefines⟩
  | contains key => exact ⟨congrArg Answer.held (h.contains_eq key), h⟩
  | getOrFill key filling => exact h.getOrFill key filling
  | clear => exact ⟨rfl, h.clear⟩

theorem run (h : c.Refines m) (ops : List (Operation ε)) :
    (Operation.run Operation.perform ops c).1 = (Operation.run Ideal.perform ops m).1 ∧
    (Operation.run Operation.perform ops c).2.Refines (Operation.run Ideal.perform ops m).2 := by
  induction ops generalizing c m with
  | nil => exact ⟨rfl, h⟩
  | cons op rest ih =>
      obtain ⟨hanswer, hrefines⟩ := h.perform op
      obtain ⟨hanswers, hrest⟩ := ih hrefines
      exact ⟨congrArg₂ List.cons hanswer hanswers, hrest⟩

end Refines

theorem sound_after {ε : Type} (capacity : Nat) (ops : List (Operation ε)) :
    (after capacity ops).Sound := ((Refines.empty capacity).run ops).2.sound

/-- A cache answers as the ideal one of its size does, whatever is asked of it and in whatever
order, and its entries and the order of their use are inverse to each other throughout. -/
theorem run_eq_ideal {ε : Type} (capacity : Nat) (ops : List (Operation ε)) :
    (Operation.run Operation.perform ops (.empty capacity)).1 =
      (Operation.run Ideal.perform ops (.empty capacity)).1 ∧
    ∀ front, front <+: ops →
      Inverse (after capacity front).entries (after capacity front).order :=
  ⟨((Refines.empty capacity).run ops).1, fun front _ => (sound_after capacity front).inverse⟩

end JsonReference.Cache
