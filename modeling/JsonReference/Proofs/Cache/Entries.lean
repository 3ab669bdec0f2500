import JsonReference.Cache
import JsonReference.Proofs.Table

namespace JsonReference.Cache

variable {c : Cache} {key : Text} {document : Json} {entry : Entry}

def Keeps (P : Text → Json → Prop) (c : Cache) : Prop := ∀ row ∈ c.entries, P row.1 row.2.document

theorem touch_of_missing (h : c.entries.find? key = none) :
    c.touch key = (none, { c with clock := c.clock + 1 }) := by
  simp only [touch, h]

theorem touch_of_held (h : c.entries.find? key = some entry) :
    (c.touch key).1 = some entry.document ∧ (c.touch key).2.pinned = c.pinned ∧
    (c.touch key).2.entries = c.entries.put key { entry with tick := c.clock + 1 } := by
  simp only [touch, h, and_self]

theorem get_of_held (hp : c.pinned.find? key = none) (he : c.entries.find? key = some entry) :
    (c.get key).1 = some entry.document := by
  simp only [get, hp, (touch_of_held he).1]

theorem get_of_missing (hp : c.pinned.find? key = none) (he : c.entries.find? key = none) :
    c.get key = (none, { c with clock := c.clock + 1 }) := by
  simp only [get, hp, touch_of_missing he]

theorem evict_fst_subset (capacity : Nat) (entries : Table Text Entry) (order : List (Nat × Text)) :
    (evict capacity entries order).1 ⊆ entries := by
  induction order generalizing entries with
  | nil => exact List.Subset.refl entries
  | cons first rest ih =>
      rw [evict]
      split
      · exact List.Subset.trans (ih _) (Table.drop_subset _ _)
      · exact List.Subset.refl entries

theorem mem_insert {row : Text × Entry} (h : row ∈ (c.insert key document).entries) :
    (row.1 = key ∧ row.2.document = document) ∨ row ∈ c.entries := by
  rw [insert] at h
  split at h
  · exact .inr h
  · rcases Table.mem_put (evict_fst_subset _ _ _ h) with rfl | h
    · exact .inl ⟨rfl, rfl⟩
    · exact .inr h

@[simp]
theorem insert_pinned : (c.insert key document).pinned = c.pinned := by
  rw [insert]
  split <;> rfl

@[simp]
theorem insert_capacity : (c.insert key document).capacity = c.capacity := by
  rw [insert]
  split <;> rfl

@[simp]
theorem touch_capacity : (c.touch key).2.capacity = c.capacity := by
  rw [touch]
  split <;> rfl

@[simp]
theorem get_capacity : (c.get key).2.capacity = c.capacity := by
  rw [get]
  split
  · rfl
  · exact touch_capacity

@[simp]
theorem touch_pinned : (c.touch key).2.pinned = c.pinned := by
  rw [touch]
  split <;> rfl

@[simp]
theorem get_pinned : (c.get key).2.pinned = c.pinned := by
  rw [get]
  split
  · rfl
  · exact touch_pinned

@[simp]
theorem pin_pinned : (c.pin key document).2.pinned = c.pinned.put key document := rfl

namespace Keeps

variable {P : Text → Json → Prop}

theorem touch (h : c.Keeps P) (he : c.entries.find? key = some entry) :
    (c.touch key).2.Keeps P := by
  intro row hrow
  rw [(touch_of_held he).2.2] at hrow
  rcases Table.mem_put hrow with rfl | hrow
  · exact h (key, entry) (Table.mem_of_find? he)
  · exact h row hrow

theorem insert (h : c.Keeps P) (hd : P key document) : (c.insert key document).Keeps P := by
  intro row hrow
  rcases mem_insert hrow with ⟨hk, hrow⟩ | hrow
  · rw [hk, hrow]
    exact hd
  · exact h row hrow

theorem pin (h : c.Keeps P) (key : Text) (document : Json) : (c.pin key document).2.Keeps P :=
  fun row hrow => h row (Table.drop_subset key c.entries hrow)

theorem clear (P : Text → Json → Prop) (c : Cache) : c.clear.Keeps P := by
  simp [Keeps, Cache.clear]

end Keeps

section GetOrFill

variable {ε : Type} {fill : Unit → Except ε Json}

theorem getOrFill_of_some (h : (c.get key).1 = some document) :
    c.getOrFill key fill = ⟨.ok document, false, (c.get key).2⟩ := by
  rw [getOrFill]
  split
  · next hget =>
    rw [hget] at h ⊢
    cases h
    rfl
  · next hget =>
    rw [hget] at h
    cases h

theorem getOrFill_of_none (h : (c.get key).1 = none) (h' : ((c.get key).2.get key).1 = none) :
    c.getOrFill key fill =
      match fill () with
      | .ok document => ⟨.ok document, true, ((c.get key).2.get key).2.insert key document⟩
      | .error e => ⟨.error e, true, ((c.get key).2.get key).2⟩ := by
  rw [getOrFill]
  split
  · next hget =>
    rw [hget] at h
    cases h
  · next hget =>
    rw [hget] at h' ⊢
    split
    · next hagain =>
      rw [hagain] at h'
      cases h'
    · next hagain =>
      cases fill () <;> simp only [hagain]

inductive Asked (c : Cache) (key : Text) (fill : Unit → Except ε Json) : Filled ε → Prop
  | pinned {document : Json} : c.pinned.find? key = some document →
      Asked c key fill ⟨.ok document, false, c⟩
  | held {entry : Entry} : c.pinned.find? key = none → c.entries.find? key = some entry →
      Asked c key fill ⟨.ok entry.document, false, (c.touch key).2⟩
  | filled {document : Json} (clock : Nat) : c.pinned.find? key = none → fill () = .ok document →
      Asked c key fill ⟨.ok document, true, { c with clock }.insert key document⟩
  | failed {e : ε} (clock : Nat) : c.pinned.find? key = none → fill () = .error e →
      Asked c key fill ⟨.error e, true, { c with clock }⟩

theorem asked (c : Cache) (key : Text) (fill : Unit → Except ε Json) :
    Asked c key fill (c.getOrFill key fill) := by
  cases hp : c.pinned.find? key with
  | some document =>
      simp only [getOrFill, get, hp]
      exact .pinned hp
  | none =>
      cases he : c.entries.find? key with
      | some entry =>
          have h : c.getOrFill key fill = ⟨.ok entry.document, false, (c.touch key).2⟩ := by
            simp only [getOrFill, get, hp, Cache.touch, he]
          exact h ▸ .held hp he
      | none =>
          simp only [getOrFill, get, hp, touch_of_missing he]
          rw [touch_of_missing (c := { c with clock := c.clock + 1 }) he]
          cases hf : fill () with
          | ok document => exact .filled _ hp hf
          | error e => exact .failed _ hp hf

/-- The document pinned under a key, or else what `fill` gives. -/
def supply (pinned : Table Text Json) (key : Text) (fill : Unit → Except ε Json) : Except ε Json :=
  match pinned.find? key with
  | some document => .ok document
  | none => fill ()

/-- Where every entry is what a filling of its key would give, it makes no difference what the
entries are. -/
theorem getOrFill_result (h : c.Keeps fun k d => k = key → fill () = .ok d) :
    (c.getOrFill key fill).result = supply c.pinned key fill := by
  have ha := asked c key fill
  generalize c.getOrFill key fill = filled at ha
  rw [supply]
  cases ha with
  | pinned hp => rw [hp]
  | held hp he =>
      rw [hp]
      exact (h _ (Table.mem_of_find? he) rfl).symm
  | filled _ hp hf | failed _ hp hf =>
      rw [hp]
      exact hf.symm

@[simp]
theorem getOrFill_pinned (c : Cache) (key : Text) (fill : Unit → Except ε Json) :
    (c.getOrFill key fill).cache.pinned = c.pinned := by
  have ha := asked c key fill
  generalize c.getOrFill key fill = filled at ha
  cases ha with
  | pinned | failed => rfl
  | held _ he => exact (touch_of_held he).2.1
  | filled => exact insert_pinned

@[simp]
theorem getOrFill_capacity (c : Cache) (key : Text) (fill : Unit → Except ε Json) :
    (c.getOrFill key fill).cache.capacity = c.capacity := by
  have ha := asked c key fill
  generalize c.getOrFill key fill = filled at ha
  cases ha with
  | pinned | failed => rfl
  | held => exact touch_capacity
  | filled => exact insert_capacity

theorem find?_pinned_of_ran (h : (c.getOrFill key fill).ran) : c.pinned.find? key = none := by
  have ha := asked c key fill
  generalize c.getOrFill key fill = filled at ha h
  cases ha with
  | pinned | held => cases h
  | filled _ hp | failed _ hp => exact hp

theorem getOrFill_of_error {e : ε} (h : (c.getOrFill key fill).result = .error e) :
    (c.getOrFill key fill).ran ∧ (c.getOrFill key fill).cache.entries = c.entries := by
  have ha := asked c key fill
  generalize c.getOrFill key fill = filled at ha h
  cases ha with
  | pinned | held | filled => cases h
  | failed => exact ⟨rfl, rfl⟩

theorem Keeps.getOrFill {P : Text → Json → Prop} (h : c.Keeps P)
    (hfill : ∀ d, fill () = .ok d → P key d) : (c.getOrFill key fill).cache.Keeps P := by
  have ha := asked c key fill
  generalize c.getOrFill key fill = filled at ha
  cases ha with
  | pinned | failed => exact h
  | held _ he => exact h.touch he
  | filled clock _ hf => exact Keeps.insert (c := { c with clock }) h (hfill _ hf)

end GetOrFill

end JsonReference.Cache
