import JsonReference.Table

namespace JsonReference.Table

variable {κ α : Type} [DecidableEq κ] {key : κ} {a : α} {table : Table κ α} {row : κ × α}

theorem mem_of_find? (h : table.find? key = some a) : (key, a) ∈ table := by
  induction table with
  | nil => simp [find?] at h
  | cons first rest ih =>
      rw [find?] at h
      split at h
      · next hk =>
        rw [← hk, ← Option.some.inj h]
        exact List.mem_cons_self
      · exact List.mem_cons_of_mem first (ih h)

theorem find?_of_mem (hkeys : (table.map (·.1)).Nodup) (h : (key, a) ∈ table) :
    table.find? key = some a := by
  induction table with
  | nil => simp at h
  | cons first rest ih =>
      rw [List.map_cons, List.nodup_cons] at hkeys
      rw [find?]
      rcases List.mem_cons.mp h with rfl | h
      · exact if_pos rfl
      · rw [if_neg, ih hkeys.2 h]
        rintro hk
        exact hkeys.1 (hk ▸ List.mem_map_of_mem h)

theorem mem_put (h : row ∈ table.put key a) : row = (key, a) ∨ row ∈ table := by
  induction table with
  | nil => simpa [put] using h
  | cons first rest ih =>
      rw [put] at h
      split at h
      · rcases List.mem_cons.mp h with h | h
        · exact .inl h
        · exact .inr (List.mem_cons_of_mem first h)
      · rcases List.mem_cons.mp h with h | h
        · exact .inr (h ▸ List.mem_cons_self)
        · exact (ih h).imp_right (List.mem_cons_of_mem first)

theorem drop_subset (key : κ) (table : Table κ α) : table.drop key ⊆ table :=
  (List.filter_sublist).subset

theorem find?_put (key k : κ) (a : α) (table : Table κ α) :
    (table.put key a).find? k = if k = key then some a else table.find? k := by
  induction table with
  | nil => simp [put, find?, eq_comm]
  | cons first rest ih =>
      rw [put]
      by_cases hf : first.1 = key
      · rw [if_pos hf, find?, find?, hf]
        by_cases hk : key = k
        · rw [if_pos hk, if_pos hk.symm]
        · rw [if_neg hk, if_neg hk, if_neg (Ne.symm hk)]
      · rw [if_neg hf, find?, find?, ih]
        by_cases hk : first.1 = k
        · rw [if_pos hk, if_pos hk, if_neg (hk ▸ hf)]
        · rw [if_neg hk, if_neg hk]

theorem find?_drop (key k : κ) (table : Table κ α) :
    (table.drop key).find? k = if k = key then none else table.find? k := by
  induction table with
  | nil => simp [drop, find?]
  | cons first rest ih =>
      rw [drop] at ih ⊢
      by_cases hf : first.1 = key
      · rw [List.filter_cons_of_neg (by simpa using hf), ih, find?, hf]
        by_cases hk : key = k
        · rw [if_pos hk.symm, if_pos hk.symm]
        · rw [if_neg hk]
      · rw [List.filter_cons_of_pos (by simpa using hf), find?, find?, ih]
        by_cases hk : first.1 = k
        · rw [if_pos hk, if_pos hk, if_neg (hk ▸ hf)]
        · rw [if_neg hk, if_neg hk]

theorem isSome_find?_iff : (table.find? key).isSome ↔ key ∈ table.map (·.1) := by
  induction table with
  | nil => simp [find?]
  | cons first rest ih =>
      rw [find?, List.map_cons, List.mem_cons, ← ih]
      by_cases hf : first.1 = key
      · simp [hf]
      · simp [hf, Ne.symm hf]

theorem nodup_put (h : (table.map (·.1)).Nodup) (key : κ) (a : α) :
    ((table.put key a).map (·.1)).Nodup := by
  induction table with
  | nil => simp [put]
  | cons first rest ih =>
      rw [List.map_cons, List.nodup_cons] at h
      rw [put]
      by_cases hf : first.1 = key
      · rw [if_pos hf, List.map_cons, List.nodup_cons]
        exact ⟨hf ▸ h.1, h.2⟩
      · rw [if_neg hf, List.map_cons, List.nodup_cons, ← isSome_find?_iff, find?_put, if_neg hf,
          isSome_find?_iff]
        exact ⟨h.1, ih h.2⟩

theorem nodup_drop (h : (table.map (·.1)).Nodup) (key : κ) :
    ((table.drop key).map (·.1)).Nodup :=
  h.sublist (List.filter_sublist.map _)

theorem find?_append (key : κ) (front back : Table κ α) :
    Table.find? key (front ++ back) = (front.find? key).or (back.find? key) := by
  induction front with
  | nil => rfl
  | cons first rest ih =>
      rw [List.cons_append, find?, find?, ih]
      split <;> rfl

theorem find?_append_of_subset {front back : Table κ α}
    (h : ∀ row ∈ back, row.1 ∈ front.map (·.1)) (key : κ) :
    Table.find? key (front ++ back) = front.find? key := by
  rw [find?_append]
  cases hfront : front.find? key with
  | some a => rfl
  | none =>
      have hback : back.find? key = none := by
        rw [← Option.not_isSome_iff_eq_none, isSome_find?_iff]
        intro hkey
        obtain ⟨row, hrow, rfl⟩ := List.mem_map.mp hkey
        have hsome := isSome_find?_iff.mpr (h row hrow)
        rw [hfront] at hsome
        cases hsome
      rw [hback]
      rfl

theorem find?_reverse (h : (table.map (·.1)).Nodup) (key : κ) :
    Table.find? key (List.reverse table) = table.find? key := by
  have hreverse : ((List.reverse table).map (·.1)).Nodup :=
    ((List.reverse_perm table).map _).nodup_iff.mpr h
  ext a
  constructor
  · intro ha
    exact find?_of_mem h (List.mem_reverse.mp (mem_of_find? ha))
  · intro ha
    exact find?_of_mem hreverse (List.mem_reverse.mpr (mem_of_find? ha))

theorem find?_foldl_put {β : Type} (key : β → κ) (value : β → α) (rows : List β)
    (table : Table κ α) (k : κ) :
    Table.find? k (rows.foldl (fun table row => Table.put (key row) (value row) table) table) =
      ((rows.reverse.find? (key · = k)).map value).or (table.find? k) := by
  induction rows generalizing table with
  | nil => rfl
  | cons row rest ih =>
      rw [List.foldl_cons, ih, find?_put, List.reverse_cons, List.find?_append]
      cases rest.reverse.find? (key · = k) with
      | some last => rfl
      | none =>
          by_cases hk : k = key row
          · simp [hk]
          · simp [hk, Ne.symm hk]

end JsonReference.Table
