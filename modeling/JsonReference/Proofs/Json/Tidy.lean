import JsonReference.Json.Reader
import JsonReference.Proofs.Json.Children

namespace JsonReference.Json

variable {name : Text} {x : Json} {members : List (Text × Json)}

theorem mem_putMember {m : Text × Json} (h : m ∈ putMember name x members) :
    m = (name, x) ∨ m ∈ members := by
  induction members with
  | nil => simpa [putMember] using h
  | cons first rest ih =>
      rw [putMember] at h
      split at h
      · exact List.mem_cons.mp h
      · split at h
        · rcases List.mem_cons.mp h with h | h
          · exact .inl h
          · exact .inr (List.mem_cons_of_mem first h)
        · rcases List.mem_cons.mp h with h | h
          · exact .inr (h ▸ List.mem_cons_self)
          · exact (ih h).imp_right (List.mem_cons_of_mem first)

theorem pairwise_putMember (h : (members.map (·.1)).Pairwise (· < ·)) :
    ((putMember name x members).map (·.1)).Pairwise (· < ·) := by
  rw [List.pairwise_map] at h ⊢
  induction members with
  | nil => simp [putMember]
  | cons first rest ih =>
      obtain ⟨hfirst, hrest⟩ := List.pairwise_cons.mp h
      rw [putMember]
      split
      · next hlt =>
        refine List.pairwise_cons.mpr ⟨?_, h⟩
        intro m hm
        rcases List.mem_cons.mp hm with rfl | hm
        · exact hlt
        · exact List.lt_trans hlt (hfirst m hm)
      · next hge =>
        split
        · next heq => exact List.pairwise_cons.mpr ⟨heq ▸ hfirst, hrest⟩
        · next hne =>
          refine List.pairwise_cons.mpr ⟨?_, ih hrest⟩
          intro m hm
          rcases mem_putMember hm with rfl | hm
          · by_contra hle
            exact hne (List.le_antisymm (List.not_lt.mp hle) (List.not_lt.mp hge))
          · exact hfirst m hm

theorem wellFormed_putMember (hx : x.WellFormed) (h : (object members).WellFormed) :
    (object (putMember name x members)).WellFormed := by
  cases h with
  | object members hnames hall =>
      refine .object _ (pairwise_putMember hnames) ?_
      intro m hm
      rcases mem_putMember hm with rfl | hm
      · exact hx
      · exact hall m hm

theorem wellFormed_ofMembers (h : ∀ m ∈ members, m.2.WellFormed) : (ofMembers members).WellFormed := by
  have hfold (front : List (Text × Json)) (hfront : (object front).WellFormed) :
      (object (members.foldl (fun ms m => putMember m.1 m.2 ms) front)).WellFormed := by
    induction members generalizing front with
    | nil => exact hfront
    | cons m rest ih =>
        rw [List.forall_mem_cons] at h
        exact ih h.2 _ (wellFormed_putMember h.1 hfront)
  exact hfold [] (.object [] .nil (by simp))

theorem tidyItems_eq_map (items : List Json) : tidyItems items = items.map tidy := by
  induction items with
  | nil => rfl
  | cons x rest ih => rw [tidyItems, ih, List.map_cons]

theorem tidyMembers_eq_map (members : List (Text × Json)) :
    tidyMembers members = members.map fun m => (m.1, tidy m.2) := by
  induction members with
  | nil => rfl
  | cons m rest ih => rw [tidyMembers, ih, List.map_cons]

theorem length_lt_sizeOf (items : List Json) : items.length < sizeOf items := by
  induction items with
  | nil => simp
  | cons x rest ih =>
      rw [List.length_cons, List.cons.sizeOf_spec]
      omega

theorem wellFormed_tidy (json : Json) (h : sizeOf json < Nat.pow 2 64) : json.tidy.WellFormed := by
  induction json using induction_children with
  | h node ih =>
      have hchild (c : Text × Json) (hc : c ∈ node.children) : c.2.tidy.WellFormed :=
        ih c hc (Nat.lt_trans (sizeOf_of_mem_children hc) h)
      cases node with
      | object members =>
          rw [tidy, tidyMembers_eq_map]
          apply wellFormed_ofMembers
          intro m hm
          obtain ⟨c, hc, rfl⟩ := List.mem_map.mp hm
          exact hchild c hc
      | array items =>
          rw [tidy, tidyItems_eq_map]
          refine .array _ ?_ ?_
          · have hlength := length_lt_sizeOf items
            rw [Json.array.sizeOf_spec] at h
            rw [List.length_map]
            omega
          · intro y hy
            obtain ⟨x, hx, rfl⟩ := List.mem_map.mp hy
            obtain ⟨_, hcx⟩ := exists_mem_children hx
            exact hchild _ hcx
      | null => exact .null
      | bool b => exact .bool b
      | number n => exact .number n
      | string t => exact .string t

end JsonReference.Json
