import JsonReference.Proofs.Table
import JsonReference.Tree.Scope
import Mathlib.Data.List.Basic
import Mathlib.Data.List.Induction

namespace JsonReference

namespace Pointer

variable {token : Text} {i j : Nat}

theorem digitChar_of_isDigit {c : Char} (h : c.isDigit) :
    (c.toNat - 48).digitChar = c ∧ c.toNat - 48 < 10 := by
  have hrange : 48 ≤ c.toNat ∧ c.toNat ≤ 57 := by
    simpa [Char.isDigit, UInt32.le_iff_toNat_le] using h
  have hlt : c.toNat - 48 < 10 := by omega
  refine ⟨?_, hlt⟩
  have hnat := Nat.toNat_digitChar_of_lt_ten hlt
  apply Char.toNat_inj.mp
  omega

theorem toDigits_ofDigitChars (hne : token ≠ []) (hdigits : ∀ c ∈ token, c.isDigit)
    (hhead : token.head? ≠ some '0') : Nat.toDigits 10 (Nat.ofDigitChars 10 token 0) = token := by
  induction token using List.reverseRecOn with
  | nil => exact absurd rfl hne
  | append_singleton front c ih =>
      obtain ⟨hc, hlt⟩ := digitChar_of_isDigit (hdigits c (by simp))
      have hvalue : Nat.ofDigitChars 10 (front ++ [c]) 0 =
          10 * Nat.ofDigitChars 10 front 0 + (c.toNat - 48) := by
        rw [Nat.ofDigitChars_append, Nat.ofDigitChars_cons, Nat.ofDigitChars_nil]
        rfl
      have hlast : Nat.toDigits 10 (c.toNat - 48) = [c] := by rw [Nat.toDigits_of_lt_base hlt, hc]
      rw [hvalue]
      cases front with
      | nil => simpa using hlast
      | cons d front =>
          have hfront := ih (by simp) (fun x hx => hdigits x (List.mem_append_left [c] hx))
            (by simpa using hhead)
          have hpos : 0 < Nat.ofDigitChars 10 (d :: front) 0 := by
            by_contra hzero
            rw [Nat.eq_zero_of_not_pos hzero, Nat.toDigits_zero] at hfront
            simp [← hfront] at hhead
          rw [← Nat.toDigits_append_toDigits (by omega) hpos hlt, hfront, hlast]

theorem head?_toDigits_ne (h : 0 < i) : (Nat.toDigits 10 i).head? ≠ some '0' := by
  induction i using Nat.strongRecOn with
  | _ i ih =>
      by_cases hlt : i < 10
      · rw [Nat.toDigits_of_lt_base hlt]
        simpa using Nat.pos_iff_ne_zero.mp h
      · have hrest := ih (i / 10) (by omega) (by omega)
        rw [Nat.toDigits_of_base_le (by omega) (by omega)]
        cases hdigits : Nat.toDigits 10 (i / 10) with
        | nil => exact absurd hdigits Nat.toDigits_ne_nil
        | cons c rest => simpa [hdigits] using hrest

theorem index?_ofNat (h : i < Nat.pow 2 64) : index? (Text.ofNat i) = some i := by
  rw [Text.ofNat]
  have hdigits : (Nat.toDigits 10 i).all Char.isDigit := by
    rw [List.all_eq_true]
    exact fun c hc => Nat.isDigit_of_mem_toDigits (by omega) (by omega) hc
  have hvalue := @Nat.ofDigitChars_ten_toDigits i
  rw [Nat.ofDigitChars_eq_foldl] at hvalue
  unfold index?
  split
  · next hzero =>
    rw [hzero] at hvalue
    simpa using hvalue
  · next rest hrest hzero =>
    have hpos : 0 < i := by
      by_contra hi
      simp [Nat.eq_zero_of_not_pos hi] at hzero
      exact hrest hzero
    exact absurd (by rw [hzero]; rfl) (head?_toDigits_ne hpos)
  · next hnil => exact absurd hnil Nat.toDigits_ne_nil
  · rw [if_pos hdigits, hvalue]
    exact if_pos h

theorem eq_ofNat_of_index? (h : index? token = some i) : token = Text.ofNat i := by
  unfold index? at h
  split at h
  · cases h
    rfl
  · simp at h
  · simp at h
  · next hone hzero hnil =>
    split at h
    · next hdigits =>
      simp only [Option.ite_none_right_eq_some, Option.some.injEq] at h
      rw [List.all_eq_true] at hdigits
      have hhead : token.head? ≠ some '0' := by
        cases token with
        | nil => simp
        | cons c rest =>
            simp only [List.head?_cons, ne_eq, Option.some.injEq]
            rintro rfl
            exact hzero rest rfl
      rw [Text.ofNat, ← h.2, ← Nat.ofDigitChars_eq_foldl,
        toDigits_ofDigitChars (fun he => hnil he) hdigits hhead]
    · simp at h

theorem ofNat_inj (h : Text.ofNat i = Text.ofNat j) : i = j := by
  have hi := @Nat.ofDigitChars_ten_toDigits i
  have hj := @Nat.ofDigitChars_ten_toDigits j
  rw [Text.ofNat, Text.ofNat] at h
  rw [← hi, ← hj, h]

theorem walk_append (path rest : List Text) (node : Json) :
    walk (path ++ rest) node = (walk path node).bind (walk rest) := by
  induction path generalizing node with
  | nil => rfl
  | cons token path ih =>
      rw [List.cons_append, walk, walk]
      cases child? node token with
      | none => rfl
      | some child => exact ih child

theorem get?_append (p : Pointer) (token : Text) (document : Json) :
    (p.append token).get? document = (p.get? document).bind (child? · token) := by
  rw [get?, append, walk_append]
  simp [get?, walk]

theorem get?_join (p q : Pointer) (document : Json) :
    (p.join q).get? document = (p.get? document).bind q.get? :=
  walk_append p.tokens q.tokens document

theorem relativize?_eq_some_iff {p q r : Pointer} : p.relativize? r = some q ↔ p.join q = r := by
  obtain ⟨p⟩ := p
  obtain ⟨q⟩ := q
  obtain ⟨r⟩ := r
  rw [relativize?, isParentOf, join, mk.injEq]
  split
  · next hp =>
    obtain ⟨rest, rfl⟩ := List.isPrefixOf_iff_prefix.mp hp
    simp [eq_comm]
  · next hp =>
    rw [List.isPrefixOf_iff_prefix] at hp
    simp only [reduceCtorEq, false_iff]
    rintro rfl
    exact hp (List.prefix_append p q)

end Pointer

namespace Json

variable {node x : Json} {token : Text}

theorem sizeOf_of_mem_children {c : Text × Json} (h : c ∈ node.children) :
    sizeOf c.2 < sizeOf node := by
  refine Nat.lt_of_le_of_lt ?_ (sizeOf_children node)
  generalize node.children = children at h ⊢
  induction children with
  | nil => simp at h
  | cons d rest ih =>
      rw [List.foldr_cons]
      rcases List.mem_cons.mp h with rfl | h
      · exact Nat.le_add_right _ _
      · exact Nat.le_trans (ih h) (Nat.le_add_left _ _)

theorem children_of_not_isContainer (h : node.isContainer = false) : node.children = [] := by
  cases node with
  | array => simp [isContainer] at h
  | object => simp [isContainer] at h
  | _ => rfl

theorem nodeId?_of_not_isContainer (h : node.isContainer = false) : node.nodeId? = none := by
  cases node with
  | array => rfl
  | object => simp [isContainer] at h
  | _ => rfl

theorem induction_children {motive : Json → Prop}
    (h : ∀ node, (∀ c ∈ node.children, motive c.2) → motive node) (node : Json) : motive node := by
  apply h
  intro c hc
  exact induction_children h c.2
termination_by sizeOf node
decreasing_by exact sizeOf_of_mem_children hc

theorem wellFormed_of_mem_children (h : node.WellFormed) {c : Text × Json}
    (hc : c ∈ node.children) : c.2.WellFormed := by
  cases h with
  | object members _ hall => exact hall c hc
  | array items _ hall =>
      obtain ⟨item, hitem, rfl⟩ := List.mem_map.mp hc
      exact hall item.1 (List.fst_mem_of_mem_zipIdx hitem)
  | _ => simp [children] at hc

theorem mem_children_array {items : List Json} :
    (token, x) ∈ (Json.array items).children ↔ ∃ i, token = Text.ofNat i ∧ items[i]? = some x := by
  simp only [children, List.mem_map, Prod.exists, Prod.mk.injEq]
  constructor
  · rintro ⟨y, i, hy, rfl, rfl⟩
    exact ⟨i, rfl, List.mem_zipIdx_iff_getElem?.mp hy⟩
  · rintro ⟨i, rfl, hx⟩
    exact ⟨x, i, List.mem_zipIdx_iff_getElem?.mpr hx, rfl, rfl⟩

theorem exists_mem_children {items : List Json} (hx : x ∈ items) :
    ∃ token, (token, x) ∈ (Json.array items).children := by
  obtain ⟨i, hi⟩ := List.getElem?_of_mem hx
  exact ⟨_, mem_children_array.mpr ⟨i, rfl, hi⟩⟩

theorem mem_children_of_child? (h : Pointer.child? node token = some x) :
    (token, x) ∈ node.children := by
  cases node with
  | object members => exact Table.mem_of_find? h
  | array items =>
      obtain ⟨i, hi, hx⟩ := Option.bind_eq_some_iff.mp h
      exact mem_children_array.mpr ⟨i, Pointer.eq_ofNat_of_index? hi, hx⟩
  | _ => simp [Pointer.child?] at h

/-- A token leads from a node to those right below it, each with its own, and nowhere else. -/
theorem child?_eq_some_iff (h : node.WellFormed) :
    Pointer.child? node token = some x ↔ (token, x) ∈ node.children := by
  refine ⟨mem_children_of_child?, fun hx => ?_⟩
  cases h with
  | object members hnames _ =>
      have hdistinct : (members.map (·.1)).Nodup := by
        refine hnames.imp ?_
        rintro k l hlt rfl
        exact List.lt_irrefl k hlt
      exact Table.find?_of_mem hdistinct hx
  | array items hlength _ =>
      obtain ⟨i, rfl, hitem⟩ := mem_children_array.mp hx
      obtain ⟨hi, -⟩ := List.getElem?_eq_some_iff.mp hitem
      rw [Pointer.child?, Pointer.index?_ofNat (by omega), Option.bind_some, hitem]
  | _ => simp [children] at hx

end Json
end JsonReference
