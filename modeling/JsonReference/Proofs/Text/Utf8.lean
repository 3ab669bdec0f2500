import JsonReference.Text.Utf8
import Mathlib.Data.List.Basic
import Mathlib.Tactic.SplitIfs

namespace JsonReference.Utf8

variable {a b d e : UInt8} {rest : Octets}

theorem isTail_iff : isTail b ↔ 0x80 ≤ b.toNat ∧ b.toNat ≤ 0xbf := by
  simp [isTail, UInt8.le_iff_toNat_le]

theorem isSecond_iff : isSecond a b ↔ isTail b ∧
    (a.toNat = 0xe0 → 0xa0 ≤ b.toNat) ∧ (a.toNat = 0xed → b.toNat ≤ 0x9f) ∧
    (a.toNat = 0xf0 → 0x90 ≤ b.toNat) ∧ (a.toNat = 0xf4 → b.toNat ≤ 0x8f) := by
  rw [isTail_iff]
  simp only [isSecond, beq_iff_eq, ← UInt8.toNat_inj, UInt8.reduceToNat]
  split_ifs <;> simp [UInt8.le_iff_toNat_le, isTail_iff] <;> omega

theorem head_one (ha : a.toNat < 0x80) : head a rest = .char (Char.ofNat a.toNat) 1 := by
  unfold head
  rw [if_pos (by simpa [UInt8.lt_iff_toNat_lt] using ha)]

theorem head_two (ha : 0xc2 ≤ a.toNat ∧ a.toNat ≤ 0xdf) (hb : isTail b) :
    head a (b :: rest) = .char (char2 a b) 2 := by
  simp only [head, UInt8.lt_iff_toNat_lt, UInt8.le_iff_toNat_le, UInt8.reduceToNat]
  rw [if_neg (by omega), if_pos (by simpa using ha), if_pos hb]

theorem head_three (ha : 0xe0 ≤ a.toNat ∧ a.toNat ≤ 0xef) (hb : isSecond a b) (hd : isTail d) :
    head a (b :: d :: rest) = .char (char3 a b d) 3 := by
  simp only [head, UInt8.lt_iff_toNat_lt, UInt8.le_iff_toNat_le, UInt8.reduceToNat]
  rw [if_neg (by omega), if_neg (by simp; omega), if_pos (by simpa using ha), if_neg (by simp [hb]),
    if_pos hd]

theorem head_four (ha : 0xf0 ≤ a.toNat ∧ a.toNat ≤ 0xf4) (hb : isSecond a b) (hd : isTail d)
    (he : isTail e) : head a (b :: d :: e :: rest) = .char (char4 a b d e) 4 := by
  simp only [head, UInt8.lt_iff_toNat_lt, UInt8.le_iff_toNat_le, UInt8.reduceToNat]
  rw [if_neg (by omega), if_neg (by simp; omega), if_neg (by simp; omega),
    if_pos (by simpa using ha), if_neg (by simp [hb]), if_neg (by simp [hd]), if_pos he]

theorem head_utf8EncodeChar (c : Char) (rest : Octets) :
    ∃ a tail, String.utf8EncodeChar c = a :: tail ∧
      head a (tail ++ rest) = .char c (tail.length + 1) := by
  have hvalid : c.toNat < 0xd800 ∨ 0xdfff < c.toNat ∧ c.toNat < 0x110000 := c.valid
  have hoctet {n : Nat} (h : n < 256) : (UInt8.ofNat n).toNat = n := UInt8.toNat_ofNat_of_lt' h
  have hof {n : Nat} (h : n = c.toNat) : Char.ofNat n = c := by rw [h, Char.ofNat_toNat]
  simp only [String.utf8EncodeChar, Char.toNat_val]
  split_ifs with h₁ h₂ h₃
  · have ha := hoctet (n := c.toNat) (by omega)
    refine ⟨_, _, rfl, ?_⟩
    rw [head_one (by omega), hof ha]
    rfl
  · have ha := hoctet (n := c.toNat / 64 % 32 + 192) (by omega)
    have hb := hoctet (n := c.toNat % 64 + 128) (by omega)
    refine ⟨_, _, rfl, (head_two (by omega) (isTail_iff.mpr (by omega))).trans ?_⟩
    rw [char2, hof (by omega)]
    rfl
  · have ha := hoctet (n := c.toNat / 4096 % 16 + 224) (by omega)
    have hb := hoctet (n := c.toNat / 64 % 64 + 128) (by omega)
    have hd := hoctet (n := c.toNat % 64 + 128) (by omega)
    have hsecond : isSecond (UInt8.ofNat (c.toNat / 4096 % 16 + 224))
        (UInt8.ofNat (c.toNat / 64 % 64 + 128)) := by
      rw [isSecond_iff, isTail_iff]
      omega
    refine ⟨_, _, rfl, (head_three (by omega) hsecond (isTail_iff.mpr (by omega))).trans ?_⟩
    rw [char3, hof (by omega)]
    rfl
  · have ha := hoctet (n := c.toNat / 262144 % 8 + 240) (by omega)
    have hb := hoctet (n := c.toNat / 4096 % 64 + 128) (by omega)
    have hd := hoctet (n := c.toNat / 64 % 64 + 128) (by omega)
    have he := hoctet (n := c.toNat % 64 + 128) (by omega)
    have hsecond : isSecond (UInt8.ofNat (c.toNat / 262144 % 8 + 240))
        (UInt8.ofNat (c.toNat / 4096 % 64 + 128)) := by
      rw [isSecond_iff, isTail_iff]
      omega
    refine ⟨_, _, rfl, (head_four (by omega) hsecond (isTail_iff.mpr (by omega))
      (isTail_iff.mpr (by omega))).trans ?_⟩
    rw [char4, hof (by omega)]
    rfl

theorem decodeFrom_append (tail rest : Octets) (index : Nat) :
    decodeFrom index tail.length (tail ++ rest) = decodeFrom (index + tail.length) 0 rest := by
  induction tail generalizing index with
  | nil => rfl
  | cons a tail ih =>
      rw [List.length_cons, List.cons_append, decodeFrom, ih]
      congr 1
      omega

theorem decodeFrom_octets (index : Nat) (t : Text) :
    decodeFrom index 0 (Text.octets t) = .ok t := by
  induction t generalizing index with
  | nil => rfl
  | cons c t ih =>
      obtain ⟨a, tail, hc, hhead⟩ := head_utf8EncodeChar c (Text.octets t)
      have hoctets : Text.octets (c :: t) = a :: (tail ++ Text.octets t) := by
        rw [Text.octets, List.flatMap_cons, hc, List.cons_append]
        rfl
      rw [hoctets, decodeFrom, hhead]
      simp only [Nat.add_sub_cancel, decodeFrom_append, ih]
      rfl

theorem decode_octets (t : Text) : decode (Text.octets t) = .ok t := decodeFrom_octets 0 t

end JsonReference.Utf8
