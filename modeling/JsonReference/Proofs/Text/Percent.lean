import JsonReference.Text.Percent
import JsonReference.Proofs.Text.Utf8

namespace JsonReference.Percent

theorem isHexDigit_hexUpper {n : Nat} (h : n < 16) : Text.isHexDigit (hexUpper n) := by
  revert n
  decide

theorem hexValue_hexUpper {n : Nat} (h : n < 16) : Text.hexValue (hexUpper n) = n := by
  revert n
  decide

theorem octets_escape (b : UInt8) (rest : Text) : octets (escape b ++ rest) = b :: octets rest := by
  have hb : b.toNat < 256 := b.toNat_lt
  have hhigh : b.toNat / 16 < 16 := by omega
  have hlow : b.toNat % 16 < 16 := by omega
  have hvalue : b.toNat / 16 * 16 + b.toNat % 16 = b.toNat := by omega
  rw [escape, List.cons_append, List.cons_append, List.cons_append, List.nil_append, octets]
  rw [isHexDigit_hexUpper hhigh, isHexDigit_hexUpper hlow, hexValue_hexUpper hhigh,
    hexValue_hexUpper hlow, hvalue, UInt8.ofNat_toNat]
  rfl

theorem octets_flatMap_escape (bs : Octets) (rest : Text) :
    octets (bs.flatMap escape ++ rest) = bs ++ octets rest := by
  induction bs with
  | nil => rfl
  | cons b bs ih => rw [List.flatMap_cons, List.append_assoc, octets_escape, ih, List.cons_append]

theorem octets_cons {c : Char} (h : c ≠ '%') (rest : Text) :
    octets (c :: rest) = String.utf8EncodeChar c ++ octets rest := by
  rw [octets]
  intro a b r
  simp [h]

theorem octets_encodeWith {keep : Char → Bool} (h : keep '%' = false) (t rest : Text) :
    octets (encodeWith keep t ++ rest) = Text.octets t ++ octets rest := by
  induction t with
  | nil => rfl
  | cons c t ih =>
      rw [encodeWith] at ih
      rw [encodeWith, List.flatMap_cons, Text.octets, List.flatMap_cons, List.append_assoc,
        List.append_assoc]
      rw [Text.octets] at ih
      split
      · next hc =>
        have hpercent : c ≠ '%' := by
          rintro rfl
          rw [h] at hc
          cases hc
        rw [List.singleton_append, octets_cons hpercent, ih]
      · rw [octets_flatMap_escape, ih]

end JsonReference.Percent
