import JsonReference.Proofs.Json.Identity
import JsonReference.Proofs.Number.Layout

namespace JsonReference

namespace Double

variable {x : Double} {n : Int}

theorem isZero_iff : x.isZero ↔ x.mantissa = 0 := beq_iff_eq

theorem signed_eq_iff {v : ℚ} (hv : 0 < v) (negative : Bool) :
    (if negative then -v else v) = n ↔ (n < 0 ↔ negative) ∧ v = n.natAbs := by
  have habs : ((n.natAbs : ℕ) : ℚ) = |(n : ℚ)| := by
    rw [Nat.cast_natAbs, Int.cast_abs]
  have hsign : n < 0 ↔ (n : ℚ) < 0 := Int.cast_lt_zero.symm
  rw [habs, hsign]
  cases negative
  · simp only [Bool.false_eq_true, if_false, iff_false, not_lt]
    constructor
    · rintro rfl
      exact ⟨hv.le, (abs_of_pos hv).symm⟩
    · rintro ⟨hn, h⟩
      rw [h, abs_of_nonneg hn]
  · simp only [if_true, iff_true]
    constructor
    · intro h
      rw [← h, abs_neg, abs_of_pos hv]
      exact ⟨neg_neg_of_pos hv, rfl⟩
    · rintro ⟨hn, h⟩
      rw [h, abs_of_neg hn, neg_neg]

theorem magnitude_pos (hx : x.mantissa ≠ 0) : 0 < x.magnitude := by
  unfold magnitude
  have hpos := Nat.pos_of_ne_zero hx
  positivity

theorem shortest_value_pos (hx : x.mantissa ≠ 0) : 0 < x.shortest.value := by
  unfold Decimal.value
  have hpos := shortest_digits_pos hx
  positivity

theorem abs_value (x : Double) : |x.value| = x.magnitude := by
  unfold value
  split
  · rw [abs_neg, abs_of_nonneg x.magnitude_nonneg]
  · rw [abs_of_nonneg x.magnitude_nonneg]

theorem printed_of_ne_zero (hx : x.mantissa ≠ 0) :
    x.printed = if x.negative then -x.shortest.value else x.shortest.value := by
  rw [printed, if_neg (by rwa [isZero_iff])]

theorem printed_of_zero (hx : x.mantissa = 0) : x.printed = 0 ∧ x.value = 0 := by
  constructor
  · rw [printed, if_pos (isZero_iff.mpr hx)]
  · simp [value, magnitude, hx]

theorem abs_printed_sub_value_le (x : Double) : |x.printed - x.value| ≤ 2 ^ (x.exponent - 1) := by
  by_cases hx : x.mantissa = 0
  · obtain ⟨hprinted, hvalue⟩ := printed_of_zero hx
    rw [hprinted, hvalue, sub_zero, abs_zero]
    positivity
  · obtain ⟨hlow, hhigh⟩ := (holds_of_gridPoint? (shortest_coarsest hx).point).le
    rw [← Decimal.value] at hlow hhigh
    have hmiddle := four_mul_unit x
    have hends : (4 * x.mantissa : ℚ) ≤ x.basin.low + 2 ∧ (x.basin.high : ℚ) = 4 * x.mantissa + 2 := by
      refine ⟨by exact_mod_cast four_mul_le_low x, by simp [basin]⟩
    have hplace : (2 : ℚ) ^ (x.exponent - 1) = 2 * 2 ^ (x.exponent - 2) := by
      rw [← zpow_one_add₀ (by norm_num)]
      congr 1
      omega
    have hbelow : 4 * x.mantissa * (2 : ℚ) ^ (x.exponent - 2) ≤
        (x.basin.low + 2) * 2 ^ (x.exponent - 2) :=
      mul_le_mul_of_nonneg_right hends.1 (by positivity)
    have hmagnitude : |x.shortest.value - x.magnitude| ≤ 2 ^ (x.exponent - 1) := by
      rw [abs_le, hplace, ← hmiddle]
      rw [hends.2] at hhigh
      constructor <;> linarith
    rw [printed_of_ne_zero hx, value]
    split
    · rwa [neg_sub_neg, abs_sub_comm]
    · exact hmagnitude

theorem printed_eq_iff (h : n.natAbs ≤ 2 ^ 53 ∨ |x.value| ≤ 2 ^ 53) :
    x.printed = n ↔ x.value = n := by
  by_cases hx : x.mantissa = 0
  · rw [(printed_of_zero hx).1, (printed_of_zero hx).2]
  · have hbound : ((n.natAbs : ℕ) : ℚ) ≤ 2 ^ 53 ∨ x.magnitude ≤ 2 ^ 53 := by
      rw [abs_value] at h
      exact h.imp_left fun hn => by exact_mod_cast hn
    rw [printed_of_ne_zero hx, value, signed_eq_iff (shortest_value_pos hx),
      signed_eq_iff (magnitude_pos hx), shortest_value_eq_iff hx hbound]

end Double

namespace Json

open Text

variable {n : Int}

theorem integer_eq_signed_iff {t : Text} (ht : ∃ c rest, t = c :: rest ∧ c.isDigit) (negative : Bool) :
    Layout.integer n = (if negative then '-' :: t else t) ↔
      (n < 0 ↔ negative) ∧ t = Text.ofNat n.natAbs := by
  obtain ⟨c, rest, rfl, hc⟩ := ht
  obtain ⟨d, digits, hdigits, hd⟩ := exists_ofNat_eq n.natAbs
  have hsign {c : Char} (hc : c.isDigit) : c ≠ '-' := by
    rintro rfl
    exact absurd hc (by decide)
  rw [Layout.integer, hdigits]
  by_cases hn : n < 0 <;> cases negative <;>
    simp [hn, hsign hc, hsign hd, eq_comm]

theorem integer_eq_double_iff (hn : n.natAbs < 10 ^ 21) (x : Double) :
    Layout.integer n = canonicalLayout.double x ↔ x.printed = n := by
  have hlength : ((Text.ofNat n.natAbs).length : Int) ≤ canonicalLayout.stop := by
    have hle := (Nat.length_toDigits_le_iff (by omega) (by omega)).mpr hn
    exact Int.ofNat_le.mpr hle
  by_cases hx : x.mantissa = 0
  · have hzero : canonicalLayout.double x = Layout.integer 0 := by
      rw [Layout.double, if_pos (Double.isZero_iff.mpr hx)]
      split <;> rfl
    rw [hzero, (Double.printed_of_zero hx).1]
    constructor
    · intro h
      rw [(told_integer n 0 [] [] stops_nil stops_nil (by rw [h])).1, Int.cast_zero]
    · intro h
      rw [Int.cast_eq_zero.mp h.symm]
  · have hdouble : canonicalLayout.double x =
        if x.negative then '-' :: canonicalLayout.decimal x.shortest
        else canonicalLayout.decimal x.shortest := by
      rw [Layout.double, if_neg (by rwa [Double.isZero_iff])]
    rw [hdouble, integer_eq_signed_iff (Layout.exists_decimal_eq _ _),
      Layout.decimal_shortest_eq_iff rfl (by decide) hx hlength, Double.printed_of_ne_zero hx,
      Double.signed_eq_iff (Double.shortest_value_pos hx)]

/-- An integer has the canonical text of a floating-point number if it is the number that the shortest
digits stand for. This is no more than half a place from the floating-point number, and up to `2 ^ 53`
it is the integer just if the floating-point number itself is. -/
theorem canonicalEq_iff_printed (hn : -2 ^ 63 ≤ n ∧ n < 2 ^ 64) (x : Double) :
    let a : Json := .number (.integer n)
    let b : Json := .number (.double x)
    (canonicalEq a b ↔ x.printed = n) ∧
    (Digest.ofJson a = Digest.ofJson b ↔
      x.printed = n ∨ Digest.Collision a.canonicalOctets b.canonicalOctets) ∧
    |x.printed - x.value| ≤ 2 ^ (x.exponent - 1) ∧
    (n.natAbs ≤ 2 ^ 53 ∨ |x.value| ≤ 2 ^ 53 →
      (canonicalEq a b ↔ x.value = n) ∧
      (Digest.ofJson a = Digest.ofJson b ↔
        x.value = n ∨ Digest.Collision a.canonicalOctets b.canonicalOctets)) := by
  intro a b
  have heq : canonicalEq a b ↔ x.printed = n := by
    rw [canonicalEq, beq_iff_eq]
    exact integer_eq_double_iff (by omega) x
  have hdigest : Digest.ofJson a = Digest.ofJson b ↔
      x.printed = n ∨ Digest.Collision a.canonicalOctets b.canonicalOctets := by
    rw [digest_eq_iff, heq]
  refine ⟨heq, hdigest, x.abs_printed_sub_value_le, fun hbound => ?_⟩
  rw [heq, hdigest, Double.printed_eq_iff hbound]
  exact ⟨Iff.rfl, Iff.rfl⟩

def nearDouble : Double := ⟨false, 2 ^ 52, 1, by decide⟩

def farDouble : Double := ⟨false, 2 ^ 52, 11, by decide⟩

theorem canonicalEq_iff_printed_far :
    farDouble.value = (2 ^ 63 : Int) ∧
    canonicalEq (.number (.integer (2 ^ 63))) (.number (.double farDouble)) = false ∧
    canonicalEq (.number (.integer 9223372036854776000)) (.number (.double farDouble)) = true ∧
    nearDouble.value = (2 ^ 53 : Int) ∧
    canonicalEq (.number (.integer (2 ^ 53))) (.number (.double nearDouble)) = true := by
  have hshortest : farDouble.shortest = ⟨9223372036854776, 3⟩ := by decide +kernel
  have hprinted : farDouble.printed = 9223372036854776000 := by
    rw [Double.printed_of_ne_zero (by decide), hshortest, Decimal.value]
    norm_num [farDouble]
  have hnear : nearDouble.value = (2 ^ 53 : Int) := by
    norm_num [Double.value, Double.magnitude, nearDouble]
  refine ⟨?_, ?_, ?_, hnear, ?_⟩
  · norm_num [Double.value, Double.magnitude, farDouble]
  · rw [Bool.eq_false_iff, ne_eq, (canonicalEq_iff_printed (by decide) farDouble).1, hprinted]
    norm_num
  · rw [(canonicalEq_iff_printed (by decide) farDouble).1, hprinted]
    norm_num
  · obtain ⟨-, -, -, hbound⟩ := canonicalEq_iff_printed (n := 2 ^ 53) (by decide) nearDouble
    exact (hbound (.inl (by decide))).1.mpr hnear

end Json
end JsonReference
