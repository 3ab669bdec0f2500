import JsonReference.Json.Canonical
import JsonReference.Proofs.Json.Written
import JsonReference.Proofs.Number.Shortest

namespace JsonReference

open Text

namespace Layout

variable {style : Layout} {d : Decimal} {t : Text} {n p : Nat} {x : Double}

theorem ofNat_append_zeros (hn : 0 < n) (p : Nat) : Text.ofNat n ++ zeros p = Text.ofNat (n * 10 ^ p) := by
  induction p with
  | zero => simp [zeros]
  | succ p ih =>
      have hzeros : zeros (p + 1) = zeros p ++ Text.ofNat 0 := List.replicate_succ'
      have hstep : n * 10 ^ (p + 1) = 10 * (n * 10 ^ p) + 0 := by ring
      rw [hzeros, ← List.append_assoc, ih, hstep]
      exact Nat.toDigits_append_toDigits (by omega) (by positivity) (by omega)

theorem length_ofNat_mul (hn : 0 < n) (p : Nat) :
    (Text.ofNat (n * 10 ^ p)).length = (Text.ofNat n).length + p := by
  rw [← ofNat_append_zeros hn, List.length_append, zeros, List.length_replicate]

theorem ne_ofNat {c : Char} (hc : c.isDigit = false) (ht : c ∈ t) (n : Nat) : t ≠ Text.ofNat n := by
  rintro rfl
  rw [isDigit_of_mem_ofNat ht] at hc
  cases hc

theorem positional_of_whole (hpoint : style.wholePoint = false) (hn : 0 < n) (p : Nat) (e : Int) :
    style.positional (Text.ofNat n) p e = Text.ofNat (n * 10 ^ p) := by
  rw [positional, if_pos (Int.natCast_nonneg p), hpoint, Int.toNat_natCast, ofNat_append_zeros hn]
  exact List.append_nil _

theorem point_mem_positional {e e' : Int} (he : e < 0) : '.' ∈ style.positional t e e' := by
  rw [positional, if_neg (by omega)]
  split <;> simp

theorem mark_mem_scientific (ht : t ≠ []) (e : Int) : 'e' ∈ scientific t e := by
  unfold scientific
  split <;> simp_all

theorem exists_decimal_eq (style : Layout) (d : Decimal) :
    ∃ c rest, style.decimal d = c :: rest ∧ c.isDigit := by
  obtain ⟨c, rest, hdigits, hc⟩ := Json.exists_ofNat_eq d.digits
  simp only [decimal, hdigits]
  split
  · unfold positional
    split
    · exact ⟨_, _, rfl, hc⟩
    · split
      · exact ⟨_, _, rfl, hc⟩
      · exact ⟨_, _, rfl, by decide⟩
  · cases rest <;> exact ⟨_, _, rfl, hc⟩

theorem decimal_eq_ofNat_iff (hpoint : style.wholePoint = false) (hleast : style.least ≤ 0)
    (hd : 0 < d.digits) :
    style.decimal d = Text.ofNat n ↔
      ∃ p : Nat, d.exponent = p ∧ d.digits * 10 ^ p = n ∧
        ((Text.ofNat n).length : Int) ≤ style.stop := by
  obtain ⟨c, rest, hdigits, hc⟩ := Json.exists_ofNat_eq d.digits
  have hlength : 1 ≤ (Text.ofNat d.digits).length := by simp [hdigits]
  simp only [decimal]
  split
  · next hrange =>
    constructor
    · intro h
      rcases lt_or_ge d.exponent 0 with hneg | hp
      · exact absurd h (ne_ofNat (by decide) (point_mem_positional hneg) n)
      · obtain ⟨p, hp⟩ := Int.eq_ofNat_of_zero_le hp
        rw [hp, positional_of_whole hpoint hd] at h
        have hn := Pointer.ofNat_inj h
        refine ⟨p, hp, hn, ?_⟩
        rw [← hn, length_ofNat_mul hd]
        omega
    · rintro ⟨p, hp, rfl, -⟩
      rw [hp, positional_of_whole hpoint hd]
  · next hrange =>
    constructor
    · intro h
      exact absurd h (ne_ofNat (by decide) (mark_mem_scientific (by simp [hdigits]) _) n)
    · -- As a whole number it has a digit for each place, so it is in the range of positions.
      rintro ⟨p, hp, rfl, hstop⟩
      rw [length_ofNat_mul hd] at hstop
      omega

/-- The digits of a number are those of a whole number just if the shortest decimal is that number. -/
theorem decimal_shortest_eq_iff (hpoint : style.wholePoint = false) (hleast : style.least ≤ 0)
    (hx : x.mantissa ≠ 0) (hn : ((Text.ofNat n).length : Int) ≤ style.stop) :
    style.decimal x.shortest = Text.ofNat n ↔ x.shortest.value = n := by
  have hd := Double.shortest_digits_pos hx
  rw [decimal_eq_ofNat_iff hpoint hleast hd, Decimal.value]
  constructor
  · rintro ⟨p, hp, rfl, -⟩
    rw [hp]
    push_cast
    rw [zpow_natCast]
  · intro h
    rcases lt_or_ge x.shortest.exponent 0 with hneg | hp
    · -- A whole number off the whole grids would have digits that end in a zero.
      exfalso
      obtain ⟨p, hp⟩ := Int.exists_eq_neg_ofNat hneg.le
      rw [hp, zpow_neg, zpow_natCast, mul_inv_eq_iff_eq_mul₀ (by positivity)] at h
      have hdigits : x.shortest.digits = n * 10 ^ p := by exact_mod_cast h
      refine Double.not_ten_dvd_shortest hx (by omega) ?_
      rw [hdigits]
      exact (dvd_pow_self 10 (by omega)).mul_left n
    · obtain ⟨p, hp⟩ := Int.eq_ofNat_of_zero_le hp
      refine ⟨p, hp, ?_, hn⟩
      rw [hp, zpow_natCast] at h
      exact_mod_cast h

end Layout
end JsonReference
