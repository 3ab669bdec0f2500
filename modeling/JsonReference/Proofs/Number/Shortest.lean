import JsonReference.Number.Shortest
import Mathlib.Algebra.Order.Field.Power
import Mathlib.Data.Rat.Floor
import Mathlib.Tactic.FieldSimp
import Mathlib.Tactic.Linarith
import Mathlib.Tactic.Positivity
import Mathlib.Tactic.Ring

namespace JsonReference

def Decimal.value (d : Decimal) : ℚ := d.digits * 10 ^ d.exponent

namespace Double

def magnitude (x : Double) : ℚ := x.mantissa * 2 ^ x.exponent

def value (x : Double) : ℚ := if x.negative then -x.magnitude else x.magnitude

/-- The number whose digits are written for `x`. -/
def printed (x : Double) : ℚ :=
  if x.isZero then 0 else if x.negative then -x.shortest.value else x.shortest.value

variable {b : Basin} {e p q : Int} {d k fuel : Nat} {x : Double}

theorem powQuotient_pos {base : Nat} (hbase : 0 < base) (e : Int) :
    0 < (powQuotient base e).1 ∧ 0 < (powQuotient base e).2 := by
  cases e with
  | ofNat k => exact ⟨Nat.pow_pos hbase, Nat.one_pos⟩
  | negSucc k => exact ⟨Nat.one_pos, Nat.pow_pos hbase⟩

theorem powQuotient_fst {base : Nat} (hbase : 0 < base) (e : Int) :
    ((powQuotient base e).1 : ℚ) = base ^ e * (powQuotient base e).2 := by
  have hne : (base : ℚ) ≠ 0 := Nat.cast_ne_zero.mpr hbase.ne'
  cases e with
  | ofNat k => simp [powQuotient]
  | negSucc k => simp [powQuotient, zpow_negSucc, hne]

def quarter (e p : Int) : Nat := (powQuotient 2 (e - 2)).1 * (powQuotient 10 p).2

def spacing (e p : Int) : Nat := (powQuotient 2 (e - 2)).2 * (powQuotient 10 p).1

theorem quarter_pos (e p : Int) : 0 < quarter e p :=
  Nat.mul_pos (powQuotient_pos (by decide) _).1 (powQuotient_pos (by decide) _).2

theorem spacing_pos (e p : Int) : 0 < spacing e p :=
  Nat.mul_pos (powQuotient_pos (by decide) _).2 (powQuotient_pos (by decide) _).1

/-- Both count in the same unit, one over the product of the denominators. -/
theorem exists_common (e p : Int) : ∃ c : ℚ, 0 < c ∧
    (∀ k : Nat, ((k * quarter e p : Nat) : ℚ) = k * 2 ^ (e - 2) * c) ∧
    ∀ d : Nat, ((d * spacing e p : Nat) : ℚ) = d * 10 ^ p * c := by
  have htwo := (powQuotient_pos (show 0 < 2 by decide) (e - 2)).2
  have hten := (powQuotient_pos (show 0 < 10 by decide) p).2
  refine ⟨(powQuotient 2 (e - 2)).2 * (powQuotient 10 p).2, by positivity, fun k => ?_, fun d => ?_⟩
  · rw [quarter, Nat.cast_mul, Nat.cast_mul, powQuotient_fst (by decide)]
    push_cast
    ring
  · rw [spacing, Nat.cast_mul, Nat.cast_mul, powQuotient_fst (show 0 < 10 by decide)]
    push_cast
    ring

theorem mul_quarter_le_iff :
    k * quarter e p ≤ d * spacing e p ↔ (k : ℚ) * 2 ^ (e - 2) ≤ d * 10 ^ p := by
  obtain ⟨c, hc, hquarter, hspacing⟩ := exists_common e p
  rw [← Nat.cast_le (α := ℚ), hquarter, hspacing, mul_le_mul_iff_left₀ hc]

theorem mul_spacing_le_iff :
    d * spacing e p ≤ k * quarter e p ↔ (d : ℚ) * 10 ^ p ≤ k * 2 ^ (e - 2) := by
  obtain ⟨c, hc, hquarter, hspacing⟩ := exists_common e p
  rw [← Nat.cast_le (α := ℚ), hquarter, hspacing, mul_le_mul_iff_left₀ hc]

def Basin.Holds (b : Basin) (unit v : ℚ) : Prop :=
  if b.closed then b.low * unit ≤ v ∧ v ≤ b.high * unit else b.low * unit < v ∧ v < b.high * unit

def Basin.holdsPoint (b : Basin) (a u d : Nat) : Bool :=
  if b.closed then b.low * a ≤ d * u && d * u ≤ b.high * a
  else b.low * a < d * u && d * u < b.high * a

theorem holdsPoint_iff :
    b.holdsPoint (quarter e p) (spacing e p) d ↔ b.Holds (2 ^ (e - 2)) (d * 10 ^ p) := by
  unfold Basin.holdsPoint Basin.Holds
  split
  · simp [mul_quarter_le_iff, mul_spacing_le_iff]
  · simp [← not_le, mul_quarter_le_iff, mul_spacing_le_iff]

def Basin.pick (b : Basin) (a u : Nat) : Option Nat :=
  let d := b.middle * a / u
  match b.holdsPoint a u d, b.holdsPoint a u (d + 1) with
  | false, false => none
  | true, false => some d
  | false, true => some (d + 1)
  | true, true =>
      if b.middle * a - d * u < (d + 1) * u - b.middle * a then some d
      else if (d + 1) * u - b.middle * a < b.middle * a - d * u then some (d + 1)
      else if d % 2 = 0 then some d else some (d + 1)

theorem gridPoint?_eq (b : Basin) (e p : Int) :
    gridPoint? b e p = b.pick (quarter e p) (spacing e p) := rfl

variable {a u : Nat}

theorem holdsPoint_of_pick (h : b.pick a u = some d) : b.holdsPoint a u d := by
  unfold Basin.pick at h
  dsimp only at h
  split at h
  · cases h
  · cases h
    assumption
  · cases h
    assumption
  · split_ifs at h <;> cases h <;> assumption

theorem pick_eq_none (h : b.pick a u = none) :
    ¬ b.holdsPoint a u (b.middle * a / u) ∧ ¬ b.holdsPoint a u (b.middle * a / u + 1) := by
  unfold Basin.pick at h
  dsimp only at h
  split at h
  · next hd hd' => simp [hd, hd']
  · cases h
  · cases h
  · split_ifs at h

structure Basin.Open (b : Basin) : Prop where
  low : b.low < b.middle
  high : b.middle < b.high

theorem Basin.Open.scaled (hb : b.Open) (ha : 0 < a) :
    b.low * a < b.middle * a ∧ b.middle * a < b.high * a :=
  ⟨Nat.mul_lt_mul_of_pos_right hb.low ha, Nat.mul_lt_mul_of_pos_right hb.high ha⟩

theorem pick_isSome (hb : b.Open) (ha : 0 < a) (hu : 0 < u) (h : b.holdsPoint a u d) :
    (b.pick a u).isSome := by
  obtain ⟨hlow, hhigh⟩ := hb.scaled ha
  have hbelow : b.middle * a / u * u ≤ b.middle * a := Nat.div_mul_le_self _ _
  have habove : b.middle * a < (b.middle * a / u + 1) * u := by
    rw [← Nat.div_lt_iff_lt_mul hu]
    exact Nat.lt_succ_self _
  by_contra hnone
  obtain ⟨hnot, hnot'⟩ := pick_eq_none (Option.not_isSome_iff_eq_none.mp hnone)
  generalize b.middle * a / u = n at hbelow habove hnot hnot'
  -- No point of the grid is between these two.
  have hstep : (n + 1) * u ≤ d * u ∨ d * u ≤ n * u :=
    (Nat.lt_or_ge n d).imp (Nat.mul_le_mul_right u) (Nat.mul_le_mul_right u)
  cases hclosed : b.closed <;>
    simp only [Basin.holdsPoint, hclosed, Bool.false_eq_true, if_true, if_false, Bool.and_eq_true,
      decide_eq_true_eq] at h hnot hnot' <;>
    omega

theorem pick_of_exact (hb : b.Open) (ha : 0 < a) (hu : 0 < u) (h : b.middle * a = d * u) :
    b.pick a u = some d := by
  obtain ⟨hlow, hhigh⟩ := hb.scaled ha
  have hdiv : b.middle * a / u = d := by rw [h, Nat.mul_div_cancel d hu]
  have hholds : b.holdsPoint a u d = true := by
    unfold Basin.holdsPoint
    split <;> simp <;> omega
  have hnear : b.middle * a - d * u < (d + 1) * u - b.middle * a := by
    rw [Nat.succ_mul]
    omega
  unfold Basin.pick
  simp only [hdiv, hholds, if_pos hnear]
  split <;> simp_all

/-- The point of the coarsest grid up to `10 ^ 308` that has one in the basin. -/
structure Coarsest (b : Basin) (e : Int) (s : Decimal) : Prop where
  point : gridPoint? b e s.exponent = some s.digits
  above : ∀ p, s.exponent < p → p ≤ 308 → gridPoint? b e p = none
  le : s.exponent ≤ 308

theorem coarsest_of_isSome (hsome : (gridPoint? b e q).isSome) (hlow : p - fuel < q) (hq : q ≤ p)
    (hp : p ≤ 308) (habove : ∀ p', p < p' → p' ≤ 308 → gridPoint? b e p' = none) :
    Coarsest b e (coarsest b e fuel p) ∧ q ≤ (coarsest b e fuel p).exponent := by
  induction fuel generalizing p with
  | zero => omega
  | succ fuel ih =>
      rw [coarsest]
      cases hpoint : gridPoint? b e p with
      | some d => exact ⟨⟨hpoint, habove, hp⟩, hq⟩
      | none =>
          -- The search goes down, and the grid that it leaves joins those without a point.
          have hne : q ≠ p := by
            rintro rfl
            simp [hpoint] at hsome
          refine ih (by omega) (by omega) (by omega) fun p' hlt hle => ?_
          rcases Int.lt_or_eq_of_le (Int.add_one_le_of_lt hlt) with hlt | heq
          · exact habove p' (by omega) hle
          · rw [← hpoint]
            congr 1
            omega

theorem open_basin (hx : x.mantissa ≠ 0) : x.basin.Open := by
  constructor
  · simp only [basin]
    split <;> omega
  · simp [basin]

theorem gridPoint?_isSome (hx : x.mantissa ≠ 0)
    (h : x.basin.Holds (2 ^ (x.exponent - 2)) (d * 10 ^ p)) :
    (gridPoint? x.basin x.exponent p).isSome := by
  rw [gridPoint?_eq]
  exact pick_isSome (open_basin hx) (quarter_pos _ _) (spacing_pos _ _) (holdsPoint_iff.mpr h)

theorem holds_of_gridPoint? (h : gridPoint? x.basin x.exponent p = some d) :
    x.basin.Holds (2 ^ (x.exponent - 2)) (d * 10 ^ p) := by
  rw [gridPoint?_eq] at h
  exact holdsPoint_iff.mp (holdsPoint_of_pick h)

theorem four_mul_unit (x : Double) : 4 * x.mantissa * (2 : ℚ) ^ (x.exponent - 2) = x.magnitude := by
  rw [magnitude, zpow_sub₀ (by norm_num)]
  norm_num
  ring

theorem low_mul_lt (hx : x.mantissa ≠ 0) :
    (x.basin.low : ℚ) * 2 ^ (x.exponent - 2) < x.magnitude := by
  rw [← four_mul_unit]
  have hlow : (x.basin.low : ℚ) < 4 * x.mantissa := by exact_mod_cast (open_basin hx).low
  gcongr

theorem gridPoint?_of_exact (hx : x.mantissa ≠ 0) (h : x.magnitude = d * 10 ^ p) :
    gridPoint? x.basin x.exponent p = some d := by
  have hexact : x.basin.middle * quarter x.exponent p = d * spacing x.exponent p := by
    apply Nat.le_antisymm
    · rw [mul_quarter_le_iff, ← h, ← four_mul_unit]
      simp [basin]
    · rw [mul_spacing_le_iff, ← h, ← four_mul_unit]
      simp [basin]
  rw [gridPoint?_eq]
  exact pick_of_exact (open_basin hx) (quarter_pos _ _) (spacing_pos _ _) hexact

theorem Basin.holds_of_lt {unit v : ℚ} (hlow : b.low * unit < v) (hhigh : v < b.high * unit) :
    b.Holds unit v := by
  unfold Basin.Holds
  split
  · exact ⟨hlow.le, hhigh.le⟩
  · exact ⟨hlow, hhigh⟩

theorem Basin.Holds.le {unit v : ℚ} (h : b.Holds unit v) :
    b.low * unit ≤ v ∧ v ≤ b.high * unit := by
  unfold Basin.Holds at h
  split at h
  · exact h
  · exact ⟨h.1.le, h.2.le⟩

theorem gridPoint?_of_fine (hx : x.mantissa ≠ 0) (hp : (10 : ℚ) ^ p < 2 * 2 ^ (x.exponent - 2)) :
    (gridPoint? x.basin x.exponent p).isSome := by
  have hmiddle := four_mul_unit x
  have hhigh : (x.basin.high : ℚ) = 4 * x.mantissa + 2 := by simp [basin]
  have hlow := low_mul_lt hx
  have hspacing : (0 : ℚ) < 10 ^ p := by positivity
  have hnonneg : 0 ≤ x.magnitude / 10 ^ p := by
    unfold magnitude
    positivity
  have hbelow := Nat.floor_le hnonneg
  have habove := Nat.lt_floor_add_one (x.magnitude / 10 ^ p)
  rw [le_div_iff₀ hspacing] at hbelow
  rw [div_lt_iff₀ hspacing] at habove
  apply gridPoint?_isSome hx (d := ⌊x.magnitude / 10 ^ p⌋₊ + 1)
  apply Basin.holds_of_lt
  · push_cast
    linarith
  · rw [hhigh]
    push_cast
    linarith

theorem ten_zpow_lt {m n : Nat} (h : 2 ^ m < 10 ^ n) : (10 : ℚ) ^ (-n : Int) < 2 ^ (-m : Int) := by
  have hcast : (2 : ℚ) ^ m < 10 ^ n := by exact_mod_cast h
  rw [zpow_neg, zpow_neg, zpow_natCast, zpow_natCast]
  exact inv_strictAnti₀ (by positivity) hcast

theorem gridPoint?_finest (hx : x.mantissa ≠ 0) : (gridPoint? x.basin x.exponent (-324)).isSome := by
  have hleast := x.normal.2.1
  have hunit : (2 : ℚ) ^ (-1075 : Int) ≤ 2 * 2 ^ (x.exponent - 2) := by
    rw [← zpow_one_add₀ (by norm_num)]
    exact zpow_le_zpow_right₀ (by norm_num) (by omega)
  have hspacing : (10 : ℚ) ^ (-324 : Int) < 2 ^ (-1075 : Int) :=
    ten_zpow_lt (m := 1075) (n := 324) (by decide +kernel)
  exact gridPoint?_of_fine hx (hspacing.trans_le hunit)

theorem shortest_coarsest (hx : x.mantissa ≠ 0) : Coarsest x.basin x.exponent x.shortest :=
  (coarsest_of_isSome (gridPoint?_finest hx) (by decide) (by decide) (by decide)
    fun _ _ _ => by omega).1

theorem le_shortest_exponent (hq : -324 ≤ q) (hq' : q ≤ 308)
    (h : (gridPoint? x.basin x.exponent q).isSome) : q ≤ x.shortest.exponent :=
  (coarsest_of_isSome h (by omega) hq' (by decide) fun _ _ _ => by omega).2

theorem shortest_digits_pos (hx : x.mantissa ≠ 0) : 0 < x.shortest.digits := by
  have hholds := (holds_of_gridPoint? (shortest_coarsest hx).point).le.1
  have hlow : 0 < x.basin.low := by
    simp only [basin]
    split <;> omega
  by_contra hzero
  rw [Nat.eq_zero_of_not_pos hzero, Nat.cast_zero, zero_mul] at hholds
  have hpos : (0 : ℚ) < x.basin.low * 2 ^ (x.exponent - 2) := by positivity
  linarith

theorem not_ten_dvd_shortest (hx : x.mantissa ≠ 0) (h : x.shortest.exponent < 308) :
    ¬ 10 ∣ x.shortest.digits := by
  rintro ⟨d, hd⟩
  have hs := shortest_coarsest hx
  have hholds := holds_of_gridPoint? hs.point
  rw [hd] at hholds
  have hvalue : ((10 * d : ℕ) : ℚ) * 10 ^ x.shortest.exponent = d * 10 ^ (x.shortest.exponent + 1) := by
    rw [zpow_add_one₀ (by norm_num)]
    push_cast
    ring
  rw [hvalue] at hholds
  have hsome := gridPoint?_isSome hx hholds
  rw [hs.above _ (by omega) (by omega)] at hsome
  cases hsome

theorem magnitude_nonneg (x : Double) : 0 ≤ x.magnitude := by
  unfold magnitude
  positivity

theorem four_mul_le_low (x : Double) : 4 * x.mantissa ≤ x.basin.low + 2 := by
  simp only [basin]
  split <;> omega

theorem magnitude_eq_of_holds {n : Nat} (he : x.exponent ≤ 0)
    (h : x.basin.Holds (2 ^ (x.exponent - 2)) n) : x.magnitude = n := by
  obtain ⟨k, hk⟩ : ∃ k : Nat, x.exponent = -k := ⟨x.exponent.natAbs, by omega⟩
  have hpow : (2 : ℚ) ^ x.exponent = 1 / 2 ^ k := by rw [hk, zpow_neg, zpow_natCast, one_div]
  have hunit : (2 : ℚ) ^ (x.exponent - 2) = 1 / (4 * 2 ^ k) := by
    rw [zpow_sub₀ (by norm_num), hpow]
    norm_num
    ring
  obtain ⟨hlow, hhigh⟩ := h.le
  rw [hunit, mul_one_div, div_le_iff₀ (by positivity)] at hlow
  rw [hunit, mul_one_div, le_div_iff₀ (by positivity)] at hhigh
  have hlow' : x.basin.low ≤ n * (4 * 2 ^ k) := by exact_mod_cast hlow
  have hhigh' : n * (4 * 2 ^ k) ≤ x.basin.high := by exact_mod_cast hhigh
  have hmantissa : x.mantissa = n * 2 ^ k := by
    have hfour := four_mul_le_low x
    have hscale : n * (4 * 2 ^ k) = 4 * (n * 2 ^ k) := by ring
    rw [hscale] at hlow' hhigh'
    simp only [basin] at hhigh'
    omega
  rw [magnitude, hpow, hmantissa]
  push_cast
  field_simp

theorem mantissa_eq_of_low_le (he : 1 ≤ x.exponent)
    (h : (x.basin.low : ℚ) * 2 ^ (x.exponent - 2) ≤ 2 ^ 53) :
    x.mantissa = 2 ^ 52 ∧ x.exponent = 1 := by
  have hmantissa : 2 ^ 52 ≤ x.mantissa := x.normal.2.2.2.resolve_right (by omega)
  have hfour := four_mul_le_low x
  rcases Int.lt_or_eq_of_le he with hlt | hone
  · exfalso
    have hunit : (1 : ℚ) ≤ 2 ^ (x.exponent - 2) := one_le_zpow₀ (by norm_num) (by omega)
    have hlow : (2 ^ 54 - 2 : ℚ) ≤ x.basin.low := by
      have hnat : 2 ^ 54 ≤ x.basin.low + 2 := by omega
      have hcast : (2 ^ 54 : ℚ) ≤ x.basin.low + 2 := by exact_mod_cast hnat
      linarith
    have hle : (x.basin.low : ℚ) ≤ x.basin.low * 2 ^ (x.exponent - 2) :=
      le_mul_of_one_le_right (Nat.cast_nonneg _) hunit
    linarith
  · refine ⟨?_, hone.symm⟩
    have hhalf : (2 : ℚ) ^ (1 - 2 : Int) = 1 / 2 := by norm_num
    rw [← hone, hhalf] at h
    have hcast : (x.basin.low : ℚ) ≤ 2 ^ 54 := by linarith
    have hle : x.basin.low ≤ 2 ^ 54 := by exact_mod_cast hcast
    by_contra hne
    have hlow : x.basin.low = 4 * x.mantissa - 2 := by
      simp only [basin]
      rw [if_neg fun hpow => hne hpow.1]
    omega

theorem shortest_of_mantissa (hmantissa : x.mantissa = 2 ^ 52) (he : x.exponent = 1) :
    x.shortest.value = x.magnitude := by
  have hsearch : coarsest ⟨4 * 2 ^ 52 - 1, 4 * 2 ^ 52, 4 * 2 ^ 52 + 2, true⟩ 1 633 308 =
      ⟨2 ^ 53, 0⟩ := by decide +kernel
  have hbasin : x.basin = ⟨4 * 2 ^ 52 - 1, 4 * 2 ^ 52, 4 * 2 ^ 52 + 2, true⟩ := by
    simp [basin, hmantissa, he]
  rw [shortest, hbasin, he, hsearch, Decimal.value, magnitude, hmantissa, he]
  norm_num

/-- Up to `2 ^ 53` the digits of a whole number are its own, and no other number has them. -/
theorem shortest_value_eq_iff {n : Nat} (hx : x.mantissa ≠ 0)
    (h : (n : ℚ) ≤ 2 ^ 53 ∨ x.magnitude ≤ 2 ^ 53) : x.shortest.value = n ↔ x.magnitude = n := by
  have hpoint : x.basin.Holds (2 ^ (x.exponent - 2)) x.shortest.value :=
    holds_of_gridPoint? (shortest_coarsest hx).point
  rcases lt_or_ge 0 x.exponent with he | he
  · have hvalue (hle : (x.basin.low : ℚ) * 2 ^ (x.exponent - 2) ≤ 2 ^ 53) :
        x.shortest.value = x.magnitude := by
      obtain ⟨hmantissa, hone⟩ := mantissa_eq_of_low_le he hle
      exact shortest_of_mantissa hmantissa hone
    have hlow := (low_mul_lt hx).le
    constructor
    · intro hn
      rw [← hvalue (h.elim (fun hle => (hn ▸ hpoint.le.1).trans hle) hlow.trans), hn]
    · intro hn
      rw [hvalue (h.elim (fun hle => (hn ▸ hlow).trans hle) hlow.trans), hn]
  · constructor
    · intro hn
      apply magnitude_eq_of_holds he
      rwa [← hn]
    · -- The whole numbers are a grid with a point, so the digits are on it or on a coarser one.
      intro hn
      have hexact : gridPoint? x.basin x.exponent 0 = some n :=
        gridPoint?_of_exact hx (by rw [hn, zpow_zero, mul_one])
      obtain ⟨p, hp⟩ := Int.eq_ofNat_of_zero_le
        (le_shortest_exponent (by decide) (by decide) (Option.isSome_of_eq_some hexact))
      have hwhole : x.shortest.value = ((x.shortest.digits * 10 ^ p : Nat) : ℚ) := by
        rw [Decimal.value, hp]
        push_cast
        rw [zpow_natCast]
      rw [hwhole] at hpoint
      rw [hwhole, ← magnitude_eq_of_holds he hpoint, hn]

end Double
end JsonReference
