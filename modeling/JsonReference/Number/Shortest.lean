import JsonReference.Number.Double

namespace JsonReference

structure Decimal where
  digits : Nat
  exponent : Int
deriving DecidableEq, Repr

namespace Double

/-- The reals that round to a number, in quarters of its last place: they lie between `low` and
`high` around `middle`, and the ends belong to them when the mantissa is even. -/
structure Basin where
  low : Nat
  middle : Nat
  high : Nat
  closed : Bool

def basin (x : Double) : Basin where
  low := 4 * x.mantissa - (if x.mantissa = Nat.pow 2 52 ∧ x.exponent ≠ -1074 then 1 else 2)
  middle := 4 * x.mantissa
  high := 4 * x.mantissa + 2
  closed := x.mantissa % 2 == 0

def powQuotient (base : Nat) : Int → Nat × Nat
  | .ofNat k => (Nat.pow base k, 1)
  | .negSucc k => (1, Nat.pow base (k + 1))

/-- The point of the grid `10 ^ p` that stands for the basin, if one lies in it. -/
def gridPoint? (b : Basin) (e p : Int) : Option Nat :=
  let (two, half) := powQuotient 2 (e - 2)
  let (ten, tenth) := powQuotient 10 p
  let a := two * tenth
  let u := half * ten
  let inside (d : Nat) : Bool :=
    if b.closed then b.low * a ≤ d * u && d * u ≤ b.high * a
    else b.low * a < d * u && d * u < b.high * a
  let d := b.middle * a / u
  let below := b.middle * a - d * u
  let above := (d + 1) * u - b.middle * a
  match inside d, inside (d + 1) with
  | false, false => none
  | true, false => some d
  | false, true => some (d + 1)
  | true, true =>
      if below < above then some d
      else if above < below then some (d + 1)
      else if d % 2 = 0 then some d else some (d + 1)

def coarsest (b : Basin) (e : Int) : Nat → Int → Decimal
  | 0, p => ⟨0, p⟩
  | fuel + 1, p =>
      match gridPoint? b e p with
      | some d => ⟨d, p⟩
      | none => coarsest b e fuel (p - 1)

/-- The digits of a number other than zero. The grid `10 ^ -324` is finer than any number needs. -/
def shortest (x : Double) : Decimal := coarsest x.basin x.exponent 633 308

end Double
end JsonReference
