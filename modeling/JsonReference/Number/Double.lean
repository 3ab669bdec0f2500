namespace JsonReference

/-- Every number has one mantissa and exponent: the mantissa is as long as the bounds allow. -/
def Double.Normal (mantissa : Nat) (exponent : Int) : Prop :=
  mantissa < Nat.pow 2 53 ∧ -1074 ≤ exponent ∧ exponent ≤ 971 ∧
    (Nat.pow 2 52 ≤ mantissa ∨ exponent = -1074)

instance (mantissa : Nat) (exponent : Int) : Decidable (Double.Normal mantissa exponent) :=
  inferInstanceAs (Decidable (_ ∧ _))

/-- The number `± mantissa * 2 ^ exponent`. Zero has a sign too. -/
structure Double where
  negative : Bool
  mantissa : Nat
  exponent : Int
  normal : Double.Normal mantissa exponent
deriving DecidableEq

namespace Double

def zero (negative : Bool) : Double := ⟨negative, 0, -1074, by decide⟩

instance : Inhabited Double := ⟨zero false⟩

def isZero (x : Double) : Bool := x.mantissa == 0

def same (x y : Double) : Bool :=
  x.mantissa == y.mantissa && x.exponent == y.exponent && (x.negative == y.negative || x.isZero)

def nearest (num den : Nat) : Nat :=
  let q := num / den
  let r := num % den
  if 2 * r < den then q
  else if den < 2 * r then q + 1
  else if q % 2 = 0 then q else q + 1

def ofParts? (negative : Bool) (mantissa : Nat) (exponent : Int) : Option Double :=
  if h : Normal mantissa exponent then some ⟨negative, mantissa, exponent, h⟩ else none

def scaled (num den : Nat) (scale : Int) : Nat × Nat :=
  match scale with
  | .ofNat s => (num * Nat.pow 2 s, den)
  | .negSucc s => (num, den * Nat.pow 2 (s + 1))

/-- The exponent at which the quotient has 53 bits, one more or less, but never below the least. -/
def guess (num den : Nat) (scale : Int) : Int :=
  max (-1074) ((num.log2 : Int) - (den.log2 : Int) + scale - 53)

def roundAt? (negative : Bool) (num den : Nat) (scale e : Int) : Option Double :=
  let (n, d) := scaled num den (scale - e)
  let m := nearest n d
  if m < Nat.pow 2 53 then ofParts? negative m e
  else
    let (n, d) := scaled num den (scale - (e + 1))
    let m := nearest n d
    if m < Nat.pow 2 53 then ofParts? negative m (e + 1) else ofParts? negative (m / 2) (e + 2)

/-- The number nearest to `± num / den * 2 ^ scale`, unless that is out of range. -/
def round? (negative : Bool) (num den : Nat) (scale : Int) : Option Double :=
  if num = 0 then some (zero negative) else roundAt? negative num den scale (guess num den scale)

end Double
end JsonReference
