import JsonReference.Number.Double
import JsonReference.Text.Basic

namespace JsonReference.Double

/-- `significand * 10 ^ exponent`, unless that is out of range. What is no less than `10 ^ 309` is
beyond every number, and what is less than `10 ^ -324` is nearest to zero. -/
def ofDecimal? (negative : Bool) (significand : Nat) (exponent : Int) : Option Double :=
  let places : Int := exponent + (Text.ofNat significand).length
  if significand = 0 ∨ places ≤ -324 then some (zero negative)
  else if 310 ≤ places then none
  else
    match exponent with
    | .ofNat k => round? negative (significand * Nat.pow 10 k) 1 0
    | .negSucc k => round? negative significand (Nat.pow 10 (k + 1)) 0

end JsonReference.Double
