import JsonReference.Number.Shortest
import JsonReference.Text.Basic

namespace JsonReference

/-- A number whose leading digit stands for `10 ^ e` is written in positions for `least ≤ e < stop`,
and with a mark and a signed exponent otherwise. -/
structure Layout where
  least : Int
  stop : Int
  wholePoint : Bool
  zero : Text
  negativeZero : Text

namespace Layout

def zeros (n : Nat) : Text := List.replicate n '0'

def positional (style : Layout) (digits : Text) (p e : Int) : Text :=
  if 0 ≤ p then digits ++ zeros p.toNat ++ (if style.wholePoint then ['.', '0'] else [])
  else if 0 ≤ e then digits.take (e.toNat + 1) ++ '.' :: digits.drop (e.toNat + 1)
  else '0' :: '.' :: zeros (-e - 1).toNat ++ digits

def signed (e : Int) : Text := (if e < 0 then '-' else '+') :: Text.ofNat e.natAbs

def scientific (digits : Text) (e : Int) : Text :=
  match digits with
  | [d] => d :: 'e' :: signed e
  | d :: ds => d :: '.' :: ds ++ 'e' :: signed e
  | [] => []

def decimal (style : Layout) (d : Decimal) : Text :=
  let digits := Text.ofNat d.digits
  let e := d.exponent + digits.length - 1
  if style.least ≤ e ∧ e < style.stop then style.positional digits d.exponent e
  else scientific digits e

def double (style : Layout) (x : Double) : Text :=
  if x.isZero then if x.negative then style.negativeZero else style.zero
  else if x.negative then '-' :: style.decimal x.shortest
  else style.decimal x.shortest

def integer (n : Int) : Text :=
  if n < 0 then '-' :: Text.ofNat n.natAbs else Text.ofNat n.natAbs

end Layout
end JsonReference
