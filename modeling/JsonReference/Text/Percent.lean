import JsonReference.Text.Utf8

namespace JsonReference.Percent

def isUnreserved (c : Char) : Bool :=
  c.isAlphanum || c == '-' || c == '_' || c == '.' || c == '~'

def hexUpper (n : Nat) : Char := (Nat.digitChar n).toUpper

def escape (b : UInt8) : Text := ['%', hexUpper (b.toNat / 16), hexUpper (b.toNat % 16)]

def encodeWith (keep : Char → Bool) (t : Text) : Text :=
  t.flatMap fun c => if keep c then [c] else (String.utf8EncodeChar c).flatMap escape

def encode (t : Text) : Text := encodeWith isUnreserved t

/-- The octets that a text stands for; a `%` without two digits behind it stands for itself. -/
def octets : Text → Octets
  | [] => []
  | '%' :: a :: b :: r =>
      if Text.isHexDigit a && Text.isHexDigit b then
        UInt8.ofNat (Text.hexValue a * 16 + Text.hexValue b) :: octets r
      else String.utf8EncodeChar '%' ++ octets (a :: b :: r)
  | c :: r => String.utf8EncodeChar c ++ octets r

def decode (t : Text) : Except Utf8.Fault Text := Utf8.decode (octets t)

end JsonReference.Percent
