namespace JsonReference

abbrev Text := List Char

abbrev Octets := List UInt8

namespace Text

def str (t : Text) : String := String.ofList t

def ofString (s : String) : Text := s.toList

def ofNat (n : Nat) : Text := Nat.toDigits 10 n

def size (t : Text) : Nat := t.foldr (·.utf8Size + ·) 0

def octets (t : Text) : Octets := t.flatMap String.utf8EncodeChar

def cut (c : Char) : Text → Text × Option Text
  | [] => ([], none)
  | x :: r => if x = c then ([], some r) else (x :: (cut c r).1, (cut c r).2)

/-- The stretches between the occurrences of `c`: one more than there are occurrences. -/
def segments (c : Char) : Text → List Text
  | [] => [[]]
  | x :: r =>
      if x = c then [] :: segments c r
      else match segments c r with
        | [] => [[x]]
        | s :: ss => (x :: s) :: ss

def join (sep : Text) : List Text → Text
  | [] => []
  | [t] => t
  | t :: ts => t ++ sep ++ join sep ts

/-- The text up to and including its last `c`, and what follows it. -/
def cutLast? (c : Char) : Text → Option (Text × Text)
  | [] => none
  | x :: r =>
      match cutLast? c r with
      | some (front, back) => some (x :: front, back)
      | none => if x = c then some ([c], r) else none

def dropFront? : (front t : Text) → Option Text
  | [], t => some t
  | _ :: _, [] => none
  | x :: front, y :: t => if x = y then dropFront? front t else none

def lower (t : Text) : Text := t.map Char.toLower

def isHexDigit (c : Char) : Bool :=
  c.isDigit || ('a' ≤ c && c ≤ 'f') || ('A' ≤ c && c ≤ 'F')

def hexValue (c : Char) : Nat :=
  if c.isDigit then c.toNat - '0'.toNat
  else if 'a' ≤ c then c.toNat - 'a'.toNat + 10
  else c.toNat - 'A'.toNat + 10

def hexLower (n : Nat) : Text := Nat.toDigits 16 n

end Text
end JsonReference
