import JsonReference.Text.Basic

namespace JsonReference.Punycode

def digit? (c : Char) : Option Nat :=
  if 'a' ≤ c && c ≤ 'z' then some (c.toNat - 'a'.toNat)
  else if c.isDigit then some (c.toNat - '0'.toNat + 26)
  else none

def limit : Nat := Nat.pow 2 32

/-- A digit below its threshold is the last one of a number. -/
def threshold (place bias : Nat) : Nat := min 26 (max 1 (place - bias))

def number? (place weight bias sum : Nat) : Text → Option (Nat × Text)
  | [] => none
  | c :: rest => do
      let digit ← digit? c
      let sum := sum + digit * weight
      let t := threshold place bias
      let weight' := weight * (36 - t)
      if limit ≤ sum then none
      else if digit < t then some (sum, rest)
      else if limit ≤ weight' then none
      else number? (place + 36) weight' bias sum rest

def settle (delta bias : Nat) : Nat :=
  if 455 < delta then settle (delta / 35) (bias + 36) else bias + 36 * delta / (delta + 38)
termination_by delta

def adapt (delta length : Nat) (first : Bool) : Nat :=
  let delta := if first then delta / 700 else delta / 2
  settle (delta + delta / length) 0

/-- Makes the insertions that digits spell. The next one is tried at `index` of `read`. -/
def insertFrom (fuel codePoint bias index : Nat) (read digits : Text) : Option Text :=
  match fuel, digits with
  | _, [] => some read
  | 0, _ => none
  | fuel + 1, _ => do
      let (sum, rest) ← number? 36 1 bias index digits
      let length := read.length + 1
      let codePoint := codePoint + sum / length
      let place := sum % length
      if codePoint.isValidChar then
        insertFrom fuel codePoint (adapt (sum - index) length (index = 0)) (place + 1)
          (read.take place ++ Char.ofNat codePoint :: read.drop place) rest
      else none

/-- The text that is spelled in lower case. -/
def decode? (t : Text) : Option Text :=
  let (basic, digits) := match Text.cutLast? '-' t with
    | some (front, back) => if front.length = 1 then ([], t) else (front.dropLast, back)
    | none => ([], t)
  insertFrom digits.length 0x80 72 0 basic digits

end JsonReference.Punycode
