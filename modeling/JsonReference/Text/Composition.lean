import JsonReference.Text.CombiningClass
import JsonReference.Text.Composite

namespace JsonReference.Text

def firstSyllable : Nat := 0xac00

def firstLead : Nat := 0x1100

def firstVowel : Nat := 0x1161

def beforeTail : Nat := 0x11a7

def isSyllable (n : Nat) : Bool := firstSyllable ≤ n && n < firstSyllable + 19 * 21 * 28

def syllable? (a b : Nat) : Option Char :=
  if firstLead ≤ a ∧ a < firstLead + 19 ∧ firstVowel ≤ b ∧ b < firstVowel + 21 then
    some (Char.ofNat (firstSyllable + ((a - firstLead) * 21 + (b - firstVowel)) * 28))
  else if isSyllable a ∧ (a - firstSyllable) % 28 = 0 ∧ beforeTail < b ∧ b < beforeTail + 28 then
    some (Char.ofNat (a + (b - beforeTail)))
  else none

def syllableParts (n : Nat) : Char × Char :=
  let n := n - firstSyllable
  if n % 28 = 0 then
    (Char.ofNat (firstLead + n / (21 * 28)), Char.ofNat (firstVowel + n / 28 % 21))
  else (Char.ofNat (firstSyllable + n / 28 * 28), Char.ofNat (beforeTail + n % 28))

def join? (a b : Char) : Option Char :=
  match syllable? a.toNat b.toNat with
  | some c => some c
  | none => Composite.join? a b

def parts? (c : Char) : Option (Char × Char) :=
  if isSyllable c.toNat then some (syllableParts c.toNat) else Composite.parts? c

/-- The characters that a composite consists of, taken apart `depth` times at most. -/
def apart (depth : Nat) (c : Char) : Text :=
  match depth with
  | 0 => [c]
  | depth + 1 =>
      match parts? c with
      | some (a, b) => apart depth a ++ [b]
      | none => [c]

def greatestLength : Nat := 4

def place (c : Char) : Text → Text
  | [] => [c]
  | d :: rest =>
      if combiningClass d ≠ 0 ∧ combiningClass d < combiningClass c then d :: place c rest
      else c :: d :: rest

def sortMarks (t : Text) : Text := t.foldr place []

/-- Joins with `base` what can. `held` are the marks since then that cannot, the last one first. -/
def joinFrom (base : Char) (held : Text) : Text → Text
  | [] => base :: held.reverse
  | c :: rest =>
      let free := match held with
        | [] => true
        | mark :: _ => combiningClass mark < combiningClass c
      match if free then join? base c else none with
      | some composite => joinFrom composite held rest
      | none =>
          if combiningClass c = 0 then base :: held.reverse ++ joinFrom c [] rest
          else joinFrom base (c :: held) rest

def joinAll : Text → Text
  | [] => []
  | c :: rest => if combiningClass c = 0 then joinFrom c [] rest else c :: joinAll rest

def composed (t : Text) : Text := joinAll (sortMarks (t.flatMap (apart (greatestLength - 1))))

end JsonReference.Text
