import JsonReference.Json.Basic
import JsonReference.Number.Decimal
import JsonReference.Text.Utf8

namespace JsonReference.Json

inductive ReadFault where
  | malformed
  | unfinished
  | unfit
deriving DecidableEq, Repr

def ReadFault.message : ReadFault → String
  | .malformed => "malformed text"
  | .unfinished => "unexpected end of text"
  | .unfit => "value of another shape"

/-- A value, and the octets behind it. A text is refused when an octet cannot stand where it does,
when it ends too early, or, where a certain shape is asked for, when its value is of another one. -/
abbrev Step (α : Type) := Except ReadFault (α × Octets)

def ascii (b : UInt8) : Char := Char.ofNat b.toNat

def isSpace (b : UInt8) : Bool :=
  let c := ascii b
  c == ' ' || c == '\t' || c == '\n' || c == '\r'

def skipSpace (input : Octets) : Octets := input.dropWhile isSpace

def isDigit (b : UInt8) : Bool := (ascii b).isDigit

def digitValue (b : UInt8) : Nat := b.toNat - '0'.toNat

def startsWithDigit : Octets → Bool
  | b :: _ => isDigit b
  | [] => false

def readWord (word : Text) (input : Octets) : Except ReadFault Octets :=
  match word, input with
  | [], rest => .ok rest
  | _ :: _, [] => .error .unfinished
  | c :: word, b :: rest => if ascii b = c then readWord word rest else .error .malformed

def readConstant (value : Json) (word : String) (input : Octets) : Step Json :=
  (readWord word.toList input).map fun rest => (value, rest)

def readUnit : Octets → Except ReadFault (Nat × Octets)
  | a :: b :: c :: d :: rest =>
      let digits := [a, b, c, d].map ascii
      if digits.all Text.isHexDigit then
        .ok (digits.foldl (fun n c => 16 * n + Text.hexValue c) 0, rest)
      else .error .malformed
  | _ => .error .unfinished

/-- The character of one or two UTF-16 units, and the number of octets they take. -/
def readUnits (input : Octets) : Except ReadFault (Char × Nat) := do
  let (high, rest) ← readUnit input
  if 0xdc00 ≤ high ∧ high ≤ 0xdfff then .error .malformed
  else if high < 0xd800 ∨ 0xdbff < high then .ok (Char.ofNat high, 4)
  else
    let rest ← readWord ['\\', 'u'] rest
    let (low, _) ← readUnit rest
    if low < 0xdc00 ∨ 0xdfff < low then .error .malformed
    else .ok (Char.ofNat (0x10000 + (high - 0xd800) * 0x400 + (low - 0xdc00)), 10)

def readEscape : Octets → Except ReadFault (Char × Nat)
  | [] => .error .unfinished
  | b :: rest =>
      match ascii b with
      | '"' => .ok ('"', 1)
      | '\\' => .ok ('\\', 1)
      | '/' => .ok ('/', 1)
      | 'b' => .ok ('\x08', 1)
      | 'f' => .ok ('\x0c', 1)
      | 'n' => .ok ('\n', 1)
      | 'r' => .ok ('\r', 1)
      | 't' => .ok ('\t', 1)
      | 'u' => (readUnits rest).map fun r => (r.1, r.2 + 1)
      | _ => .error .malformed

def readStringFrom (skip : Nat) (read : Octets) : Octets → Step Text
  | [] => .error .unfinished
  | b :: rest =>
      match skip with
      | skip + 1 => readStringFrom skip read rest
      | 0 =>
          match ascii b with
          | '"' =>
              match Utf8.decode read.reverse with
              | .ok text => .ok (text, rest)
              | .error _ => .error .malformed
          | '\\' =>
              match readEscape rest with
              | .ok (c, width) =>
                  readStringFrom width ((String.utf8EncodeChar c).reverse ++ read) rest
              | .error fault => .error fault
          | c => if c < ' ' then .error .malformed else readStringFrom 0 (b :: read) rest

def readString (input : Octets) : Step Text := readStringFrom 0 [] input

def decimalValue (n : Nat) (digits : Octets) : Nat :=
  digits.foldl (fun n b => 10 * n + digitValue b) n

def makeDouble (negative : Bool) (significand : Nat) (exponent : Int) (rest : Octets) :
    Step Number :=
  match Double.ofDecimal? negative significand exponent with
  | some x => .ok (.double x, rest)
  | none => .error .malformed

def readExponentDigits (negative : Bool) (significand : Nat) (exponent : Int) (down : Bool)
    (input : Octets) : Step Number :=
  match input with
  | [] => .error .unfinished
  | b :: _ =>
      if isDigit b then
        let shift : Int := decimalValue 0 (input.takeWhile isDigit)
        makeDouble negative significand (if down then exponent - shift else exponent + shift)
          (input.dropWhile isDigit)
      else .error .malformed

def readExponent (negative : Bool) (significand : Nat) (exponent : Int) (input : Octets) :
    Step Number :=
  match input with
  | [] => .error .unfinished
  | b :: rest =>
      match ascii b with
      | '+' => readExponentDigits negative significand exponent false rest
      | '-' => readExponentDigits negative significand exponent true rest
      | _ => readExponentDigits negative significand exponent false input

def isExponentMark (b : UInt8) : Bool := ascii b == 'e' || ascii b == 'E'

def readFraction (negative : Bool) (significand : Nat) (input : Octets) : Step Number :=
  let digits := input.takeWhile isDigit
  let significand := decimalValue significand digits
  let exponent : Int := -digits.length
  match input.dropWhile isDigit with
  | [] =>
      if digits.isEmpty then .error .unfinished else makeDouble negative significand exponent []
  | b :: rest =>
      if digits.isEmpty then .error .malformed
      else if isExponentMark b then readExponent negative significand exponent rest
      else makeDouble negative significand exponent (b :: rest)

/-- A whole number is an integer if one of 64 bits, signed or unsigned, holds it. -/
def wholeNumber (negative : Bool) (significand : Nat) (rest : Octets) : Step Number :=
  if !negative ∧ significand < Nat.pow 2 64 then .ok (.integer significand, rest)
  else if negative ∧ 0 < significand ∧ significand ≤ Nat.pow 2 63 then
    .ok (.integer (-significand), rest)
  else makeDouble negative significand 0 rest

def readNumberTail (negative : Bool) (significand : Nat) (input : Octets) : Step Number :=
  match input with
  | [] => wholeNumber negative significand []
  | b :: rest =>
      if ascii b = '.' then readFraction negative significand rest
      else if isExponentMark b then readExponent negative significand 0 rest
      else wholeNumber negative significand input

def readNumber (negative : Bool) (input : Octets) : Step Number :=
  match input with
  | [] => .error .unfinished
  | b :: rest =>
      if ascii b = '0' then
        if startsWithDigit rest then .error .malformed else readNumberTail negative 0 rest
      else if isDigit b then
        readNumberTail negative (decimalValue 0 (input.takeWhile isDigit)) (input.dropWhile isDigit)
      else .error .malformed

mutual
/-- `depth` arrays and objects may still open inside one another. -/
def readValue (fuel depth : Nat) (input : Octets) : Step Json :=
  match fuel with
  | 0 => .error .malformed
  | fuel + 1 =>
      match skipSpace input with
      | [] => .error .unfinished
      | b :: rest =>
          match ascii b with
          | 'n' => readConstant .null "ull" rest
          | 't' => readConstant (.bool true) "rue" rest
          | 'f' => readConstant (.bool false) "alse" rest
          | '-' => (readNumber true rest).map fun r => (.number r.1, r.2)
          | '"' => (readString rest).map fun r => (.string r.1, r.2)
          | '[' =>
              match depth with
              | 0 => .error .malformed
              | depth + 1 => readItems fuel depth [] rest
          | '\x7b' =>
              match depth with
              | 0 => .error .malformed
              | depth + 1 => readMembers fuel depth [] rest
          | c =>
              if c.isDigit then (readNumber false (b :: rest)).map fun r => (.number r.1, r.2)
              else .error .malformed
termination_by structural fuel

def readItems (fuel depth : Nat) (read : List Json) (input : Octets) : Step Json :=
  match fuel with
  | 0 => .error .malformed
  | fuel + 1 =>
      match skipSpace input with
      | [] => .error .unfinished
      | b :: rest =>
          if ascii b = ']' then .ok (.array read.reverse, rest)
          else if read.isEmpty then
            match readValue fuel depth (b :: rest) with
            | .ok (x, rest) => readItems fuel depth [x] rest
            | .error fault => .error fault
          else if ascii b = ',' then
            match skipSpace rest with
            | [] => .error .unfinished
            | c :: rest =>
                if ascii c = ']' then .error .malformed
                else
                  match readValue fuel depth (c :: rest) with
                  | .ok (x, rest) => readItems fuel depth (x :: read) rest
                  | .error fault => .error fault
          else .error .malformed
termination_by structural fuel

def readMembers (fuel depth : Nat) (read : List (Text × Json)) (input : Octets) : Step Json :=
  match fuel with
  | 0 => .error .malformed
  | fuel + 1 =>
      match skipSpace input with
      | [] => .error .unfinished
      | b :: rest =>
          if ascii b = '\x7d' then .ok (.object read.reverse, rest)
          else if read.isEmpty then
            match readMember fuel depth (b :: rest) with
            | .ok (m, rest) => readMembers fuel depth [m] rest
            | .error fault => .error fault
          else if ascii b = ',' then
            match readMember fuel depth (skipSpace rest) with
            | .ok (m, rest) => readMembers fuel depth (m :: read) rest
            | .error fault => .error fault
          else .error .malformed
termination_by structural fuel

def readMember (fuel depth : Nat) (input : Octets) : Step (Text × Json) :=
  match fuel with
  | 0 => .error .malformed
  | fuel + 1 =>
      match input with
      | [] => .error .unfinished
      | b :: rest =>
          if ascii b = '"' then
            match readString rest with
            | .error fault => .error fault
            | .ok (name, rest) =>
                match skipSpace rest with
                | [] => .error .unfinished
                | c :: rest =>
                    if ascii c = ':' then
                      (readValue fuel depth rest).map fun r => ((name, r.1), r.2)
                    else .error .malformed
          else .error .malformed
termination_by structural fuel
end

def finish {α : Type} (step : α × Octets) : Except ReadFault α :=
  if (skipSpace step.2).isEmpty then .ok step.1 else .error .malformed

def depthLimit : Nat := 127

def readWritten (input : Octets) : Except ReadFault Json := do
  finish (← readValue (3 * input.length + 3) depthLimit input)

mutual
def tidy : Json → Json
  | .array items => .array (tidyItems items)
  | .object members => ofMembers (tidyMembers members)
  | json => json
termination_by structural json => json

def tidyItems : List Json → List Json
  | [] => []
  | x :: rest => tidy x :: tidyItems rest
termination_by structural items => items

def tidyMembers : List (Text × Json) → List (Text × Json)
  | [] => []
  | (k, x) :: rest => (k, tidy x) :: tidyMembers rest
termination_by structural members => members
end

def read (input : Octets) : Except ReadFault Json := (readWritten input).map tidy

/-- How a value is refused where another shape is asked for: as unfit once its beginning is
sound. -/
def misfit (input : Octets) : ReadFault :=
  let after {α : Type} (step : Except ReadFault α) : ReadFault :=
    match step with
    | .ok _ => .unfit
    | .error fault => fault
  match input with
  | [] => .unfinished
  | b :: rest =>
      match ascii b with
      | 'n' => after (readConstant .null "ull" rest)
      | 't' => after (readConstant .null "rue" rest)
      | 'f' => after (readConstant .null "alse" rest)
      | '-' => after (readNumber true rest)
      | '"' => after (readString rest)
      | '[' | '\x7b' => .unfit
      | c => if c.isDigit then after (readNumber false input) else .malformed

def expectString (input : Octets) : Step Text :=
  match skipSpace input with
  | [] => .error .unfinished
  | b :: rest => if ascii b = '"' then readString rest else .error (misfit (b :: rest))

def expectNumber (input : Octets) : Step Number :=
  match skipSpace input with
  | [] => .error .unfinished
  | b :: rest =>
      if ascii b = '-' then readNumber true rest
      else if isDigit b then readNumber false (b :: rest)
      else .error (misfit (b :: rest))

def readStringAs {α : Type} (convert : Text → Option α) (input : Octets) :
    Except ReadFault α := do
  let (text, rest) ← expectString input
  match convert text with
  | some a => finish (a, rest)
  | none => .error .unfit

end JsonReference.Json
