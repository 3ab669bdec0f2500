import JsonReference.Text.Basic

namespace JsonReference

inductive ScalarStyle where
  | plain
  | literal
  | other
deriving DecidableEq

inductive Yaml where
  | scalar (tag : Option Octets) (style : ScalarStyle) (text : Text)
  | sequence (tag : Option Octets) (items : List Yaml)
  | mapping (tag : Option Octets) (entries : List (Yaml × Yaml))
  | alias (number : Nat)

namespace Yaml

def empty : Yaml := .scalar none .plain []

def text? : Yaml → Option Text
  | .scalar _ _ text => some text
  | _ => none

def nullTag : Octets := Text.octets "tag:yaml.org,2002:null".toList

def integerTag : Octets := Text.octets "tag:yaml.org,2002:int".toList

def isNullWord (text : Text) : Bool :=
  ["null", "Null", "NULL", "~"].any (·.toList == text)

/-- Whether a node stands for nothing; `none` if its tag says so and its text does not. -/
def isNull? : Yaml → Option Bool
  | .scalar tag .plain text =>
      match tag with
      | none => some (text.isEmpty || isNullWord text)
      | some tag =>
          if tag = nullTag then if isNullWord text then some true else none else some false
  | _ => some false

def isEmpty : Yaml → Bool
  | .scalar _ .plain [] => true
  | _ => false

def value? (base : Nat) (digits : Text) : Option Nat :=
  if !digits.isEmpty && digits.all fun c => Text.isHexDigit c && Text.hexValue c < base then
    some (digits.foldl (fun n c => base * n + Text.hexValue c) 0)
  else none

def decimal? (digits : Text) : Option Nat :=
  match digits with
  | '0' :: _ :: _ => none
  | _ => value? 10 digits

def numeral? (text : Text) : Option Nat :=
  match (Text.dropFront? ['+'] text).getD text with
  | '0' :: 'x' :: digits => value? 16 digits
  | '0' :: 'o' :: digits => value? 8 digits
  | '0' :: 'b' :: digits => value? 2 digits
  | digits => decimal? digits

/-- Numbers are plain, or literal where the tag says that they are numbers. -/
def natural? : Yaml → Option Nat
  | .scalar _ .plain text => numeral? text
  | .scalar tag .literal text => if tag = some integerTag then numeral? text else none
  | _ => none

end Yaml
end JsonReference
