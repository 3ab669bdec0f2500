import JsonReference.Json.Writer

namespace JsonReference.Json

/-- Numbers from `0.000001` up to below `10 ^ 21` are written in positions, whole ones without a
point, and zero has no sign. -/
def canonicalLayout : Layout where
  least := -6
  stop := 21
  wholePoint := false
  zero := ['0']
  negativeZero := ['0']

/-- Members in the order of their written names, quotes included. -/
def sortWritten (members : List (Text × Text)) : List (Text × Text) :=
  members.mergeSort fun a b => !decide (b.1 < a.1)

def joinWritten (members : List (Text × Text)) : Text :=
  Text.join [','] (members.map fun m => m.1 ++ ':' :: m.2)

mutual
def canonical : Json → Text
  | .null => "null".toList
  | .bool b => writeBool b
  | .number n => writeNumber canonicalLayout n
  | .string t => writeString t
  | .array items => '[' :: Text.join [','] (canonicalItems items) ++ [']']
  | .object members => '\x7b' :: joinWritten (sortWritten (canonicalMembers members)) ++ ['\x7d']
termination_by structural json => json

def canonicalItems : List Json → List Text
  | [] => []
  | x :: rest => canonical x :: canonicalItems rest
termination_by structural items => items

def canonicalMembers : List (Text × Json) → List (Text × Text)
  | [] => []
  | (k, x) :: rest => (writeString k, canonical x) :: canonicalMembers rest
termination_by structural members => members
end

def canonicalOctets (json : Json) : Octets := Text.octets json.canonical

def canonicalEq (a b : Json) : Bool := a.canonical == b.canonical

end JsonReference.Json
