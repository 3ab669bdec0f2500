import JsonReference.Json.Basic
import JsonReference.Number.Layout

namespace JsonReference.Json

def escaped (c : Char) : Text :=
  if c = '"' then ['\\', '"']
  else if c = '\\' then ['\\', '\\']
  else if c = '\x08' then ['\\', 'b']
  else if c = '\t' then ['\\', 't']
  else if c = '\n' then ['\\', 'n']
  else if c = '\x0c' then ['\\', 'f']
  else if c = '\r' then ['\\', 'r']
  else if c < ' ' then
    ['\\', 'u', '0', '0', Nat.digitChar (c.toNat / 16), Nat.digitChar (c.toNat % 16)]
  else [c]

def writeString (t : Text) : Text := '"' :: t.flatMap escaped ++ ['"']

/-- Numbers from `0.00001` up to below `10 ^ 16` are written in positions. -/
def numberLayout : Layout where
  least := -5
  stop := 16
  wholePoint := true
  zero := ['0', '.', '0']
  negativeZero := ['-', '0', '.', '0']

def writeNumber (layout : Layout) : Number → Text
  | .integer n => Layout.integer n
  | .double x => layout.double x

def writeBool (b : Bool) : Text := (if b then "true" else "false").toList

mutual
def write : Json → Text
  | .null => "null".toList
  | .bool b => writeBool b
  | .number n => writeNumber numberLayout n
  | .string t => writeString t
  | .array items => '[' :: writeItems items ++ [']']
  | .object members => '\x7b' :: writeMembers members ++ ['\x7d']
termination_by structural json => json

def writeItems : List Json → Text
  | [] => []
  | x :: rest => write x ++ writeRestItems rest
termination_by structural items => items

def writeRestItems : List Json → Text
  | [] => []
  | x :: rest => ',' :: write x ++ writeRestItems rest
termination_by structural items => items

def writeMembers : List (Text × Json) → Text
  | [] => []
  | (k, x) :: rest => writeString k ++ ':' :: write x ++ writeRestMembers rest
termination_by structural members => members

def writeRestMembers : List (Text × Json) → Text
  | [] => []
  | (k, x) :: rest => ',' :: writeString k ++ ':' :: write x ++ writeRestMembers rest
termination_by structural members => members
end

def newLine (level : Nat) : Text := '\n' :: List.replicate (2 * level) ' '

mutual
def writeLines (level : Nat) : Json → Text
  | .array [] => ['[', ']']
  | .array (x :: rest) =>
      '[' :: newLine (level + 1) ++ writeLines (level + 1) x ++ writeItemLines (level + 1) rest ++
        newLine level ++ [']']
  | .object [] => ['\x7b', '\x7d']
  | .object ((k, x) :: rest) =>
      '\x7b' :: newLine (level + 1) ++ writeString k ++ ": ".toList ++ writeLines (level + 1) x ++
        writeMemberLines (level + 1) rest ++ newLine level ++ ['\x7d']
  | .null => write .null
  | .bool b => writeBool b
  | .number n => writeNumber numberLayout n
  | .string t => writeString t
termination_by structural json => json

def writeItemLines (level : Nat) : List Json → Text
  | [] => []
  | x :: rest => ',' :: newLine level ++ writeLines level x ++ writeItemLines level rest
termination_by structural items => items

def writeMemberLines (level : Nat) : List (Text × Json) → Text
  | [] => []
  | (k, x) :: rest =>
      ',' :: newLine level ++ writeString k ++ ": ".toList ++ writeLines level x ++
        writeMemberLines level rest
termination_by structural members => members
end

def pretty (json : Json) : Text := writeLines 0 json

end JsonReference.Json
