import JsonReference.Json.Reader

namespace JsonReference

inductive Dereferencing where
  /-- By the locator under which the document was obtained. -/
  | canonical
  /-- By the references that the nodes of the document declare as well. -/
  | inline
deriving DecidableEq, Repr, Inhabited

namespace Dereferencing

def standard : Dereferencing := .canonical

def name : Dereferencing → Text
  | .canonical => "canonical".toList
  | .inline => "inline".toList

def ofName? (name : Text) : Option Dereferencing :=
  if name = Dereferencing.name .canonical then some .canonical
  else if name = Dereferencing.name .inline then some .inline
  else none

def ofNameOrUnfit (name : Text) : Except Json.ReadFault Dereferencing :=
  match ofName? name with
  | some d => .ok d
  | none => .error .unfit

def readNull (input : Octets) : Except Json.ReadFault Octets :=
  match Json.skipSpace input with
  | [] => .error .unfinished
  | b :: rest =>
      if Json.ascii b = 'n' then Json.readWord "ull".toList rest
      else .error (Json.misfit (b :: rest))

def readByte (c : Char) (input : Octets) : Except Json.ReadFault Octets :=
  match Json.skipSpace input with
  | [] => .error .unfinished
  | b :: rest => if Json.ascii b = c then .ok rest else .error .malformed

def readStep (input : Octets) : Except Json.ReadFault (Dereferencing × Octets) :=
  match Json.skipSpace input with
  | [] => .error .unfinished
  | b :: rest =>
      if Json.ascii b = '"' then do
        let (name, rest) ← Json.readString rest
        return (← ofNameOrUnfit name, rest)
      else if Json.ascii b = '\x7b' then do
        let (name, rest) ← Json.expectString rest
        let d ← ofNameOrUnfit name
        let rest ← readNull (← readByte ':' rest)
        return (d, ← readByte '\x7d' rest)
      else .error .malformed

def read (input : Octets) : Except Json.ReadFault Dereferencing := do
  Json.finish (← readStep input)

end Dereferencing
end JsonReference
