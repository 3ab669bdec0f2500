import JsonReference.DomainName.Mapping.Lines
import JsonReference.Text.Steps

namespace JsonReference.DomainName.Mapping

inductive Rule where
  | keep
  | drop
  | refuse
  /-- The character that lies this far ahead, where the first one follows the last. -/
  | shift (distance : Nat)
  | replace (text : Text)
deriving DecidableEq

def range : Nat := 0x110000

namespace Rule

def read (first : Nat) : Text → Rule
  | ['K'] => .keep
  | ['D'] => .drop
  | '>' :: target => .shift ((Steps.codePoint target + range - first) % range)
  | '=' :: points =>
      .replace ((Text.segments '.' points).map fun p => Char.ofNat (Steps.codePoint p))
  | _ => .refuse

def image? (c : Char) : Rule → Option Text
  | .keep => some [c]
  | .drop => some []
  | .refuse => none
  | .shift distance => some [Char.ofNat ((c.toNat + distance) % range)]
  | .replace text => some text

end Rule

def table : Steps Rule := .ofLines Rule.read mappingLines

def rule (c : Char) : Rule := (table.at? c).getD .refuse

def isKept (c : Char) : Bool := rule c = .keep

def text? (t : Text) : Option Text := do
  return (← t.mapM fun c => (rule c).image? c).flatten

end JsonReference.DomainName.Mapping
