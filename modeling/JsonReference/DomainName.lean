import JsonReference.DomainName.Direction
import JsonReference.DomainName.Joining
import JsonReference.DomainName.Mapping
import JsonReference.DomainName.Punycode
import JsonReference.Text.Composition
import JsonReference.Text.Utf8

namespace JsonReference.DomainName

def isForbidden (c : Char) : Bool :=
  c ≤ ' ' || c == '\x7f' || ("%#/:<>?@[\\]^|".toList).contains c

def isAscii (c : Char) : Bool := c.toNat < 0x80

def spelledMark : Text := "xn--".toList

def greatestSpelling : Nat := 2000

def greatestLength : Nat := 1000

/-- The label that a text spells, which has to be in the form in which labels are kept. -/
def ofSpelling? (t : Text) : Option Text := do
  if t.isEmpty || t.getLast? = some '-' || greatestSpelling < t.length || !t.all isAscii then none
  else
    let label ← Punycode.decode? t
    if label.all Mapping.isKept && label.composed = label && !label.any isForbidden then some label
    else none

def ofMapped? (t : Text) : Option Text :=
  match Text.dropFront? spelledMark t with
  | some spelling => ofSpelling? spelling
  | none =>
      if t.any isForbidden || (greatestLength < t.length && !t.all isAscii) then none else some t

def beginsWithMark (label : Text) : Bool := label.head?.any Text.isMark

def labels? (octets : Octets) : Option (List Text) := do
  let t ← (Utf8.decode octets).toOption
  let mapped ← Mapping.text? t
  let labels ← (Text.segments '.' mapped.composed).mapM ofMapped?
  if labels.any beginsWithMark || !labels.all Joining.hold || !Direction.hold labels then none
  else some labels

def ofOctets? (octets : Octets) : Option Text := (labels? octets).map (Text.join ['.'])

end JsonReference.DomainName
