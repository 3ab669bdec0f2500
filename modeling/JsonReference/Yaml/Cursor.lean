import JsonReference.Text.Basic

namespace JsonReference.Yaml

def isBreak (c : Char) : Bool := c == '\n' || c == '\u2028' || c == '\u2029'

def isBlank (c : Char) : Bool := c == ' ' || c == '\t'

def isSpace (c : Char) : Bool := isBlank c || isBreak c

def isWord (c : Char) : Bool := c.isAlphanum || c == '_' || c == '-'

def isPermitted (c : Char) : Bool :=
  c == '\t' || c == '\n' || c == '\r' || (' ' ≤ c && c ≤ '~') || c == '\u0085' ||
    ('\u00a0' ≤ c && c.toNat ≠ 0xfffe && c.toNat ≠ 0xffff)

/-- Writes every line break but the two that are kept as a line feed. -/
def unifyBreaks : Text → Text
  | [] => []
  | '\r' :: '\n' :: rest => '\n' :: unifyBreaks rest
  | c :: rest => (if c = '\r' ∨ c = '\u0085' then '\n' else c) :: unifyBreaks rest

structure Cursor where
  rest : Text
  line : Nat
  column : Nat
  index : Nat

namespace Cursor

def start (text : Text) : Cursor := ⟨text, 0, 0, 0⟩

def skip (c : Cursor) (n : Nat) : Cursor :=
  { c with
    rest := c.rest.drop n
    column := c.column + n
    index := c.index + Text.size (c.rest.take n) }

def skipWhile (c : Cursor) (p : Char → Bool) : Cursor := c.skip (c.rest.takeWhile p).length

def skipBreak (c : Cursor) : Cursor := ⟨c.rest.drop 1, c.line + 1, 0, c.index + 1⟩

def isDone (c : Cursor) : Bool := c.rest.isEmpty

def spaceAt (c : Cursor) (n : Nat) : Bool :=
  match c.rest.drop n with
  | [] => true
  | x :: _ => isSpace x

def atBreak (c : Cursor) : Bool :=
  match c.rest with
  | [] => false
  | x :: _ => isBreak x

def startsWith (c : Cursor) (text : Text) : Bool := text.isPrefixOf c.rest

def atDocumentMark (c : Cursor) : Bool :=
  c.column == 0 && (c.startsWith "---".toList || c.startsWith "...".toList) && c.spaceAt 3

def skipComment (c : Cursor) : Cursor :=
  if c.startsWith ['#'] then c.skipWhile (!isBreak ·) else c

end Cursor
end JsonReference.Yaml
