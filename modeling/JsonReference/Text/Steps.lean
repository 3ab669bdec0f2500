import JsonReference.Text.Basic

namespace JsonReference

/-- Values by the code points at which they begin, as a search tree. -/
inductive Steps (α : Type) where
  | leaf
  | node (below : Steps α) (first : Nat) (value : α) (above : Steps α)

namespace Steps

variable {α : Type}

def find? (n : Nat) : Steps α → Option α
  | .leaf => none
  | .node below first value above =>
      if n < first then below.find? n else (above.find? n).or (some value)

def at? (s : Steps α) (c : Char) : Option α := s.find? c.toNat

def grow (count : Nat) (rows : List (Nat × α)) : Steps α × List (Nat × α) :=
  match count with
  | 0 => (.leaf, rows)
  | count + 1 =>
      match grow (count / 2) rows with
      | (below, (first, value) :: rest) =>
          let (above, rest) := grow (count - count / 2) rest
          (.node below first value above, rest)
      | (below, []) => (below, [])
termination_by count

def ofRows (rows : List (Nat × α)) : Steps α := (grow rows.length rows).1

def isHexLower (c : Char) : Bool := c.isDigit || ('a' ≤ c && c ≤ 'f')

def codePoint (t : Text) : Nat := t.foldl (fun n c => 16 * n + Text.hexValue c) 0

/-- The rows of lines of text, which blanks separate. In a row the code point comes first, in
hexadecimal digits, and then what spells the value there. -/
def readRows (value : Nat → Text → α) (lines : List String) : List (Nat × α) :=
  (lines.flatMap fun line => Text.segments ' ' line.toList).map fun row =>
    let n := codePoint (row.takeWhile isHexLower)
    (n, value n (row.dropWhile isHexLower))

def ofLines (value : Nat → Text → α) (lines : List String) : Steps α :=
  ofRows (readRows value lines)

end Steps
end JsonReference
