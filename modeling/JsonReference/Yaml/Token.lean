import JsonReference.Yaml.Scalar
import JsonReference.Yaml.Tag

namespace JsonReference.Yaml

inductive Token where
  | version (major minor : Nat)
  | tagHandle (handle : Text) (expansion : Octets)
  | documentStart
  | documentEnd
  | blockSequenceStart
  | blockMappingStart
  | blockEnd
  | flowSequenceStart
  | flowSequenceEnd
  | flowMappingStart
  | flowMappingEnd
  | blockEntry
  | flowEntry
  | key
  | value
  | alias (name : Text)
  | anchor (name : Text)
  | tag (handle : Text) (suffix : Octets)
  | scalar (style : ScalarStyle) (text : Text)
deriving DecidableEq

structure KeyPlace where
  before : Nat
  required : Bool
  cursor : Cursor

namespace KeyPlace

/-- A key stands on one line with its colon and is short. -/
def isStale (k : KeyPlace) (c : Cursor) : Bool :=
  k.cursor.line < c.line || k.cursor.index + 1024 < c.index

end KeyPlace

/-- A text that is being taken apart. The beginnings and ends of block collections are tokens that
follow from the columns, and the mark of a key is one that often only the colon behind it shows, so
the place of such a key is kept until then. -/
structure Scan where
  cursor : Cursor
  tokens : List Token
  indent : Int
  outerIndents : List Int
  candidate : Option KeyPlace
  outerCandidates : List (Option KeyPlace)
  keyAllowed : Bool

namespace Scan

def start (text : Text) : Scan := ⟨.start text, [], -1, [], none, [], true⟩

def inFlow (s : Scan) : Bool := !s.outerCandidates.isEmpty

def emit (s : Scan) (t : Token) : Scan := { s with tokens := t :: s.tokens }

def emitAt (s : Scan) (before : Nat) (t : Token) : Scan :=
  let later := s.tokens.length - before
  { s with tokens := s.tokens.take later ++ t :: s.tokens.drop later }

def move (s : Scan) (c : Cursor) : Scan := { s with cursor := c }

def skipSpace (fuel : Nat) (s : Scan) : Scan :=
  match fuel with
  | 0 => s
  | fuel + 1 =>
      let c := if s.cursor.column = 0 && s.cursor.startsWith ['\ufeff'] then s.cursor.skip 1
        else s.cursor
      let tabs := s.inFlow || !s.keyAllowed
      let c := (c.skipWhile fun x => x == ' ' || (tabs && x == '\t')).skipComment
      if c.atBreak then
        skipSpace fuel { s with cursor := c.skipBreak, keyAllowed := s.keyAllowed || !s.inFlow }
      else s.move c

def fresh? (c : Cursor) : Option KeyPlace → Option (Option KeyPlace)
  | none => some none
  | some k => if k.isStale c then if k.required then none else some none else some (some k)

def dropStale? (s : Scan) : Option Scan := do
  return { s with
    candidate := ← fresh? s.cursor s.candidate
    outerCandidates := ← s.outerCandidates.mapM (fresh? s.cursor) }

def dropCandidate? (s : Scan) : Option Scan :=
  match s.candidate with
  | some k => if k.required then none else some { s with candidate := none }
  | none => some s

def saveCandidate? (s : Scan) : Option Scan := do
  if s.keyAllowed then
    let s ← s.dropCandidate?
    return { s with
      candidate := some
        ⟨s.tokens.length, !s.inFlow && s.indent == (s.cursor.column : Int), s.cursor⟩ }
  else return s

/-- Opens a block collection at a column unless one is open there or further in. -/
def openBlock (s : Scan) (column before : Nat) (t : Token) : Scan :=
  if !s.inFlow && s.indent < (column : Int) then
    { s.emitAt before t with indent := column, outerIndents := s.indent :: s.outerIndents }
  else s

def closeOver (column indent : Int) (outer : List Int) (tokens : List Token) :
    Int × List Int × List Token :=
  match outer with
  | [] => (indent, [], tokens)
  | next :: rest =>
      if column < indent then closeOver column next rest (.blockEnd :: tokens)
      else (indent, outer, tokens)

def closeBlocks (s : Scan) (column : Int) : Scan :=
  if s.inFlow then s
  else
    let (indent, outerIndents, tokens) := closeOver column s.indent s.outerIndents s.tokens
    { s with indent, outerIndents, tokens }

def allow (allowed : Bool) (s : Scan) : Scan := { s with keyAllowed := allowed }

def mark (s : Scan) (width : Nat) (t : Token) : Scan := (s.emit t).move (s.cursor.skip width)

def documentMark? (s : Scan) (t : Token) : Option Scan := do
  return ((← (s.closeBlocks (-1)).dropCandidate?).allow false).mark 3 t

def openFlow? (s : Scan) (t : Token) : Option Scan := do
  let s ← s.saveCandidate?
  return ({ s with
    candidate := none
    outerCandidates := s.candidate :: s.outerCandidates }.allow true).mark 1 t

def closeFlow? (s : Scan) (t : Token) : Option Scan := do
  let s ← s.dropCandidate?
  let s := match s.outerCandidates with
    | [] => s
    | k :: outer => { s with candidate := k, outerCandidates := outer }
  return (s.allow false).mark 1 t

def flowEntry? (s : Scan) : Option Scan := do
  return ((← s.dropCandidate?).allow true).mark 1 .flowEntry

def blockEntry? (s : Scan) : Option Scan := do
  if !s.inFlow && !s.keyAllowed then none
  else
    let s := s.openBlock s.cursor.column s.tokens.length .blockSequenceStart
    return ((← s.dropCandidate?).allow true).mark 1 .blockEntry

def key? (s : Scan) : Option Scan := do
  if !s.inFlow && !s.keyAllowed then none
  else
    let s := s.openBlock s.cursor.column s.tokens.length .blockMappingStart
    return ((← s.dropCandidate?).allow (!s.inFlow)).mark 1 .key

def value? (s : Scan) : Option Scan :=
  match s.candidate with
  | some k =>
      let s := (s.emitAt k.before .key).openBlock k.cursor.column k.before .blockMappingStart
      some (({ s with candidate := none }.allow false).mark 1 .value)
  | none =>
      if !s.inFlow && !s.keyAllowed then none
      else
        let s := s.openBlock s.cursor.column s.tokens.length .blockMappingStart
        some ((s.allow (!s.inFlow)).mark 1 .value)

def content? (s : Scan) (t : Token) (c : Cursor) : Option Scan := do
  return ((← s.saveCandidate?).allow false).emit t |>.move c

def endsAnchor (c : Cursor) : Bool :=
  match c.rest with
  | [] => true
  | x :: _ => isSpace x || ("?:,]\x7d%@\x60".toList).contains x

def anchor? (s : Scan) (make : Text → Token) : Option Scan :=
  let c := s.cursor.skip 1
  let name := c.rest.takeWhile isWord
  let c := c.skip name.length
  if name.isEmpty || !endsAnchor c then none else s.content? (make name) c

def isTagCharacter (verbatim : Bool) (c : Char) : Bool :=
  isWord c || (";/?:@&=+$.%!~*'()".toList).contains c ||
    (verbatim && (c == ',' || c == '[' || c == ']'))

def tagParts? (c : Cursor) : Option (Text × Octets × Cursor) :=
  let start := c.skip 1
  let word := start.rest.takeWhile isWord
  if start.startsWith ['<'] then do
    let start := start.skip 1
    let text := start.rest.takeWhile (isTagCharacter true)
    let c := start.skip text.length
    let suffix ← Tag.octets? text
    if text.isEmpty || !c.startsWith ['>'] then none else some ([], suffix, c.skip 1)
  else if (start.skip word.length).startsWith ['!'] then do
    let start := start.skip (word.length + 1)
    let text := start.rest.takeWhile (isTagCharacter false)
    let suffix ← Tag.octets? text
    if text.isEmpty then none
    else some ('!' :: word ++ ['!'], suffix, start.skip text.length)
  else do
    let text := start.rest.takeWhile (isTagCharacter false)
    let suffix ← Tag.octets? text
    let c := start.skip text.length
    some (if (Tag.beforeZero suffix).isEmpty then ([], Tag.mark, c) else (['!'], suffix, c))

def tag? (s : Scan) : Option Scan := do
  let (handle, suffix, c) ← tagParts? s.cursor
  if c.spaceAt 0 || (s.inFlow && c.startsWith [',']) then s.content? (.tag handle suffix) c
  else none

def natural? (c : Cursor) : Option (Nat × Cursor) :=
  let digits := c.rest.takeWhile Char.isDigit
  if digits.isEmpty || 9 < digits.length then none
  else some (digits.foldl (fun n d => 10 * n + Text.hexValue d) 0, c.skip digits.length)

def version? (c : Cursor) : Option (Token × Cursor) := do
  let (major, c) ← natural? c
  if c.startsWith ['.'] then
    let (minor, c) ← natural? (c.skip 1)
    some (.version major minor, c)
  else none

def tagHandle? (c : Cursor) : Option (Text × Cursor) :=
  if c.startsWith ['!'] then
    let word := (c.skip 1).rest.takeWhile isWord
    let behind := c.skip (word.length + 1)
    if behind.startsWith ['!'] then some ('!' :: word ++ ['!'], behind.skip 1)
    else if word.isEmpty then some (['!'], behind)
    else none
  else none

def tagDirective? (c : Cursor) : Option (Token × Cursor) := do
  let (handle, c) ← tagHandle? c
  let behind := c.skipWhile isBlank
  let text := behind.rest.takeWhile (isTagCharacter true)
  let expansion ← Tag.octets? text
  let ending := behind.skip text.length
  if behind.column = c.column || text.isEmpty || !ending.spaceAt 0 then none
  else some (.tagHandle handle expansion, ending)

def directive? (s : Scan) : Option Scan := do
  let s := (← (s.closeBlocks (-1)).dropCandidate?).allow false
  let c := s.cursor.skip 1
  let name := c.rest.takeWhile isWord
  let c := c.skip name.length
  if !c.spaceAt 0 then none
  else
    let c := c.skipWhile isBlank
    let (t, c) ← if name = "YAML".toList then version? c
      else if name = "TAG".toList then tagDirective? c
      else none
    let c := (c.skipWhile isBlank).skipComment
    if c.isDone then return (s.emit t).move c
    else if c.atBreak then return (s.emit t).move c.skipBreak
    else none

def quoted? (s : Scan) (quote : Char) : Option Scan := do
  let (text, c) ← Yaml.quoted? quote s.cursor
  s.content? (.scalar .other text) c

def block? (s : Scan) (folds : Bool) : Option Scan := do
  let s ← s.dropCandidate?
  let (text, c) ← Yaml.block? folds s.indent s.cursor
  return ((s.allow true).emit (.scalar (if folds then .other else .literal) text)).move c

def plain? (s : Scan) : Option Scan := do
  let scalar ← Yaml.plain? s.inFlow (s.indent + 1) s.cursor
  let s ← s.content? (.scalar .plain scalar.text) scalar.cursor
  return if scalar.broken then s.allow true else s

def beginsPlain (s : Scan) (x : Char) : Bool :=
  if x == '-' then !(s.cursor.rest.drop 1).head?.any isBlank
  else if x == '?' || x == ':' then !s.inFlow && !s.cursor.spaceAt 1
  else !(",[]\x7b\x7d#&*!|>'\"%@\x60".toList).contains x && !isSpace x

def next? (s : Scan) (x : Char) : Option Scan :=
  if s.cursor.column = 0 && x == '%' then s.directive?
  else if s.cursor.atDocumentMark then
    s.documentMark? (if x == '-' then .documentStart else .documentEnd)
  else if x == '-' && s.cursor.spaceAt 1 then s.blockEntry?
  else if x == '?' && (s.inFlow || s.cursor.spaceAt 1) then s.key?
  else if x == ':' && (s.inFlow || s.cursor.spaceAt 1) then s.value?
  else
    match x with
    | '[' => s.openFlow? .flowSequenceStart
    | '\x7b' => s.openFlow? .flowMappingStart
    | ']' => s.closeFlow? .flowSequenceEnd
    | '\x7d' => s.closeFlow? .flowMappingEnd
    | ',' => s.flowEntry?
    | '*' => s.anchor? .alias
    | '&' => s.anchor? .anchor
    | '!' => s.tag?
    | '"' => s.quoted? '"'
    | '\'' => s.quoted? '\''
    | _ =>
        if x == '|' && !s.inFlow then s.block? false
        else if x == '>' && !s.inFlow then s.block? true
        else if s.beginsPlain x then s.plain?
        else none

def finish? (s : Scan) : Option Scan := do
  (s.closeBlocks (-1)).dropCandidate?

def run? (fuel : Nat) (s : Scan) : Option Scan := do
  match fuel with
  | 0 => none
  | fuel + 1 =>
      let s ← (s.skipSpace (s.cursor.rest.length + 1)).dropStale?
      let s := s.closeBlocks s.cursor.column
      match s.cursor.rest with
      | [] => s.finish?
      | x :: _ => run? fuel (← s.next? x)

end Scan

namespace Token

def scan? (text : Text) : Option (List Token) :=
  if text.all isPermitted then do
    let s ← Scan.run? (text.length + 1) (.start (unifyBreaks text))
    return s.tokens.reverse
  else none

end Token
end JsonReference.Yaml
