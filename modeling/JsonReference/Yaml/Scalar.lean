import JsonReference.Yaml.Cursor

namespace JsonReference.Yaml

/-- The space between two words that is not part of the text yet. -/
structure Gap where
  blanks : Text
  /-- Whether a line has ended, with the break that ended it unless that was escaped. -/
  first : Option (Option Char)
  further : Text

namespace Gap

def none : Gap := ⟨[], .none, []⟩

def isNone (g : Gap) : Bool := g.blanks.isEmpty && g.first.isNone

def isBroken (g : Gap) : Bool := g.first.isSome

def addBlank (g : Gap) (c : Char) : Gap :=
  if g.isBroken then g else { g with blanks := c :: g.blanks }

def addBreak (g : Gap) (c : Char) : Gap :=
  if g.isBroken then { g with further := c :: g.further } else ⟨[], some (some c), []⟩

def folded (g : Gap) : Text :=
  match g.first with
  | .none => g.blanks
  | some .none => g.further
  | some (some c) =>
      if c = '\n' then if g.further.isEmpty then [' '] else g.further else g.further ++ [c]

end Gap

structure PlainScalar where
  text : Text
  cursor : Cursor
  broken : Bool

def isFlowMark (c : Char) : Bool :=
  c == ',' || c == '[' || c == ']' || c == '\x7b' || c == '\x7d'

def endsPlain (flow : Bool) (c : Cursor) (x : Char) : Bool :=
  (x == ':' && c.spaceAt 1) || (flow && isFlowMark x)

/-- Whether a colon stands where in a flow neither a scalar nor a value can go on. -/
def isLostColon (flow : Bool) (x : Char) (next : Option Char) : Bool :=
  flow && x == ':' && next.any fun y => isFlowMark y || y == '?'

def plainFrom (fuel : Nat) (flow : Bool) (indent : Int) (read : Text) (gap : Gap) (c : Cursor) :
    Option PlainScalar :=
  let stop : Option PlainScalar := some ⟨read.reverse, c, gap.isBroken⟩
  match fuel, c.rest with
  | 0, _ => none
  | _, [] => stop
  | fuel + 1, x :: rest =>
      if isBlank x then
        if gap.isBroken && x == '\t' && (c.column : Int) < indent then none
        else plainFrom fuel flow indent read (gap.addBlank x) (c.skip 1)
      else if isBreak x then plainFrom fuel flow indent read (gap.addBreak x) c.skipBreak
      else if !gap.isNone && ((!flow && (c.column : Int) < indent) || c.atDocumentMark || x == '#')
      then stop
      else if isLostColon flow x rest.head? then none
      else if endsPlain flow c x then stop
      else plainFrom fuel flow indent (x :: gap.folded ++ read) .none (c.skip 1)

def plain? (flow : Bool) (indent : Int) (c : Cursor) : Option PlainScalar :=
  plainFrom (c.rest.length + 1) flow indent [] .none c

def hexEscape? (width : Nat) (digits : Text) : Option (Char × Nat) :=
  let digits := digits.take width
  let value := digits.foldl (fun n c => 16 * n + Text.hexValue c) 0
  if digits.length = width ∧ digits.all Text.isHexDigit ∧ value.isValidChar then
    some (Char.ofNat value, width + 1)
  else none

def escape? : Text → Option (Char × Nat)
  | [] => none
  | x :: rest =>
      match x with
      | '0' => some ('\x00', 1)
      | 'a' => some ('\x07', 1)
      | 'b' => some ('\x08', 1)
      | 't' => some ('\t', 1)
      | '\t' => some ('\t', 1)
      | 'n' => some ('\n', 1)
      | 'v' => some ('\x0b', 1)
      | 'f' => some ('\x0c', 1)
      | 'r' => some ('\r', 1)
      | 'e' => some ('\x1b', 1)
      | ' ' => some (' ', 1)
      | '"' => some ('"', 1)
      | '/' => some ('/', 1)
      | '\\' => some ('\\', 1)
      | 'N' => some ('\u0085', 1)
      | '_' => some ('\u00a0', 1)
      | 'L' => some ('\u2028', 1)
      | 'P' => some ('\u2029', 1)
      | 'x' => hexEscape? 2 rest
      | 'u' => hexEscape? 4 rest
      | 'U' => hexEscape? 8 rest
      | _ => none

def quotedFrom (fuel : Nat) (quote : Char) (read : Text) (gap : Gap) (c : Cursor) :
    Option (Text × Cursor) :=
  match fuel, c.rest with
  | 0, _ => none
  | _, [] => none
  | fuel + 1, x :: rest =>
      let read' := gap.folded ++ read
      if isBlank x then quotedFrom fuel quote read (gap.addBlank x) (c.skip 1)
      else if isBreak x then quotedFrom fuel quote read (gap.addBreak x) c.skipBreak
      else if c.atDocumentMark then none
      else if x = quote then
        if quote = '\'' ∧ rest.head? = some '\'' then
          quotedFrom fuel quote ('\'' :: read') .none (c.skip 2)
        else some (read'.reverse, c.skip 1)
      else if quote = '"' ∧ x = '\\' then
        if (c.skip 1).atBreak then
          quotedFrom fuel quote read' ⟨[], some none, []⟩ (c.skip 1).skipBreak
        else
          match escape? rest with
          | some (y, width) => quotedFrom fuel quote (y :: read') .none (c.skip (width + 1))
          | none => none
      else quotedFrom fuel quote (x :: read') .none (c.skip 1)

def quoted? (quote : Char) (c : Cursor) : Option (Text × Cursor) :=
  quotedFrom (c.rest.length + 1) quote [] .none (c.skip 1)

inductive Chomping where
  | strip
  | clip
  | keep
deriving DecidableEq

def chomping? : Char → Option Chomping
  | '+' => some .keep
  | '-' => some .strip
  | _ => none

def increment? (c : Char) : Option Nat :=
  if c.isDigit && c ≠ '0' then some (Text.hexValue c) else none

def blockMarks : Text → Chomping × Nat × Nat
  | [] => (.clip, 0, 0)
  | x :: rest =>
      let y := rest.head?
      match chomping? x, increment? x with
      | some chomping, _ =>
          match y.bind increment? with
          | some n => (chomping, n, 2)
          | none => (chomping, 0, 1)
      | _, some n =>
          match y.bind chomping? with
          | some chomping => (chomping, n, 2)
          | none => (.clip, n, 1)
      | none, none => (.clip, 0, 0)

/-- The indentation of a block, where zero is one not known yet, and the breaks before its next
line. -/
structure BlockStart where
  indent : Nat
  breaks : Text
  cursor : Cursor

def blockStart? (fuel : Nat) (least indent deepest : Nat) (breaks : Text) (c : Cursor) :
    Option BlockStart :=
  match fuel with
  | 0 => none
  | fuel + 1 =>
      let spaces := (c.rest.takeWhile (· = ' ')).length
      let c := c.skip (if indent = 0 then spaces else min spaces (indent - c.column))
      let deepest := max deepest c.column
      if (indent = 0 || c.column < indent) && c.startsWith ['\t'] then none
      else
        match c.rest with
        | x :: _ =>
            if isBreak x then blockStart? fuel least indent deepest (x :: breaks) c.skipBreak
            else some ⟨if indent = 0 then max deepest least else indent, breaks, c⟩
        | [] => some ⟨if indent = 0 then max deepest least else indent, breaks, c⟩

def joins (folds blank : Bool) (ending : Option Char) (c : Cursor) : Bool :=
  folds && ending == some '\n' && !blank && !(c.rest.head?.any isBlank)

/-- Reads the lines of a block. `ending` is the break of the line before, and `blank` tells whether
that line begins with a blank. -/
def blockLines (fuel : Nat) (folds : Bool) (chomping : Chomping) (read : Text) (blank : Bool)
    (ending : Option Char) (s : BlockStart) : Option (Text × Cursor) :=
  let c := s.cursor
  match fuel with
  | 0 => none
  | fuel + 1 =>
      if c.column = s.indent ∧ !c.isDone then
        let between :=
          if joins folds blank ending c then if s.breaks.isEmpty then [' '] else s.breaks
          else s.breaks ++ ending.toList
        let line := c.rest.takeWhile (!isBreak ·)
        let behind := c.skip line.length
        let after := if behind.atBreak then behind.skipBreak else behind
        match blockStart? fuel s.indent s.indent 0 [] after with
        | none => none
        | some next =>
            blockLines fuel folds chomping (line.reverse ++ between ++ read)
              (c.rest.head?.any isBlank) (behind.rest.head?.filter isBreak) next
      else
        let tail := match chomping with
          | .strip => []
          | .clip => ending.toList
          | .keep => s.breaks ++ ending.toList
        some ((tail ++ read).reverse, c)

def block? (folds : Bool) (indent : Int) (c : Cursor) : Option (Text × Cursor) :=
  let c := c.skip 1
  let (chomping, increment, width) := blockMarks c.rest
  let c := ((c.skip width).skipWhile isBlank).skipComment
  if c.isDone || c.atBreak then
    let c := if c.atBreak then c.skipBreak else c
    let fuel := c.rest.length + 2
    let known := if increment = 0 then 0 else indent.toNat + increment
    match blockStart? fuel (max (indent + 1).toNat 1) known 0 [] c with
    | none => none
    | some start => blockLines fuel folds chomping [] false none start
  else none

end JsonReference.Yaml
