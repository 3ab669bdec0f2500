import JsonReference.Table
import JsonReference.Yaml.Basic
import JsonReference.Yaml.Token

namespace JsonReference.Yaml

/-- The anchors of a document. An anchored node gets the count of the names before it for a number,
so a name that comes again may share its number with the next new name. A number stands for the
node that was begun last under it. -/
structure Anchors where
  numbers : Table Text Nat
  begun : List Nat
  nodes : Table Nat Yaml

namespace Anchors

def none : Anchors := ⟨[], [], []⟩

def begin (a : Anchors) (name : Text) : Anchors :=
  let number := a.numbers.length
  { a with numbers := a.numbers.put name number, begun := number :: a.begun }

def complete (a : Anchors) (before : Nat) (node : Yaml) : Anchors :=
  { a with nodes := a.nodes.put before node }

def node? (a : Anchors) (number : Nat) : Option Yaml :=
  a.nodes.find? (a.begun.length - 1 - a.begun.idxOf number)

end Anchors

structure Reading where
  tokens : List Token
  anchors : Anchors
  handles : Tag.Handles

namespace Reading

def head? (r : Reading) : Option Token := r.tokens.head?

def skip (r : Reading) : Reading := { r with tokens := r.tokens.tail }

def at? (r : Reading) (stops : List Token) : Bool := r.head?.any stops.contains

def expect? (r : Reading) (t : Token) : Option Reading :=
  if r.head? = some t then some r.skip else none

end Reading

structure Properties where
  anchor : Option Text
  tag : Option Octets

namespace Properties

def isNone (p : Properties) : Bool := p.anchor.isNone && p.tag.isNone

end Properties

def properties? (r : Reading) : Option (Properties × Reading) :=
  match r.tokens with
  | .anchor name :: .tag handle suffix :: rest => do
      return (⟨some name, some (← Tag.expand? r.handles handle suffix)⟩, { r with tokens := rest })
  | .tag handle suffix :: .anchor name :: rest => do
      return (⟨some name, some (← Tag.expand? r.handles handle suffix)⟩, { r with tokens := rest })
  | .anchor name :: rest => some (⟨some name, none⟩, { r with tokens := rest })
  | .tag handle suffix :: rest => do
      return (⟨none, some (← Tag.expand? r.handles handle suffix)⟩, { r with tokens := rest })
  | _ => some (⟨none, none⟩, r)

def begin (p : Properties) (r : Reading) : Reading :=
  match p.anchor with
  | some name => { r with anchors := r.anchors.begin name }
  | none => r

def complete (p : Properties) (before : Nat) (node : Yaml) (r : Reading) : Yaml × Reading :=
  if p.anchor.isSome then (node, { r with anchors := r.anchors.complete before node })
  else (node, r)

def entryStops : List Token := [.key, .value, .blockEnd]

mutual
/-- A node. Block collections are read where `block` holds, and a sequence with no indentation of
its own where `indentless` does. -/
def node? (fuel : Nat) (block indentless : Bool) (r : Reading) : Option (Yaml × Reading) :=
  match fuel with
  | 0 => none
  | fuel + 1 =>
      match r.tokens with
      | .alias name :: _ =>
          (r.anchors.numbers.find? name).map fun number => (.alias number, r.skip)
      | _ => do
          let (p, r) ← properties? r
          let before := r.anchors.begun.length
          let r := begin p r
          match r.tokens with
          | .scalar style text :: _ => return complete p before (.scalar p.tag style text) r.skip
          | .flowSequenceStart :: _ =>
              let (items, r) ← flowItems? fuel true r.skip
              return complete p before (.sequence p.tag items) r
          | .flowMappingStart :: _ =>
              let (entries, r) ← flowEntries? fuel true r.skip
              return complete p before (.mapping p.tag entries) r
          | t :: _ =>
              if block && t == .blockSequenceStart then
                let (items, r) ← blockItems? fuel r.skip
                return complete p before (.sequence p.tag items) r
              else if block && t == .blockMappingStart then
                let (entries, r) ← blockEntries? fuel r.skip
                return complete p before (.mapping p.tag entries) r
              else if indentless && t == .blockEntry then
                let (items, r) ← indentlessItems? fuel r
                return complete p before (.sequence p.tag items) r
              else if p.isNone then none
              else return complete p before (.scalar p.tag .plain []) r
          | [] => if p.isNone then none else return complete p before (.scalar p.tag .plain []) r
termination_by structural fuel

def nodeBefore? (fuel : Nat) (block indentless : Bool) (stops : List Token) (r : Reading) :
    Option (Yaml × Reading) :=
  match fuel with
  | 0 => none
  | fuel + 1 => if r.at? stops then some (.empty, r) else node? fuel block indentless r
termination_by structural fuel

def blockItems? (fuel : Nat) (r : Reading) : Option (List Yaml × Reading) :=
  match fuel with
  | 0 => none
  | fuel + 1 =>
      match r.tokens with
      | .blockEntry :: _ => do
          let (x, r) ← nodeBefore? fuel true false [.blockEntry, .blockEnd] r.skip
          let (rest, r) ← blockItems? fuel r
          return (x :: rest, r)
      | .blockEnd :: _ => some ([], r.skip)
      | _ => none
termination_by structural fuel

def indentlessItems? (fuel : Nat) (r : Reading) : Option (List Yaml × Reading) :=
  match fuel with
  | 0 => none
  | fuel + 1 =>
      match r.tokens with
      | .blockEntry :: _ => do
          let (x, r) ← nodeBefore? fuel true false (.blockEntry :: entryStops) r.skip
          let (rest, r) ← indentlessItems? fuel r
          return (x :: rest, r)
      | _ => some ([], r)
termination_by structural fuel

def blockEntries? (fuel : Nat) (r : Reading) : Option (List (Yaml × Yaml) × Reading) :=
  match fuel with
  | 0 => none
  | fuel + 1 =>
      match r.tokens with
      | .key :: _ => do
          let (k, r) ← nodeBefore? fuel true true entryStops r.skip
          let (x, r) ← blockValue? fuel r
          let (rest, r) ← blockEntries? fuel r
          return ((k, x) :: rest, r)
      | .blockEnd :: _ => some ([], r.skip)
      | _ => none
termination_by structural fuel

def blockValue? (fuel : Nat) (r : Reading) : Option (Yaml × Reading) :=
  match fuel with
  | 0 => none
  | fuel + 1 =>
      match r.tokens with
      | .value :: _ => nodeBefore? fuel true true entryStops r.skip
      | _ => some (.empty, r)
termination_by structural fuel

def flowItems? (fuel : Nat) (first : Bool) (r : Reading) : Option (List Yaml × Reading) :=
  match fuel with
  | 0 => none
  | fuel + 1 => do
      if r.at? [.flowSequenceEnd] then some ([], r.skip)
      else
        let r ← if first then some r else r.expect? .flowEntry
        if r.at? [.flowSequenceEnd] then some ([], r.skip)
        else
          let (x, r) ← if r.at? [.key] then pair? fuel r.skip else node? fuel false false r
          let (rest, r) ← flowItems? fuel false r
          return (x :: rest, r)
termination_by structural fuel

/-- A mapping of one entry without brackets. The token behind a key that is not written goes
unread. -/
def pair? (fuel : Nat) (r : Reading) : Option (Yaml × Reading) :=
  match fuel with
  | 0 => none
  | fuel + 1 => do
      let (k, r) ← if r.at? [.value, .flowEntry, .flowSequenceEnd] then some (.empty, r.skip)
        else node? fuel false false r
      let (x, r) ← if r.at? [.value] then
          nodeBefore? fuel false false [.flowEntry, .flowSequenceEnd] r.skip
        else some (.empty, r)
      return (.mapping none [(k, x)], r)
termination_by structural fuel

def flowEntries? (fuel : Nat) (first : Bool) (r : Reading) :
    Option (List (Yaml × Yaml) × Reading) :=
  match fuel with
  | 0 => none
  | fuel + 1 => do
      if r.at? [.flowMappingEnd] then some ([], r.skip)
      else
        let r ← if first then some r else r.expect? .flowEntry
        if r.at? [.flowMappingEnd] then some ([], r.skip)
        else
          let (entry, r) ← flowEntry? fuel r
          let (rest, r) ← flowEntries? fuel false r
          return (entry :: rest, r)
termination_by structural fuel

def flowEntry? (fuel : Nat) (r : Reading) : Option ((Yaml × Yaml) × Reading) :=
  match fuel with
  | 0 => none
  | fuel + 1 => do
      if r.at? [.key] then
        let (k, r) ← nodeBefore? fuel false false [.value, .flowEntry, .flowMappingEnd] r.skip
        let (x, r) ← if r.at? [.value] then
            nodeBefore? fuel false false [.flowEntry, .flowMappingEnd] r.skip
          else some (.empty, r)
        return ((k, x), r)
      else
        let (k, r) ← node? fuel false false r
        return ((k, .empty), r)
termination_by structural fuel
end

def directives? (versioned : Bool) (own : Tag.Handles) :
    List Token → Option (Tag.Handles × List Token)
  | .version major minor :: rest =>
      if versioned || major ≠ 1 || (minor ≠ 1 && minor ≠ 2) then none
      else directives? true own rest
  | .tagHandle handle expansion :: rest =>
      if (own.find? handle).isSome then none
      else directives? versioned (own.put handle expansion) rest
  | tokens => some (own ++ Tag.standardHandles, tokens)

def skipEnds (tokens : List Token) : List Token := tokens.dropWhile (· = .documentEnd)

structure Document where
  root : Yaml
  anchors : Anchors

def Document.resolve? (d : Document) : Yaml → Option Yaml
  | .alias number => d.anchors.node? number
  | node => some node

def document? (tokens : List Token) : Option (Option Document × List Token) :=
  match tokens with
  | [] => some (none, [])
  | _ => do
      let (handles, rest) ← directives? false [] tokens
      let r : Reading := ⟨rest, .none, handles⟩
      let fuel := 4 * tokens.length + 4
      let explicit := rest.length < tokens.length || r.at? [.documentStart]
      let (node, r) ← if explicit then do
          let r ← r.expect? .documentStart
          if r.tokens.isEmpty || r.at? [.documentStart, .documentEnd] then some (Yaml.empty, r)
          else node? fuel true false r
        else node? fuel true false r
      return (some ⟨node, r.anchors⟩, r.tokens)

def ofText? (text : Text) : Option (Option Document) := do
  let (document, rest) ← document? (← Token.scan? text)
  if (skipEnds rest).isEmpty then some document else none

end JsonReference.Yaml
