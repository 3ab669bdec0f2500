import JsonReference.Cache

namespace JsonReference.Cache

abbrev Gate := Nat

/-- Where a call stands. What it brings back is a document, or nothing if it could not be had. -/
inductive Stage where
  | looking
  | missed
  | waiting (gate : Gate)
  | entered (gate : Gate)
  | ready (gate : Gate)
  | filling (gate : Gate)
  | storing (gate : Gate) (document : Json)
  | leaving (gate : Gate) (result : Option Json)
  | outside (gate : Gate) (result : Option Json)
  | parting (gate : Gate) (result : Option Json)
  | finished (result : Option Json)

namespace Stage

def gate? : Stage → Option Gate
  | .waiting g | .entered g | .ready g | .filling g | .storing g _ | .leaving g _
  | .outside g _ | .parting g _ => some g
  | _ => none

def locked? : Stage → Option Gate
  | .entered g | .ready g | .filling g | .storing g _ | .leaving g _ => some g
  | _ => none

def isFinished : Stage → Bool
  | .finished _ => true
  | _ => false

end Stage

structure Call where
  key : Text
  stage : Stage

/-- Calls that ask one cache for documents at the same time. The calls for a key wait for each other
at its gate, which the first of them makes and one that finds nobody else there takes away. Each
move is made as a whole, and between two moves of a call any other may move. -/
structure Callers where
  cache : Cache
  gates : Table Text Gate
  made : Nat
  calls : List Call

namespace Callers

def start (cache : Cache) (keys : List Text) : Callers :=
  ⟨cache, [], 0, keys.map fun key => ⟨key, .looking⟩⟩

def isLocked (s : Callers) (g : Gate) : Bool := s.calls.any (·.stage.locked? = some g)

/-- How many have hold of a gate: calls, and the table if it is there. -/
def holds (s : Callers) (g : Gate) : Nat :=
  s.calls.countP (·.stage.gate? = some g) + s.gates.countP (·.2 = g)

def advance (s : Callers) (i : Nat) (call : Call) (stage : Stage) : Callers :=
  { s with calls := s.calls.set i { call with stage } }

def approach (s : Callers) (i : Nat) (call : Call) : Callers :=
  match s.gates.find? call.key with
  | some g => s.advance i call (.waiting g)
  | none =>
      { s with gates := s.gates.put call.key s.made, made := s.made + 1 }.advance i call
        (.waiting s.made)

/-- Takes away the gate of a key, unless more than two have hold of it. -/
def removeGate (s : Callers) (key : Text) : Callers :=
  match s.gates.find? key with
  | some g => if s.holds g ≤ 2 then { s with gates := s.gates.drop key } else s
  | none => s

def look (s : Callers) (i : Nat) (call : Call) (found : Json → Stage) (missing : Stage) : Callers :=
  match s.cache.get call.key with
  | (some document, cache) => { s with cache }.advance i call (found document)
  | (none, cache) => { s with cache }.advance i call missing

/-- The move of a call, where `filled` is what comes of its filling if that ends now. -/
def move? (s : Callers) (i : Nat) (filled : Option Json) : Option Callers := do
  let call ← s.calls[i]?
  match call.stage with
  | .looking => return s.look i call (fun document => .finished (some document)) .missed
  | .missed => return s.approach i call
  | .waiting g => if s.isLocked g then none else return s.advance i call (.entered g)
  | .entered g => return s.look i call (fun document => .leaving g (some document)) (.ready g)
  | .ready g => return s.advance i call (.filling g)
  | .filling g =>
      match filled with
      | some document => return s.advance i call (.storing g document)
      | none => return s.advance i call (.leaving g none)
  | .storing g document =>
      return { s with cache := s.cache.insert call.key document }.advance i call
        (.leaving g (some document))
  | .leaving g result => return s.advance i call (.outside g result)
  | .outside g result => return (s.removeGate call.key).advance i call (.parting g result)
  | .parting _ result => return s.advance i call (.finished result)
  | .finished _ => none

/-- The states that calls for some keys can come to on a cache that may be cleared at any time. -/
inductive Reachable (cache : Cache) (keys : List Text) : Callers → Prop
  | start : Reachable cache keys (.start cache keys)
  | move {s t : Callers} (i : Nat) (filled : Option Json) :
      Reachable cache keys s → s.move? i filled = some t → Reachable cache keys t
  | clear {s : Callers} : Reachable cache keys s →
      Reachable cache keys { s with cache := s.cache.clear }

def filling (s : Callers) (key : Text) : List Call :=
  s.calls.filter fun call =>
    call.key = key && match call.stage with
      | .filling _ => true
      | _ => false

def allFinished (s : Callers) : Bool := s.calls.all (·.stage.isFinished)

end Callers
end JsonReference.Cache
