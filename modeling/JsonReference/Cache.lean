import JsonReference.Json.Basic

namespace JsonReference

structure Cache.Entry where
  document : Json
  tick : Nat

/-- A cache of documents. At most `capacity` of them are kept besides those that are pinned; the one
not used for longest goes first. Every use takes the next tick of the clock, and `order` holds the
ticks at which the entries were last used, the oldest first. -/
structure Cache where
  capacity : Nat
  entries : Table Text Cache.Entry
  order : List (Nat × Text)
  -- Without an end: no cache is used `2 ^ 64` times, after which 64 bits would start again.
  clock : Nat
  pinned : Table Text Json

namespace Cache

def empty (capacity : Nat) : Cache := ⟨capacity, [], [], 0, []⟩

def size (c : Cache) : Nat := c.entries.length + c.pinned.length

def isEmpty (c : Cache) : Bool := c.size == 0

def contains (c : Cache) (key : Text) : Bool :=
  (c.pinned.find? key).isSome || (c.entries.find? key).isSome

def touch (c : Cache) (key : Text) : Option Json × Cache :=
  let tick := c.clock + 1
  match c.entries.find? key with
  | none => (none, { c with clock := tick })
  | some entry =>
      (some entry.document,
        { c with
          entries := c.entries.put key { entry with tick }
          order := c.order.filter (·.1 ≠ entry.tick) ++ [(tick, key)]
          clock := tick })

def get (c : Cache) (key : Text) : Option Json × Cache :=
  match c.pinned.find? key with
  | some document => (some document, c)
  | none => c.touch key

def evict (capacity : Nat) (entries : Table Text Entry) :
    List (Nat × Text) → Table Text Entry × List (Nat × Text)
  | [] => (entries, [])
  | (tick, key) :: order =>
      if capacity < entries.length then evict capacity (entries.drop key) order
      else (entries, (tick, key) :: order)

def insert (c : Cache) (key : Text) (document : Json) : Cache :=
  if c.capacity = 0 then c
  else
    let tick := c.clock + 1
    let order := match c.entries.find? key with
      | some old => c.order.filter (·.1 ≠ old.tick)
      | none => c.order
    let (entries, order) := evict c.capacity (c.entries.put key ⟨document, tick⟩)
      (order ++ [(tick, key)])
    { c with entries, order, clock := tick }

def pin (c : Cache) (key : Text) (document : Json) : Option Json × Cache :=
  let old := c.entries.find? key
  let order := match old with
    | some old => c.order.filter (·.1 ≠ old.tick)
    | none => c.order
  ((c.pinned.find? key).or (old.map (·.document)),
    { c with entries := c.entries.drop key, order, pinned := c.pinned.put key document })

structure Filled (ε : Type) where
  result : Except ε Json
  ran : Bool
  cache : Cache

/-- The document held under `key`, or else the one that `fill` gives. A failure is not kept. -/
def getOrFill {ε : Type} (c : Cache) (key : Text) (fill : Unit → Except ε Json) : Filled ε :=
  match c.get key with
  | (some document, c) => ⟨.ok document, false, c⟩
  | (none, c) =>
      match c.get key with
      | (some document, c) => ⟨.ok document, false, c⟩
      | (none, c) =>
          match fill () with
          | .ok document => ⟨.ok document, true, c.insert key document⟩
          | .error e => ⟨.error e, true, c⟩

def clear (c : Cache) : Cache := { c with entries := [], order := [] }

end Cache
end JsonReference
