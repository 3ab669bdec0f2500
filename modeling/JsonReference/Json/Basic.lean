import JsonReference.Number.Double
import JsonReference.Table
import JsonReference.Text.Basic

namespace JsonReference

inductive Number where
  | integer (value : Int)
  | double (value : Double)
deriving DecidableEq

inductive Json where
  | null
  | bool (value : Bool)
  | number (value : Number)
  | string (value : Text)
  | array (items : List Json)
  | object (members : List (Text × Json))

instance : Inhabited Json := ⟨.null⟩

namespace Json

def putMember (name : Text) (value : Json) : List (Text × Json) → List (Text × Json)
  | [] => [(name, value)]
  | (k, v) :: rest =>
      if name < k then (name, value) :: (k, v) :: rest
      else if name = k then (name, value) :: rest
      else (k, v) :: putMember name value rest

def ofMembers (members : List (Text × Json)) : Json :=
  .object (members.foldl (fun ms m => putMember m.1 m.2 ms) [])

/-- The names at every object ascend, and every item of an array has an index less than `2 ^ 64`. -/
inductive WellFormed : Json → Prop where
  | null : WellFormed .null
  | bool (b : Bool) : WellFormed (.bool b)
  | number (n : Number) : WellFormed (.number n)
  | string (t : Text) : WellFormed (.string t)
  | array (items : List Json) : items.length ≤ Nat.pow 2 64 → (∀ x ∈ items, WellFormed x) →
      WellFormed (.array items)
  | object (members : List (Text × Json)) : (members.map (·.1)).Pairwise (· < ·) →
      (∀ m ∈ members, WellFormed m.2) → WellFormed (.object members)

def member? (name : Text) : Json → Option Json
  | .object members => Table.find? name members
  | _ => none

def isContainer : Json → Bool
  | .array _ => true
  | .object _ => true
  | _ => false

def string? : Json → Option Text
  | .string t => some t
  | _ => none

mutual
/-- Equality member by member and item by item, where an integer is never a floating-point
number. -/
def same : Json → Json → Bool
  | .null, .null => true
  | .bool a, .bool b => a == b
  | .number (.integer a), .number (.integer b) => a == b
  | .number (.double a), .number (.double b) => a.same b
  | .string a, .string b => a == b
  | .array xs, .array ys => sameItems xs ys
  | .object xs, .object ys => sameMembers xs ys
  | _, _ => false
termination_by structural a => a

def sameItems : List Json → List Json → Bool
  | [], [] => true
  | x :: xs, y :: ys => same x y && sameItems xs ys
  | _, _ => false
termination_by structural xs => xs

def sameMembers : List (Text × Json) → List (Text × Json) → Bool
  | [], [] => true
  | (k, x) :: xs, (l, y) :: ys => k == l && same x y && sameMembers xs ys
  | _, _ => false
termination_by structural xs => xs
end

end Json
end JsonReference
