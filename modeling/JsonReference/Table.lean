namespace JsonReference

abbrev Table (κ α : Type) := List (κ × α)

namespace Table

variable {κ α : Type} [DecidableEq κ]

def find? (key : κ) : Table κ α → Option α
  | [] => none
  | (k, a) :: rest => if k = key then some a else find? key rest

/-- Replaces the row of `key` where it stands, or adds one at the end. -/
def put (key : κ) (a : α) : Table κ α → Table κ α
  | [] => [(key, a)]
  | (k, b) :: rest => if k = key then (key, a) :: rest else (k, b) :: put key a rest

def drop (key : κ) (table : Table κ α) : Table κ α := table.filter (·.1 ≠ key)

end Table
end JsonReference
