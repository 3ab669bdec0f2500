import JsonReference.Download.Error
import JsonReference.Table

namespace JsonReference

abbrev FileReader := Octets → Except FileFault Octets

namespace Files

def slash : UInt8 := 0x2f

def names : Octets → List Octets
  | [] => [[]]
  | b :: rest =>
      if b = slash then [] :: names rest
      else match names rest with
        | [] => [[b]]
        | n :: ns => (b :: n) :: ns

abbrev Tree := List (List Octets × Octets)

inductive Place where
  | file (content : Octets)
  | directory
  | nothing

def place (tree : Tree) (path : List Octets) : Place :=
  match tree.find? (·.1 = path) with
  | some (_, content) => .file content
  | none => if path.isEmpty || tree.any (path.isPrefixOf ·.1) then .directory else .nothing

def greatestName : Nat := 255

/-- Goes on from the directory at `path` by names, of which an empty one and a single dot stay where
they are. -/
def walk (tree : Tree) (path : List Octets) : List Octets → Except FileFault (List Octets)
  | [] => .ok path
  | n :: rest =>
      match place tree path with
      | .file _ => .error .notDirectory
      | .nothing => .error .missing
      | .directory =>
          if greatestName < n.length then .error .nameTooLong
          else if n.isEmpty || n = Text.octets ['.'] then walk tree path rest
          else if n = Text.octets ['.', '.'] then walk tree path.dropLast rest
          else walk tree (path ++ [n]) rest

/-- A path is shorter than this, and each of its names is no longer than `greatestName`. -/
def pathLimit : Nat := 4096

def reader (tree : Tree) (cwd : List Octets) : FileReader := fun path =>
  if path.isEmpty then .error .missing
  else if path.contains 0 then .error .nulByte
  else if pathLimit ≤ path.length then .error .nameTooLong
  else do
    let start := if path.head? = some slash then [] else cwd
    let end_ ← walk tree start (names path)
    match place tree end_ with
    | .file content => .ok content
    | .directory => .error .isDirectory
    | .nothing => .error .missing

end Files
end JsonReference
