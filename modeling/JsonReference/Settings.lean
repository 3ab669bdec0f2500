import JsonReference.Config
import JsonReference.Yaml.Document

namespace JsonReference

structure Settings where
  base : Option Text
  dereferencing : Option Dereferencing
  cacheSize : Option Nat
  schemaRedirects : Table Text Text
  pathRedirects : Table Text Text

inductive SettingsError where
  | unreadable (path : Text) (fault : FileFault)
  | yaml
  | json (fault : Json.ReadFault)
  | config (error : ConfigError)
deriving DecidableEq, Repr

namespace SettingsError

def message : SettingsError → String
  | .unreadable path fault =>
      "cannot read settings file '" ++ path.str ++ "': " ++ fault.message
  | .yaml => "invalid YAML settings: malformed text"
  | .json fault => "invalid JSON settings: " ++ fault.message
  | .config error => "invalid setting: " ++ error.message

def causes (e : SettingsError) : List String :=
  match e with
  | .unreadable _ fault => [e.message, fault.message]
  | .yaml => [e.message, "malformed text"]
  | .json fault => [e.message, fault.message]
  | .config error => e.message :: error.causes

end SettingsError

structure SettingsSource (ν : Type) where
  isNull? : ν → Option Bool
  text? : ν → Option Text
  natural? : ν → Option Nat
  dereferencing? : ν → Option Dereferencing
  members? : ν → Option (List (Text × ν))
  items? : ν → Option (List ν)

namespace SettingsSource

def optional? {ν α : Type} (source : SettingsSource ν) (read? : ν → Option α) (value : ν) :
    Option (Option α) := do
  if ← source.isNull? value then return none else return some (← read? value)

def redirects? {ν : Type} (source : SettingsSource ν) (value : ν) : Option (Table Text Text) := do
  let rows ← (← source.members? value).mapM fun m => do return (m.1, ← source.text? m.2)
  let table := rows.foldl (fun (table : Table Text Text) row => table.put row.1 row.2) []
  return table.mergeSort fun a b => !decide (b.1 < a.1)

end SettingsSource

namespace Settings

def none : Settings := ⟨.none, .none, .none, [], []⟩

def fields : List Text :=
  ["namespace", "dereferencing", "cache_size", "schema_redirects", "path_redirects"].map (·.toList)

variable {ν : Type}

def setField? (source : SettingsSource ν) (s : Settings) (position : Nat) (value : ν) :
    Option Settings := do
  match position with
  | 0 => return { s with base := ← source.optional? source.text? value }
  | 1 => return { s with dereferencing := ← source.optional? source.dereferencing? value }
  | 2 => return { s with cacheSize := ← source.optional? source.natural? value }
  | 3 => return { s with schemaRedirects := ← source.redirects? value }
  | 4 => return { s with pathRedirects := ← source.redirects? value }
  | _ => .none

def ofItems? (source : SettingsSource ν) (s : Settings) (position : Nat) :
    List ν → Option Settings
  | [] => some s
  | value :: rest => do
      ofItems? source (← setField? source s position value) (position + 1) rest

/-- Sets fields by their names, of which every one may come once. -/
def ofMembers? (source : SettingsSource ν) (s : Settings) (left : List Text) :
    List (Text × ν) → Option Settings
  | [] => some s
  | (name, value) :: rest =>
      if left.contains name then do
        ofMembers? source (← setField? source s (fields.idxOf name) value) (left.erase name) rest
      else .none

/-- Settings are a map of fields, or where lists count the list of their values in order. -/
def of? (source : SettingsSource ν) (value : ν) : Option Settings :=
  match source.items? value with
  | some items => ofItems? source none 0 items
  | .none => do ofMembers? source none fields (← source.members? value)

namespace OfJson

def natural? : Json → Option Nat
  | .number (.integer n) => if 0 ≤ n then some n.toNat else .none
  | _ => .none

def dereferencing? : Json → Option Dereferencing
  | .string name => Dereferencing.ofName? name
  | .object [(name, .null)] => Dereferencing.ofName? name
  | _ => .none

def isNull : Json → Bool
  | .null => true
  | _ => false

def members? : Json → Option (List (Text × Json))
  | .object members => some members
  | _ => .none

def items? : Json → Option (List Json)
  | .array items => some items
  | _ => .none

def source : SettingsSource Json where
  isNull? value := some (isNull value)
  text? := Json.string?
  natural? := natural?
  dereferencing? := dereferencing?
  members? := members?
  items? := items?

end OfJson

def ofJson (text : Text) : Except SettingsError Settings :=
  match Json.readWritten text.octets with
  | .error fault => .error (.json fault)
  | .ok json =>
      match of? OfJson.source json with
      | some s => .ok s
      | .none => .error (.json .unfit)

namespace OfYaml

def numberLimit : Nat := Nat.pow 2 64

def natural? (value : Yaml) : Option Nat := (Yaml.natural? value).filter (· < numberLimit)

def dereferencing? : Yaml → Option Dereferencing
  | .scalar tag style text =>
      match tag.bind Yaml.Tag.name? with
      | .none => Dereferencing.ofName? text
      | some name =>
          if style = .plain ∧ (text.isEmpty || Yaml.isNullWord text) then
            Dereferencing.ofName? name
          else .none
  | _ => .none

/-- The entries of a mapping, of which a text is the key, or none at an empty scalar. -/
def members? (text? : Yaml → Option Text) : Yaml → Option (List (Text × Yaml))
  | .mapping _ entries => entries.mapM fun e => do return (← text? e.1, e.2)
  | node => if node.isEmpty then some [] else .none

def source (d : Yaml.Document) : SettingsSource Yaml :=
  let text? (node : Yaml) := (d.resolve? node).bind Yaml.text?
  { isNull? node := (d.resolve? node).bind Yaml.isNull?
    text? := text?
    natural? node := (d.resolve? node).bind natural?
    dereferencing? node := (d.resolve? node).bind dereferencing?
    members? node := (d.resolve? node).bind (members? text?)
    items? _ := .none }

end OfYaml

def ofYaml (text : Text) : Except SettingsError Settings :=
  match Yaml.ofText? text with
  | .none => .error .yaml
  | some .none => .ok none
  | some (some document) =>
      match of? (OfYaml.source document) document.root with
      | some s => .ok s
      | .none => .error .yaml

def extension? (path : Text) : Option Text :=
  let names := (Text.segments '/' path).filter fun n => !n.isEmpty && n ≠ ['.']
  match names.getLast?.bind (Text.cutLast? '.') with
  | some (front, back) => if front.length ≤ 1 then .none else some back
  | .none => .none

def isJsonPath (path : Text) : Bool :=
  (extension? path).any fun e => Text.lower e == "json".toList

def ofContent (path : Text) (content : Octets) : Except SettingsError Settings :=
  match Utf8.decode content with
  | .error _ => .error (.unreadable path .notText)
  | .ok text => if isJsonPath path then ofJson text else ofYaml text

def ofFile (files : FileReader) (path : Text) : Except SettingsError Settings :=
  match files path.octets with
  | .error fault => .error (.unreadable path fault)
  | .ok content => ofContent path content

def redirectsJson (table : Table Text Text) : Json :=
  .ofMembers (table.map fun row => (row.1, .string row.2))

def toJson (s : Settings) : Json :=
  .ofMembers (
    (s.base.toList.map fun t => ("namespace".toList, .string t)) ++
    (s.dereferencing.toList.map fun d => ("dereferencing".toList, .string d.name)) ++
    (s.cacheSize.toList.map fun n => ("cache_size".toList, .number (.integer n))) ++
    (if s.schemaRedirects.isEmpty then []
      else [("schema_redirects".toList, redirectsJson s.schemaRedirects)]) ++
    (if s.pathRedirects.isEmpty then []
      else [("path_redirects".toList, redirectsJson s.pathRedirects)]))

abbrev Change := Config → Except ConfigError Config

def changes (s : Settings) : List Change :=
  (s.base.toList.map fun uri c => c.setBase uri) ++
  (s.dereferencing.toList.map fun d c => .ok (c.setDereferencing d)) ++
  (s.cacheSize.toList.map fun n c => .ok (c.setCacheSize n)) ++
  (s.schemaRedirects.map fun row c => c.addSchemaRedirect row.1 row.2) ++
  (s.pathRedirects.map fun row c => c.addPathRedirect row.1 row.2)

def make (c : Config) : List Change → Option ConfigError × Config
  | [] => (.none, c)
  | change :: rest =>
      match change c with
      | .ok c => make c rest
      | .error e => (some e, c)

/-- The configuration afterwards, and why not all of the settings were accepted. -/
def apply (s : Settings) (c : Config) : Option ConfigError × Config := make c s.changes

end Settings
end JsonReference
