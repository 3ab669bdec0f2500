import JsonReference.Downloader
import JsonReference.Json.Writer
import JsonReference.Tree.Index

namespace JsonReference

inductive ConfigError where
  | illegalScheme (scheme : Text)
  | notAbsolute (text : Text)
  | notDirectory (text : Text)
  | selfRedirect (text : Text)
  | reference (error : UriError)
deriving DecidableEq, Repr

namespace ConfigError

def message : ConfigError → String
  | .illegalScheme scheme => "illegal URI scheme '" ++ scheme.str ++ "'"
  | .notAbsolute text => "'" ++ text.str ++ "' must be an absolute reference"
  | .notDirectory text => "path redirect endpoint '" ++ text.str ++ "' must end with '/'"
  | .selfRedirect text => "cannot redirect '" ++ text.str ++ "' to itself"
  | .reference error => "invalid reference: " ++ error.message

def causes (e : ConfigError) : List String :=
  match e with
  | .reference error => [e.message, error.message]
  | _ => [e.message]

end ConfigError

/-- Locators that begin with `source` begin with `target` instead. -/
structure PathRule where
  source : Text
  target : Text
deriving DecidableEq, Repr

structure Config where
  downloaders : Table Text Downloader
  base : Reference
  schemaRedirects : Table Text Reference
  /-- The longest source first. -/
  pathRules : List PathRule
  dereferencing : Dereferencing
  cacheSize : Nat
  preloaded : List (Reference × Json)

namespace Config

def defaultCacheSize : Nat := 4096

def bare : Config := ⟨[], .empty, [], [], .standard, defaultCacheSize, []⟩

def absolute (text : Text) : Except ConfigError Reference :=
  match Reference.parse text with
  | .error e => .error (.reference e)
  | .ok r => if r.isAbsolute then .ok r else .error (.notAbsolute text)

def directory (text : Text) : Except ConfigError Text := do
  let r ← absolute text
  if r.locator.getLast? = some '/' then .ok r.locator else .error (.notDirectory text)

def register (c : Config) (scheme : Text) (downloader : Downloader) : Except ConfigError Config :=
  if Uri.isScheme scheme then
    .ok { c with downloaders := c.downloaders.put (Text.lower scheme) downloader }
  else .error (.illegalScheme scheme)

def unregister (c : Config) (scheme : Text) : Config :=
  { c with downloaders := c.downloaders.drop (Text.lower scheme) }

def downloader? (c : Config) (scheme : Text) : Option Downloader :=
  c.downloaders.find? (Text.lower scheme)

def schemes (c : Config) : List Text :=
  (c.downloaders.map (·.1)).mergeSort fun a b => !decide (b < a)

def addSchemaRedirect (c : Config) (source target : Text) : Except ConfigError Config := do
  let source ← absolute source
  let target ← absolute target
  if source.contains target then .error (.selfRedirect source.text)
  else
    .ok { c with schemaRedirects := c.schemaRedirects.put source.locator target.toLocator }

def insertRule (rule : PathRule) : List PathRule → List PathRule
  | [] => [rule]
  | r :: rest =>
      if Text.size r.source < Text.size rule.source then rule :: r :: rest
      else r :: insertRule rule rest

def addPathRedirect (c : Config) (source target : Text) : Except ConfigError Config := do
  let source ← directory source
  let target ← directory target
  if source = target then .error (.selfRedirect source)
  else
    .ok { c with
      pathRules := insertRule ⟨source, target⟩ (c.pathRules.filter (·.source ≠ source)) }

def setBase (c : Config) (uri : Text) : Except ConfigError Config := do
  return { c with base := ← absolute uri }

def setDereferencing (c : Config) (dereferencing : Dereferencing) : Config :=
  { c with dereferencing }

def setCacheSize (c : Config) (cacheSize : Nat) : Config := { c with cacheSize }

def preloadAt (c : Config) (uri : Text) (document : Json) : Except ConfigError Config := do
  let r ← absolute uri
  return { c with preloaded := c.preloaded.filter (!·.1.contains r) ++ [(r, document)] }

def missingName (document : Json) : Text :=
  match document.member? "id".toList with
  | some id => id.write
  | none => "<missing id>".toList

def preload (c : Config) (document : Json) : Except ConfigError Config :=
  match document.nodeId? with
  | some id => c.preloadAt id.text document
  | none => .error (.notAbsolute (missingName document))

def substitute? (locator : Text) : List PathRule → Option Text
  | [] => none
  | rule :: rest =>
      match Text.dropFront? rule.source locator with
      | some back => some (rule.target ++ back)
      | none => substitute? locator rest

def schemaTarget (c : Config) (r : Reference) : Reference :=
  (c.schemaRedirects.find? r.locator).getD r.toLocator

/-- Where a document is to be had: first by the redirect of its very locator, then by the longest
path rule for the outcome. A change into a text that is no reference is passed over. -/
def redirect (c : Config) (r : Reference) : Reference :=
  let target := c.schemaTarget r
  match substitute? target.locator c.pathRules with
  | none => target
  | some text =>
      match Reference.parse text with
      | .ok changed => changed
      | .error _ => target

def bundledRedirect? (schema : BundledSchema) : Option (Text × Reference) :=
  match Reference.parse schema.id, Reference.parse schema.uri with
  | .ok source, .ok target => some (source.locator, target)
  | _, _ => none

def standard (files : FileReader) : Config where
  downloaders :=
    [("file".toList, .file files), ("http".toList, .http .standard),
     ("https".toList, .http .standard), ("resource".toList, .resource .bundled)]
  base := .empty
  schemaRedirects := BundledSchema.all.filterMap bundledRedirect?
  pathRules := []
  dereferencing := .standard
  cacheSize := defaultCacheSize
  preloaded := []

end Config
end JsonReference
