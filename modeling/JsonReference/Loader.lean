import JsonReference.Cache
import JsonReference.Config
import JsonReference.Tree

namespace JsonReference

inductive LoadError where
  | notAbsolute (text : Text)
  | unhandledScheme (scheme uri : Text)
  | download (uri : Text) (error : DownloadError)
  | notJson (uri : Text) (fault : Json.ReadFault)
  | illegalScheme (scheme : Text)
  | reference (error : UriError)
deriving DecidableEq, Repr

namespace LoadError

def message : LoadError → String
  | .notAbsolute text => "'" ++ text.str ++ "' is not an absolute reference"
  | .unhandledScheme scheme uri =>
      "no downloader registered for scheme '" ++ scheme.str ++ "' (uri '" ++ uri.str ++ "')"
  | .download uri error => "failed to fetch '" ++ uri.str ++ "': " ++ error.message
  | .notJson uri fault => "content of '" ++ uri.str ++ "' is not JSON: " ++ fault.message
  | .illegalScheme scheme => "illegal URI scheme '" ++ scheme.str ++ "'"
  | .reference error => "invalid reference: " ++ error.message

def causes (e : LoadError) : List String :=
  match e with
  | .download _ error => e.message :: error.causes
  | .notJson _ fault => [e.message, fault.message]
  | .reference error => [e.message, error.message]
  | _ => [e.message]

end LoadError

structure Request where
  downloader : Text
  locator : Text
deriving DecidableEq, Repr

/-- A reference is resolved against the base and redirected, and the document comes from the cache
or else from the downloader for its scheme. Every request that was made is kept, the last one first.
-/
structure Loader where
  config : Config
  cache : Cache
  requests : List Request

namespace Loader

/-- Pins the preloaded documents under the names that they are had by. -/
def make (config : Config) : Loader where
  config
  cache := config.preloaded.foldl
    (fun cache d => (cache.pin (config.redirect d.1).locator d.2).2) (.empty config.cacheSize)
  requests := []

def load (l : Loader) (document : Json) : Tree := .make .empty document l.config.dereferencing

def cacheKey (l : Loader) (r : Reference) : Text := (l.config.redirect r.toLocator).locator

def readDocument (target : Reference) (content : Octets) : Except LoadError Json :=
  match Json.read content with
  | .ok document => .ok document
  | .error fault => .error (.notJson target.text fault)

def fetchFrom (downloader : Downloader) (target : Reference) : Except LoadError Json :=
  match downloader.fetch target with
  | .ok content => readDocument target content
  | .error e => .error (.download target.text e)

def fetch (config : Config) (target : Reference) : Except LoadError Json :=
  let scheme := target.uri.scheme.getD []
  match config.downloader? scheme with
  | none => .error (.unhandledScheme scheme target.text)
  | some downloader => fetchFrom downloader target

def request? (config : Config) (target : Reference) : Option Request :=
  (config.downloader? (target.uri.scheme.getD [])).map fun d => ⟨d.name, target.locator⟩

def document (l : Loader) (requested : Reference) : Except LoadError Json × Loader :=
  let target := l.config.redirect requested
  let filled := l.cache.getOrFill target.locator fun _ => fetch l.config target
  let made := if filled.ran then (request? l.config target).toList else []
  (filled.result, { l with cache := filled.cache, requests := made ++ l.requests })

def getRef (l : Loader) (r : Reference) : Except LoadError Tree × Loader :=
  let requested := l.config.base.resolve r
  if !requested.isAbsolute then (.error (.notAbsolute requested.text), l)
  else
    match l.document requested.toLocator with
    | (.error e, l) => (.error e, l)
    | (.ok document, l) =>
        (.ok (.make requested.toLocator document l.config.dereferencing), l)

def get (l : Loader) (uri : Text) : Except LoadError Tree × Loader :=
  match Reference.parse uri with
  | .error (.illegalScheme scheme) => (.error (.illegalScheme scheme), l)
  | .error e => (.error (.reference e), l)
  | .ok r => l.getRef r

/-- Pins documents under their names until one has a name that is not absolute. -/
def addBundle (l : Loader) : List (Reference × Json) → Except LoadError Unit × Loader
  | [] => (.ok (), l)
  | (r, document) :: rest =>
      if r.isAbsolute then
        addBundle { l with cache := (l.cache.pin (l.config.redirect r).locator document).2 } rest
      else (.error (.notAbsolute r.text), l)

def clear (l : Loader) : Loader := { l with cache := l.cache.clear }

end Loader
end JsonReference
