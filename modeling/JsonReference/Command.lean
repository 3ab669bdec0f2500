import JsonReference.RefSite
import JsonReference.Settings

namespace JsonReference

structure Surroundings where
  files : FileReader
  directory : Text

structure LoaderOptions where
  settings : Option Text
  inline : Bool
deriving DecidableEq, Repr

inductive Command where
  | pointer (target : Text) (pointer : Text)
  | resolve (target : Text) (start : Text) (maxDepth : Nat)
  | check (target : Text) (maxDepth : Nat) (quiet : Bool)
deriving DecidableEq, Repr

structure Outcome where
  code : Nat
  output : List Text
  notes : List Text
deriving DecidableEq, Repr

inductive CommandError where
  | base (error : ConfigError)
  | settings (error : SettingsError)
  | applying (path : Text) (error : ConfigError)
  | pointer (text : Text) (error : PointerError)
  | fileUrl (url : Text) (error : UriError)
  | loading (target : Text) (error : LoadError)
  | chain (error : ChainError)
  | vanished

namespace CommandError

def causes : CommandError → List String
  | .base error => "invalid default namespace" :: error.causes
  | .settings error => error.causes
  | .applying path error =>
      ("applying settings from '" ++ path.str ++ "'") :: (SettingsError.config error).causes
  | .pointer text error => ["invalid JSON Pointer '" ++ text.str ++ "'", error.message]
  | .fileUrl url error => ["invalid file URL '" ++ url.str ++ "'", error.message]
  | .loading target error => ("cannot load '" ++ target.str ++ "'") :: error.causes
  | .chain error => "cannot resolve $ref chain" :: error.causes
  | .vanished => ["resolved node vanished"]

def message (e : CommandError) : String := ": ".intercalate e.causes

end CommandError

namespace Command

def failed : Nat := 2

def withSettings (s : Surroundings) (c : Config) : Option Text → Except CommandError Config
  | none => .ok c
  | some path =>
      match Settings.ofFile s.files path with
      | .error e => .error (.settings e)
      | .ok settings =>
          match settings.apply c with
          | (none, c) => .ok c
          | (some e, _) => .error (.applying path e)

/-- The loader of a command. Relative names stand for files in the directory, if the settings do not
say otherwise. -/
def loader (s : Surroundings) (options : LoaderOptions) : Except CommandError Loader := do
  let c ← ((Config.standard s.files).setBase (FileUrl.ofDirectory s.directory)).mapError .base
  let c ← withSettings s c options.settings
  return .make (if options.inline then c.setDereferencing .inline else c)

/-- Whether a target is taken for a reference. A scheme of one letter may be a drive. -/
def isRemote (r : Reference) : Bool :=
  match r.uri.scheme with
  | some scheme => 1 < scheme.length
  | none => false

def fileReference (directory path : Text) : Except CommandError Reference :=
  let url := FileUrl.ofPath directory path
  (Reference.parse url).mapError (.fileUrl url)

def targetReference (directory target : Text) : Except CommandError Reference :=
  match Reference.parse target with
  | .ok r => if isRemote r then .ok r else fileReference directory target
  | .error _ => fileReference directory target

def loadTarget (s : Surroundings) (l : Loader) (target : Text) :
    Except CommandError Tree × Loader :=
  match targetReference s.directory target with
  | .error e => (.error e, l)
  | .ok r =>
      match l.getRef r.toLocator with
      | (.ok t, l) => (.ok t, l)
      | (.error e, l) => (.error (.loading target e), l)

def missing (t : Tree) (pointer : Pointer) : Outcome :=
  ⟨failed, [], ["no value at '".toList ++ pointer.text ++ "' in ".toList ++ t.loadingRef.text]⟩

def found (node : Json) (hops : List Reference) : Outcome :=
  ⟨0, [node.pretty], hops.map fun r => "-> ".toList ++ r.text⟩

def printPointer (pointer : Pointer) (t : Tree) : Outcome :=
  match pointer.get? t.document with
  | some node => found node []
  | none => missing t pointer

def chainFailure (e : ChainError) : Except CommandError Outcome :=
  match e with
  | .unresolvable .. => .ok ⟨failed, [], [Text.ofString e.message]⟩
  | .loop _ => .ok ⟨failed, [], [Text.ofString e.message]⟩
  | _ => .error (.chain e)

def followChain (l : Loader) (maxDepth : Nat) (start : Pointer) (t : Tree) :
    Except CommandError Outcome × Loader :=
  if (t.nodeAt? start).isNone then (.ok (missing t start), l)
  else
    match RefChain.resolve l maxDepth (t.jumpTo start) with
    | (.error e, l) => (chainFailure e, l)
    | (.ok c, l) =>
        match c.tree.node? with
        | some node => (.ok (found node c.references), l)
        | none => (.error .vanished, l)

def siteName (p : Pointer) : Text := if p.isRoot then "(root)".toList else p.text

def checkLine? (quiet : Bool) (c : RefCheck) : Option Text :=
  match c.outcome with
  | .ok target =>
      if quiet then none
      else some ("  OK    ".toList ++ siteName c.site.pointer ++ " -> ".toList ++ target.text)
  | .error e =>
      some ("  FAIL  ".toList ++ siteName c.site.pointer ++ " (".toList ++ c.site.raw ++
        "): ".toList ++ Text.ofString e.message)

def summary (checks : List RefCheck) (t : Tree) : Text :=
  let held := checks.countP (·.isOk)
  Text.ofNat checks.length ++ " reference(s) checked in ".toList ++ t.loadingRef.text ++
    ": ".toList ++ Text.ofNat held ++ " ok, ".toList ++ Text.ofNat (checks.length - held) ++
    " failed".toList

def report (quiet : Bool) (checks : List RefCheck) (t : Tree) : Outcome where
  code := if checks.all (·.isOk) then 0 else failed
  output := checks.filterMap (checkLine? quiet) ++ [summary checks t]
  notes := []

def parsePointer (text : Text) : Except CommandError Pointer :=
  (Pointer.parse text).mapError (.pointer text)

def onTarget (s : Surroundings) (l : Loader) (target : Text)
    (f : Tree → Loader → Except CommandError Outcome × Loader) :
    Except CommandError Outcome × Loader :=
  match loadTarget s l target with
  | (.error e, l) => (.error e, l)
  | (.ok t, l) => f t l

def run (c : Command) (s : Surroundings) (l : Loader) : Except CommandError Outcome × Loader :=
  match c with
  | .pointer target text =>
      match parsePointer text with
      | .error e => (.error e, l)
      | .ok p => onTarget s l target fun t l => (.ok (printPointer p t), l)
  | .resolve target text maxDepth =>
      match parsePointer text with
      | .error e => (.error e, l)
      | .ok p => onTarget s l target fun t l => followChain l maxDepth p t
  | .check target maxDepth quiet =>
      onTarget s l target fun t l =>
        let (checks, l) := RefCheck.all l maxDepth t
        (.ok (report quiet checks t), l)

end Command
end JsonReference
