import JsonReference.Command.Arguments

namespace JsonReference.Main

abbrev Known := Table Octets (Except FileFault Octets)

def reader (known : Known) : FileReader := fun path =>
  (Table.find? path known).getD (.error .missing)

def requestedPath? (r : Request) : Option Octets :=
  if r.downloader = "file".toList then
    match Reference.parse r.locator with
    | .ok r => (Downloader.fileLocation r).toOption
    | .error _ => none
  else none

def loaderRequests (s : Surroundings) (options : LoaderOptions) (c : Command) : List Request :=
  match Command.loader s options with
  | .ok l => (c.run s l).2.requests
  | .error _ => []

/-- The paths that a run asks for and that have not been read. -/
def wanted (known : Known) (directory : Text) (options : LoaderOptions) (c : Command) :
    List Octets :=
  let paths := options.settings.toList.map Text.octets ++
    (loaderRequests ⟨reader known, directory⟩ options c).filterMap requestedPath?
  paths.filter fun path => (Table.find? path known).isNone

def outcome (known : Known) (directory : Text) (options : LoaderOptions) (c : Command) :
    Except CommandError Outcome := do
  let s : Surroundings := ⟨reader known, directory⟩
  (c.run s (← Command.loader s options)).1

def typeFault (code : UInt32) : FileFault := if code = 21 then .isDirectory else .notDirectory

def faultOf : IO.Error → FileFault
  | .noFileOrDirectory .. => .missing
  | .inappropriateType _ code _ => typeFault code
  | e => .other e.toString

def readFile (path : Octets) : IO (Except FileFault Octets) := do
  match Utf8.decode path with
  | .error _ => return .error .missing
  | .ok name =>
      if name.isEmpty then return .error .missing
      else if name.contains '\x00' then return .error .nulByte
      else
        try
          return .ok (← IO.FS.readBinFile name.str).toList
        catch e => return .error (faultOf e)

partial def readAll (known : Known) (directory : Text) (options : LoaderOptions) (c : Command) :
    IO Known := do
  match wanted known directory options c with
  | [] => return known
  | path :: _ =>
      let content ← readFile path
      readAll (Table.put path content known) directory options c

def print (o : Outcome) : IO UInt32 := do
  for line in o.notes do IO.eprintln line.str
  for line in o.output do IO.println line.str
  return o.code.toUInt32

def runCommand (options : LoaderOptions) (c : Command) : IO UInt32 := do
  let directory := Text.ofString (← IO.currentDir).toString
  let known ← readAll [] directory options c
  match outcome known directory options c with
  | .ok o => print o
  | .error e =>
      IO.eprintln ("ERROR " ++ e.message)
      return Invocation.errorCode.toUInt32

def answer (args : List Text) : IO UInt32 := do
  match Arguments.parse? args with
  | none =>
      IO.eprintln Invocation.usageText.str
      return Invocation.usageCode.toUInt32
  | some .version =>
      IO.println Invocation.versionText.str
      return 0
  | some .help =>
      IO.println Invocation.usageText.str
      return 0
  | some (.run options c) => runCommand options c

end JsonReference.Main

def main (args : List String) : IO UInt32 :=
  JsonReference.Main.answer (args.map JsonReference.Text.ofString)
