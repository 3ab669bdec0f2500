import JsonReference.Download.Authority
import JsonReference.Download.Files

namespace JsonReference.FileUrl

def isDot (s : Text) : Bool :=
  s == ['.'] || Text.lower s == "%2e".toList

def isDoubleDot (s : Text) : Bool :=
  s == ['.', '.'] || Text.lower s == ".%2e".toList || Text.lower s == "%2e.".toList ||
    Text.lower s == "%2e%2e".toList

def isDrive : Text → Bool
  | [c, ':'] => c.isAlpha
  | _ => false

/-- Goes up one segment, but never above a drive. -/
def goUp : List Text → List Text
  | [] => []
  | s :: rest => if isDrive s then s :: rest else rest

def collapse (kept : List Text) : List Text → List Text
  | [] => kept.reverse
  | s :: rest =>
      let leave (kept : List Text) := collapse (if rest.isEmpty then [] :: kept else kept) rest
      if isDoubleDot s then leave (goUp kept)
      else if isDot s then leave kept
      else collapse (s :: kept) rest

def segments (path : Text) : List Text :=
  collapse [] (Text.segments '/' (if path.head? = some '/' then path.drop 1 else path))

def withoutFirstEmpty (segments : List Text) : List Text :=
  match segments.dropWhile (·.isEmpty) with
  | [] => [[]]
  | rest => rest

def endsInDrive (path : Octets) : Bool :=
  match path.reverse with
  | mark :: letter :: _ :: _ =>
      (Char.ofNat letter.toNat).isAlpha && (mark.toNat == ':'.toNat || mark.toNat == '|'.toNat)
  | _ => false

/-- The octets of a rooted path, which do not end in a drive without a slash. -/
def pathOf (segments : List Text) : Octets :=
  let path := segments.flatMap fun s => Files.slash :: Percent.octets s
  if endsInDrive path then path ++ [Files.slash] else path

/-- A path of the scheme `file`, on the local machine where the host is or a drive comes first. -/
def ofHostAndPath (host : Host) (path : Text) : Except UrlFault Octets :=
  let parts := segments path
  if host.isLocal || parts.head?.any isDrive then .ok (pathOf (withoutFirstEmpty parts))
  else .error .notLocal

def beforeQuery (t : Text) : Text := (Text.cut '?' t).1

def ofFile (specific : Text) : Except UrlFault Octets :=
  match beforeQuery specific with
  | '/' :: '/' :: after =>
      let host := after.takeWhile (· ≠ '/')
      if host.isEmpty || isDrive host then ofHostAndPath .absent after
      else do ofHostAndPath (← Host.parse host) (after.dropWhile (· ≠ '/'))
  | path => ofHostAndPath .absent path

def isSpecial (scheme : Text) : Bool :=
  ["http", "https", "ws", "wss", "ftp"].any (·.toList == scheme)

def ofAuthority (special : Bool) (after : Text) : Except UrlFault Octets := do
  let authority := after.takeWhile fun c => c ≠ '/' ∧ c ≠ '?'
  let behind := after.drop authority.length
  if authority = ['@'] ∧ !behind.isEmpty then .error .emptyHost
  else
    let host ← (Authority.ofText authority).findHost special
    let path := beforeQuery behind
    if host.isLocal && (special || !path.isEmpty) then .ok (pathOf (segments path))
    else .error .notLocal

def path (scheme specific : Text) : Except UrlFault Octets :=
  if scheme = "file".toList then ofFile specific
  else if isSpecial scheme then ofAuthority true (specific.dropWhile (· = '/'))
  else
    match specific with
    | '/' :: '/' :: after => ofAuthority false after
    | '/' :: _ => .ok (pathOf (segments (beforeQuery specific)))
    | _ => .error .notLocal

def isKept (c : Char) : Bool :=
  ' ' < c && c < '\x7f' && !("\"#<>?\x60\x7b\x7d/%\\".toList).contains c

def ofNames (names : List Text) : Text :=
  "file://".toList ++
    (if names.isEmpty then ['/'] else names.flatMap fun n => '/' :: Percent.encodeWith isKept n)

def absoluteNames (cwd path : Text) : List Text :=
  let whole := if path.head? = some '/' then path else cwd ++ '/' :: path
  (Text.segments '/' whole).filter fun n => !n.isEmpty && n ≠ ['.']

def ofPath (cwd path : Text) : Text := ofNames (absoluteNames cwd path)

def ofDirectory (directory : Text) : Text :=
  match absoluteNames [] directory with
  | [] => ofNames []
  | names => ofNames names ++ ['/']

end JsonReference.FileUrl
