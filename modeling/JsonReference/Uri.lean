import JsonReference.Text.Blank
import JsonReference.Text.Quoted
import JsonReference.Text.Utf8

namespace JsonReference

/-- A URI reference. The scheme is in lower case, and a rooted path behind a scheme or an authority
is without dot segments. -/
structure Uri where
  scheme : Option Text
  authority : Option Text
  path : Text
  query : Option Text
  fragment : Option Text
deriving DecidableEq, Repr

inductive UriFlaw where
  | illegalCharacter (c : Char) (offset : Nat)
  | secondHash (offset : Nat)
  | malformedEscape (offset : Nat)
  | emptyScheme
  | fragmentNotText (fault : Utf8.Fault)
deriving DecidableEq, Repr

inductive UriError where
  | invalid (input : Text) (flaw : UriFlaw)
  | illegalScheme (scheme : Text)
deriving DecidableEq, Repr

def UriFlaw.reason : UriFlaw → String
  | .illegalCharacter c offset =>
      "illegal character " ++ (Text.quotedOne c).str ++ " at offset " ++ toString offset
  | .secondHash offset => "second '#' at offset " ++ toString offset
  | .malformedEscape offset => "malformed percent-escape at offset " ++ toString offset
  | .emptyScheme => "empty scheme"
  | .fragmentNotText fault => "fragment is not UTF-8 after percent-decoding: " ++ fault.message

def UriError.message : UriError → String
  | .invalid input flaw => "invalid URI " ++ input.quoted.str ++ ": " ++ flaw.reason
  | .illegalScheme scheme => "illegal URI scheme " ++ scheme.quoted.str

namespace Uri

def empty : Uri := ⟨none, none, [], none, none⟩

instance : Inhabited Uri := ⟨empty⟩

def isAbsolute (u : Uri) : Bool := u.scheme.isSome

def isRooted (path : Text) : Bool := path.head? == some '/'

/-- An absolute URI with nothing rooted behind its scheme, such as `urn:x` or
`jar:file:/a.jar!/b`. -/
def isOpaque (u : Uri) : Bool := u.scheme.isSome && u.authority.isNone && !isRooted u.path

def specificPart (u : Uri) : Text :=
  (match u.authority with
    | some a => '/' :: '/' :: a
    | none => []) ++
  u.path ++
  (match u.query with
    | some q => '?' :: q
    | none => [])

def text (u : Uri) : Text :=
  (match u.scheme with
    | some s => s ++ [':']
    | none => []) ++
  u.specificPart ++
  (match u.fragment with
    | some f => '#' :: f
    | none => [])

def withFragment (u : Uri) (fragment : Option Text) : Uri := { u with fragment }

def withoutFragment (u : Uri) : Uri := u.withFragment none

/-- Goes down the segments of a path, with those kept so far in reverse. A dot segment at the end
leaves an empty one behind. -/
def collapse (kept : List Text) : List Text → List Text
  | [] => kept.reverse
  | s :: rest =>
      if s = ['.'] then
        if rest.isEmpty then ([] :: kept).reverse else collapse kept rest
      else if s = ['.', '.'] then
        if rest.isEmpty then ([] :: kept.tail).reverse else collapse kept.tail rest
      else collapse (s :: kept) rest

def removeDotSegments (path : Text) : Text :=
  match path with
  | '/' :: rest => '/' :: Text.join ['/'] (collapse [] (Text.segments '/' rest))
  | _ => Text.join ['/'] (collapse [] (Text.segments '/' path))

def isExcluded (c : Char) : Bool :=
  c == '"' || c == '<' || c == '>' || c == '\\' || c == '^' || c == '\x60' || c == '\x7b' ||
    c == '|' || c == '\x7d'

def isIllegal (c : Char) : Bool := Text.isBlank c || Text.isControl c || isExcluded c

/-- The first flaw among the characters from `offset` on; `hash` tells whether a `#` came before. -/
def flaw? (offset : Nat) (hash : Bool) : Text → Option UriFlaw
  | [] => none
  | '%' :: rest =>
      match rest with
      | a :: b :: rest =>
          if Text.isHexDigit a && Text.isHexDigit b then flaw? (offset + 3) hash rest
          else some (.malformedEscape offset)
      | _ => some (.malformedEscape offset)
  | c :: rest =>
      if isIllegal c then some (.illegalCharacter c offset)
      else if c = '#' then
        if hash then some (.secondHash offset) else flaw? (offset + 1) true rest
      else flaw? (offset + c.utf8Size) hash rest

def isSchemeChar (c : Char) : Bool := c.isAlphanum || c == '+' || c == '-' || c == '.'

def isScheme : Text → Bool
  | [] => false
  | c :: rest => c.isAlpha && rest.all isSchemeChar

def checkScheme (scheme : Text) : Except UriError Unit :=
  if isScheme scheme then .ok () else .error (.illegalScheme scheme)

def endsScheme (c : Char) : Bool := c == ':' || c == '/' || c == '?' || c == '#'

/-- The scheme, if a colon comes first of the characters that can end one, and what follows it. -/
def splitScheme (input : Text) : Except UriError (Option Text × Text) :=
  match input.dropWhile (!endsScheme ·) with
  | ':' :: rest =>
      match input.takeWhile (!endsScheme ·) with
      | [] => .error (.invalid input .emptyScheme)
      | scheme => do
          checkScheme scheme
          return (some (Text.lower scheme), rest)
  | _ => .ok (none, input)

def splitAuthority (input : Text) : Option Text × Text :=
  match input with
  | '/' :: '/' :: rest => (some (rest.takeWhile (· ≠ '/')), rest.dropWhile (· ≠ '/'))
  | _ => (none, input)

def normalPath (scheme authority : Option Text) (path : Text) : Text :=
  if (scheme.isSome || authority.isSome) && isRooted path then removeDotSegments path else path

def assemble (scheme : Option Text) (rest : Text) : Uri :=
  let (rest, fragment) := Text.cut '#' rest
  let (rest, query) := Text.cut '?' rest
  let (authority, path) := splitAuthority rest
  ⟨scheme, authority, normalPath scheme authority path, query, fragment⟩

def parse (input : Text) : Except UriError Uri :=
  match flaw? 0 false input with
  | some flaw => .error (.invalid input flaw)
  | none => do
      let (scheme, rest) ← splitScheme input
      return assemble scheme rest

end Uri
end JsonReference
