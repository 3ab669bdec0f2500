import JsonReference.Command

namespace JsonReference

inductive CommandOption where
  | verbose
  | settings
  | inline
  | version
  | help
  | start
  | maxDepth
  | quiet
deriving DecidableEq, Repr

inductive Invocation where
  | version
  | help
  | run (options : LoaderOptions) (command : Command)
deriving DecidableEq, Repr

namespace Arguments

def takesValue : CommandOption → Bool
  | .settings | .start | .maxDepth => true
  | _ => false

def number? (text : Text) : Option Nat :=
  let digits := (Text.dropFront? ['+'] text).getD text
  let value := digits.foldl (fun n c => 10 * n + Text.hexValue c) 0
  if !digits.isEmpty && digits.all Char.isDigit && value < Nat.pow 2 64 then some value else none

def accepts (o : CommandOption) (value : Text) : Bool :=
  match o with
  | .settings => !value.isEmpty
  | .maxDepth => (number? value).isSome
  | _ => true

structure Level where
  long : Table Text CommandOption
  short : Table Char CommandOption
  commands : List Text
  words : Nat

structure Given where
  options : List (CommandOption × Text)
  words : List Text

namespace Given

def none : Given := ⟨[], []⟩

def value? (g : Given) (o : CommandOption) : Option Text := Table.find? o g.options

def has (g : Given) (o : CommandOption) : Bool := (g.value? o).isSome

def add? (g : Given) (o : CommandOption) (value : Text) : Option Given :=
  if (g.has o && o ≠ .verbose) || !accepts o value then .none
  else some { g with options := (o, value) :: g.options }

end Given

inductive End where
  | done (given : Given)
  | command (given : Given) (name : Text) (rest : List Text)
  | version
  | help

inductive Shape where
  | escape
  | long (name : Text) (value : Option Text)
  | short (letters : Text)
  | word
deriving DecidableEq

def shape : Text → Shape
  | ['-', '-'] => .escape
  | '-' :: '-' :: rest => .long (Text.cut '=' rest).1 (Text.cut '=' rest).2
  | '-' :: c :: rest => .short (c :: rest)
  | _ => .word

def flag? (g : Given) (o : CommandOption) : Option (Given ⊕ End) :=
  match o with
  | .version => some (.inr .version)
  | .help => some (.inr .help)
  | _ => if takesValue o then none else (g.add? o []).map .inl

def letters? (level : Level) (g : Given) : Text → Option (Given ⊕ End)
  | [] => some (.inl g)
  | c :: rest => do
      match ← flag? g (← level.short.find? c) with
      | .inl g => letters? level g rest
      | .inr stop => some (.inr stop)

def addWord? (level : Level) (g : Given) (word : Text) : Option Given :=
  if g.words.length < level.words then some { g with words := g.words ++ [word] } else none

/-- Reads arguments; `literal` holds behind a double dash. -/
def scan? (level : Level) (g : Given) (literal : Bool) : List Text → Option End
  | [] => some (.done g)
  | arg :: rest =>
      if literal then do scan? level (← addWord? level g arg) true rest
      else
        match shape arg with
        | .escape => scan? level g true rest
        | .word =>
            if level.commands.contains arg then some (.command g arg rest)
            else do scan? level (← addWord? level g arg) false rest
        | .short letters => do
            match ← letters? level g letters with
            | .inl g => scan? level g false rest
            | .inr stop => some stop
        | .long name value =>
            match level.long.find? name, value with
            | none, _ => none
            | some o, some value =>
                if takesValue o then do scan? level (← g.add? o value) false rest else none
            | some o, none =>
                if takesValue o then
                  match rest with
                  | [] => none
                  | value :: rest =>
                      if shape value = .word then do scan? level (← g.add? o value) false rest
                      else none
                else do
                  match ← flag? g o with
                  | .inl g => scan? level g false rest
                  | .inr stop => some stop

def sharedLong : Table Text CommandOption :=
  [("verbose".toList, .verbose), ("config".toList, .settings), ("inline".toList, .inline),
    ("help".toList, .help)]

def sharedShort : Table Char CommandOption := [('v', .verbose), ('h', .help)]

def depthLong : Table Text CommandOption := [("max-depth".toList, .maxDepth)]

def topLevel : Level where
  long := sharedLong ++ [("version".toList, .version)]
  short := sharedShort ++ [('V', .version)]
  commands := ["pointer".toList, "resolve".toList, "check".toList, "help".toList]
  words := 0

def pointerLevel : Level := ⟨sharedLong, sharedShort, [], 2⟩

def resolveLevel : Level :=
  ⟨sharedLong ++ depthLong ++ [("at".toList, .start)], sharedShort, [], 1⟩

def checkLevel : Level :=
  ⟨sharedLong ++ depthLong ++ [("quiet".toList, .quiet)], sharedShort ++ [('q', .quiet)], [], 1⟩

def maxDepth (g : Given) : Nat :=
  ((g.value? .maxDepth).bind number?).getD RefChain.defaultMaxDepth

def pointerCommand? (g : Given) : Option Command :=
  match g.words with
  | [target, pointer] => some (.pointer target pointer)
  | _ => none

def resolveCommand? (g : Given) : Option Command :=
  match g.words with
  | [target] => some (.resolve target ((g.value? .start).getD []) (maxDepth g))
  | _ => none

def checkCommand? (g : Given) : Option Command :=
  match g.words with
  | [target] => some (.check target (maxDepth g) (g.has .quiet))
  | _ => none

/-- The options for the loader, of which those behind the command's name come first. -/
def loaderOptions (outer inner : Given) : LoaderOptions where
  settings := (inner.value? .settings).or (outer.value? .settings)
  inline := inner.has .inline || outer.has .inline

def finish? (outer : Given) (command? : Given → Option Command) : End → Option Invocation
  | .done inner => (command? inner).map (.run (loaderOptions outer inner))
  | .version => some .version
  | .help => some .help
  | .command .. => none

def command? (outer : Given) (name : Text) (rest : List Text) : Option Invocation :=
  if name = "pointer".toList then do
    finish? outer pointerCommand? (← scan? pointerLevel .none false rest)
  else if name = "resolve".toList then do
    finish? outer resolveCommand? (← scan? resolveLevel .none false rest)
  else if name = "check".toList then do
    finish? outer checkCommand? (← scan? checkLevel .none false rest)
  else some .help

def parse? (args : List Text) : Option Invocation := do
  match ← scan? topLevel .none false args with
  | .command outer name rest => command? outer name rest
  | .version => some .version
  | .help => some .help
  | .done _ => none

end Arguments

namespace Invocation

def versionText : Text := "jsref 0.1.0".toList

def usageText : Text :=
  ("Usage: jsref [-v] [--config FILE] [--inline] pointer TARGET POINTER\n" ++
    "       jsref [-v] [--config FILE] [--inline] resolve TARGET [--at POINTER]" ++
    " [--max-depth N]\n" ++
    "       jsref [-v] [--config FILE] [--inline] check TARGET [-q] [--max-depth N]").toList

def usageCode : Nat := 2

def errorCode : Nat := 1

end Invocation
end JsonReference
