import JsonReference.Table
import JsonReference.Text.Utf8
import JsonReference.Yaml.Basic

namespace JsonReference.Yaml.Tag

def width? (b : UInt8) : Option Nat :=
  if b &&& 0x80 == 0 then some 1
  else if b &&& 0xe0 == 0xc0 then some 2
  else if b &&& 0xf0 == 0xe0 then some 3
  else if b &&& 0xf8 == 0xf0 then some 4
  else none

/-- The octets of a tag with its escapes resolved. As many escapes stand together as a character
has octets, though these need not spell a character. `open_` is the number of those still to
come. -/
def octetsFrom? (open_ : Nat) : Text → Option Octets
  | [] => if open_ = 0 then some [] else none
  | '%' :: high :: low :: rest =>
      if Text.isHexDigit high && Text.isHexDigit low then do
        let b := UInt8.ofNat (16 * Text.hexValue high + Text.hexValue low)
        match open_ with
        | 0 => return b :: (← octetsFrom? ((← width? b) - 1) rest)
        | open_ + 1 =>
            if b &&& 0xc0 == 0x80 then return b :: (← octetsFrom? open_ rest) else none
      else none
  | c :: rest =>
      if open_ = 0 ∧ c ≠ '%' then (octetsFrom? 0 rest).map (String.utf8EncodeChar c ++ ·)
      else none

def octets? (t : Text) : Option Octets := octetsFrom? 0 t

def mark : Octets := Text.octets ['!']

def beforeZero (octets : Octets) : Octets := octets.takeWhile (· ≠ 0)

abbrev Handles := Table Text Octets

def standardHandles : Handles :=
  [(['!'], mark), (['!', '!'], Text.octets "tag:yaml.org,2002:".toList)]

def expand? (handles : Handles) (handle : Text) (suffix : Octets) : Option Octets :=
  if handle.isEmpty then some (beforeZero suffix)
  else (handles.find? handle).map fun expansion => beforeZero expansion ++ beforeZero suffix

def name? : Octets → Option Text
  | [] => none
  | b :: rest => if [b] = mark then (Utf8.decode rest).toOption else none

end JsonReference.Yaml.Tag
