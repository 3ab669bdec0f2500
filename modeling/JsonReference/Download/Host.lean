import JsonReference.DomainName
import JsonReference.Text.Percent

namespace JsonReference

inductive UrlFault where
  | emptyHost
  | invalidName
  | invalidCharacter
  | invalidIpv4
  | invalidIpv6
  | invalidSocket
  | notLocal
deriving DecidableEq, Repr

def UrlFault.message : UrlFault → String
  | .emptyHost => "empty host"
  | .invalidName => "invalid international domain name"
  | .invalidCharacter => "invalid domain character"
  | .invalidIpv4 => "invalid IPv4 address"
  | .invalidIpv6 => "invalid IPv6 address"
  | .invalidSocket => "invalid port number"
  | .notLocal => "not a local file path"

inductive Host where
  | absent
  | address
  | name (text : Text)
deriving DecidableEq

namespace Host

def localhost : Text := "localhost".toList

def isLocal (h : Host) : Bool := h = .absent || h = .name localhost

def allDigits (t : Text) : Bool := !t.isEmpty && t.all Char.isDigit

/-- A number in decimal, or in octal behind `0` and hexadecimal behind `0x`. -/
def number? (t : Text) : Option Nat :=
  let value (base : Nat) (digits : Text) : Option Nat :=
    if digits.all fun c => Text.isHexDigit c && Text.hexValue c < base then
      some (digits.foldl (fun n c => base * n + Text.hexValue c) 0)
    else none
  match t with
  | [] => none
  | '0' :: 'x' :: rest => value 16 rest
  | '0' :: 'X' :: rest => value 16 rest
  | '0' :: rest => value 8 rest
  | _ => value 10 t

def labels (host : Text) : List Text :=
  let parts := Text.segments '.' host
  if parts.getLast? = some [] then parts.dropLast else parts

def endsInNumber (host : Text) : Bool :=
  match (labels host).getLast? with
  | none => false
  | some last =>
      allDigits last ||
        (['0', 'x'].isPrefixOf (Text.lower last) && (last.drop 2).all Text.isHexDigit)

/-- Up to four numbers, of which the last fills the octets that the others leave. -/
def isIpv4 (host : Text) : Bool :=
  match (labels host).mapM number? with
  | none => false
  | some numbers =>
      numbers.length ≤ 4 && numbers.dropLast.all (· < 256) &&
        numbers.getLastD 0 < Nat.pow 256 (5 - numbers.length)

def isGroup (t : Text) : Bool := !t.isEmpty && t.length ≤ 4 && t.all Text.isHexDigit

def isOctet (t : Text) : Bool :=
  allDigits t && t.length ≤ 3 && (t.length == 1 || t.head? ≠ some '0') &&
    t.foldl (fun n c => 10 * n + Text.hexValue c) 0 < 256

def isDotted (t : Text) : Bool :=
  let parts := Text.segments '.' t
  parts.length == 4 && parts.all isOctet

def groups? (dotted : Bool) (t : Text) : Option Nat :=
  if t.isEmpty then some 0
  else
    let parts := Text.segments ':' t
    if parts.all isGroup then some parts.length
    else if dotted && parts.dropLast.all isGroup && isDotted (parts.getLastD []) then
      some (parts.length + 1)
    else none

def cutDouble? : Text → Option (Text × Text)
  | [] => none
  | ':' :: ':' :: rest => some ([], rest)
  | c :: rest => (cutDouble? rest).map fun r => (c :: r.1, r.2)

def isIpv6 (t : Text) : Bool :=
  match cutDouble? t with
  | none => groups? true t == some 8
  | some (front, back) =>
      match groups? false front, groups? true back with
      | some m, some n => m + n ≤ 7
      | _, _ => false

def parseBracketed (rest : Text) : Except UrlFault Host :=
  if rest.getLast? = some ']' && isIpv6 rest.dropLast then .ok .address else .error .invalidIpv6

def parse (host : Text) : Except UrlFault Host :=
  match host with
  | '[' :: rest => parseBracketed rest
  | _ =>
      match DomainName.ofOctets? (Percent.octets host) with
      | none => .error .invalidName
      | some domain =>
          if domain.isEmpty then .error .emptyHost
          else if endsInNumber domain then
            if isIpv4 domain then .ok .address else .error .invalidIpv4
          else .ok (.name domain)

def isDelimiter (c : Char) : Bool := ("\x00\t\n\r #/:<>?@[\\]^|".toList).contains c

def parseOpaque (host : Text) : Except UrlFault Host :=
  match host with
  | [] => .ok .absent
  | '[' :: rest => parseBracketed rest
  | _ => if host.any isDelimiter then .error .invalidCharacter else .ok (.name host)

end Host
end JsonReference
