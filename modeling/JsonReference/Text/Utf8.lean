import JsonReference.Text.Basic

namespace JsonReference.Utf8

inductive Fault where
  | invalid (length index : Nat)
  | incomplete (index : Nat)
deriving DecidableEq, Repr

def Fault.message : Fault → String
  | .invalid length index =>
      "invalid utf-8 sequence of " ++ toString length ++ " bytes from index " ++ toString index
  | .incomplete index => "incomplete utf-8 byte sequence from index " ++ toString index

def isTail (b : UInt8) : Bool := 0x80 ≤ b && b ≤ 0xbf

def isSecond (a b : UInt8) : Bool :=
  if a == 0xe0 then 0xa0 ≤ b && b ≤ 0xbf
  else if a == 0xed then 0x80 ≤ b && b ≤ 0x9f
  else if a == 0xf0 then 0x90 ≤ b && b ≤ 0xbf
  else if a == 0xf4 then 0x80 ≤ b && b ≤ 0x8f
  else isTail b

def char2 (a b : UInt8) : Char :=
  Char.ofNat ((a.toNat - 0xc0) * 64 + (b.toNat - 0x80))

def char3 (a b c : UInt8) : Char :=
  Char.ofNat ((a.toNat - 0xe0) * 4096 + (b.toNat - 0x80) * 64 + (c.toNat - 0x80))

def char4 (a b c d : UInt8) : Char :=
  Char.ofNat ((a.toNat - 0xf0) * 262144 + (b.toNat - 0x80) * 4096 + (c.toNat - 0x80) * 64 +
    (d.toNat - 0x80))

/-- The first character, or the length of the sequence at fault, none if it is only cut short. -/
inductive Head where
  | char (c : Char) (width : Nat)
  | bad (length : Nat)
  | short

def head (a : UInt8) (rest : Octets) : Head :=
  if a < 0x80 then .char (Char.ofNat a.toNat) 1
  else if 0xc2 ≤ a && a ≤ 0xdf then
    match rest with
    | [] => .short
    | b :: _ => if isTail b then .char (char2 a b) 2 else .bad 1
  else if 0xe0 ≤ a && a ≤ 0xef then
    match rest with
    | [] => .short
    | [b] => if isSecond a b then .short else .bad 1
    | b :: c :: _ =>
        if !isSecond a b then .bad 1
        else if isTail c then .char (char3 a b c) 3 else .bad 2
  else if 0xf0 ≤ a && a ≤ 0xf4 then
    match rest with
    | [] => .short
    | [b] => if isSecond a b then .short else .bad 1
    | [b, c] => if !isSecond a b then .bad 1 else if isTail c then .short else .bad 2
    | b :: c :: d :: _ =>
        if !isSecond a b then .bad 1
        else if !isTail c then .bad 2
        else if isTail d then .char (char4 a b c d) 4 else .bad 3
  else .bad 1

/-- `skip` octets belong to the character read last. -/
def decodeFrom (index skip : Nat) : Octets → Except Fault Text
  | [] => .ok []
  | a :: rest =>
      match skip with
      | skip + 1 => decodeFrom (index + 1) skip rest
      | 0 =>
          match head a rest with
          | .char c width => (decodeFrom (index + 1) (width - 1) rest).map (c :: ·)
          | .bad length => .error (.invalid length index)
          | .short => .error (.incomplete index)

def decode (octets : Octets) : Except Fault Text := decodeFrom 0 0 octets

def lossyFrom (skip : Nat) : Octets → Text
  | [] => []
  | a :: rest =>
      match skip with
      | skip + 1 => lossyFrom skip rest
      | 0 =>
          match head a rest with
          | .char c width => c :: lossyFrom (width - 1) rest
          | .bad length => '\ufffd' :: lossyFrom (length - 1) rest
          | .short => '\ufffd' :: lossyFrom rest.length rest

def lossy (octets : Octets) : Text := lossyFrom 0 octets

end JsonReference.Utf8
