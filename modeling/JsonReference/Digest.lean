import JsonReference.Json.Canonical
import JsonReference.Json.Reader

namespace JsonReference

structure Digest where
  words : List UInt32
  length_eq : words.length = 8
deriving DecidableEq

namespace Digest

/-- The fractional parts of the square roots of the first eight primes. -/
def initial : Digest where
  words := [0x6a09e667, 0xbb67ae85, 0x3c6ef372, 0xa54ff53a,
    0x510e527f, 0x9b05688c, 0x1f83d9ab, 0x5be0cd19]
  length_eq := rfl

/-- The fractional parts of the cube roots of the first 64 primes. -/
def roundConstants : List UInt32 :=
  [0x428a2f98, 0x71374491, 0xb5c0fbcf, 0xe9b5dba5, 0x3956c25b, 0x59f111f1, 0x923f82a4, 0xab1c5ed5,
   0xd807aa98, 0x12835b01, 0x243185be, 0x550c7dc3, 0x72be5d74, 0x80deb1fe, 0x9bdc06a7, 0xc19bf174,
   0xe49b69c1, 0xefbe4786, 0x0fc19dc6, 0x240ca1cc, 0x2de92c6f, 0x4a7484aa, 0x5cb0a9dc, 0x76f988da,
   0x983e5152, 0xa831c66d, 0xb00327c8, 0xbf597fc7, 0xc6e00bf3, 0xd5a79147, 0x06ca6351, 0x14292967,
   0x27b70a85, 0x2e1b2138, 0x4d2c6dfc, 0x53380d13, 0x650a7354, 0x766a0abb, 0x81c2c92e, 0x92722c85,
   0xa2bfe8a1, 0xa81a664b, 0xc24b8b70, 0xc76c51a3, 0xd192e819, 0xd6990624, 0xf40e3585, 0x106aa070,
   0x19a4c116, 0x1e376c08, 0x2748774c, 0x34b0bcb5, 0x391c0cb3, 0x4ed8aa4a, 0x5b9cca4f, 0x682e6ff3,
   0x748f82ee, 0x78a5636f, 0x84c87814, 0x8cc70208, 0x90befffa, 0xa4506ceb, 0xbef9a3f7, 0xc67178f2]

def rotate (x n : UInt32) : UInt32 := (x >>> n) ||| (x <<< (32 - n))

def bigEndian : Nat → Nat → Octets
  | 0, _ => []
  | k + 1, n => bigEndian k (n / 256) ++ [UInt8.ofNat (n % 256)]

/-- A one bit, then zeros up to eight octets short of a whole block, then the length in bits. -/
def pad (message : Octets) : Octets :=
  message ++ 0x80 :: List.replicate ((119 - message.length % 64) % 64) 0 ++
    bigEndian 8 (8 * message.length)

def wordsOf : Octets → List UInt32
  | a :: b :: c :: d :: rest =>
      ((a.toUInt32 <<< 24) ||| (b.toUInt32 <<< 16) ||| (c.toUInt32 <<< 8) ||| d.toUInt32) ::
        wordsOf rest
  | _ => []

def nextWord (schedule : List UInt32) : UInt32 :=
  let w (back : Nat) : UInt32 := schedule.getD (back - 1) 0
  let s0 := rotate (w 15) 7 ^^^ rotate (w 15) 18 ^^^ (w 15 >>> 3)
  let s1 := rotate (w 2) 17 ^^^ rotate (w 2) 19 ^^^ (w 2 >>> 10)
  w 16 + s0 + w 7 + s1

def extend : Nat → List UInt32 → List UInt32
  | 0, schedule => schedule
  | n + 1, schedule => extend n (nextWord schedule :: schedule)

def schedule (block : List UInt32) : List UInt32 := (extend 48 block.reverse).reverse

def round (state : List UInt32) (k w : UInt32) : List UInt32 :=
  match state with
  | [a, b, c, d, e, f, g, h] =>
      let s1 := rotate e 6 ^^^ rotate e 11 ^^^ rotate e 25
      let choice := (e &&& f) ^^^ ((~~~ e) &&& g)
      let t1 := h + s1 + choice + k + w
      let s0 := rotate a 2 ^^^ rotate a 13 ^^^ rotate a 22
      let majority := (a &&& b) ^^^ (a &&& c) ^^^ (b &&& c)
      [t1 + s0 + majority, a, b, c, d + t1, e, f, g]
  | _ => state

theorem length_round {state : List UInt32} (h : state.length = 8) (k w : UInt32) :
    (round state k w).length = 8 := by
  unfold round
  split <;> simp_all

def rounds (state : List UInt32) (steps : List (UInt32 × UInt32)) : List UInt32 :=
  steps.foldl (fun s kw => round s kw.1 kw.2) state

theorem length_rounds {state : List UInt32} (h : state.length = 8)
    (steps : List (UInt32 × UInt32)) : (rounds state steps).length = 8 := by
  induction steps generalizing state with
  | nil => exact h
  | cons kw rest ih => exact ih (length_round h kw.1 kw.2)

def compress (digest : Digest) (block : List UInt32) : Digest where
  words := List.zipWith (· + ·) digest.words
    (rounds digest.words (roundConstants.zip (schedule block)))
  length_eq := by simp [digest.length_eq, length_rounds digest.length_eq]

def absorb (digest : Digest) : (count : Nat) → List UInt32 → Digest
  | 0, _ => digest
  | n + 1, words => absorb (digest.compress (words.take 16)) n (words.drop 16)

def ofOctets (message : Octets) : Digest :=
  let words := wordsOf (pad message)
  initial.absorb (words.length / 16) words

def ofJson (document : Json) : Digest := ofOctets document.canonicalOctets

def octets (d : Digest) : Octets := d.words.flatMap fun w => bigEndian 4 w.toNat

def hexOctet (b : UInt8) : Text := [Nat.digitChar (b.toNat / 16), Nat.digitChar (b.toNat % 16)]

def hex (d : Digest) : Text := d.octets.flatMap hexOctet

def text (d : Digest) : Text := "sha256:".toList ++ d.hex

def toJson (d : Digest) : Json :=
  .array (d.octets.map fun b => .number (.integer b.toNat))

def octet? : Number → Option UInt8
  | .integer n => if 0 ≤ n ∧ n < 256 then some (UInt8.ofNat n.toNat) else none
  | .double _ => none

def readOctets (first : Bool) : (count : Nat) → Octets → Json.Step Octets
  | 0, input => .ok ([], input)
  | n + 1, input =>
      match Json.skipSpace input with
      | [] => .error .unfinished
      | b :: rest =>
          let item (input : Octets) : Json.Step Octets :=
            match Json.expectNumber input with
            | .error fault => .error fault
            | .ok (number, rest) =>
                match octet? number with
                | none => .error .unfit
                | some octet => (readOctets false n rest).map fun r => (octet :: r.1, r.2)
          if Json.ascii b = ']' then .error .unfit
          else if first then item (b :: rest)
          else if Json.ascii b = ',' then
            match Json.skipSpace rest with
            | [] => .error .unfinished
            | c :: rest => if Json.ascii c = ']' then .error .malformed else item (c :: rest)
          else .error .malformed

def readEnd (input : Octets) : Except Json.ReadFault Octets :=
  match Json.skipSpace input with
  | [] => .error .unfinished
  | b :: rest => if Json.ascii b = ']' then .ok rest else .error .malformed

def ofWords? (words : List UInt32) : Option Digest :=
  if h : words.length = 8 then some ⟨words, h⟩ else none

def read (input : Octets) : Except Json.ReadFault Digest :=
  match Json.skipSpace input with
  | [] => .error .unfinished
  | b :: rest =>
      if Json.ascii b = '[' then do
        let (octets, rest) ← readOctets true 32 rest
        let rest ← readEnd rest
        match ofWords? (wordsOf octets) with
        | some digest => Json.finish (digest, rest)
        | none => .error .unfit
      else .error (Json.misfit (b :: rest))

end Digest
end JsonReference
