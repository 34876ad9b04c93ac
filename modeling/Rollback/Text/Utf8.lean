/-! Reading bytes as UTF-8. A text that is not UTF-8 is refused with the place of the first octet
that belongs to no character. -/
namespace Rollback.Text

inductive Utf8Fault where
  /-- The `length` octets from `index` on start no character. -/
  | invalid (length index : Nat)
  /-- The text ends inside the character that starts at `index`. -/
  | incomplete (index : Nat)
  deriving DecidableEq, Repr

def Utf8Fault.message : Utf8Fault → String
  | .invalid length index => s!"invalid utf-8 sequence of {length} bytes from index {index}"
  | .incomplete index => s!"incomplete utf-8 byte sequence from index {index}"

/-- The number of octets after the first of a character, and the range of the second. None for an
octet that starts no character of several octets. -/
def leadOctet (b : Nat) : Option (Nat × Nat × Nat) :=
  if 0xC2 ≤ b ∧ b ≤ 0xDF then some (1, 0x80, 0xBF)
  else if b = 0xE0 then some (2, 0xA0, 0xBF)
  else if b = 0xED then some (2, 0x80, 0x9F)
  else if 0xE1 ≤ b ∧ b ≤ 0xEF then some (2, 0x80, 0xBF)
  else if b = 0xF0 then some (3, 0x90, 0xBF)
  else if 0xF1 ≤ b ∧ b ≤ 0xF3 then some (3, 0x80, 0xBF)
  else if b = 0xF4 then some (3, 0x80, 0x8F)
  else none

/-- A character whose other octets are still to come. -/
structure Unfinished where
  /-- Where its first octet stands. -/
  start : Nat
  /-- How many octets of it have been read. -/
  seen : Nat
  /-- How many are still to come, less one. -/
  more : Nat
  /-- The least and the greatest value of the next. -/
  low : Nat
  high : Nat
  /-- The bits read so far. -/
  bits : Nat

/-- Reads the octets from position `index` on, after the characters `done` (the last first). -/
def decodeFrom (done : List Char) (open? : Option Unfinished) (index : Nat) :
    List UInt8 → Except Utf8Fault (List Char)
  | [] =>
    match open? with
    | none => .ok done.reverse
    | some u => .error (.incomplete u.start)
  | octet :: rest =>
    let b := octet.toNat
    match open? with
    | none =>
      if b < 0x80 then decodeFrom (Char.ofNat b :: done) none (index + 1) rest
      else
        match leadOctet b with
        | none => .error (.invalid 1 index)
        | some (count, low, high) =>
          let bits := b % Nat.pow 2 (6 - count)
          decodeFrom done (some ⟨index, 1, count - 1, low, high, bits⟩) (index + 1) rest
    | some u =>
      if u.low ≤ b ∧ b ≤ u.high then
        let bits := u.bits * 64 + b % 64
        match u.more with
        | 0 => decodeFrom (Char.ofNat bits :: done) none (index + 1) rest
        | more + 1 =>
          decodeFrom done (some ⟨u.start, u.seen + 1, more, 0x80, 0xBF, bits⟩) (index + 1) rest
      else .error (.invalid u.seen u.start)

def decode (octets : List UInt8) : Except Utf8Fault (List Char) := decodeFrom [] none 0 octets

def decodeText (octets : List UInt8) : Except Utf8Fault String :=
  (decode octets).map String.ofList

/-- What stands for octets that encode no character. -/
def replacement : Char := '\uFFFD'

/-- The characters that the octets encode, with a replacement for each run that encodes none. -/
def decodeLossy : Nat → List UInt8 → List Char
  | 0, _ => []
  | fuel + 1, octets =>
    match decode octets with
    | .ok cs => cs
    | .error (.incomplete index) => decodeLossy fuel (octets.take index) ++ [replacement]
    | .error (.invalid length index) =>
      decodeLossy fuel (octets.take index)
        ++ replacement :: decodeLossy fuel (octets.drop (index + length))

def encode (s : String) : List UInt8 := s.toUTF8.toList

end Rollback.Text
