/-! # Base 64

    Decoding of bytes written in base 64. Characters outside of the alphabet are passed over,
    and everything after complete padding is ignored. -/

namespace ElementLocator.Text.Base64

/-- Why a text is no base 64. -/
inductive Fault
  /-- The last group lacks its padding. -/
  | padding
  /-- One character too many; the number of data characters is given. -/
  | length (count : Nat)
  deriving DecidableEq, Repr

/-- The wording of a fault. -/
def Fault.message : Fault → String
  | .padding => "Incorrect padding"
  | .length n =>
    s!"Invalid base64-encoded string: number of data characters ({n}) cannot be 1 more than a multiple of 4"

/-- The value of a character of the alphabet. -/
def value? (c : Char) : Option Nat :=
  if 'A' ≤ c ∧ c ≤ 'Z' then some (c.toNat - 65)
  else if 'a' ≤ c ∧ c ≤ 'z' then some (c.toNat - 71)
  else if '0' ≤ c ∧ c ≤ '9' then some (c.toNat + 4)
  else if c = '+' then some 62
  else if c = '/' then some 63
  else none

/-- Decodes from a character on: `place` characters of the present group of four were read,
    `left` holds the bits of them not yet used, `pads` counts padding characters in a row, and
    `count` the data characters of complete groups. -/
def decodeFrom : (place left pads count : Nat) → List Char → Except Fault (List UInt8)
  | 0, _, _, _, [] => .ok []
  | 1, _, _, count, [] => .error (.length (count + 1))
  | _, _, _, _, [] => .error .padding
  | place, left, pads, count, c :: rest =>
    if c = '=' then
      if 2 ≤ place ∧ 4 ≤ place + pads + 1 then .ok []
      else decodeFrom place left (if 2 ≤ place then pads + 1 else pads) count rest
    else
      match value? c with
      | none => decodeFrom place left pads count rest
      | some v =>
        match place with
        | 0 => decodeFrom 1 v 0 count rest
        | 1 => (decodeFrom 2 (v % 16) 0 count rest).map ((left * 4 + v / 16).toUInt8 :: ·)
        | 2 => (decodeFrom 3 (v % 4) 0 count rest).map ((left * 16 + v / 4).toUInt8 :: ·)
        | _ => (decodeFrom 0 0 0 (count + 4) rest).map ((left * 64 + v).toUInt8 :: ·)

/-- The bytes of a text in base 64. -/
def decode (cs : List Char) : Except Fault (List UInt8) := decodeFrom 0 0 0 0 cs

end ElementLocator.Text.Base64
