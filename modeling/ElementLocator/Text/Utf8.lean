/-! # UTF-8

    Decoding of UTF-8 bytes. A faulty text is reported by the bytes at fault: the longest
    start of a character that the table of well-formed sequences allows, its place, and
    whether the start byte, a continuation byte or the end of the data is wrong. -/

namespace ElementLocator.Text.Utf8

/-- What is wrong with a byte sequence. -/
inductive Defect
  /-- No character starts with this byte. -/
  | startByte
  /-- The bytes so far start a character, and the next byte cannot continue it. -/
  | continuation
  /-- The data ends inside a character. -/
  | truncated
  deriving DecidableEq, Repr

/-- A place where bytes are not UTF-8. -/
structure Fault where
  /-- Offset of the first faulty byte. -/
  start : Nat
  /-- The faulty bytes; never empty. -/
  bytes : List UInt8
  defect : Defect
  deriving DecidableEq, Repr

/-- How a defect is named in messages. -/
def Defect.text : Defect → String
  | .startByte => "invalid start byte"
  | .continuation => "invalid continuation byte"
  | .truncated => "unexpected end of data"

/-- Two lower-case hexadecimal digits. -/
def hexByte (b : UInt8) : String :=
  String.ofList [Nat.digitChar (b.toNat / 16), Nat.digitChar (b.toNat % 16)]

/-- The message for a fault: one byte is shown, several are given by their offsets. -/
def Fault.message (f : Fault) : String :=
  match f.bytes with
  | [b] => s!"'utf-8' codec can't decode byte 0x{hexByte b} in position {f.start}: {f.defect.text}"
  | bs => s!"'utf-8' codec can't decode bytes in position {f.start}-{f.start + bs.length - 1}: {f.defect.text}"

/-- For a start byte: how many continuation bytes follow, and the range of the first. -/
def follow? (b : UInt8) : Option (Nat × UInt8 × UInt8) :=
  if b < 0x80 then some (0, 0x80, 0xBF)
  else if b < 0xC2 then none
  else if b < 0xE0 then some (1, 0x80, 0xBF)
  else if b == 0xE0 then some (2, 0xA0, 0xBF)
  else if b == 0xED then some (2, 0x80, 0x9F)
  else if b < 0xF0 then some (2, 0x80, 0xBF)
  else if b == 0xF0 then some (3, 0x90, 0xBF)
  else if b < 0xF4 then some (3, 0x80, 0xBF)
  else if b == 0xF4 then some (3, 0x80, 0x8F)
  else none

/-- Takes `n` continuation bytes, the first within `lo ≤ b ≤ hi`; answers them, or those before
    the fault with the defect. -/
def takeFollowing : (n : Nat) → (lo hi : UInt8) → List UInt8 → Except (List UInt8 × Defect) (List UInt8)
  | 0, _, _, _ => .ok []
  | _ + 1, _, _, [] => .error ([], .truncated)
  | n + 1, lo, hi, b :: bs =>
    if lo ≤ b ∧ b ≤ hi then
      match takeFollowing n 0x80 0xBF bs with
      | .ok taken => .ok (b :: taken)
      | .error (taken, d) => .error (b :: taken, d)
    else .error ([], .continuation)

/-- The code point of a start byte and its continuation bytes. -/
def codePoint (b : UInt8) (following : List UInt8) : Nat :=
  let lead := match following.length with
    | 0 => b.toNat
    | 1 => b.toNat % 0x20
    | 2 => b.toNat % 0x10
    | _ => b.toNat % 0x08
  following.foldl (fun n c => n * 64 + c.toNat % 64) lead

/-- One character from the front of the bytes at an offset, with the number of its
    continuation bytes. -/
def decodeOne (start : Nat) (b : UInt8) (bs : List UInt8) : Except Fault (Char × Nat) :=
  match follow? b with
  | none => .error ⟨start, [b], .startByte⟩
  | some (n, lo, hi) =>
    match takeFollowing n lo hi bs with
    | .ok taken => .ok (Char.ofNat (codePoint b taken), n)
    | .error (taken, d) => .error ⟨start, b :: taken, d⟩

/-- Decodes from an offset; `skip` bytes of the character just read are passed over first. -/
def decodeFrom : (start skip : Nat) → List UInt8 → Except Fault (List Char)
  | _, _, [] => .ok []
  | i, skip + 1, _ :: bs => decodeFrom (i + 1) skip bs
  | i, 0, b :: bs =>
    match decodeOne i b bs with
    | .error f => .error f
    | .ok (c, n) =>
      match decodeFrom (i + 1) n bs with
      | .ok cs => .ok (c :: cs)
      | .error f => .error f

/-- The text of a byte sequence, or its first fault. -/
def decode (bytes : List UInt8) : Except Fault (List Char) := decodeFrom 0 0 bytes

/-- The bytes after a byte order mark, if one stands at their start. -/
def withoutMark : List UInt8 → List UInt8
  | 0xEF :: 0xBB :: 0xBF :: rest => rest
  | bytes => bytes

/-- The bytes of one character. -/
def encodeChar (c : Char) : List UInt8 :=
  let n := c.toNat
  if n < 0x80 then [n.toUInt8]
  else if n < 0x800 then [(0xC0 + n / 64).toUInt8, (0x80 + n % 64).toUInt8]
  else if n < 0x10000 then
    [(0xE0 + n / 4096).toUInt8, (0x80 + n / 64 % 64).toUInt8, (0x80 + n % 64).toUInt8]
  else
    [(0xF0 + n / 262144).toUInt8, (0x80 + n / 4096 % 64).toUInt8, (0x80 + n / 64 % 64).toUInt8,
      (0x80 + n % 64).toUInt8]

/-- The bytes of a text. -/
def encode (cs : List Char) : List UInt8 := cs.flatMap encodeChar

/-- Decodes what came of a text so far: its characters, and the bytes of a character that is not
    complete. Only at the end of the text is that a fault. -/
def decodePart (ends : Bool) (bytes : List UInt8) : Except Fault (List Char × List UInt8) :=
  match decode bytes with
  | .ok cs => .ok (cs, [])
  | .error f =>
    if f.defect == .truncated && !ends then (decode (bytes.take f.start)).map fun cs => (cs, f.bytes)
    else .error f

end ElementLocator.Text.Utf8
