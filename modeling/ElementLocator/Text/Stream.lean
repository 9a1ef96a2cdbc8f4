import ElementLocator.Decimal.Binary64
import ElementLocator.Text.Utf8

/-! # Texts read piece by piece

    The text in a file is decoded in chunks of bytes and handed out in pieces of characters. Line
    breaks of all kinds are handed out as line feeds; a carriage return at the end of a chunk is kept
    back, since a line feed may follow. How many bytes are taken for the next chunk depends on how
    many the characters of the last one took.

    A fault of the bytes shows with the chunk that it is in, when characters of that chunk are needed,
    and it is told by its place in the chunk. -/

namespace ElementLocator

/-- Every line break as a single line feed. -/
def plainBreaks : List Char → List Char
  | '\r' :: '\n' :: rest => '\n' :: plainBreaks rest
  | '\r' :: rest => '\n' :: plainBreaks rest
  | c :: rest => c :: plainBreaks rest
  | [] => []

namespace Text

/-- A text that is being read. -/
structure Stream where
  /-- The bytes that were not decoded yet. -/
  rest : List UInt8
  /-- The bytes of a character that is not complete. -/
  pending : List UInt8
  /-- Whether a carriage return is kept back. -/
  kept : Bool
  /-- The characters that were not handed out yet. -/
  ready : List Char
  /-- How many bytes a character of the last chunk took. -/
  density : Binary64

namespace Stream

/-- The stream of a text of which nothing was read. -/
def start (content : List UInt8) : Stream := ⟨content, [], false, [], .ofInt 0⟩

/-- How many bytes are decoded at least, if there are as many. -/
def chunkSize : Nat := 8192

/-- How many bytes as many characters will take, if they are like the last ones. -/
def estimate (density : Binary64) (wanted : Nat) : Nat :=
  match density.ratio?, (density.mul (.ofInt wanted)).ratio? with
  | some (_, m, n), some (_, a, b) => if m < n then wanted else a / b
  | _, _ => wanted

/-- The breaks of a chunk as line feeds, and whether its last character is kept back. -/
def settleBreaks (kept ends : Bool) (cs : List Char) : List Char × Bool :=
  if cs.isEmpty && !ends then ([], kept)
  else
    let cs := if kept then '\r' :: cs else cs
    if !ends && cs.getLast? == some '\r' then (plainBreaks cs.dropLast, true) else (plainBreaks cs, false)

/-- Decodes the next chunk, for as many characters as are wanted. -/
def decodeChunk (s : Stream) (wanted : Nat) : Except Utf8.Fault Stream :=
  let chunk := s.rest.take (max chunkSize (estimate s.density wanted))
  match Utf8.decodePart chunk.isEmpty (s.pending ++ chunk) with
  | .error f => .error f
  | .ok (cs, pending) =>
    let (cs, kept) := settleBreaks s.kept chunk.isEmpty cs
    .ok ⟨s.rest.drop chunk.length, pending, kept, s.ready ++ cs,
      if cs.isEmpty then .ofInt 0 else .ofRatio false chunk.length cs.length⟩

/-- Decodes chunks until as many characters are ready as are wanted, or all. -/
def fill (wanted : Nat) : (fuel : Nat) → Stream → Except Utf8.Fault Stream
  | 0, s => .ok s
  | fuel + 1, s =>
    if wanted ≤ s.ready.length then .ok s
    else
      match s.decodeChunk (wanted - s.ready.length) with
      | .error f => .error f
      | .ok later =>
        if s.rest.isEmpty && later.ready.length == s.ready.length then .ok later else fill wanted fuel later

/-- The pieces of a text, each as long as wanted but for the last one, and the fault that ends them
    if there is one. -/
def pieces (wanted : Nat) : (fuel : Nat) → Stream → List (List Char) × Option Utf8.Fault
  | 0, _ => ([], none)
  | fuel + 1, s =>
    match s.fill wanted (s.rest.length + 3) with
    | .error f => ([], some f)
    | .ok s =>
      if s.ready.isEmpty then ([], none)
      else
        let (others, f) := pieces wanted fuel { s with ready := s.ready.drop wanted }
        (s.ready.take wanted :: others, f)

end Stream

end Text

end ElementLocator
