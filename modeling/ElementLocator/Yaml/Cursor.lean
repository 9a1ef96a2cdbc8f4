import ElementLocator.Yaml.Fault

/-! # Places in YAML texts

    A cursor is a place in a text together with the characters after it. Five characters break
    lines; a carriage return and a line feed together break one line.

    Where a text is read bit by bit, something may keep the reader from the rest of it. That
    shows as soon as a character is looked at that cannot be had, and not before, so that a fault
    of the characters in front of it is told instead. -/

namespace ElementLocator.Yaml

/-- A place in a text, what follows it, and how many characters that are. -/
structure Cursor where
  mark : Mark
  rest : List Char
  left : Nat
  left_eq : left = rest.length
  /-- What comes after these characters, if that is not the end of the text. -/
  beyond : Option Obstacle

/-- The start of a text. -/
def Cursor.start (cs : List Char) (beyond : Option Obstacle := none) : Cursor :=
  ⟨⟨0, 0, 0⟩, cs, cs.length, rfl, beyond⟩

/-- Whether a character breaks the line. -/
def isBreak (c : Char) : Bool :=
  c == '\n' || c == '\r' || c == '\x85' || c == '\u2028' || c == '\u2029'

/-- Whether the text or the line ends here. -/
def endsLine : Option Char → Bool
  | none => true
  | some c => isBreak c

/-- Whether the text or the line ends here, or a blank follows. -/
def endsWord : Option Char → Bool
  | none => true
  | some c => c == ' ' || isBreak c

/-- Whether the text or the line ends here, or a blank or a tab follows. -/
def endsToken : Option Char → Bool
  | none => true
  | some c => c == ' ' || c == '\t' || isBreak c

namespace Cursor

/-- The next character. -/
def peek (c : Cursor) : Option Char := c.rest.head?

/-- The character `k` places ahead. -/
def peekAt (c : Cursor) (k : Nat) : Option Char := c.rest[k]?

/-- The mark after a character that `next` follows. A byte order mark takes no column, and a
    carriage return before a line feed does not break the line. -/
def markAfter (m : Mark) (ch : Char) (next : Option Char) : Mark :=
  let breaks := ch == '\n' || ch == '\x85' || ch == '\u2028' || ch == '\u2029' ||
    (ch == '\r' && next != some '\n')
  if breaks then ⟨m.index + 1, m.line + 1, 0⟩
  else if ch == '\uFEFF' then ⟨m.index + 1, m.line, m.column⟩
  else ⟨m.index + 1, m.line, m.column + 1⟩

/-- The place after the next character. -/
def forward (c : Cursor) : Cursor :=
  match h : c.rest with
  | [] => c
  | ch :: rest => ⟨markAfter c.mark ch rest.head?, rest, c.left - 1, by simp [c.left_eq, h], c.beyond⟩

/-- The place `n` characters further on. -/
def forwardBy (c : Cursor) : (n : Nat) → Cursor
  | 0 => c
  | n + 1 => c.forward.forwardBy n

/-- Takes characters while they satisfy `p`. -/
def takeWhile (c : Cursor) (p : Char → Bool) : List Char × Cursor :=
  let taken := c.rest.takeWhile p
  (taken, c.forwardBy taken.length)

/-- The place after characters that satisfy `p`. -/
def skipWhile (c : Cursor) (p : Char → Bool) : Cursor := (c.takeWhile p).2

/-- Takes a line break, if there is one: the text it stands for. Most breaks stand for a line
    feed; the line and paragraph separators stand for themselves. -/
def takeBreak (c : Cursor) : List Char × Cursor :=
  match c.rest with
  | '\r' :: '\n' :: _ => (['\n'], c.forwardBy 2)
  | ch :: _ =>
    if ch == '\r' || ch == '\n' || ch == '\x85' then (['\n'], c.forward)
    else if ch == '\u2028' || ch == '\u2029' then ([ch], c.forward)
    else ([], c)
  | [] => ([], c)

/-- Whether a document marker of three such characters stands here. -/
def atMarker (c : Cursor) (ch : Char) : Bool :=
  match c.rest with
  | x :: y :: z :: rest => x == ch && y == ch && z == ch && endsToken rest.head?
  | _ => false

/-- Whether a document starts or ends here by a marker. -/
def atDocumentMarker (c : Cursor) : Bool := c.atMarker '-' || c.atMarker '.'

/-- Looks at the character `k` places ahead, or at the end of the text. -/
def look (c : Cursor) (k : Nat) : Except Fault Unit :=
  match c.beyond with
  | none => .ok ()
  | some o => if c.left ≤ k then .error (.unreadable o) else .ok ()

/-- How far ahead a document marker shows: three characters, and if these are alike the one after
    them. -/
def markerReach (c : Cursor) : Nat :=
  match c.rest with
  | x :: y :: z :: _ => if (x == '-' || x == '.') && x == y && y == z then 3 else 2
  | _ => 2

end Cursor

/-- A problem met at a place. -/
def fault (context : String) (contextMark : Mark) (problem : String) (at_ : Cursor) : Fault :=
  .problem ⟨some context, some contextMark, problem, at_.mark⟩

/-- Fails with a problem met at a place, once the character `ahead` places further on was looked at. -/
def reject {α : Type} (context : String) (contextMark : Mark) (problem : String) (at_ : Cursor)
    (ahead : Nat := 0) : Except Fault α := do
  at_.look ahead
  .error (fault context contextMark problem at_)

end ElementLocator.Yaml
