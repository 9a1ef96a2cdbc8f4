/-! # Regular expressions: syntax

    A regular expression is a sequence of pieces. Flags that govern case, lines and character
    classes are kept apart from the pieces, because a flag given for the whole expression may
    be written after pieces that it governs. -/

namespace ElementLocator.Regex

/-- The flags that govern matching. -/
structure Flags where
  ignoreCase : Bool := false
  multiLine : Bool := false
  dotAll : Bool := false
  verbose : Bool := false
  /-- Character classes and case are those of ASCII. -/
  ascii : Bool := false
  /-- Character classes and case are those of Unicode, said in so many words. -/
  unicode : Bool := false
  template : Bool := false
  deriving DecidableEq, Repr

/-- No flag at all. -/
def Flags.none : Flags := {}

/-- The flags of either set. -/
def Flags.union (a b : Flags) : Flags where
  ignoreCase := a.ignoreCase || b.ignoreCase
  multiLine := a.multiLine || b.multiLine
  dotAll := a.dotAll || b.dotAll
  verbose := a.verbose || b.verbose
  ascii := a.ascii || b.ascii
  unicode := a.unicode || b.unicode
  template := a.template || b.template

/-- The flags of the first set that are not in the second. -/
def Flags.minus (a b : Flags) : Flags where
  ignoreCase := a.ignoreCase && !b.ignoreCase
  multiLine := a.multiLine && !b.multiLine
  dotAll := a.dotAll && !b.dotAll
  verbose := a.verbose && !b.verbose
  ascii := a.ascii && !b.ascii
  unicode := a.unicode && !b.unicode
  template := a.template && !b.template

/-- Whether two sets of flags share a flag. -/
def Flags.meet (a b : Flags) : Bool :=
  (a.ignoreCase && b.ignoreCase) || (a.multiLine && b.multiLine) || (a.dotAll && b.dotAll) ||
    (a.verbose && b.verbose) || (a.ascii && b.ascii) || (a.unicode && b.unicode) ||
    (a.template && b.template)

/-- The flags inside a group: a character-class flag that the group adds replaces the one
    outside. -/
def Flags.within (outer add del : Flags) : Flags :=
  let base := if add.ascii || add.unicode then { outer with ascii := false, unicode := false } else outer
  (base.union add).minus del

/-- The named classes of characters. -/
inductive Category
  | digit
  | space
  | word
  deriving DecidableEq, Repr

/-- An entry of a bracketed set; characters are given by code point. -/
inductive SetItem
  | char (code : Nat)
  | range (lo hi : Nat)
  | category (kind : Category) (negated : Bool)
  deriving DecidableEq, Repr

/-- Conditions on the place between two characters. -/
inductive Anchor
  | lineStart
  | lineEnd
  | textStart
  | textEnd
  | boundary
  | notBoundary
  deriving DecidableEq, Repr

/-- How a repetition chooses the number of rounds. -/
inductive Greed
  /-- As many as possible, giving back on failure. -/
  | greedy
  /-- As few as possible, taking more on failure. -/
  | lazy
  /-- As many as possible, giving nothing back. -/
  | possessive
  deriving DecidableEq, Repr

/-- A piece that takes exactly one character. -/
inductive Symbol
  | char (code : Nat)
  | notChar (code : Nat)
  | anyChar
  | oneOf (negated : Bool) (items : List SetItem)
  deriving DecidableEq, Repr

/-- A piece of a regular expression. -/
inductive Piece
  | symbol (s : Symbol)
  | anchor (a : Anchor)
  | backReference (group : Nat)
  | group (capture : Option Nat) (add del : Flags) (body : List Piece)
  | atomic (body : List Piece)
  | branch (alternatives : List (List Piece))
  /-- `max = none` means without bound. -/
  | loop (greed : Greed) (min : Nat) (max : Option Nat) (body : List Piece)
  | lookAhead (negated : Bool) (body : List Piece)
  | lookBehind (negated : Bool) (body : List Piece)
  | conditional (group : Nat) (yes : List Piece) (no : Option (List Piece))

/-- A character by its code point. -/
def Piece.char (code : Nat) : Piece := .symbol (.char code)

/-- Whether two pieces without inner pieces are the same. Pieces that hold others never are. -/
def Piece.same : Piece → Piece → Bool
  | .symbol s, .symbol t => s == t
  | .anchor a, .anchor b => a == b
  | .backReference g, .backReference h => g == h
  | _, _ => false

/-- Why a text is refused as a regular expression, or cannot be searched for. -/
inductive Fault
  /-- The text breaks a rule, at a place if one is known. -/
  | malformed (message : String) (position : Option Nat)
  /-- A repetition count is beyond every bound. -/
  | repetitionTooLarge
  /-- The number of a character is beyond every bound. -/
  | codeTooLarge
  /-- A look-behind is wider than a program can say. -/
  | lookBehindTooWide
  /-- A repetition count has too many digits to be converted. -/
  | countTooLong (message : String)
  /-- The expression asks for ASCII and for Unicode classes at once. -/
  | incompatibleFlags
  /-- A match was found in which a group ends before it starts. -/
  | wrongSpan
  deriving DecidableEq, Repr

/-- Line and column of a position, both from one; the column counts from the line's start. -/
def lineColumn (cs : List Char) (position : Nat) : Nat × Nat :=
  let before := cs.take position
  let line := before.count '\n' + 1
  let column := (before.reverse.takeWhile (· != '\n')).length + 1
  (line, column)

/-- The wording of a fault of the given expression; a position in an expression of several
    lines is also given by line and column. -/
def Fault.message (source : String) : Fault → String
  | .malformed m none => m
  | .malformed m (some p) =>
    let cs := source.toList
    let place := s!"{m} at position {p}"
    if cs.contains '\n' then
      let (line, column) := lineColumn cs p
      s!"{place} (line {line}, column {column})"
    else place
  | .repetitionTooLarge => "the repetition number is too large"
  | .codeTooLarge => "Python int too large to convert to C int"
  | .lookBehindTooWide => "invalid SRE code"
  | .countTooLong m => m
  | .incompatibleFlags => "ASCII and UNICODE flags are incompatible"
  | .wrongSpan => "The span of capturing group is wrong, please report a bug for the re module."

/-- The least and the greatest number of characters that a piece can take. -/
abbrev Width := Nat × Nat

/-- Greatest widths are not told apart from this number on, which also stands for no bound. -/
def unbounded : Nat := 4294967295

/-- A width with numbers that are not told apart made equal: least widths are told apart up to
    one below the greatest. -/
def clampWidth (w : Width) : Width := (Nat.min w.1 (unbounded - 1), Nat.min w.2 unbounded)

mutual

/-- The width of a piece, given the widths of the groups. -/
def Piece.width (groups : Nat → Width) : Piece → Width
  | .symbol _ => (1, 1)
  | .anchor _ | .lookAhead .. | .lookBehind .. => (0, 0)
  | .group _ _ _ body | .atomic body => widthOf groups body
  | .branch alternatives => branchWidth groups alternatives
  | .loop _ min max body =>
    let (i, j) := widthOf groups body
    (i * min, j * max.getD unbounded)
  | .backReference g => groups g
  | .conditional _ yes no =>
    let (i, j) := widthOf groups yes
    match no with
    | none => (0, j)
    | some no =>
      let (l, h) := widthOf groups no
      (Nat.min i l, Nat.max j h)

/-- The width of a sequence. -/
def widthOf (groups : Nat → Width) : List Piece → Width
  | [] => (0, 0)
  | p :: rest =>
    let (i, j) := p.width groups
    let (l, h) := widthOf groups rest
    clampWidth (i + l, j + h)

/-- The width of alternatives: least and greatest of all. -/
def branchWidth (groups : Nat → Width) : List (List Piece) → Width
  | [] => (unbounded - 1, 0)
  | a :: rest =>
    let (i, j) := widthOf groups a
    let (l, h) := branchWidth groups rest
    (Nat.min i l, Nat.max j h)

end

/-- A regular expression that was read: its pieces, its flags and the widths of its groups. -/
structure Expression where
  pieces : List Piece
  flags : Flags
  widths : List (Nat × Width)

/-- The width of a numbered group. -/
def Expression.groupWidth (e : Expression) (g : Nat) : Width :=
  ((e.widths.find? (·.1 == g)).map (·.2)).getD (0, 0)

end ElementLocator.Regex
