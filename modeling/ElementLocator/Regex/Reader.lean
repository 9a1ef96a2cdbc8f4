import ElementLocator.Regex.Syntax
import ElementLocator.Regex.CharacterName
import ElementLocator.Text.Identifier
import ElementLocator.Text.Whole

/-! # Regular expressions: reading

    The reader of regular expressions. It works on tokens, each a character or a backslash
    with the character after it, and looks one token ahead. Every fault carries the place it
    is counted from, so that messages can point at it. -/

namespace ElementLocator.Regex

/-- A character, or a backslash with the character after it. -/
inductive Token
  | char (c : Char)
  | escape (c : Char)
  deriving DecidableEq, Repr

/-- The characters of a token. -/
def Token.chars : Token → List Char
  | .char c => [c]
  | .escape c => ['\\', c]

/-- The number of characters of a token. -/
def Token.length (t : Token) : Nat := t.chars.length

/-- The tokens of a text, and whether a lone backslash ends it. -/
def tokens : List Char → List Token × Bool
  | [] => ([], false)
  | ['\\'] => ([], true)
  | '\\' :: c :: rest => let (ts, d) := tokens rest; (.escape c :: ts, d)
  | c :: rest => let (ts, d) := tokens rest; (.char c :: ts, d)

/-- What the reader knows between tokens. -/
structure State where
  /-- The tokens not yet taken; the first is the one looked at. -/
  rest : List Token
  /-- The place of the first of them. -/
  pos : Nat
  /-- Whether a lone backslash follows them. -/
  dangling : Bool
  /-- The flags given for the whole expression so far. -/
  flags : Flags
  /-- The number of groups opened so far, counting the whole expression as one. -/
  groups : Nat
  /-- The names of groups. -/
  names : List (String × Nat)
  /-- The widths of closed groups. -/
  widths : List (Nat × Width)
  /-- Inside a look-behind: the number of groups opened before the outermost one. -/
  lookBehindGroups : Option Nat
  /-- Places of conditions on groups by number, each group at its first. -/
  conditions : List (Nat × Nat)

/-- Reading steps. -/
abbrev ReadM := StateT State (Except Fault)

namespace ReadM

/-- Fails with a message placed `back` characters before the token looked at. -/
def fail {α : Type} (message : String) (back : Nat) : ReadM α := do
  let s ← get
  throw (.malformed message (some (s.pos - back)))

/-- The token looked at. -/
def peek : ReadM (Option Token) := return (← get).rest.head?

/-- The place of the token looked at. -/
def place : ReadM Nat := return (← get).pos

/-- Goes to the next token. A lone backslash at the end is a fault as soon as it is looked at. -/
def advance : ReadM Unit := do
  let s ← get
  match s.rest with
  | [] => return ()
  | t :: rest =>
    if rest.isEmpty && s.dangling then
      throw (.malformed "bad escape (end of pattern)" (some (s.pos + t.length)))
    set { s with rest := rest, pos := s.pos + t.length }

/-- Takes the token looked at. -/
def take : ReadM (Option Token) := do
  let t ← peek
  advance
  return t

/-- Takes the character `c` if it is looked at; answers whether it was. -/
def accept (c : Char) : ReadM Bool := do
  if (← peek) == some (.char c) then
    advance
    return true
  return false

/-- Takes at most `n` plain characters that satisfy `p`. -/
def takeWhile (p : Char → Bool) : (n : Nat) → ReadM (List Char)
  | 0 => return []
  | n + 1 => do
    match ← peek with
    | some (.char c) =>
      if p c then
        advance
        return c :: (← takeWhile p n)
      else return []
    | _ => return []

/-- Takes the text up to the character `stop`, which must come and must not come at once. -/
def takeUntil (stop : Char) (what : String) : (fuel : Nat) → List Char → ReadM (List Char)
  | 0, done => return done
  | fuel + 1, done => do
    match ← take with
    | none =>
      if done.isEmpty then fail s!"missing {what}" 0
      else fail s!"missing {stop}, unterminated name" done.length
    | some t =>
      if t == .char stop then
        if done.isEmpty then fail s!"missing {what}" 1 else return done
      else takeUntil stop what fuel (done ++ t.chars)

/-- Takes a name up to `stop`. -/
def takeName (stop : Char) (what : String) : ReadM (List Char) := do
  takeUntil stop what ((← get).rest.length + 1) []

end ReadM

open ReadM

/-- Whether a character is a hexadecimal digit. -/
def isHex (c : Char) : Bool := c.isDigit || ('a' ≤ c && c ≤ 'f') || ('A' ≤ c && c ≤ 'F')

/-- Whether a character is an octal digit. -/
def isOctal (c : Char) : Bool := '0' ≤ c && c ≤ '7'

/-- The value of digits of a base up to sixteen. -/
def digitsValue (base : Nat) (cs : List Char) : Nat :=
  cs.foldl (fun n c => n * base +
    (if c.isDigit then c.toNat - 48 else if 'a' ≤ c then c.toNat - 87 else c.toNat - 55)) 0

/-- An escape text as messages show it. -/
def shown (cs : List Char) : String := String.ofList cs

/-- The text of an escape that starts with the given characters after its backslash. -/
def escaped (cs : List Char) : String := shown ('\\' :: cs)

/-- Reads the digits of an escape that takes exactly `n` hexadecimal digits. -/
def readHexEscape (letter : Char) (n : Nat) : ReadM Nat := do
  let ds ← takeWhile isHex n
  let text := '\\' :: letter :: ds
  if ds.length ≠ n then fail s!"incomplete escape {shown text}" text.length
  let code := digitsValue 16 ds
  if 0x7FFFFFFF < code then throw .codeTooLarge
  if 0x10FFFF < code then fail s!"bad escape {shown text}" text.length
  return code

/-- Reads the name of an escape by character name. -/
def readNamedEscape : ReadM Nat := do
  if !(← accept '\x7b') then fail "missing \x7b" 0
  let name ← takeName '\x7d' "character name"
  match CharacterName.lookup? (String.ofList name) with
  | some c => return c.toNat
  | none =>
    fail s!"undefined character name {Text.Literal.ofChars name}" (name.length + 4)

/-- The character of an escape by one letter, the same inside and outside of sets. -/
def controlEscape? : Char → Option Nat
  | 'a' => some 7
  | 'f' => some 12
  | 'n' => some 10
  | 'r' => some 13
  | 't' => some 9
  | 'v' => some 11
  | '\\' => some 92
  | _ => none

/-- The class that an escaped letter names. -/
def categoryEscape? : Char → Option (Category × Bool)
  | 'd' => some (.digit, false)
  | 'D' => some (.digit, true)
  | 's' => some (.space, false)
  | 'S' => some (.space, true)
  | 'w' => some (.word, false)
  | 'W' => some (.word, true)
  | _ => none

/-- The anchor that an escaped letter names. -/
def anchorEscape? : Char → Option Anchor
  | 'A' => some .textStart
  | 'b' => some .boundary
  | 'B' => some .notBoundary
  | 'Z' => some .textEnd
  | _ => none

/-- An escaped character that stands for itself: every one but ASCII letters and digits. -/
def readPlainEscape (c : Char) : ReadM Nat :=
  if c.isAlpha || c.isDigit then fail s!"bad escape {escaped [c]}" 2 else return c.toNat

/-- Reads an escape inside a bracketed set whose backslash and first character were taken. -/
def readSetEscape (c : Char) : ReadM SetItem := do
  if c == 'b' then return .char 8
  match controlEscape? c, categoryEscape? c with
  | some code, _ => return .char code
  | _, some (k, n) => return .category k n
  | none, none =>
    if c == 'x' then return .char (← readHexEscape c 2)
    else if c == 'u' then return .char (← readHexEscape c 4)
    else if c == 'U' then return .char (← readHexEscape c 8)
    else if c == 'N' then return .char (← readNamedEscape)
    else if isOctal c then
      let ds := c :: (← takeWhile isOctal 2)
      let code := digitsValue 8 ds
      if 0o377 < code then
        fail s!"octal escape value {escaped ds} outside of range 0-0o377" (ds.length + 1)
      return .char code
    else return .char (← readPlainEscape c)

/-- Whether a group is closed. -/
def State.isClosed (s : State) (g : Nat) : Bool := s.widths.any (·.1 == g)

/-- Refuses a reference, inside a look-behind, to a group that is open or was opened there. -/
def checkLookBehindGroup (g : Nat) : ReadM Unit := do
  let s ← get
  match s.lookBehindGroups with
  | none => return ()
  | some n =>
    if !s.isClosed g then fail "cannot refer to an open group" 0
    if n ≤ g then fail "cannot refer to group defined in the same lookbehind subpattern" 0

/-- Reads a reference to a group by number, or an octal escape of three digits. -/
def readNumberEscape (c : Char) : ReadM Piece := do
  let mut ds := [c]
  match ← peek with
  | some (.char d) =>
    if d.isDigit then
      advance
      ds := [c, d]
      if isOctal c && isOctal d then
        match ← peek with
        | some (.char e) =>
          if isOctal e then
            advance
            ds := [c, d, e]
            let code := digitsValue 8 ds
            if 0o377 < code then
              fail s!"octal escape value {escaped ds} outside of range 0-0o377" 4
            return .char code
        | _ => pure ()
  | _ => pure ()
  let g := digitsValue 10 ds
  let s ← get
  if g < s.groups then
    if !s.isClosed g then fail "cannot refer to an open group" (ds.length + 1)
    checkLookBehindGroup g
    return .backReference g
  fail s!"invalid group reference {g}" ds.length

/-- Reads an escape outside of sets whose backslash and first character were taken. -/
def readEscape (c : Char) : ReadM Piece := do
  match anchorEscape? c, categoryEscape? c, controlEscape? c with
  | some a, _, _ => return .anchor a
  | _, some (k, n), _ => return .symbol (.oneOf false [.category k n])
  | _, _, some code => return .char code
  | none, none, none =>
    if c == 'x' then return .char (← readHexEscape c 2)
    else if c == 'u' then return .char (← readHexEscape c 4)
    else if c == 'U' then return .char (← readHexEscape c 8)
    else if c == 'N' then return .char (← readNamedEscape)
    else if c == '0' then return .char (digitsValue 8 (← takeWhile isOctal 2))
    else if c.isDigit then readNumberEscape c
    else return .char (← readPlainEscape c)

/-- The entry that a token stands for inside a set. -/
def readSetToken : Token → ReadM SetItem
  | .char c => return .char c.toNat
  | .escape c => readSetEscape c

/-- Refuses a range whose ends are no characters or stand in the wrong order. -/
def badRange {α : Type} (this that : Token) : ReadM α :=
  fail s!"bad character range {shown this.chars}-{shown that.chars}" (this.length + 1 + that.length)

/-- Reads the entries of a set up to its closing bracket, which stands for itself when it
    comes first; `done` holds the entries read, last first. -/
def readSetItems (start : Nat) : (fuel : Nat) → List SetItem → ReadM (List SetItem)
  | 0, done => return done
  | fuel + 1, done => do
    let unterminated : ReadM (List SetItem) := do
      fail "unterminated character set" ((← place) - start)
    match ← take with
    | none => unterminated
    | some this =>
      if this == .char ']' && !done.isEmpty then return done
      let first ← readSetToken this
      if ← accept '-' then
        match ← take with
        | none => unterminated
        | some that =>
          if that == .char ']' then return .char 45 :: first :: done
          let last ← readSetToken that
          match first, last with
          | .char lo, .char hi =>
            if hi < lo then badRange this that
            else readSetItems start fuel (.range lo hi :: done)
          | _, _ => badRange this that
      else readSetItems start fuel (first :: done)

/-- The piece of a set: one plain character needs no set. -/
def setPiece (negated : Bool) (items : List SetItem) : Piece :=
  match items.eraseDups with
  | [.char code] => .symbol (if negated then .notChar code else .char code)
  | items => .symbol (.oneOf negated items)

/-- Reads a bracketed set whose opening bracket was taken. -/
def readSet : ReadM Piece := do
  let start := (← place) - 1
  let negated ← accept '^'
  let items ← readSetItems start ((← get).rest.length + 1) []
  return setPiece negated items.reverse

/-- The flag that a letter names; the flag `L` is known and never allowed. -/
def flagOf? : Char → Option Flags
  | 'i' => some { ignoreCase := true }
  | 'm' => some { multiLine := true }
  | 's' => some { dotAll := true }
  | 'x' => some { verbose := true }
  | 'a' => some { ascii := true }
  | 't' => some { template := true }
  | 'u' => some { unicode := true }
  | 'L' => some {}
  | _ => none

/-- What a group's option letters say. -/
inductive GroupFlags
  /-- The flags hold for the whole expression. -/
  | everywhere (add : Flags)
  /-- The flags hold inside the group. -/
  | inside (add del : Flags)

/-- Refuses a token where a flag letter or a separator should stand. -/
def badFlag {α : Type} (t : Token) (missing : String) : ReadM α :=
  let letter := match t with
    | .char c => Text.Letter.isLetter c
    | .escape _ => false
  fail (if letter then "unknown flag" else missing) t.length

/-- The flag letter that a token is, if it is one. -/
def Token.flag? : Token → Option (Char × Flags)
  | .char c => (flagOf? c).map (c, ·)
  | .escape _ => none

/-- Reads flags that are turned on, the first already taken; answers them and what ended them. -/
def readAddedFlags : (fuel : Nat) → Char → Flags → Flags → ReadM (Flags × Char)
  | 0, c, _, add => return (add, c)
  | fuel + 1, c, flag, add => do
    if c == 'L' then fail "bad inline flags: cannot use 'L' flag with a str pattern" 0
    let add := add.union flag
    if (flag.ascii && add.unicode) || (flag.unicode && add.ascii) then
      fail "bad inline flags: flags 'a', 'u' and 'L' are incompatible" 0
    match ← take with
    | none => fail "missing -, : or )" 0
    | some t =>
      if t == .char ')' then return (add, ')')
      else if t == .char '-' then return (add, '-')
      else if t == .char ':' then return (add, ':')
      else match t.flag? with
        | some (d, f) => readAddedFlags fuel d f add
        | none => badFlag t "missing -, : or )"

/-- Reads flags that are turned off, the first already taken, up to the colon. -/
def readRemovedFlags : (fuel : Nat) → Char → Flags → Flags → ReadM Flags
  | 0, _, _, del => return del
  | fuel + 1, c, flag, del => do
    if c == 'L' || flag.ascii || flag.unicode then
      fail "bad inline flags: cannot turn off flags 'a', 'u' and 'L'" 0
    let del := del.union flag
    match ← take with
    | none => fail "missing :" 0
    | some t =>
      if t == .char ':' then return del
      else match t.flag? with
        | some (d, f) => readRemovedFlags fuel d f del
        | none => badFlag t "missing :"

/-- Reads the flags of a group whose first option character was taken. -/
def readGroupFlags (c : Char) : ReadM GroupFlags := do
  let fuel := (← get).rest.length + 1
  let (add, stop) ← match flagOf? c with
    | some f => readAddedFlags fuel c f .none
    | none => pure (.none, c)
  if stop == ')' then
    modify fun s => { s with flags := s.flags.union add }
    return .everywhere add
  if add.template then fail "bad inline flags: cannot turn on global flag" 1
  let mut del := Flags.none
  if stop == '-' then
    match ← take with
    | none => fail "missing flag" 0
    | some t =>
      match t.flag? with
      | none => badFlag t "missing flag"
      | some (d, f) => del ← readRemovedFlags fuel d f .none
  if del.template then fail "bad inline flags: cannot turn off global flag" 1
  if add.meet del then fail "bad inline flags: flag turned on and off" 1
  return .inside add del

/-- Refuses a group name that is no identifier. -/
def checkGroupName (name : List Char) : ReadM Unit :=
  if Text.Identifier.isIdentifier name then return ()
  else fail s!"bad character in group name {Text.Literal.ofChars name}" (name.length + 1)

/-- The number of a named group. -/
def groupNamed (name : List Char) : ReadM Nat := do
  match (← get).names.find? (·.1 == String.ofList name) with
  | some (_, g) => return g
  | none => fail s!"unknown group name {Text.Literal.ofChars name}" (name.length + 1)

/-- Opens a capturing group and answers its number. -/
def openGroup (name : Option (List Char)) : ReadM Nat := do
  let s ← get
  let g := s.groups
  set { s with groups := g + 1 }
  match name with
  | none => return g
  | some n =>
    match s.names.find? (·.1 == String.ofList n) with
    | some (_, old) =>
      fail s!"redefinition of group name {Text.Literal.ofChars n} as group {g}; was group {old}"
        (n.length + 1)
    | none =>
      modify fun s => { s with names := (String.ofList n, g) :: s.names }
      return g

/-- The widths of the groups closed so far. -/
def State.groupWidth (s : State) (g : Nat) : Width :=
  ((s.widths.find? (·.1 == g)).map (·.2)).getD (0, 0)

/-- Closes a capturing group around its body. -/
def closeGroup (g : Nat) (body : List Piece) : ReadM Unit :=
  modify fun s => { s with widths := (g, widthOf s.groupWidth body) :: s.widths }

/-- The group that a condition names or numbers. -/
def readCondition : ReadM Nat := do
  let name ← takeName ')' "group name"
  if Text.Identifier.isIdentifier name then groupNamed name
  else
    let back := name.length + 1
    let bad : ReadM Nat := fail s!"bad character in group name {Text.Literal.ofChars name}" back
    match Text.Whole.read 10 (String.ofList name) with
    | .error _ => bad
    | .ok n =>
      if n < 0 then bad
      else if n = 0 then fail "bad group number" back
      else if 1073741823 ≤ n then fail s!"invalid group reference {n}" back
      else
        let g := n.toNat
        let here ← place
        modify fun s =>
          if s.conditions.any (·.1 == g) then s
          else { s with conditions := s.conditions ++ [(g, here - back)] }
        return g

/-- Whether a token is white space or starts a comment in a verbose expression. -/
def isVerboseBlank (c : Char) : Bool :=
  c == ' ' || c == '\t' || c == '\n' || c == '\r' || c == '\x0b' || c == '\x0c'

/-- Takes the rest of a comment in a verbose expression. -/
def skipComment : (fuel : Nat) → ReadM Unit
  | 0 => return ()
  | fuel + 1 => do
    match ← take with
    | none => return ()
    | some t => if t == .char '\n' then return () else skipComment fuel

/-- Takes the rest of a comment group that opened at `start`. -/
def skipCommentGroup (start : Nat) : (fuel : Nat) → ReadM Unit
  | 0 => return ()
  | fuel + 1 => do
    match ← peek with
    | none => fail "missing ), unterminated comment" ((← place) - start)
    | some t =>
      advance
      if t == .char ')' then return () else skipCommentGroup start fuel

/-- A repetition count given by decimal digits; it is less than what stands for no bound. -/
def readCount (ds : List Char) : ReadM Nat :=
  match Text.Whole.read 10 (String.ofList ds) with
  | .error f => throw (.countTooLong f.message)
  | .ok n => if unbounded ≤ n.toNat then throw .repetitionTooLarge else return n.toNat

/-- Reads the bounds of a repetition in braces whose opening brace was taken at `here`; without
    bounds the brace stands for itself. -/
def readBounds (here : Nat) : ReadM (Option (Nat × Option Nat)) := do
  if (← peek) == some (.char '\x7d') then return none
  let saved ← get
  let fuel := saved.rest.length
  let lo ← takeWhile Char.isDigit fuel
  let hi ← if ← accept ',' then takeWhile Char.isDigit fuel else pure lo
  if !(← accept '\x7d') then
    set saved
    return none
  let min ← if lo.isEmpty then pure 0 else readCount lo
  if hi.isEmpty then return some (min, none)
  let max ← readCount hi
  if max < min then fail "min repeat greater than max repeat" ((← place) - here)
  return some (min, some max)

/-- Reads the mark after a quantifier that tells how much it takes. -/
def readGreed : ReadM Greed := do
  if ← accept '?' then return .lazy
  else if ← accept '+' then return .possessive
  else return .greedy

/-- Makes the last piece a repetition, whose quantifier of `size` characters began at `here`. -/
def readRepetition (here size min : Nat) (max : Option Nat) (done : List Piece) : ReadM (List Piece) := do
  let back := (← place) - here + size
  match done with
  | [] | .anchor _ :: _ => fail "nothing to repeat" back
  | .loop .. :: _ => fail "multiple repeat" back
  | p :: rest =>
    let body := match p with
      | .group none add del body => if add == .none && del == .none then body else [p]
      | _ => [p]
    let greed ← readGreed
    return .loop greed min max body :: rest

/-- Refuses a group whose closing parenthesis is missing. -/
def expectClose (start : Nat) : ReadM Unit := do
  if !(← accept ')') then fail "missing ), unterminated subpattern" ((← place) - start)

/-- What an opening parenthesis begins, as far as its first characters tell. -/
inductive Opening
  | skipped
  | piece (p : Piece)
  | flags
  | look (behind negated : Bool)
  | condition (group : Nat)
  | plain (name : Option (List Char)) (capture atomic : Bool) (add del : Flags)

/-- Reads a named group or a reference by name after `(?P`. -/
def readNamed : ReadM Opening := do
  if ← accept '<' then
    let name ← takeName '>' "group name"
    checkGroupName name
    return .plain (some name) true false .none .none
  else if ← accept '=' then
    let name ← takeName ')' "group name"
    checkGroupName name
    let g ← groupNamed name
    if !(← get).isClosed g then fail "cannot refer to an open group" (name.length + 1)
    checkLookBehindGroup g
    return .piece (.backReference g)
  else
    match ← take with
    | none => fail "unexpected end of pattern" 0
    | some t => fail s!"unknown extension ?P{shown t.chars}" (t.length + 2)

/-- Reads what follows an opening parenthesis at `start`, up to the body of the group. -/
def readOpening (start : Nat) : ReadM Opening := do
  if !(← accept '?') then return .plain none true false .none .none
  match ← take with
  | none => fail "unexpected end of pattern" 0
  | some (.escape c) => fail s!"unknown extension ?{escaped [c]}" 3
  | some (.char c) =>
    if c == 'P' then readNamed
    else if c == ':' then return .plain none false false .none .none
    else if c == '#' then
      skipCommentGroup start ((← get).rest.length + 1)
      return .skipped
    else if c == '=' then return .look false false
    else if c == '!' then return .look false true
    else if c == '<' then
      match ← take with
      | none => fail "unexpected end of pattern" 0
      | some t =>
        if t == .char '=' then return .look true false
        else if t == .char '!' then return .look true true
        else fail s!"unknown extension ?<{shown t.chars}" (t.length + 2)
    else if c == '(' then
      let g ← readCondition
      checkLookBehindGroup g
      return .condition g
    else if c == '>' then return .plain none false true .none .none
    else if (flagOf? c).isSome || c == '-' then
      match ← readGroupFlags c with
      | .everywhere _ => return .flags
      | .inside add del => return .plain none false false add del
    else fail s!"unknown extension ?{c}" 2

/-- A sequence in which plain groups are replaced by what they hold. -/
def unpacked (ps : List Piece) : List Piece :=
  ps.flatMap fun p =>
    match p with
    | .group none add del body => if add == .none && del == .none then body else [p]
    | _ => [p]

/-- The pieces with which two or more sequences all begin, and what is left of each. -/
def sharedStart : (first : List Piece) → (others : List (List Piece)) → List Piece × List (List Piece)
  | [], others => ([], [] :: others)
  | p :: rest, others =>
    if others.all fun o => o.head?.any p.same then
      let (shared, left) := sharedStart rest (others.map (·.tail))
      (p :: shared, left)
    else ([], (p :: rest) :: others)

/-- The entries of a sequence that is one plain character or one set that is not negated. -/
def setEntries? : List Piece → Option (List SetItem)
  | [.symbol (.char code)] => some [.char code]
  | [.symbol (.oneOf false items)] => some items
  | _ => none

/-- The sequence that stands for alternatives: what all begin with comes first, and what is left
    is one set where each is a single character or set. -/
def alternatives : List (List Piece) → List Piece
  | [] => []
  | [only] => only
  | first :: others =>
    let (shared, left) := sharedStart first others
    shared ++
      match left.mapM setEntries? with
      | some sets => [.symbol (.oneOf false sets.flatten.eraseDups)]
      | none => [.branch left]

mutual

/-- Reads alternatives up to a closing parenthesis or the end. `nested` says whether they stand
    inside a group. -/
def readBranches : (fuel : Nat) → (verbose nested : Bool) → List (List Piece) → ReadM (List Piece)
  | 0, _, _, _ => return []
  | fuel + 1, verbose, nested, done => do
    let pieces ← readSequence fuel verbose (!nested && done.isEmpty) []
    let done := pieces :: done
    if ← accept '|' then
      let flags := (← get).flags
      let verbose := if nested then verbose else flags.verbose
      readBranches fuel verbose nested done
    else return alternatives done.reverse

/-- Reads pieces up to a bar, a closing parenthesis or the end; `done` holds the pieces read,
    last first. `first` says whether flags for the whole expression may stand here. -/
def readSequence : (fuel : Nat) → (verbose first : Bool) → List Piece → ReadM (List Piece)
  | 0, _, _, done => return unpacked done.reverse
  | fuel + 1, verbose, first, done => do
    match ← peek with
    | none => return unpacked done.reverse
    | some (.escape c) =>
      advance
      let p ← readEscape c
      readSequence fuel verbose first (p :: done)
    | some (.char c) =>
      if c == '|' || c == ')' then return unpacked done.reverse
      advance
      if verbose && isVerboseBlank c then readSequence fuel verbose first done
      else if verbose && c == '#' then
        let s ← get
        skipComment (s.rest.length + 1)
        readSequence fuel verbose first done
      else if c == '[' then
        let p ← readSet
        readSequence fuel verbose first (p :: done)
      else if c == '.' then readSequence fuel verbose first (.symbol .anyChar :: done)
      else if c == '^' then readSequence fuel verbose first (.anchor .lineStart :: done)
      else if c == '$' then readSequence fuel verbose first (.anchor .lineEnd :: done)
      else if c == '?' || c == '*' || c == '+' then
        let here ← place
        let min := if c == '+' then 1 else 0
        let max := if c == '?' then some 1 else none
        let done ← readRepetition here 1 min max done
        readSequence fuel verbose first done
      else if c == '\x7b' then
        let here ← place
        match ← readBounds here with
        | none => readSequence fuel verbose first (.char c.toNat :: done)
        | some (min, max) =>
          let done ← readRepetition here 1 min max done
          readSequence fuel verbose first done
      else if c == '(' then
        let start := (← place) - 1
        match ← readOpening start with
        | .skipped => readSequence fuel verbose first done
        | .piece p => readSequence fuel verbose first (p :: done)
        | .flags =>
          if !first || !done.isEmpty then
            fail "global flags not at the start of the expression" ((← place) - start)
          let flags := (← get).flags
          readSequence fuel flags.verbose first done
        | .look behind negated =>
          let p ← readLook fuel verbose start behind negated
          readSequence fuel verbose first (p :: done)
        | .condition g =>
          let p ← readConditional fuel verbose start g
          readSequence fuel verbose first (p :: done)
        | .plain name capture atomic add del =>
          let p ← readGroup fuel verbose start name capture atomic add del
          readSequence fuel verbose first (p :: done)
      else readSequence fuel verbose first (.char c.toNat :: done)

/-- Reads the body of a look-around. -/
def readLook : (fuel : Nat) → (verbose : Bool) → (start : Nat) → (behind negated : Bool) → ReadM Piece
  | 0, _, _, behind, negated => return if behind then .lookBehind negated [] else .lookAhead negated []
  | fuel + 1, verbose, start, behind, negated => do
    let outer := (← get).lookBehindGroups
    if behind && outer.isNone then
      modify fun s => { s with lookBehindGroups := some s.groups }
    let body ← readBranches fuel verbose true []
    if behind && outer.isNone then modify fun s => { s with lookBehindGroups := none }
    expectClose start
    return if behind then .lookBehind negated body else .lookAhead negated body

/-- Reads the one or two bodies of a conditional group. -/
def readConditional : (fuel : Nat) → (verbose : Bool) → (start g : Nat) → ReadM Piece
  | 0, _, _, g => return .conditional g [] none
  | fuel + 1, verbose, start, g => do
    let yes ← readSequence fuel verbose false []
    if ← accept '|' then
      let no ← readSequence fuel verbose false []
      if (← peek) == some (.char '|') then
        fail "conditional backref with more than two branches" 0
      expectClose start
      return .conditional g yes (some no)
    expectClose start
    return .conditional g yes none

/-- Reads the body of a plain, capturing, atomic or flagged group. -/
def readGroup : (fuel : Nat) → (verbose : Bool) → (start : Nat) → Option (List Char) →
    (capture atomic : Bool) → (add del : Flags) → ReadM Piece
  | 0, _, _, _, _, _, add, del => return .group none add del []
  | fuel + 1, verbose, start, name, capture, atomic, add, del => do
    let number ← if capture then some <$> openGroup name else pure none
    let body ← readBranches fuel ((verbose || add.verbose) && !del.verbose) true []
    expectClose start
    match number with
    | some g => closeGroup g body
    | none => pure ()
    return if atomic then .atomic body else .group number add del body

end

/-- Reads a whole expression. -/
def readExpression : ReadM Expression := do
  let s ← get
  if s.rest.isEmpty && s.dangling then
    throw (.malformed "bad escape (end of pattern)" (some 0))
  let pieces ← readBranches (3 * s.rest.length + 8) false false []
  let s ← get
  if s.flags.ascii && s.flags.unicode then throw .incompatibleFlags
  if !s.rest.isEmpty then fail "unbalanced parenthesis" 0
  match s.conditions.find? fun (g, _) => s.groups ≤ g with
  | some (g, place) => throw (.malformed s!"invalid group reference {g}" (some place))
  | none => return ⟨pieces, s.flags, s.widths⟩

/-- The expression of a text, before the checks that concern all of it. -/
def read (source : String) : Except Fault Expression :=
  let (ts, dangling) := tokens source.toList
  let start : State :=
    { rest := ts, pos := 0, dangling, flags := .none, groups := 1, names := [], widths := [],
      lookBehindGroups := none, conditions := [] }
  (readExpression.run start).map (·.1)

end ElementLocator.Regex
