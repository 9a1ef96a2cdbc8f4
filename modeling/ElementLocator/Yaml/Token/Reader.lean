import ElementLocator.Yaml.Token.Tag

/-! # Reading YAML tokens

    The reader of tokens. Whether a node is the key of a mapping entry shows only when a colon
    follows it, so the reader remembers, for each level of nesting of flow collections, where
    the last possible key began; when the colon comes it puts the key token, and if a block
    mapping begins its start, in front of that place. A possible key must stand on one line
    and within 1024 characters.

    A text is read to its end or to its first fault. Tokens from a place that still might
    become a key are withheld when a fault comes: what they mean is not settled. -/

namespace ElementLocator.Yaml

/-- A place where a key may have begun. -/
structure PossibleKey where
  /-- The number of tokens before it. -/
  token : Nat
  /-- Whether the text is only right if this is a key. -/
  required : Bool
  mark : Mark

/-- What the reader knows between tokens. -/
structure Reading where
  cursor : Cursor
  /-- The tokens read so far, last first. -/
  tokens : List Token
  /-- How many they are. -/
  count : Nat
  /-- How many flow collections are open. -/
  flow : Nat
  /-- The column of the innermost block collection; -1 outside of all. -/
  indent : Int
  /-- The columns around it, innermost first. -/
  indents : List Int
  /-- Whether a key may begin here. -/
  keyAllowed : Bool
  /-- Possible keys by level of flow nesting. -/
  keys : List (Nat × PossibleKey)
  done : Bool

/-- The reader at the start of a text. -/
def Reading.start (cs : List Char) (beyond : Option Obstacle := none) : Reading :=
  ⟨.start cs beyond, [], 0, 0, -1, [], true, [], false⟩

/-- Steps of the reader. -/
abbrev ReadM := StateT Reading (Except Fault)

namespace ReadM

/-- Goes on if the outcome is a value, and else fails with it. -/
def lift {α : Type} (x : Except Fault α) : ReadM α :=
  match x with
  | .ok a => pure a
  | .error f => throw f

/-- The place of the reader. -/
def here : ReadM Cursor := return (← get).cursor

/-- Moves the reader to a place, and looks at it. -/
def moveTo (c : Cursor) : ReadM Unit := do
  lift (c.look 0)
  modify fun r => { r with cursor := c }

/-- Adds a token at the end. -/
def add (t : Token) : ReadM Unit :=
  modify fun r => { r with tokens := t :: r.tokens, count := r.count + 1 }

/-- Adds a token of no length at the reader's place. -/
def mark (kind : TokenKind) : ReadM Unit := do
  let m := (← here).mark
  add ⟨kind, m, m⟩

/-- Adds a token of `n` characters and moves past them. -/
def take (kind : TokenKind) (n : Nat) : ReadM Unit := do
  let c ← here
  let after := c.forwardBy n
  add ⟨kind, c.mark, after.mark⟩
  moveTo after

/-- Puts a token of no length in front of the tokens from number `n` on. -/
def insertAt (n : Nat) (kind : TokenKind) (m : Mark) : ReadM Unit :=
  modify fun r =>
    let later := r.count - n
    { r with tokens := r.tokens.take later ++ ⟨kind, m, m⟩ :: r.tokens.drop later, count := r.count + 1 }

/-- Says whether a key may begin next. -/
def allowKey (b : Bool) : ReadM Unit := modify fun r => { r with keyAllowed := b }

/-- The fault of a required key without its colon. -/
def missingColon {α : Type} (k : PossibleKey) : ReadM α := do
  throw (fault "while scanning a simple key" k.mark "could not find expected ':'" (← here))

/-- Forgets the possible key at the present level. -/
def forgetKey : ReadM Unit := do
  let r ← get
  match r.keys.find? (·.1 == r.flow) with
  | some (_, k) => if k.required then missingColon k
  | none => pure ()
  modify fun r => { r with keys := r.keys.filter (·.1 != r.flow) }

/-- Remembers that a key may begin here, if one may. -/
def saveKey : ReadM Unit := do
  let r ← get
  if r.keyAllowed then
    let required := r.flow == 0 && r.indent == (r.cursor.mark.column : Int)
    forgetKey
    modify fun r => { r with keys := r.keys ++ [(r.flow, ⟨r.count, required, r.cursor.mark⟩)] }

/-- Checks possible keys one by one and keeps those that still can become keys. -/
def checkKeys (m : Mark) : List (Nat × PossibleKey) → ReadM (List (Nat × PossibleKey))
  | [] => return []
  | (level, k) :: rest => do
    if k.mark.line != m.line || 1024 < m.index - k.mark.index then
      if k.required then missingColon k
      checkKeys m rest
    else return (level, k) :: (← checkKeys m rest)

/-- Forgets possible keys that are on an earlier line or too far back. -/
def dropStaleKeys : ReadM Unit := do
  let r ← get
  let keys ← checkKeys r.cursor.mark r.keys
  modify fun r => { r with keys := keys }

/-- Ends block collections that are indented more than `column`; `fuel` counts those open. -/
def unwind (column : Int) : (fuel : Nat) → ReadM Unit
  | 0 => return ()
  | fuel + 1 => do
    let r ← get
    if column < r.indent then
      match r.indents with
      | [] => modify fun r => { r with indent := -1 }
      | i :: is => modify fun r => { r with indent := i, indents := is }
      mark .blockEnd
      unwind column fuel

/-- Ends block collections that are indented more than `column`, outside of flow collections. -/
def unwindTo (column : Int) : ReadM Unit := do
  let r ← get
  if r.flow == 0 then unwind column (r.indents.length + 1)

/-- Starts a block collection at a column, unless one is open there; answers whether it did. -/
def indentTo (column : Nat) : ReadM Bool := do
  let r ← get
  if r.indent < (column : Int) then
    set { r with indent := column, indents := r.indent :: r.indents }
    return true
  return false

/-- Skips blanks, comments and line breaks. After a break outside of flow collections a key may
    begin. -/
def skipToToken : (fuel : Nat) → ReadM Unit
  | 0 => return ()
  | fuel + 1 => do
    let c := (← here).skipWhile (· == ' ')
    let c := if c.peek == some '#' then c.skipWhile (!isBreak ·) else c
    if c.peek.any isBreak then
      moveTo c.takeBreak.2
      if (← get).flow == 0 then allowKey true
      skipToToken fuel
    else moveTo c

-- ── one reader for each kind of token ─────────────────────────────────────

/-- The end of the text. -/
def readStreamEnd : ReadM Unit := do
  unwindTo (-1)
  forgetKey
  allowKey false
  modify fun r => { r with keys := [], done := true }
  mark .streamEnd

/-- A directive line. -/
def readDirectiveLine : ReadM Unit := do
  unwindTo (-1)
  forgetKey
  allowKey false
  let c ← here
  let (d, stop, after) ← lift (readDirective c)
  add ⟨.directive d, c.mark, stop⟩
  moveTo after

/-- A document marker. -/
def readDocumentMarker (kind : TokenKind) : ReadM Unit := do
  unwindTo (-1)
  forgetKey
  allowKey false
  take kind 3

/-- The start of a flow collection. -/
def readFlowStart (kind : TokenKind) : ReadM Unit := do
  saveKey
  modify fun r => { r with flow := r.flow + 1, keyAllowed := true }
  take kind 1

/-- The end of a flow collection. -/
def readFlowEnd (kind : TokenKind) : ReadM Unit := do
  forgetKey
  modify fun r => { r with flow := r.flow - 1, keyAllowed := false }
  take kind 1

/-- A comma between the entries of a flow collection. -/
def readFlowEntry : ReadM Unit := do
  allowKey true
  forgetKey
  take .flowEntry 1

/-- Fails at the reader's place without a context. -/
def refuse {α : Type} (problem : String) : ReadM α := do
  throw (.problem ⟨none, none, problem, (← here).mark⟩)

/-- A dash in front of a sequence entry. -/
def readBlockEntry : ReadM Unit := do
  let r ← get
  if r.flow == 0 then
    if !r.keyAllowed then refuse "sequence entries are not allowed here"
    if ← indentTo r.cursor.mark.column then mark .blockSequenceStart
  allowKey true
  forgetKey
  take .blockEntry 1

/-- A question mark in front of a key. -/
def readKey : ReadM Unit := do
  let r ← get
  if r.flow == 0 then
    if !r.keyAllowed then refuse "mapping keys are not allowed here"
    if ← indentTo r.cursor.mark.column then mark .blockMappingStart
  allowKey (r.flow == 0)
  forgetKey
  take .key 1

/-- A colon in front of a value: what stands before it on the line was a key, if a key may
    have begun there. -/
def readValue : ReadM Unit := do
  let r ← get
  match r.keys.find? (·.1 == r.flow) with
  | some (_, k) =>
    modify fun r => { r with keys := r.keys.filter (·.1 != r.flow) }
    insertAt k.token .key k.mark
    if r.flow == 0 then
      if ← indentTo k.mark.column then insertAt k.token .blockMappingStart k.mark
    allowKey false
  | none =>
    if r.flow == 0 then
      if !r.keyAllowed then refuse "mapping values are not allowed here"
      if ← indentTo r.cursor.mark.column then mark .blockMappingStart
    allowKey (r.flow == 0)
    forgetKey
  take .value 1

/-- An anchor or an alias. -/
def readName (what : String) (kind : String → TokenKind) : ReadM Unit := do
  saveKey
  allowKey false
  let c ← here
  let (name, after) ← lift (readAnchor what c)
  add ⟨kind name, c.mark, after.mark⟩
  moveTo after

/-- A tag. -/
def readTagToken : ReadM Unit := do
  saveKey
  allowKey false
  let c ← here
  let (handle, suffix, after) ← lift (readTag c)
  add ⟨.tag handle suffix, c.mark, after.mark⟩
  moveTo after

/-- A block scalar. -/
def readBlockScalar (folded : Bool) : ReadM Unit := do
  allowKey true
  forgetKey
  let r ← get
  let (text, after) ← lift (blockScalar folded r.indent r.cursor)
  add ⟨.scalar (String.ofList text) false, r.cursor.mark, after.mark⟩
  moveTo after

/-- A quoted scalar. -/
def readQuoted (double : Bool) : ReadM Unit := do
  saveKey
  allowKey false
  let c ← here
  let (text, after) ← lift (quotedScalar double c)
  add ⟨.scalar (String.ofList text) false, c.mark, after.mark⟩
  moveTo after

/-- A plain scalar. -/
def readPlain : ReadM Unit := do
  saveKey
  let r ← get
  let p ← lift (plainScalar (r.flow != 0) (r.indent + 1) r.cursor)
  allowKey p.brokeLine
  add ⟨.scalar (String.ofList p.text) true, r.cursor.mark, p.stop⟩
  moveTo p.cursor

/-- Whether a character indicates something else than a plain scalar at the start of a token. -/
def isIndicator (ch : Char) : Bool :=
  endsToken (some ch) || "-?:,[]\x7b\x7d#&*!|>'\"%@`".toList.contains ch

/-- Whether a plain scalar may start with a character. -/
def startsPlain (flow : Bool) (ch : Char) (next : Option Char) : Bool :=
  !isIndicator ch || (!endsToken next && (ch == '-' || (!flow && (ch == '?' || ch == ':'))))

/-- How far ahead the kind of a token shows: that of most at its first character, unless it may be a
    document marker. -/
def kindReach (flow : Bool) (c : Cursor) : Nat :=
  match c.peek with
  | none => 0
  | some ch =>
    let first := c.mark.column == 0
    if first && (ch == '-' || ch == '.') then c.markerReach
    else if (first && ch == '%') || "[]\x7b\x7d,*&!'\"".toList.contains ch then 0
    else if (flow && (ch == '?' || ch == ':')) || (!flow && (ch == '|' || ch == '>')) then 0
    else if isIndicator ch then 1 else 0

/-- Moves to the next token. Keys that the text has left behind are forgotten, and block
    collections that end before it are ended. -/
def approach : ReadM Unit := do
  let r ← get
  if r.cursor.mark.index == 0 && r.cursor.peek == some '\uFEFF' then moveTo r.cursor.forward
  skipToToken (r.cursor.left + 1)
  dropStaleKeys
  let c ← here
  unwindTo c.mark.column

/-- Reads the token that stands at a place. -/
def readAt (flow : Bool) (c : Cursor) : ReadM Unit :=
  match c.peek with
  | none => readStreamEnd
  | some ch =>
    let next := c.peekAt 1
    let first := c.mark.column == 0
    if ch == '%' && first then readDirectiveLine
    else if first && c.atMarker '-' then readDocumentMarker .documentStart
    else if first && c.atMarker '.' then readDocumentMarker .documentEnd
    else if ch == '[' then readFlowStart .flowSequenceStart
    else if ch == '\x7b' then readFlowStart .flowMappingStart
    else if ch == ']' then readFlowEnd .flowSequenceEnd
    else if ch == '\x7d' then readFlowEnd .flowMappingEnd
    else if ch == ',' then readFlowEntry
    else if ch == '-' && endsToken next then readBlockEntry
    else if ch == '?' && (flow || endsToken next) then readKey
    else if ch == ':' && (flow || endsToken next) then readValue
    else if ch == '*' then readName "alias" .reference
    else if ch == '&' then readName "anchor" .anchor
    else if ch == '!' then readTagToken
    else if ch == '|' && !flow then readBlockScalar false
    else if ch == '>' && !flow then readBlockScalar true
    else if ch == '\'' then readQuoted false
    else if ch == '"' then readQuoted true
    else if startsPlain flow ch next then readPlain
    else
      throw (.problem ⟨some "while scanning for the next token", none,
        "found character " ++ found c ++ " that cannot start any token", c.mark⟩)

/-- Reads the token at the reader's place, once its kind shows. -/
def readHere : ReadM Unit := do
  let r ← get
  let flow := r.flow != 0
  lift (r.cursor.look (kindReach flow r.cursor))
  readAt flow r.cursor

/-- Reads the next token, with the block structure that becomes certain by it. -/
def readToken : ReadM Unit := do
  approach
  readHere

end ReadM

/-- The tokens of a text, up to its end or to the first fault. -/
structure Tokens where
  list : List Token
  fault : Option Fault

/-- The tokens whose meaning is settled although reading stops here. -/
def Reading.settled (r : Reading) : List Token :=
  let first := r.keys.foldl (fun n (_, k) => min n k.token) r.count
  r.tokens.reverse.take first

/-- Reads tokens until the end or a fault. -/
def readTokens : (fuel : Nat) → Reading → Tokens
  | 0, r => ⟨r.settled, none⟩
  | fuel + 1, r =>
    match ReadM.dropStaleKeys.run r with
    | .error f => ⟨r.settled, some f⟩
    | .ok (_, r) =>
      if r.done then ⟨r.tokens.reverse, none⟩
      else
        match ReadM.readToken.run r with
        | .error f => ⟨r.settled, some f⟩
        | .ok (_, r) => readTokens fuel r

/-- The tokens of a text, or of what there is of it in front of an obstacle. -/
def tokensOf (cs : List Char) (beyond : Option Obstacle := none) : Tokens :=
  readTokens (cs.length + 2) (.start cs beyond)

end ElementLocator.Yaml
