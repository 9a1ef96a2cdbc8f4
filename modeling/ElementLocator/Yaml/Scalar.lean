import ElementLocator.Text.Quoted
import ElementLocator.Yaml.Cursor

/-! # Scalars in YAML texts

    Readers of the five forms of scalars: plain, single-quoted, double-quoted, literal and
    folded. Each answers the text that the scalar stands for and the place after it. A break
    between two lines of a flow scalar is folded into a blank; empty lines keep their breaks. -/

namespace ElementLocator.Yaml

/-- The literal of the character met at a place. -/
def found (c : Cursor) : String := Text.Literal.ofFound c.peek

-- ── flow scalars ──────────────────────────────────────────────────────────

/-- What a one-letter escape of a double-quoted scalar stands for. -/
def simpleEscape? : Char → Option Char
  | '0' => some '\x00'
  | 'a' => some '\x07'
  | 'b' => some '\x08'
  | 't' => some '\t'
  | '\t' => some '\t'
  | 'n' => some '\n'
  | 'v' => some '\x0b'
  | 'f' => some '\x0c'
  | 'r' => some '\r'
  | 'e' => some '\x1b'
  | ' ' => some ' '
  | '"' => some '"'
  | '\\' => some '\\'
  | '/' => some '/'
  | 'N' => some '\x85'
  | '_' => some '\xa0'
  | 'L' => some '\u2028'
  | 'P' => some '\u2029'
  | _ => none

/-- The number of hexadecimal digits of an escape by code. -/
def codeLength? : Char → Option Nat
  | 'x' => some 2
  | 'u' => some 4
  | 'U' => some 8
  | _ => none

/-- The value of hexadecimal digits. -/
def hexNumber (cs : List Char) : Nat :=
  cs.foldl (fun n c => n * 16 + (Text.Quoted.hexValue? c).getD 0) 0

/-- The breaks of empty lines inside a quoted scalar; no document marker may stand there. -/
def quotedBreaks (start : Mark) : (fuel : Nat) → Cursor → Except Fault (List Char × Cursor)
  | 0, c => .ok ([], c)
  | fuel + 1, c => do
    c.look c.markerReach
    if c.atDocumentMarker then
      reject "while scanning a quoted scalar" start "found unexpected document separator" c
    else
      let c := c.skipWhile fun ch => ch == ' ' || ch == '\t'
      if c.peek.any isBreak then
        let (b, c) := c.takeBreak
        (quotedBreaks start fuel c).map fun (bs, c) => (b ++ bs, c)
      else .ok ([], c)

/-- Blanks and breaks inside a quoted scalar: blanks stand for themselves unless a line ends. -/
def quotedBlanks (start : Mark) (c : Cursor) : Except Fault (List Char × Cursor) :=
  let (blanks, c) := c.takeWhile fun ch => ch == ' ' || ch == '\t'
  match c.peek with
  | none => reject "while scanning a quoted scalar" start "found unexpected end of stream" c
  | some ch =>
    if isBreak ch then
      let (b, c) := c.takeBreak
      match quotedBreaks start (c.left + 1) c with
      | .error f => .error f
      | .ok (bs, c) =>
        let folded := if b != ['\n'] then b else if bs.isEmpty then [' '] else []
        .ok (folded ++ bs, c)
    else .ok (blanks, c)

/-- What an escape in a double-quoted scalar stands for; the cursor is after the backslash. -/
def quotedEscape (start : Mark) (c : Cursor) : Except Fault (List Char × Cursor) :=
  let context := "while scanning a double-quoted scalar"
  match c.peek with
  | none => reject context start ("found unknown escape character " ++ found c) c
  | some ch =>
    match simpleEscape? ch, codeLength? ch with
    | some e, _ => .ok ([e], c.forward)
    | none, some n =>
      let c := c.forward
      let digits := c.rest.take n
      match (List.range n).find? fun k => !(c.peekAt k).any fun d => (Text.Quoted.hexValue? d).isSome with
      | some k =>
        reject context start
          ("expected escape sequence of " ++ toString n ++ " hexadecimal numbers, but found " ++
            Text.Literal.ofFound (c.peekAt k)) c k
      | none =>
        let code := hexNumber digits
        if 0x7FFFFFFF < code then .error (.scalar .codeTooLarge)
        else if 0x10FFFF < code then .error (.scalar .codePoint)
        else if 0xD800 ≤ code ∧ code < 0xE000 then .error (.scalar .halfCharacter)
        else .ok ([Char.ofNat code], c.forwardBy n)
    | none, none =>
      if isBreak ch then
        let (_, c) := c.takeBreak
        quotedBreaks start (c.left + 1) c
      else reject context start ("found unknown escape character " ++ found c) c

/-- Whether a character stands for itself in a quoted scalar of either kind. -/
def isQuotedText (ch : Char) : Bool :=
  !(ch == '\'' || ch == '"' || ch == '\\' || ch == ' ' || ch == '\t' || isBreak ch)

/-- The text of a quoted scalar up to the next blank, break or closing quote. -/
def quotedText (double : Bool) (start : Mark) : (fuel : Nat) → Cursor → Except Fault (List Char × Cursor)
  | 0, c => .ok ([], c)
  | fuel + 1, c =>
    let (text, c) := c.takeWhile isQuotedText
    let more (piece : List Char) (c : Cursor) : Except Fault (List Char × Cursor) :=
      (quotedText double start fuel c).map fun (t, c) => (text ++ piece ++ t, c)
    match c.peek with
    | some '\'' =>
      if double then more ['\''] c.forward
      else if c.peekAt 1 == some '\'' then more ['\''] (c.forwardBy 2)
      else .ok (text, c)
    | some '"' => if double then .ok (text, c) else more ['"'] c.forward
    | some '\\' =>
      if double then
        match quotedEscape start c.forward with
        | .ok (piece, c) => more piece c
        | .error f => .error f
      else more ['\\'] c.forward
    | _ => .ok (text, c)

/-- The rest of a quoted scalar, up to and without its closing quote. -/
def quotedRest (double : Bool) (start : Mark) : (fuel : Nat) → Cursor → Except Fault (List Char × Cursor)
  | 0, c => .ok ([], c)
  | fuel + 1, c =>
    if c.peek == some (if double then '"' else '\'') then .ok ([], c)
    else
      match quotedBlanks start c with
      | .error f => .error f
      | .ok (blanks, c) =>
        match quotedText double start (c.left + 1) c with
        | .error f => .error f
        | .ok (text, c) =>
          (quotedRest double start fuel c).map fun (t, c) => (blanks ++ text ++ t, c)

/-- A quoted scalar; the cursor is at its opening quote. -/
def quotedScalar (double : Bool) (c : Cursor) : Except Fault (List Char × Cursor) :=
  let start := c.mark
  let c := c.forward
  match quotedText double start (c.left + 1) c with
  | .error f => .error f
  | .ok (text, c) =>
    (quotedRest double start (c.left + 1) c).map fun (t, c) => (text ++ t, c.forward)

-- ── plain scalars ─────────────────────────────────────────────────────────

/-- Whether a plain scalar ends before a character. -/
def endsPlain (flow : Bool) (ch : Char) (next : Option Char) : Bool :=
  ch == ' ' || ch == '\t' || isBreak ch ||
    (ch == ':' && (endsToken next ||
      (flow && next.any fun n => n == ',' || n == '[' || n == ']' || n == '\x7b' || n == '\x7d'))) ||
    (flow && (ch == ',' || ch == '?' || ch == '[' || ch == ']' || ch == '\x7b' || ch == '\x7d'))

/-- The number of characters of a plain scalar up to the next blank or end. -/
def plainLength (flow : Bool) : List Char → Nat
  | [] => 0
  | ch :: rest => if endsPlain flow ch rest.head? then 0 else plainLength flow rest + 1

/-- The breaks of empty lines inside a plain scalar, or nothing where a document marker
    stands at the start of a line. -/
def plainBreaks : (fuel : Nat) → Cursor → Except Fault (Option (List Char) × Cursor)
  | 0, c => .ok (some [], c)
  | fuel + 1, c =>
    let c := c.skipWhile (· == ' ')
    if c.peek.any isBreak then do
      let (b, c) := c.takeBreak
      c.look c.markerReach
      if c.atDocumentMarker then .ok (none, c)
      else (plainBreaks fuel c).map fun (bs, c) => (bs.map (b ++ ·), c)
    else .ok (some [], c)

/-- Blanks and breaks inside a plain scalar: what they stand for, and whether a line ended. -/
def plainBlanks (c : Cursor) : Except Fault (Option (List Char) × Bool × Cursor) :=
  let (blanks, c) := c.takeWhile (· == ' ')
  if c.peek.any isBreak then do
    let (b, c) := c.takeBreak
    c.look c.markerReach
    if c.atDocumentMarker then .ok (none, true, c)
    else
      let fold (bs : List Char) : List Char :=
        (if b != ['\n'] then b else if bs.isEmpty then [' '] else []) ++ bs
      (plainBreaks (c.left + 1) c).map fun (bs, c) => (bs.map fold, true, c)
  else .ok (some blanks, false, c)

/-- A plain scalar read so far. -/
structure Plain where
  text : List Char
  /-- The place after its last character. -/
  stop : Mark
  /-- The place after the blanks and breaks that follow. -/
  cursor : Cursor
  /-- Whether a line ended since its last character. -/
  brokeLine : Bool

/-- Reads on in a plain scalar: `blanks` stands between the text so far and what comes. Outside
    of flow collections the scalar ends before a line that is indented less than `indent`. -/
def plainRest (flow : Bool) (indent : Int) : (fuel : Nat) → (blanks : List Char) → Plain → Except Fault Plain
  | 0, _, p => .ok p
  | fuel + 1, blanks, p =>
    let c := p.cursor
    if c.peek == some '#' then .ok p
    else do
      let n := plainLength flow c.rest
      let text := p.text ++ blanks ++ c.rest.take n
      let c := c.forwardBy n
      c.look (if c.peek == some ':' then 1 else 0)
      if n = 0 then .ok p
      else
        let stop := c.mark
        let (next, brokeLine, c) ← plainBlanks c
        let p := ⟨text, stop, c, brokeLine⟩
        match next with
        | none => .ok p
        | some bs =>
          if bs.isEmpty || c.peek == some '#' || (!flow && (c.mark.column : Int) < indent) then .ok p
          else plainRest flow indent fuel bs p

/-- A plain scalar. -/
def plainScalar (flow : Bool) (indent : Int) (c : Cursor) : Except Fault Plain :=
  plainRest flow indent (c.left + 1) [] ⟨[], c.mark, c, false⟩

-- ── block scalars ─────────────────────────────────────────────────────────

/-- What a block scalar does with the breaks at its end. -/
inductive Chomping
  | strip
  | clip
  | keep
  deriving DecidableEq, Repr

/-- The chomping that an indicator asks for. -/
def chomping? : Option Char → Option Chomping
  | some '+' => some .keep
  | some '-' => some .strip
  | _ => none

/-- The context of problems in block scalars. -/
def blockContext : String := "while scanning a block scalar"

/-- An indentation indicator, which must not be zero. -/
def blockIncrement (start : Mark) (c : Cursor) : Except Fault (Option Nat × Cursor) :=
  match c.peek with
  | some d =>
    if d.isDigit then
      if d == '0' then
        reject blockContext start "expected indentation indicator in the range 1-9, but found 0" c
      else .ok (some (d.toNat - 48), c.forward)
    else .ok (none, c)
  | none => .ok (none, c)

/-- The indicators of a block scalar, in either order. -/
def blockIndicators (start : Mark) (c : Cursor) : Except Fault (Chomping × Option Nat × Cursor) := do
  let (chomp, increment, c) ← match chomping? c.peek with
    | some k => do
      let (n, c) ← blockIncrement start c.forward
      pure (k, n, c)
    | none => do
      let (n, c) ← blockIncrement start c
      match n, chomping? c.peek with
      | some _, some k => pure (k, n, c.forward)
      | _, _ => pure (.clip, n, c)
  if endsWord c.peek then return (chomp, increment, c)
  else
    reject blockContext start ("expected chomping or indentation indicators, but found " ++ found c) c

/-- The place after blanks, a comment and the end of the line. -/
def ignoredLine (context : String) (start : Mark) (c : Cursor) : Except Fault Cursor :=
  let c := c.skipWhile (· == ' ')
  let c := if c.peek == some '#' then c.skipWhile (!isBreak ·) else c
  if endsLine c.peek then .ok c.takeBreak.2
  else reject context start ("expected a comment or a line break, but found " ++ found c) c

/-- Leading empty lines of a block scalar, and the greatest column that their blanks reach. -/
def blockIndentation : (fuel : Nat) → (deepest : Nat) → Cursor → List Char × Nat × Cursor
  | 0, deepest, c => ([], deepest, c)
  | fuel + 1, deepest, c =>
    match c.peek with
    | some ch =>
      if ch == ' ' then
        let c := c.forward
        blockIndentation fuel (max deepest c.mark.column) c
      else if isBreak ch then
        let (b, c) := c.takeBreak
        let (bs, deepest, c) := blockIndentation fuel deepest c
        (b ++ bs, deepest, c)
      else ([], deepest, c)
    | none => ([], deepest, c)

/-- The place after at most enough blanks to reach a column. -/
def skipIndent (indent : Nat) (c : Cursor) : Cursor :=
  let n := (c.rest.takeWhile (· == ' ')).length
  c.forwardBy (min n (indent - c.mark.column))

/-- Empty lines between the lines of a block scalar. -/
def blockBreaks (indent : Nat) : (fuel : Nat) → Cursor → List Char × Cursor
  | 0, c => ([], c)
  | fuel + 1, c =>
    let c := skipIndent indent c
    if c.peek.any isBreak then
      let (b, c) := c.takeBreak
      let (bs, c) := blockBreaks indent fuel c
      (b ++ bs, c)
    else ([], c)

/-- The lines of a block scalar: its text without the final break, that break, and the breaks
    after it. `breaks` holds the empty lines before the line at the cursor. -/
def blockLines (folded : Bool) (indent : Nat) : (fuel : Nat) → (breaks : List Char) → Cursor →
    List Char × List Char × List Char × Cursor
  | 0, breaks, c => ([], [], breaks, c)
  | fuel + 1, breaks, c =>
    if c.mark.column = indent ∧ c.peek.isSome then
      let leading := !(c.peek == some ' ' || c.peek == some '\t')
      let (line, c) := c.takeWhile (!isBreak ·)
      let (b, c) := c.takeBreak
      let (next, c) := blockBreaks indent (c.left + 1) c
      if c.mark.column = indent ∧ c.peek.isSome then
        let joint :=
          if folded && b == ['\n'] && leading && !(c.peek == some ' ' || c.peek == some '\t') then
            if next.isEmpty then [' '] else []
          else b
        let (text, final, after, c) := blockLines folded indent fuel next c
        (breaks ++ line ++ joint ++ text, final, after, c)
      else (breaks ++ line, b, next, c)
    else ([], [], breaks, c)

/-- A block scalar; the cursor is at its indicator, and `parent` is the indentation around it. -/
def blockScalar (folded : Bool) (parent : Int) (c : Cursor) : Except Fault (List Char × Cursor) := do
  let start := c.mark
  let (chomp, increment, c) ← blockIndicators start c.forward
  let c ← ignoredLine blockContext start c
  let least := (max 1 (parent + 1)).toNat
  let (breaks, indent, c) := match increment with
    | none =>
      let (bs, deepest, c) := blockIndentation (c.left + 1) 0 c
      (bs, max least deepest, c)
    | some n =>
      let indent := least + n - 1
      let (bs, c) := blockBreaks indent (c.left + 1) c
      (bs, indent, c)
  let (text, final, after, c) := blockLines folded indent (c.left + 1) breaks c
  let tail := match chomp with
    | .strip => []
    | .clip => final
    | .keep => final ++ after
  return (text ++ tail, c)

end ElementLocator.Yaml
