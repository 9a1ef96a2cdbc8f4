import ElementLocator.Text.Utf8
import ElementLocator.Yaml.Scalar
import ElementLocator.Yaml.Token

/-! # Tags, anchors and directives in YAML texts

    Readers of the parts of a YAML text that stand before nodes and documents. -/

namespace ElementLocator.Yaml

/-- Whether a character may stand in the name of an anchor, a handle or a directive. -/
def isNameChar (c : Char) : Bool :=
  c.isAlphanum || c == '-' || c == '_'

/-- Whether a character may stand in a tag. -/
def isUriChar (c : Char) : Bool :=
  c.isAlphanum || "-;/?:@&=+$,_.!~*'()[]%".toList.contains c

/-- A run of bytes written as escapes by percent signs. -/
def uriBytes (what : String) (start : Mark) : (fuel : Nat) → Cursor → Except Fault (List UInt8 × Cursor)
  | 0, c => .ok ([], c)
  | fuel + 1, c =>
    if c.peek != some '%' then .ok ([], c)
    else
      let c := c.forward
      match (List.range 2).find? fun k => !(c.peekAt k).any fun d => (Text.Quoted.hexValue? d).isSome with
      | some k =>
        reject ("while scanning a " ++ what) start
          ("expected URI escape sequence of 2 hexadecimal numbers, but found " ++
            Text.Literal.ofFound (c.peekAt k)) c k
      | none =>
        let b := (hexNumber (c.rest.take 2)).toUInt8
        (uriBytes what start fuel (c.forwardBy 2)).map fun (bs, c) => (b :: bs, c)

/-- The characters that escapes by percent signs stand for. -/
def uriEscapes (what : String) (start : Mark) (c : Cursor) : Except Fault (List Char × Cursor) :=
  match uriBytes what start (c.left + 1) c with
  | .error f => .error f
  | .ok (bs, after) =>
    match Text.Utf8.decode bs with
    | .ok cs => .ok (cs, after)
    | .error f => do
      after.look 0
      .error (fault ("while scanning a " ++ what) start f.message c)

/-- The characters of a tag from here on. -/
def uriChars (what : String) (start : Mark) : (fuel : Nat) → Cursor → Except Fault (List Char × Cursor)
  | 0, c => .ok ([], c)
  | fuel + 1, c =>
    match c.peek with
    | some '%' =>
      match uriEscapes what start c with
      | .error f => .error f
      | .ok (cs, c) => (uriChars what start fuel c).map fun (t, c) => (cs ++ t, c)
    | some ch =>
      if isUriChar ch then (uriChars what start fuel c.forward).map fun (t, c) => (ch :: t, c)
      else .ok ([], c)
    | none => .ok ([], c)

/-- The part of a tag after its handle; it must not be empty. -/
def tagUri (what : String) (start : Mark) (c : Cursor) : Except Fault (String × Cursor) :=
  match uriChars what start (c.left + 1) c with
  | .error f => .error f
  | .ok ([], after) =>
    if after.mark.index = c.mark.index then
      reject ("while parsing a " ++ what) start ("expected URI, but found " ++ found after) after
    else .ok ("", after)
  | .ok (cs, after) => .ok (String.ofList cs, after)

/-- The handle of a tag: an exclamation mark, or a name between two. -/
def tagHandle (what : String) (start : Mark) (c : Cursor) : Except Fault (String × Cursor) :=
  let bad (c : Cursor) : Except Fault (String × Cursor) :=
    reject ("while scanning a " ++ what) start ("expected '!', but found " ++ found c) c
  if c.peek != some '!' then bad c
  else if c.peekAt 1 == some ' ' then .ok ("!", c.forward)
  else
    let (name, after) := c.forward.takeWhile isNameChar
    if after.peek == some '!' then .ok (String.ofList ('!' :: name ++ ['!']), after.forward)
    else bad after

/-- A tag: verbatim between angle brackets, a lone exclamation mark, or a handle and a suffix. -/
def readTag (c : Cursor) : Except Fault (Option String × String × Cursor) := do
  let start := c.mark
  let (handle, suffix, c) ← match c.peekAt 1 with
    | some '<' => do
      let (suffix, c) ← tagUri "tag" start (c.forwardBy 2)
      if c.peek != some '>' then
        reject "while parsing a tag" start ("expected '>', but found " ++ found c) c
      else pure (none, suffix, c.forward)
    | ch => do
      if endsToken ch then pure (none, "!", c.forward)
      else
        let word := (c.forward.rest.takeWhile fun ch => !endsWord (some ch))
        -- whether the word has another exclamation mark shows at its first one or at its end
        c.look (1 + (word.takeWhile (· != '!')).length)
        if word.contains '!' then
          let (handle, c) ← tagHandle "tag" start c
          let (suffix, c) ← tagUri "tag" start c
          pure (some handle, suffix, c)
        else
          let (suffix, c) ← tagUri "tag" start c.forward
          pure (some "!", suffix, c)
  if endsWord c.peek then return (handle, suffix, c)
  else reject "while scanning a tag" start ("expected ' ', but found " ++ found c) c

/-- The name of an anchor or an alias; the cursor is at its indicator. -/
def readAnchor (what : String) (c : Cursor) : Except Fault (String × Cursor) :=
  let start := c.mark
  let (name, after) := c.forward.takeWhile isNameChar
  let ends := match after.peek with
    | none => true
    | some ch => endsToken (some ch) || "?:,]\x7d%@`".toList.contains ch
  if name.isEmpty || !ends then
    reject ("while scanning an " ++ what) start
      ("expected alphabetic or numeric character, but found " ++ found after) after
  else .ok (String.ofList name, after)

/-- The context of problems in directives. -/
def directiveContext : String := "while scanning a directive"

/-- A whole number in a directive. -/
def directiveNumber (start : Mark) (c : Cursor) : Except Fault (Nat × Cursor) :=
  let (ds, after) := c.takeWhile Char.isDigit
  if ds.isEmpty then
    reject directiveContext start ("expected a digit, but found " ++ found c) c
  else
    match Text.Whole.read 10 (String.ofList ds) with
    | .ok n => .ok (n.toNat, after)
    | .error f => do
      after.look 0
      .error (.scalar (.whole f))

/-- The version that a directive names. -/
def directiveVersion (start : Mark) (c : Cursor) : Except Fault (Directive × Cursor) := do
  let (major, c) ← directiveNumber start (c.skipWhile (· == ' '))
  if c.peek != some '.' then
    reject directiveContext start ("expected a digit or '.', but found " ++ found c) c
  else
    let (minor, c) ← directiveNumber start c.forward
    if endsWord c.peek then return (.version major minor, c)
    else reject directiveContext start ("expected a digit or ' ', but found " ++ found c) c

/-- The handle and its meaning that a directive declares. -/
def directiveTag (start : Mark) (c : Cursor) : Except Fault (Directive × Cursor) := do
  let (handle, c) ← tagHandle "directive" start (c.skipWhile (· == ' '))
  if c.peek != some ' ' then
    reject directiveContext start ("expected ' ', but found " ++ found c) c
  else
    let (meaning, c) ← tagUri "directive" start (c.skipWhile (· == ' '))
    if endsWord c.peek then return (.tag handle meaning, c)
    else reject directiveContext start ("expected ' ', but found " ++ found c) c

/-- A directive line; the cursor is at its percent sign. Answers the place where the directive
    itself ends and the place after its line. -/
def readDirective (c : Cursor) : Except Fault (Directive × Mark × Cursor) := do
  let start := c.mark
  let c := c.forward
  let (name, after) := c.takeWhile isNameChar
  let badName (c : Cursor) : Except Fault (Directive × Mark × Cursor) :=
    reject directiveContext start
      ("expected alphabetic or numeric character, but found " ++ found c) c
  if name.isEmpty then badName c
  else if !endsWord after.peek then badName after
  else
    let (d, stop, after) ← match String.ofList name with
      | "YAML" => do
        let (d, c) ← directiveVersion start after
        pure (d, c.mark, c)
      | "TAG" => do
        let (d, c) ← directiveTag start after
        pure (d, c.mark, c)
      | _ => pure (.other, after.mark, after.skipWhile (!isBreak ·))
    let c ← ignoredLine directiveContext start after
    return (d, stop, c)

end ElementLocator.Yaml
