import ElementLocator.Yaml.Node
import ElementLocator.Yaml.Tag
import ElementLocator.Yaml.Token.Reader

/-! # Reading YAML nodes

    The reader that turns tokens into nodes, by the grammar of block and flow collections.
    What is missing where a node may be left out is an empty plain scalar. A text must hold at
    most one document. -/

namespace ElementLocator.Yaml

/-- What an anchor names. -/
inductive Anchored
  | scalar (node : Node)
  | container (number : Nat)

/-- What the reader knows between tokens. -/
structure Composing where
  tokens : List Token
  /-- The fault that comes after the tokens. -/
  fault : Option Fault
  /-- The meanings of tag handles. -/
  handles : List (String × String)
  /-- Anchors with the places of their nodes. -/
  anchors : List (String × Mark × Anchored)
  /-- The number for the next container. -/
  next : Nat
  containers : List (Nat × Node)

/-- Steps of the reader. -/
abbrev NodeM := StateT Composing (Except Fault)

namespace NodeM

/-- Fails at a place without a context. -/
def refuse {α : Type} (problem : String) (m : Mark) : NodeM α :=
  throw (.problem ⟨none, none, problem, m⟩)

/-- Fails at a place within a context. -/
def refuseIn {α : Type} (context : String) (start : Mark) (problem : String) (m : Mark) : NodeM α :=
  throw (.problem ⟨some context, some start, problem, m⟩)

/-- The next token; after the last one the fault that follows. -/
def peek : NodeM Token := do
  let s ← get
  match s.tokens, s.fault with
  | t :: _, _ => return t
  | [], some f => throw f
  | [], none => return ⟨.streamEnd, ⟨0, 0, 0⟩, ⟨0, 0, 0⟩⟩

/-- Takes the next token. -/
def take : NodeM Token := do
  let t ← peek
  modify fun s => { s with tokens := s.tokens.tail }
  return t

/-- Takes the next token if it is of a kind. -/
def accept (kind : TokenKind) : NodeM Bool := do
  if (← peek).kind = kind then
    let _ ← take
    return true
  return false

/-- The empty plain scalar at a place. -/
def emptyScalar (m : Mark) : Node := .scalar Tag.null "" m

/-- The handles that every document knows. -/
def defaultHandles : List (String × String) := [("!", "!"), ("!!", Tag.standard)]

/-- What stands before a node's content. -/
structure Properties where
  anchor : Option String
  tag : Option String
  /-- Where the node starts, if it starts with a property. -/
  start : Option Mark

/-- Reads an anchor and a tag in either order. -/
def readProperties : NodeM Properties := do
  let first ← peek
  let (anchor, tag) ← match first.kind with
    | .anchor a => do
      let _ ← take
      let t ← peek
      match t.kind with
      | .tag h s => do
        let _ ← take
        pure (some a, some (h, s, t.start))
      | _ => pure (some a, none)
    | .tag h s => do
      let _ ← take
      let t ← peek
      match t.kind with
      | .anchor a => do
        let _ ← take
        pure (some a, some (h, s, first.start))
      | _ => pure (none, some (h, s, first.start))
    | _ => pure (none, none)
  let start := if anchor.isSome || tag.isSome then some first.start else none
  match tag with
  | none => return ⟨anchor, none, start⟩
  | some (none, suffix, _) => return ⟨anchor, some suffix, start⟩
  | some (some handle, suffix, m) =>
    match (← get).handles.find? (·.1 == handle) with
    | some (_, meaning) => return ⟨anchor, some (meaning ++ suffix), start⟩
    | none =>
      refuseIn "while parsing a node" first.start
        ("found undefined tag handle " ++ Text.Literal.ofString handle) m

/-- The tag of a scalar from its property and its form. -/
def scalarTag (tag : Option String) (text : String) (plain : Bool) : String :=
  match tag with
  | none => if plain then Tag.ofPlain text.toList else Tag.str
  | some t => if t == "!" then Tag.ofPlain text.toList else t

/-- The tag of a container from its property. -/
def containerTag (tag : Option String) (standard : String) : String :=
  match tag with
  | none => standard
  | some t => if t == "!" then standard else t

/-- Refuses an anchor that is in use. -/
def checkAnchor (p : Properties) (start : Mark) : NodeM Unit := do
  match p.anchor with
  | none => return ()
  | some a =>
    match (← get).anchors.find? (·.1 == a) with
    | none => return ()
    | some (_, m, _) =>
      refuseIn ("found duplicate anchor " ++ Text.Literal.ofString a ++ "; first occurrence") m
        "second occurrence" start

/-- Lets an anchor name a node. -/
def setAnchor (p : Properties) (start : Mark) (what : Anchored) : NodeM Unit :=
  match p.anchor with
  | none => return ()
  | some a => modify fun s => { s with anchors := (a, start, what) :: s.anchors }

/-- A scalar node after its properties. -/
def finishScalar (p : Properties) (start : Mark) (text : String) (plain : Bool) : NodeM Node := do
  checkAnchor p start
  let node := Node.scalar (scalarTag p.tag text plain) text start
  setAnchor p start (.scalar node)
  return node

/-- A number for a container, which its anchor names from now on. -/
def beginContainer (p : Properties) (start : Mark) : NodeM Nat := do
  checkAnchor p start
  let n := (← get).next
  modify fun s => { s with next := n + 1 }
  setAnchor p start (.container n)
  return n

/-- Keeps a container under its number. -/
def finishContainer (n : Nat) (node : Node) : NodeM Node := do
  modify fun s => { s with containers := (n, node) :: s.containers }
  return node

/-- The node that an alias stands for. -/
def resolveAlias (name : String) (m : Mark) : NodeM Node := do
  match (← get).anchors.find? (·.1 == name) with
  | some (_, _, .scalar node) => return node
  | some (_, _, .container n) => return .reference n
  | none => refuse ("found undefined alias " ++ Text.Literal.ofString name) m

/-- Whether a token of one of the kinds comes next. -/
def comes (kinds : List TokenKind) : NodeM Bool := do
  let t ← peek
  return kinds.contains t.kind

mutual

/-- Reads a node. Block collections may start here if `block`; a sequence without indentation of
    its own may start here if `indentless`. -/
def readNode : (fuel : Nat) → (block indentless : Bool) → NodeM Node
  | 0, _, _ => return emptyScalar ⟨0, 0, 0⟩
  | fuel + 1, block, indentless => do
    let first ← peek
    match first.kind with
    | .reference name => do
      let _ ← take
      resolveAlias name first.start
    | _ => do
      let p ← readProperties
      let t ← peek
      let start := p.start.getD t.start
      let sequence (items : NodeM (List Node)) : NodeM Node := do
        let n ← beginContainer p start
        let is ← items
        finishContainer n (.sequence n (containerTag p.tag Tag.seq) is start)
      let mapping (entries : NodeM (List (Node × Node))) : NodeM Node := do
        let n ← beginContainer p start
        let es ← entries
        finishContainer n (.mapping n (containerTag p.tag Tag.map) es start)
      match t.kind with
      | .scalar text plain => do
        let _ ← take
        finishScalar p start text plain
      | .flowSequenceStart => sequence (do
          let _ ← take
          readFlowItems fuel t.start true)
      | .flowMappingStart => mapping (do
          let _ ← take
          readFlowEntries fuel t.start true)
      | kind =>
        if indentless && kind = .blockEntry then sequence (readIndentless fuel)
        else if block && kind = .blockSequenceStart then sequence (do
          let _ ← take
          readBlockItems fuel t.start)
        else if block && kind = .blockMappingStart then mapping (do
          let _ ← take
          readBlockEntries fuel t.start)
        else if p.start.isSome then finishScalar p start "" (p.tag.isNone)
        else
          refuseIn (if block then "while parsing a block node" else "while parsing a flow node") start
            ("expected the node content, but found " ++ kind.shown) t.start

/-- Reads the entries of a block sequence. -/
def readBlockItems : (fuel : Nat) → (start : Mark) → NodeM (List Node)
  | 0, _ => return []
  | fuel + 1, start => do
    let t ← peek
    match t.kind with
    | .blockEntry => do
      let _ ← take
      let item ←
        if ← comes [.blockEntry, .blockEnd] then pure (emptyScalar t.stop)
        else readNode fuel true false
      return item :: (← readBlockItems fuel start)
    | .blockEnd => do
      let _ ← take
      return []
    | kind =>
      refuseIn "while parsing a block collection" start
        ("expected <block end>, but found " ++ kind.shown) t.start

/-- Reads the entries of a sequence that has no indentation of its own. -/
def readIndentless : (fuel : Nat) → NodeM (List Node)
  | 0 => return []
  | fuel + 1 => do
    let t ← peek
    if t.kind = .blockEntry then
      let _ ← take
      let item ←
        if ← comes [.blockEntry, .key, .value, .blockEnd] then pure (emptyScalar t.stop)
        else readNode fuel true false
      return item :: (← readIndentless fuel)
    else return []

/-- Reads the entries of a block mapping. -/
def readBlockEntries : (fuel : Nat) → (start : Mark) → NodeM (List (Node × Node))
  | 0, _ => return []
  | fuel + 1, start => do
    let t ← peek
    match t.kind with
    | .key => do
      let _ ← take
      let key ←
        if ← comes [.key, .value, .blockEnd] then pure (emptyScalar t.stop)
        else readNode fuel true true
      let v ← readBlockValue fuel
      return (key, v) :: (← readBlockEntries fuel start)
    | .value => do
      refuseIn "while parsing a block mapping" start
        ("expected <block end>, but found " ++ t.kind.shown) t.start
    | .blockEnd => do
      let _ ← take
      return []
    | kind =>
      refuseIn "while parsing a block mapping" start
        ("expected <block end>, but found " ++ kind.shown) t.start

/-- Reads the value of an entry of a block mapping. -/
def readBlockValue : (fuel : Nat) → NodeM Node
  | 0 => return emptyScalar ⟨0, 0, 0⟩
  | fuel + 1 => do
    let t ← peek
    if t.kind = .value then
      let _ ← take
      if ← comes [.key, .value, .blockEnd] then return emptyScalar t.stop
      else readNode fuel true true
    else return emptyScalar t.start

/-- Reads the entries of a flow sequence; a key makes an entry a mapping of one entry. -/
def readFlowItems : (fuel : Nat) → (start : Mark) → (first : Bool) → NodeM (List Node)
  | 0, _, _ => return []
  | fuel + 1, start, first => do
    if ← accept .flowSequenceEnd then return []
    if !first then
      let t ← peek
      if !(← accept .flowEntry) then
        refuseIn "while parsing a flow sequence" start
          ("expected ',' or ']', but got " ++ t.kind.shown) t.start
    let t ← peek
    if t.kind = .key then
      let n ← beginContainer ⟨none, none, none⟩ t.start
      let _ ← take
      let key ←
        if ← comes [.value, .flowEntry, .flowSequenceEnd] then pure (emptyScalar t.stop)
        else readNode fuel false false
      let v ← readFlowValue fuel .flowSequenceEnd
      let item ← finishContainer n (.mapping n Tag.map [(key, v)] t.start)
      return item :: (← readFlowItems fuel start false)
    else if ← accept .flowSequenceEnd then return []
    else
      let item ← readNode fuel false false
      return item :: (← readFlowItems fuel start false)

/-- Reads the value of an entry of a flow collection that ends with a kind of token. -/
def readFlowValue : (fuel : Nat) → (closing : TokenKind) → NodeM Node
  | 0, _ => return emptyScalar ⟨0, 0, 0⟩
  | fuel + 1, closing => do
    let t ← peek
    if t.kind = .value then
      let _ ← take
      if ← comes [.flowEntry, closing] then return emptyScalar t.stop
      else readNode fuel false false
    else return emptyScalar t.start

/-- Reads the entries of a flow mapping; an entry without a key token has no value. -/
def readFlowEntries : (fuel : Nat) → (start : Mark) → (first : Bool) → NodeM (List (Node × Node))
  | 0, _, _ => return []
  | fuel + 1, start, first => do
    if ← accept .flowMappingEnd then return []
    if !first then
      let t ← peek
      if !(← accept .flowEntry) then
        refuseIn "while parsing a flow mapping" start
          ("expected ',' or '\x7d', but got " ++ t.kind.shown) t.start
    let t ← peek
    if t.kind = .key then
      let _ ← take
      let key ←
        if ← comes [.value, .flowEntry, .flowMappingEnd] then pure (emptyScalar t.stop)
        else readNode fuel false false
      let v ← readFlowValue fuel .flowMappingEnd
      return (key, v) :: (← readFlowEntries fuel start false)
    else if ← accept .flowMappingEnd then return []
    else
      let key ← readNode fuel false false
      let t ← peek
      return (key, emptyScalar t.start) :: (← readFlowEntries fuel start false)

end

/-- Reads directives and sets the tag handles for the document after them. -/
def readDirectives : (fuel : Nat) → (version : Bool) → List (String × String) → NodeM Unit
  | 0, _, _ => return ()
  | fuel + 1, version, handles => do
    let t ← peek
    match t.kind with
    | .directive d => do
      let _ ← take
      match d with
      | .version major _ =>
        if version then refuse "found duplicate YAML directive" t.start
        if major ≠ 1 then
          refuse "found incompatible YAML document (version 1.* is required)" t.start
        readDirectives fuel true handles
      | .tag handle meaning =>
        if handles.any (·.1 == handle) then
          refuse ("duplicate tag handle " ++ Text.Literal.ofString handle) t.start
        readDirectives fuel version (handles ++ [(handle, meaning)])
      | .other => readDirectives fuel version handles
    | _ =>
      let missing := defaultHandles.filter fun h => !handles.any (·.1 == h.1)
      modify fun s => { s with handles := handles ++ missing }

/-- Takes document end markers. -/
def skipDocumentEnds : (fuel : Nat) → NodeM Unit
  | 0 => return ()
  | fuel + 1 => do
    if ← accept .documentEnd then skipDocumentEnds fuel

/-- Reads the start of an explicit document: the place where it starts, or nothing at the end of
    the text. -/
def readDocumentStart : NodeM (Option Mark) := do
  let fuel := (← get).tokens.length + 1
  skipDocumentEnds fuel
  let t ← peek
  if t.kind = .streamEnd then return none
  readDirectives fuel false []
  let s ← peek
  if s.kind = .documentStart then
    let _ ← take
    return some t.start
  else refuse ("expected '<document start>', but found " ++ s.kind.shown) s.start

/-- Whether the content of an explicit document is missing. -/
def endsDocument (kind : TokenKind) : Bool :=
  match kind with
  | .directive _ | .documentStart | .documentEnd | .streamEnd => true
  | _ => false

/-- Reads the only document of a text, if there is one. -/
def readDocument : NodeM (Option Node) := do
  let fuel := 3 * (← get).tokens.length + 4
  let t ← peek
  let explicit := match t.kind with
    | .directive _ | .documentStart | .streamEnd => true
    | _ => false
  let root ←
    if explicit then do
      match ← readDocumentStart with
      | none => pure none
      | some _ => do
        let t ← peek
        if endsDocument t.kind then pure (some (emptyScalar t.start))
        else some <$> readNode fuel true false
    else some <$> readNode fuel true false
  match root with
  | none => return none
  | some node =>
    let _ ← accept .documentEnd
    match ← readDocumentStart with
    | none => return some node
    | some m =>
      refuseIn "expected a single document in the stream" node.start "but found another document" m

end NodeM

/-- The nodes of a text, or its first fault; an obstacle behind the text is one when it is reached. -/
def compose (cs : List Char) (beyond : Option Obstacle := none) : Except Fault Composition :=
  let ts := tokensOf cs beyond
  let start : Composing :=
    { tokens := ts.list, fault := ts.fault, handles := NodeM.defaultHandles, anchors := [],
      next := 0, containers := [] }
  match NodeM.readDocument.run start with
  | .ok (root, s) => .ok (.of root s.containers)
  | .error f => .error f

end ElementLocator.Yaml
