import ElementLocator.Decimal.Reader
import ElementLocator.Text.Base64
import ElementLocator.Text.SmallLetters
import ElementLocator.Text.Stream
import ElementLocator.Yaml.Node.Reader
import ElementLocator.Yaml.Timestamp

/-! # YAML documents

    The value of a YAML text. Every node is given the value that its tag stands for; the first
    node without one, level by level from the root, is the fault of the text. -/

namespace ElementLocator.Yaml

-- ── scalars ───────────────────────────────────────────────────────────────

/-- The text without underscores. -/
def withoutUnderscores (s : String) : List Char := s.toList.filter (· != '_')

/-- Splits at colons. -/
def splitColons : List Char → List (List Char)
  | [] => [[]]
  | c :: rest =>
    match splitColons rest with
    | [] => [[c]]
    | first :: others => if c == ':' then [] :: first :: others else (c :: first) :: others

/-- The whole number of digits in a base. -/
def wholeIn (base : Nat) (cs : List Char) : Except ScalarFault Int :=
  (Text.Whole.read base (String.ofList cs)).mapError .whole

/-- The number whose places are worth powers of sixty, the last one first. -/
def sexagesimal (places : List Int) : Int :=
  (places.foldl (fun (v, b) d => (v + d * b, b * 60)) ((0 : Int), (1 : Int))).1

/-- The value of a whole number: in base two, eight, ten or sixteen, or with places of sixty. -/
def wholeNumber (s : String) : Except ScalarFault Int :=
  match withoutUnderscores s with
  | [] => .error .empty
  | c :: rest =>
    let body := if c == '+' || c == '-' then rest else c :: rest
    let signed (n : Int) : Int := if c == '-' then -n else n
    match body with
    | [] => .error .empty
    | ['0'] => .ok 0
    | '0' :: 'b' :: ds => (wholeIn 2 ds).map signed
    | '0' :: 'x' :: ds => (wholeIn 16 ds).map signed
    | '0' :: _ => (wholeIn 8 body).map signed
    | _ =>
      if body.contains ':' then
        ((splitColons body).mapM (wholeIn 10)).map fun ps => signed (sexagesimal ps.reverse)
      else (wholeIn 10 body).map signed

/-- A number with a fraction, as part of a larger one. -/
def fractionPart (cs : List Char) : Except ScalarFault Binary64 :=
  match Decimal.read? cs with
  | some x => .ok x
  | none => .error (.fraction (String.ofList cs))

/-- Adds places to `sum`, each worth sixty times the one before, the first `worth`. Products and
    sums are rounded one by one. -/
def addPlaces (sum : Binary64) (worth : Nat) : List Binary64 → Except ScalarFault Binary64
  | [] => .ok sum
  | d :: rest =>
    let w := Binary64.ofInt worth
    if w.isFinite then addPlaces (sum.add (d.mul w)) (worth * 60) rest else .error .placeTooLarge

/-- The sign of a number with a fraction and the text after it; none where there is no text. -/
def fractionText? (s : String) : Option (Bool × List Char) :=
  match Text.SmallLetters.ofList (withoutUnderscores s) with
  | [] => none
  | c :: rest => some (c == '-', if c == '+' || c == '-' then rest else c :: rest)

/-- The word for not-a-number. -/
def nanWord : List Char := ".nan".toList

/-- The value of a number with a fraction. -/
def fractionNumber (s : String) : Except ScalarFault Binary64 :=
  match fractionText? s with
  | none => .error .empty
  | some (negative, body) =>
    let signed (x : Binary64) : Binary64 := if negative then x.neg else x
    if body == ".inf".toList then .ok (.infinity negative)
    else if body == nanWord then .ok .nan
    else if body.contains ':' then do
      let places ← (splitColons body).mapM fractionPart
      let x ← addPlaces (Binary64.ofInt 0) 1 places.reverse
      return signed x
    else (fractionPart body).map signed

/-- The value of a truth word. -/
def truth (s : String) : Except ScalarFault Bool :=
  let w := String.ofList (Text.SmallLetters.ofList s.toList)
  if ["yes", "true", "on"].contains w then .ok true
  else if ["no", "false", "off"].contains w then .ok false
  else .error (.truth w)

/-- A fault of a node without a context. -/
def nodeFault (problem : String) (m : Mark) : Fault := .problem ⟨none, none, problem, m⟩

/-- The fault of bytes in base 64 that hold characters beyond ASCII. -/
def notAscii (cs : List Char) : String :=
  let before := cs.takeWhile (·.toNat < 128)
  let run := (cs.drop before.length).takeWhile fun c => 128 ≤ c.toNat
  let first := before.length
  let what := match run with
    | [c] => "character " ++
        (if c.toNat < 0x100 then "'\\x" ++ String.ofList (Text.Literal.hexDigits 2 c.toNat)
         else if c.toNat < 0x10000 then "'\\u" ++ String.ofList (Text.Literal.hexDigits 4 c.toNat)
         else "'\\U" ++ String.ofList (Text.Literal.hexDigits 8 c.toNat)) ++ "' in position " ++ toString first
    | _ => "characters in position " ++ toString first ++ "-" ++ toString (first + run.length - 1)
  "'ascii' codec can't encode " ++ what ++ ": ordinal not in range(128)"

/-- The bytes of a scalar in base 64. -/
def binaryValue (s : String) (m : Mark) : Except Fault (List UInt8) :=
  let cs := s.toList
  if cs.any fun c => 128 ≤ c.toNat then
    .error (nodeFault ("failed to convert base64 data into ascii: " ++ notAscii cs) m)
  else
    (Text.Base64.decode cs).mapError fun f =>
      nodeFault ("failed to decode base64 data: " ++ f.message) m

/-- The fault of a tag without a meaning. -/
def unknownTag (tag : String) (m : Mark) : Fault :=
  nodeFault ("could not determine a constructor for the tag " ++ Text.Literal.ofString tag) m

/-- The value of a scalar with one of the tags for scalars. -/
def scalarValue (tag text : String) (m : Mark) : Except Fault Value :=
  if tag == Tag.null then .ok .null
  else if tag == Tag.bool then ((truth text).mapError .scalar).map .bool
  else if tag == Tag.int then ((wholeNumber text).mapError .scalar).map .int
  else if tag == Tag.float then ((fractionNumber text).mapError .scalar).map .float
  else if tag == Tag.binary then (binaryValue text m).map .bytes
  else if tag == Tag.timestamp then (Timestamp.read text.toList).mapError .scalar
  else if tag == Tag.str then .ok (.text text)
  else .error (unknownTag tag m)

/-- Whether a tag is one of those for scalars. -/
def isScalarTag (tag : String) : Bool :=
  [Tag.null, Tag.bool, Tag.int, Tag.float, Tag.binary, Tag.timestamp, Tag.str].contains tag

/-- Whether a tag is one of those for containers. -/
def isContainerTag (tag : String) : Bool :=
  [Tag.seq, Tag.map, Tag.set, Tag.omap, Tag.pairs].contains tag

namespace Composition

/-- The number of a container. -/
def number : Node → Nat
  | .sequence n _ _ _ | .mapping n _ _ _ | .reference n => n
  | .scalar .. => 0

-- ── mappings ──────────────────────────────────────────────────────────────

/-- The entries of a mapping apart from its merge keys. -/
def ownEntries (c : Composition) (es : List (Node × Node)) : List (Node × Node) :=
  es.filter fun e => (c.resolve e.1).tag != Tag.merge

mutual

/-- The entries of a mapping with those of the mappings that it merges in front. `active` holds
    the mappings that are being merged further out: of those only their own entries count. -/
def flatten (c : Composition) (start : Mark) (active : List Nat) :
    (fuel : Nat) → List (Node × Node) → Except Fault (List (Node × Node))
  | 0, es => .ok (c.ownEntries es)
  | fuel + 1, es => do
    let merged ← c.mergedEntries start active fuel es
    return merged ++ c.ownEntries es

/-- The entries of a mapping that is merged into another. -/
def mergedMapping (c : Composition) (active : List Nat) :
    (fuel : Nat) → (n : Nat) → Mark → List (Node × Node) → Except Fault (List (Node × Node))
  | 0, _, _, es => .ok (c.ownEntries es)
  | fuel + 1, n, start, es =>
    if active.contains n then .ok (c.ownEntries es) else c.flatten start (n :: active) fuel es

/-- The entries that merge keys bring in. -/
def mergedEntries (c : Composition) (start : Mark) (active : List Nat) :
    (fuel : Nat) → List (Node × Node) → Except Fault (List (Node × Node))
  | 0, _ => .ok []
  | _ + 1, [] => .ok []
  | fuel + 1, (k, v) :: rest =>
    if (c.resolve k).tag != Tag.merge then c.mergedEntries start active fuel rest
    else do
      let first ← match c.resolve v with
        | .mapping n _ es m => c.mergedMapping active fuel n m es
        | .sequence _ _ items _ => do
          let parts ← c.mergedItems start active fuel items
          pure parts.reverse.flatten
        | node =>
          .error (.problem ⟨some "while constructing a mapping", some start,
            "expected a mapping or list of mappings for merging, but found " ++ node.kind, node.start⟩)
      let others ← c.mergedEntries start active fuel rest
      return first ++ others

/-- The entries of each mapping in a list of mappings to merge. -/
def mergedItems (c : Composition) (start : Mark) (active : List Nat) :
    (fuel : Nat) → List Node → Except Fault (List (List (Node × Node)))
  | 0, _ => .ok []
  | _ + 1, [] => .ok []
  | fuel + 1, item :: rest => do
    let first ← match c.resolve item with
      | .mapping n _ es m => c.mergedMapping active fuel n m es
      | node =>
        .error (.problem ⟨some "while constructing a mapping", some start,
          "expected a mapping for merging, but found " ++ node.kind, node.start⟩)
    let others ← c.mergedItems start active fuel rest
    return first :: others

end

/-- The entries of a mapping node, merged. -/
def entries (c : Composition) (n : Nat) (start : Mark) (es : List (Node × Node)) :
    Except Fault (List (Node × Node)) :=
  c.flatten start [n] (3 * c.size) es

-- ── faults, level by level ────────────────────────────────────────────────

/-- What the checks have settled so far. -/
structure Settled where
  /-- The places of value keys: once the mapping around it is read, such a key is a text. -/
  textKeys : List Nat
  /-- The texts of containers that stand for scalars, by number. -/
  texts : List (Nat × String)

/-- Checks in order, each knowing what those before it settled. -/
abbrev Checking := StateT Settled (Except Fault)

/-- The tag that a node has by now. -/
def Settled.tag (d : Settled) (node : Node) : String :=
  if node.tag == Tag.value && d.textKeys.contains node.start.index then Tag.str else node.tag

/-- The text of a container that stands for a scalar, once it is settled. -/
def Settled.text? (d : Settled) (n : Nat) : Option String :=
  (d.texts.find? (·.1 == n)).map (·.2)

/-- The text of a node where a scalar should stand: its own, or that of the entry under the
    value key. -/
def scalarText (c : Composition) (d : Settled) : (fuel : Nat) → Node → Except Fault String
  | _, .scalar _ s _ => .ok s
  | 0, node => .error (nodeFault ("expected a scalar node, but found " ++ node.kind) node.start)
  | fuel + 1, .mapping _ _ es m =>
    match es.find? fun e => d.tag (c.resolve e.1) == Tag.value with
    | some (_, v) => c.scalarText d fuel (c.resolve v)
    | none => .error (nodeFault "expected a scalar node, but found mapping" m)
  | _, node => .error (nodeFault ("expected a scalar node, but found " ++ node.kind) node.start)

/-- Settles the text of a container that stands for a scalar. A date is read from scalars only. -/
def checkText (c : Composition) (tag : String) (node : Node) : Checking Unit := do
  let d ← get
  if (d.text? (number node)).isNone then
    let s ← c.scalarText d c.size node
    if tag == Tag.timestamp then throw (.scalar .dateShape)
    let _ ← scalarValue tag s node.start
    set { d with texts := (number node, s) :: d.texts }

/-- Checks what is settled as soon as a node is met: scalars, and the tags of containers.
    Answers the containers whose parts are to be checked later. -/
def checkNode (c : Composition) (node : Node) : Checking (List Node) := do
  let node := c.resolve node
  let tag := (← get).tag node
  if isScalarTag tag then
    match node with
    | .scalar _ s m => do
      let _ ← scalarValue tag s m
      return []
    | _ => do
      c.checkText tag node
      return []
  else if isContainerTag tag then return [node]
  else throw (unknownTag tag node.start)

/-- Checks several nodes in order. -/
def checkNodes (c : Composition) : List Node → Checking (List Node)
  | [] => pure []
  | n :: rest => do
    let first ← c.checkNode n
    let others ← c.checkNodes rest
    return first ++ others

/-- Makes texts of the value keys among entries. -/
def settleKeys (c : Composition) (es : List (Node × Node)) : Checking Unit :=
  modify fun d =>
    let keys := (es.map fun e => c.resolve e.1).filter fun k => k.tag == Tag.value
    { d with textKeys := keys.map (·.start.index) ++ d.textKeys }

/-- Checks the entries of a mapping: no key may be a container. -/
def checkEntries (c : Composition) (start : Mark) : List (Node × Node) → Checking (List Node)
  | [] => pure []
  | (k, v) :: rest => do
    let keys ← c.checkNode k
    if !keys.isEmpty then
      throw (.problem ⟨some "while constructing a mapping", some start, "found unhashable key",
        (c.resolve k).start⟩)
    let first ← c.checkNode v
    let others ← c.checkEntries start rest
    return first ++ others

/-- Checks the items of an ordered mapping: each must be a mapping of one entry. -/
def checkPairs (c : Composition) (what : String) (start : Mark) : List Node → Checking (List Node)
  | [] => pure []
  | item :: rest => do
    let first ← match c.resolve item with
      | .mapping _ _ [(k, v)] _ => c.checkNodes [k, v]
      | .mapping _ _ es m =>
        throw (.problem ⟨some what, some start,
          s!"expected a single mapping item, but found {es.length} items", m⟩)
      | node =>
        throw (.problem ⟨some what, some start,
          "expected a mapping of length 1, but found " ++ node.kind, node.start⟩)
    let others ← c.checkPairs what start rest
    return first ++ others

/-- Checks the parts of a container. -/
def checkParts (c : Composition) (node : Node) : Checking (List Node) :=
  let tag := node.tag
  if tag == Tag.seq then
    match node with
    | .sequence _ _ items _ => c.checkNodes items
    | _ => throw (nodeFault ("expected a sequence node, but found " ++ node.kind) node.start)
  else if tag == Tag.map || tag == Tag.set then
    match node with
    | .mapping n _ es m => do
      let es ← c.entries n m es
      c.settleKeys es
      c.checkEntries m es
    | _ => throw (nodeFault ("expected a mapping node, but found " ++ node.kind) node.start)
  else
    let what := if tag == Tag.omap then "while constructing an ordered map" else "while constructing pairs"
    match node with
    | .sequence _ _ items m => c.checkPairs what m items
    | _ =>
      throw (.problem ⟨some what, some node.start,
        "expected a sequence, but found " ++ node.kind, node.start⟩)

/-- Adds containers to a queue that were not in it before. -/
def enqueue (known : List Nat) : List Node → List Node × List Nat
  | [] => ([], known)
  | n :: rest =>
    if known.contains (number n) then enqueue known rest
    else
      let (ns, known) := enqueue (number n :: known) rest
      (n :: ns, known)

/-- Checks queued containers one after the other; those inside them join the end. -/
def checkQueue (c : Composition) : (fuel : Nat) → (queue : List Node) → (known : List Nat) → Checking Unit
  | 0, _, _ => pure ()
  | _, [], _ => pure ()
  | fuel + 1, node :: queue, known => do
    let inner ← c.checkParts node
    let (fresh, known) := enqueue known inner
    c.checkQueue fuel (queue ++ fresh) known

/-- Checks every node from the root on. -/
def checkAll (c : Composition) (root : Node) : Checking Unit := do
  let first ← c.checkNode root
  let (queue, known) := enqueue [] first
  c.checkQueue (c.containers.length + 1) queue known

/-- Checks that every node has a value, and answers what was settled on the way. -/
def check (c : Composition) (root : Node) : Except Fault Settled :=
  ((c.checkAll root).run ⟨[], []⟩).map (·.2)

-- ── values ────────────────────────────────────────────────────────────────

/-- The tag of a node that passed the checks: what still has the value tag is a text. -/
def textTag (tag : String) : String := if tag == Tag.value then Tag.str else tag

/-- How often a container is unfolded inside itself. -/
def unfoldings : Nat := 5

mutual

/-- Whether a container can be reached from itself below a node; `path` holds the containers
    around the node. -/
def hasCycle (c : Composition) : (fuel : Nat) → (path : List Nat) → Node → Bool
  | 0, _, _ => true
  | fuel + 1, path, node =>
    match c.resolve node with
    | .scalar .. | .reference _ => false
    | .sequence n _ items _ => path.contains n || c.anyCycle fuel (n :: path) items
    | .mapping n _ es m =>
      path.contains n ||
        match c.entries n m es with
        | .ok es => c.anyCycle fuel (n :: path) (es.map (·.2))
        | .error _ => c.anyCycle fuel (n :: path) (es.map (·.2))

/-- Whether this holds below one of several nodes. -/
def anyCycle (c : Composition) : (fuel : Nat) → (path : List Nat) → List Node → Bool
  | 0, _, _ => true
  | _ + 1, _, [] => false
  | fuel + 1, path, n :: rest => c.hasCycle fuel path n || c.anyCycle fuel path rest

end

/-- What tells keys apart that are not-a-number: its word stands for one and the same everywhere,
    any other spelling for one of its own. -/
def keyPlace (c : Composition) (d : Settled) (k : Node) : Nat :=
  let node := c.resolve k
  let text := match node with
    | .scalar _ s _ => s
    | _ => (d.text? (number node)).getD ""
  if (fractionText? text).any (·.2 == nanWord) then 0 else node.start.index + 1

mutual

/-- The value of a node that passed the checks, which settled `d`. `path` holds the containers
    around the node; `marked` says whether containers carry their numbers. -/
def value (c : Composition) (d : Settled) (marked : Bool) : (fuel : Nat) → (path : List Nat) → Node → Value
  | 0, _, _ => .null
  | fuel + 1, path, node =>
    match c.resolve node with
    | .reference _ => .null
    | .scalar tag s m => ((scalarValue (textTag tag) s m).toOption).getD .null
    | node =>
      if isScalarTag (textTag node.tag) then
        let s := (d.text? (number node)).getD ""
        ((scalarValue (textTag node.tag) s node.start).toOption).getD .null
      else
        let n := number node
        let wrap (v : Value) : Value := if marked then .marked n v else v
        if unfoldings ≤ path.count n then .marked n .null
        else
          match node with
          | .sequence _ tag items _ =>
            if tag == Tag.seq then wrap (.list (c.values d marked fuel (n :: path) items))
            else wrap (.list (c.pairValues d marked fuel (n :: path) items))
          | .mapping _ tag es m =>
            let es := ((c.entries n m es).toOption).getD []
            let es := c.entryValues d marked fuel (n :: path) es
            let es := es.foldl (fun done e => Value.putEntry done e.1 e.2) []
            if tag == Tag.set then wrap (.set (es.map (·.1.value)))
            else wrap (.mapping (es.map fun e => (e.1.value, e.2)))
          | _ => .null

/-- The values of several nodes. -/
def values (c : Composition) (d : Settled) (marked : Bool) : (fuel : Nat) → (path : List Nat) → List Node → List Value
  | 0, _, _ => []
  | _ + 1, _, [] => []
  | fuel + 1, path, n :: rest => c.value d marked fuel path n :: c.values d marked fuel path rest

/-- The keys and values of the entries of a mapping. -/
def entryValues (c : Composition) (d : Settled) (marked : Bool) :
    (fuel : Nat) → (path : List Nat) → List (Node × Node) → List (Value.Key × Value)
  | 0, _, _ => []
  | _ + 1, _, [] => []
  | fuel + 1, path, (k, v) :: rest =>
    (⟨c.value d marked fuel path k, c.keyPlace d k⟩, c.value d marked fuel path v) ::
      c.entryValues d marked fuel path rest

/-- The values of the items of an ordered mapping: pairs. -/
def pairValues (c : Composition) (d : Settled) (marked : Bool) : (fuel : Nat) → (path : List Nat) → List Node → List Value
  | 0, _, _ => []
  | _ + 1, _, [] => []
  | fuel + 1, path, item :: rest =>
    let first := match c.resolve item with
      | .mapping _ _ [(k, v)] _ => [.tuple [c.value d marked fuel path k, c.value d marked fuel path v]]
      | _ => []
    first ++ c.pairValues d marked fuel path rest

end

end Composition

/-- Whether a text may hold a character. -/
def isAllowed (c : Char) : Bool :=
  let n := c.toNat
  n == 9 || n == 10 || n == 13 || (0x20 ≤ n && n ≤ 0x7E) || n == 0x85 ||
    (0xA0 ≤ n && n ≤ 0xD7FF) || (0xE000 ≤ n && n ≤ 0xFFFD) || 0x10000 ≤ n

/-- The first character that no text may hold, with its place. -/
def firstUnprintable (position : Nat) : List Char → Option (Nat × Char)
  | [] => none
  | c :: rest => if isAllowed c then firstUnprintable (position + 1) rest else some (position, c)

/-- The value of a text in which all characters may stand, or of what there is of it in front of an
    obstacle. A text without a document has none, which counts as null. -/
def valueOf (cs : List Char) (beyond : Option Obstacle := none) : Except Fault Value :=
  match compose cs beyond with
  | .error f => .error f
  | .ok c =>
    match c.root with
    | none => .ok .null
    | some root =>
      match c.check root with
      | .error f => .error f
      | .ok d =>
        let depth := (Composition.unfoldings + 1) * c.size
        .ok (c.value d (c.hasCycle depth [] root) depth [] root)

/-- The value of a text that is there as a whole. -/
def load (cs : List Char) : Except Fault Value :=
  match firstUnprintable 0 cs with
  | some (n, c) => .error (.unreadable (.unprintable n c))
  | none => valueOf cs

-- ── texts read piece by piece ─────────────────────────────────────────────

/-- What there is of a text, and what keeps the reader from the rest. -/
structure Available where
  text : List Char
  beyond : Option Obstacle

/-- The pieces of a text from a position on, up to the first one that cannot be used: a piece is
    searched for characters that no text may hold as soon as it is there. -/
def Available.ofPieces (position : Nat) : List (List Char) → Option Text.Utf8.Fault → Available
  | [], f => ⟨[], f.map .undecodable⟩
  | piece :: rest, f =>
    match firstUnprintable position piece with
    | some (n, c) => ⟨[], some (.unprintable n c)⟩
    | none =>
      let later := ofPieces (position + piece.length) rest f
      ⟨piece ++ later.text, later.beyond⟩

/-- What there is of a text in a file. Its first two pieces are had together, before anything is
    looked at. -/
def Available.ofStream (s : Text.Stream) : Available :=
  match s.pieces pieceLength (s.rest.length + 1) with
  | (first :: second :: rest, f) => ofPieces 0 ((first ++ second) :: rest) f
  | (pieces, none) => ofPieces 0 pieces none
  | (_, some f) => ⟨[], some (.undecodable f)⟩
where
  /-- How many characters a piece has. -/
  pieceLength : Nat := 4096

/-- What there is of the text in the content of a file. -/
def Available.ofContent (content : List UInt8) : Available := ofStream (.start content)

/-- The value of a text in a file. -/
def loadFile (content : List UInt8) : Except Fault Value :=
  let a := Available.ofContent content
  valueOf a.text a.beyond

end ElementLocator.Yaml
