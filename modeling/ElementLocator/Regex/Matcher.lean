import ElementLocator.Regex.Program

/-! # Regular expressions: matching

    Matching by backtracking. A step is given everything after it as a function `k` and tries
    its own ways in order; the first way after which `k` succeeds is the answer. Besides the
    place where it stands, the matcher keeps a memory that outlives ways that fail: the marks
    of groups, and the place where a body that was tried apart last stopped.

    A way that fails always takes back marks that were added. Marks that were moved are taken
    back inside of repetitions only, so that a group may end before it starts; a match with such
    a group is reported as a fault. A possessive repetition goes on from the place remembered,
    also after a last round that failed. So do the early releases of the engine, which is what is
    modelled here; later ones go back to where that round began.

    Recursion is on the steps, and repetition is bounded by the pairs of places of the text:
    past its least count no round starts where the last one did. -/

namespace ElementLocator.Regex

/-- What the matcher keeps when a way fails. -/
structure Memory where
  /-- Where a body that was tried apart last stopped, or was last tried. -/
  reached : Nat
  /-- The marks set so far. A mark below others may be missing. -/
  marks : Array (Option Nat)

namespace Memory

/-- The memory with a place noted as reached. -/
def reach (m : Memory) (p : Nat) : Memory := { m with reached := p }

/-- The memory with a mark set; marks passed over are missing. -/
def set (m : Memory) (index p : Nat) : Memory :=
  if index < m.marks.size then { m with marks := m.marks.setIfInBounds index (some p) }
  else { m with marks := (m.marks ++ Array.replicate (index - m.marks.size) none).push (some p) }

/-- The memory after a way that failed, given the one before it: marks added are taken back,
    and in a repetition marks that were moved. -/
def after (m before : Memory) (repeating : Bool) : Memory :=
  { m with marks := if repeating then before.marks else m.marks.extract 0 before.marks.size }

/-- Where a group starts and ends, if both marks are set and stand in this order. -/
def span? (m : Memory) (group : Nat) : Option (Nat × Nat) :=
  match (m.marks[2 * group]?).join, (m.marks[2 * group + 1]?).join with
  | some p, some q => if q < p then none else some (p, q)
  | _, _ => none

/-- Whether no group ends before it starts. -/
def inOrder (m : Memory) : Bool :=
  (List.range (m.marks.size / 2)).all fun g =>
    match (m.marks[2 * g]?).join, (m.marks[2 * g + 1]?).join with
    | some p, some q => p ≤ q
    | _, _ => true

end Memory

/-- How a way ended, and what is remembered. -/
structure Attempt where
  matched : Bool
  memory : Memory

/-- The rest of a match, from a place on. -/
abbrev Next := (place : Nat) → Memory → Attempt

/-- The end of a body: the place is noted. -/
def stop : Next := fun p m => ⟨true, m.reach p⟩

/-- A way that fails. -/
def failed (m : Memory) : Attempt := ⟨false, m⟩

/-- Whether the character at a place passes. -/
def CharTest.holdsAt (t : CharTest) (text : Array Char) (p : Nat) : Bool :=
  text[p]?.any fun c => t.holds c

/-- Whether a place meets a condition. -/
def PlaceTest.holds (t : PlaceTest) (text : Array Char) (p : Nat) : Bool :=
  match t.anchor with
  | .textStart => p == 0
  | .textEnd => text.size ≤ p
  | .lineStart => p == 0 || (t.multiLine && text[p - 1]? == some '\n')
  | .lineEnd =>
    text.size ≤ p || (text[p]? == some '\n' && (t.multiLine || p + 1 == text.size))
  | .boundary => boundary true
  | .notBoundary => boundary false
where
  /-- Whether exactly one neighbour is a word character; an empty text has no answer. -/
  boundary (wanted : Bool) : Bool :=
    let word (c : Option Char) : Bool := c.any (Category.word.holds t.ascii)
    let before := if p == 0 then none else text[p - 1]?
    if text.isEmpty then false else (word before != word text[p]?) == wanted

/-- The number of characters from a place on that pass, up to a bound. -/
def passing (text : Array Char) (t : CharTest) (p : Nat) : (bound : Nat) → (found : Nat) → Nat
  | 0, found => found
  | bound + 1, found =>
    if t.holdsAt text p then passing text t (p + 1) bound (found + 1) else found

/-- Goes on after `extra` characters more than must be taken, then after fewer. -/
def givingBack (text : Array Char) (next : Option Nat) (repeating : Bool) (before : Memory) (k : Next)
    (least : Nat) : (extra : Nat) → Memory → Attempt
  | extra, m =>
    let p := least + extra
    let tried : Attempt :=
      if next.any fun code => !((CharTest.literal code).holdsAt text p) then failed m
      else
        let r := k p (m.reach p)
        if r.matched then r else failed (r.memory.after before repeating)
    if tried.matched then tried
    else match extra with
      | 0 => tried
      | fewer + 1 => givingBack text next repeating before k least fewer tried.memory

/-- Goes on after as few characters as are taken already, then after more; `left` is the number
    that may still be taken. -/
def takingMore (text : Array Char) (t : CharTest) (repeating : Bool) (before : Memory) (k : Next) :
    (budget : Nat) → (left : Option Nat) → Next
  | 0, _ => fun _ m => failed m
  | budget + 1, left => fun p m =>
    let r := k p (m.reach p)
    if r.matched then r
    else
      let m := r.memory.after before repeating
      if t.holdsAt text p then
        let m := m.reach (if t.leavesTrace then p + 1 else p)
        if left == some 0 then failed m
        else takingMore text t repeating before k budget (left.map (· - 1)) (p + 1) m
      else failed (m.reach p)

/-- Takes several characters that pass. -/
def several (text : Array Char) (greed : Greed) (t : CharTest) (min : Nat) (max : Option Nat)
    (next : Option Nat) (repeating : Bool) (k : Next) : Next := fun p m =>
  let room := text.size - p
  if room < min then failed m
  else
    let most := match greed with
      | .lazy => min
      | _ => Nat.min room (max.getD room)
    let n := passing text t p most 0
    let m := m.reach (if t.leavesTrace then p + n else p)
    if n < min then failed m
    else match greed with
      | .greedy => givingBack text next repeating m k (p + min) (n - min) m
      | .lazy => takingMore text t repeating m k (room + 1) (max.map (· - min)) (p + n) m
      | .possessive => k (p + n) m

/-- The rounds of a repetition that takes as much as it can. `count` rounds are done, and the
    last of those that need not be started at `last`. -/
def mostRounds (once : Next → Next) (k : Next) (min : Nat) (max : Option Nat) :
    (budget count : Nat) → (last : Option Nat) → Next
  | 0, _, _ => fun _ m => failed m
  | budget + 1, count, last => fun p m =>
    let m := m.reach p
    if count < min then
      let r := once (mostRounds once k min max budget (count + 1) last) p m
      if r.matched then r else failed (r.memory.reach p)
    else
      let further := (max.all fun most => count < most) && last != some p
      let tried : Attempt :=
        if further then
          let r := once (mostRounds once k min max budget (count + 1) (some p)) p m
          if r.matched then r else failed ((r.memory.after m true).reach p)
        else failed m
      if tried.matched then tried
      else
        let r := k p tried.memory
        if r.matched then r else failed (r.memory.reach p)

/-- The rounds of a repetition that takes as little as it can. -/
def leastRounds (once : Next → Next) (k : Next) (repeating : Bool) (min : Nat) (max : Option Nat) :
    (budget count : Nat) → (last : Option Nat) → Next
  | 0, _, _ => fun _ m => failed m
  | budget + 1, count, last => fun p m =>
    let m := m.reach p
    if count < min then
      let r := once (leastRounds once k repeating min max budget (count + 1) last) p m
      if r.matched then r else failed (r.memory.reach p)
    else
      let r := k p m
      if r.matched then r
      else
        let m := (r.memory.after m repeating).reach p
        if max.any (fun most => most ≤ count) || last == some p then failed m
        else
          let r := once (leastRounds once k repeating min max budget (count + 1) (some p)) p m
          if r.matched then r else failed (r.memory.reach p)

/-- Exactly `n` rounds of a body, each from the place remembered and with its first way only. -/
def fixedRounds (body : Next) : (n : Nat) → Memory → Attempt
  | 0, m => ⟨true, m⟩
  | n + 1, m =>
    let r := body m.reached m
    if r.matched then fixedRounds body n r.memory else r

/-- Further rounds of a body, each from the place remembered and with its first way only, until
    one fails; its marks are taken back, and the place that it remembered stays. -/
def furtherRounds (body : Next) : (budget : Nat) → (left : Option Nat) → (last : Option Nat) →
    Memory → Memory
  | 0, _, _, m => m
  | budget + 1, left, last, m =>
    if left == some 0 || last == some m.reached then m
    else
      let r := body m.reached m
      if r.matched then furtherRounds body budget (left.map (· - 1)) (some m.reached) r.memory
      else r.memory.after m true

/-- A bound on the rounds of a repetition past those that must be. -/
def roundBound (text : Array Char) : Nat := (text.size + 1) * (text.size + 1) + 2

/-- Runs a body several times. -/
def rounds (text : Array Char) (greed : Greed) (min : Nat) (max : Option Nat) (repeating : Bool)
    (once : Next → Next) (k : Next) : Next := fun p m =>
  let m := m.reach p
  match greed with
  | .greedy => mostRounds once k min max (min + roundBound text) 0 none p m
  | .lazy => leastRounds once k repeating min max (min + roundBound text) 0 none p m
  | .possessive =>
    let r := fixedRounds (once stop) min m
    if r.matched then
      let m := furtherRounds (once stop) (roundBound text) (max.map (· - min)) none r.memory
      k m.reached m
    else failed (r.memory.reach p)

/-- Takes the characters between two places once more. -/
def takeAgain (text : Array Char) (same : Char → Char → Bool) (k : Next) : (start length : Nat) → Next
  | _, 0 => k
  | start, n + 1 => fun p m =>
    match text[start]?, text[p]? with
    | some c, some d => if same c d then takeAgain text same k (start + 1) n (p + 1) m else failed m
    | _, _ => failed m

/-- Whether a body cannot match at a place because of its first character alone. -/
def startsElsewhere (text : Array Char) (p : Nat) : List Step → Bool
  | .one (.literal code) :: _ => !((CharTest.literal code).holdsAt text p)
  | .one (.oneOf negated false rules items) :: _ =>
    !((CharTest.oneOf negated false rules items).holdsAt text p)
  | _ => false

mutual

/-- The ways of one step. `repeating` says whether it stands in a repetition. -/
def Step.run (text : Array Char) (repeating : Bool) : Step → Next → Next
  | .one t, k => fun p m => if t.holdsAt text p then k (p + 1) m else failed m
  | .mark i, k => fun p m => k p (m.set i p)
  | .place t, k => fun p m => if t.holds text p then k p m else failed m
  | .again g folding, k => fun p m =>
    match m.span? g with
    | none => failed m
    | some (start, stop) =>
      let same (c d : Char) : Bool :=
        match folding with
        | some r => r.lowered c.toNat == r.lowered d.toNat
        | none => c == d
      takeAgain text same k start (stop - start) p m
  | .several greed t min max next, k => several text greed t min max next repeating k
  | .loop .possessive min max body, k =>
    rounds text .possessive min max repeating (runAll text repeating body) k
  | .loop greed min max body, k => rounds text greed min max repeating (runAll text true body) k
  | .atomic body, k => fun p m =>
    let r := runAll text repeating body stop p (m.reach p)
    if r.matched then k r.memory.reached r.memory else failed (r.memory.reach p)
  | .branch alternatives, k => fun p m => runAny text repeating m alternatives k p m
  | .look behind false body, k => fun p m =>
    if p < behind then failed m
    else
      let r := runAll text repeating body stop (p - behind) (m.reach (p - behind))
      if r.matched then k p r.memory else r
  | .look behind true body, k => fun p m =>
    if p < behind then k p m
    else
      let r := runAll text repeating body stop (p - behind) (m.reach (p - behind))
      if r.matched then failed r.memory else k p (r.memory.after m repeating)
  | .choose g yes no, k => fun p m =>
    if (m.span? g).isSome then runAll text repeating yes k p m else runAll text repeating no k p m

/-- The ways of a sequence. -/
def runAll (text : Array Char) (repeating : Bool) : List Step → Next → Next
  | [], k => k
  | s :: rest, k => s.run text repeating (runAll text repeating rest k)

/-- The ways of alternatives, in order, given the memory before them. -/
def runAny (text : Array Char) (repeating : Bool) (before : Memory) : List (List Step) → Next → Next
  | [], _ => fun _ m => failed m
  | a :: rest, k => fun p m =>
    if startsElsewhere text p a then runAny text repeating before rest k p m
    else
      let r := runAll text repeating a k p (m.reach p)
      if r.matched then r
      else runAny text repeating before rest k p (r.memory.after before repeating)

end

namespace Program

/-- Runs a program at one place. -/
def runAt (pr : Program) (text : Array Char) (p : Nat) : Attempt :=
  runAll text false pr.steps stop p ⟨p, #[]⟩

/-- The memory of the first match at a place or at one of the next `more` places. -/
def firstFrom (pr : Program) (text : Array Char) : (more p : Nat) → Option Memory
  | 0, p => let r := pr.runAt text p; if r.matched then some r.memory else none
  | more + 1, p =>
    let r := pr.runAt text p
    if r.matched then some r.memory else firstFrom pr text more (p + 1)

/-- The memory of the first match in a text. Where its first character tells nothing, a match is
    not looked for at places that are too near to the end. -/
def first? (pr : Program) (text : Array Char) : Option Memory :=
  if text.size < pr.least then none
  else pr.firstFrom text (if pr.startsPlainly then text.size else text.size - (pr.least - 1)) 0

/-- Whether a program has a match in a text. -/
def isIn (pr : Program) (text : Array Char) : Bool := (pr.first? text).isSome

/-- Whether a program has a match in a text, in which every group ends after its start. -/
def search (pr : Program) (text : Array Char) : Except Fault Bool :=
  match pr.first? text with
  | none => .ok false
  | some m => if m.inOrder then .ok true else .error .wrongSpan

end Program

end ElementLocator.Regex
