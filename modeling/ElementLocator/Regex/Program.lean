import ElementLocator.Regex.CharTest

/-! # Regular expressions: programs

    The form in which an expression is run: lists of steps with all flags worked in. Plain and
    flagged groups leave no trace in it, a capturing group is a mark before and a mark after its
    steps, and a repetition of a single character is a step of its own. Expressions that no
    program can be made of are refused here. -/

namespace ElementLocator.Regex

/-- A condition on a place, with its flags. -/
structure PlaceTest where
  anchor : Anchor
  /-- Lines count, not only the whole text. -/
  multiLine : Bool
  /-- Word characters are those of ASCII. -/
  ascii : Bool
  deriving DecidableEq, Repr

/-- A step of a program. -/
inductive Step
  /-- Takes one character that passes. -/
  | one (t : CharTest)
  /-- Notes the place: mark `2 * g` where group `g + 1` starts, the next mark where it ends. -/
  | mark (index : Nat)
  /-- Goes on if the place is as asked. -/
  | place (t : PlaceTest)
  /-- Takes the text of a group once more, in any case if rules of case are given. -/
  | again (group : Nat) (folding : Option CaseRules)
  /-- Takes characters that pass; `next` is the character with which all that follows starts,
      if that is written out. -/
  | several (greed : Greed) (t : CharTest) (min : Nat) (max : Option Nat) (next : Option Nat)
  /-- Runs a body several times. -/
  | loop (greed : Greed) (min : Nat) (max : Option Nat) (body : List Step)
  /-- Runs a body and keeps its first way only. -/
  | atomic (body : List Step)
  /-- Runs one of several bodies. -/
  | branch (alternatives : List (List Step))
  /-- Asks whether a body matches from the place that is `behind` characters back. -/
  | look (behind : Nat) (negated : Bool) (body : List Step)
  /-- Runs one body if a group has a text, and another if it has none. -/
  | choose (group : Nat) (yes no : List Step)

/-- The character that steps start with, if it is written out; `last` is the one after them. -/
def leadingChar? (last : Option Nat) : List Step → Option Nat
  | [] => last
  | .one (.literal code) :: _ => some code
  | _ => none

mutual

/-- The test of a piece that takes one character whatever its groups. -/
def Piece.test? (f : Flags) : Piece → Option CharTest
  | .symbol s => some (s.test f)
  | .group none add del body => testOf? (f.within add del) body
  | _ => none

/-- The test of a sequence that is a single such piece. -/
def testOf? (f : Flags) : List Piece → Option CharTest
  | [p] => p.test? f
  | _ => none

end

mutual

/-- The steps of a piece, before the steps `rest`. `last` is the character written out after
    all of them. -/
def Piece.steps (widths : Nat → Width) (f : Flags) (last : Option Nat) : Piece → List Step → List Step
  | .symbol s, rest => .one (s.test f) :: rest
  | .anchor a, rest => .place ⟨a, f.multiLine, f.ascii⟩ :: rest
  | .backReference g, rest => .again (g - 1) (if f.ignoreCase then some ⟨f.ascii⟩ else none) :: rest
  | .group none add del body, rest => stepsOf widths (f.within add del) last body rest
  | .group (some g) add del body, rest =>
    .mark (2 * (g - 1)) ::
      stepsOf widths (f.within add del) last body (.mark (2 * (g - 1) + 1) :: rest)
  | .atomic body, rest => .atomic (stepsOf widths f none body []) :: rest
  | .branch alternatives, rest => .branch (stepsOfEach widths f alternatives) :: rest
  | .loop greed min max body, rest =>
    match testOf? f body with
    | some t => .several greed t min max (leadingChar? last rest) :: rest
    | none => .loop greed min max (stepsOf widths f none body []) :: rest
  | .lookAhead negated body, rest => .look 0 negated (stepsOf widths f none body []) :: rest
  | .lookBehind negated body, rest =>
    .look (widthOf widths body).1 negated (stepsOf widths f none body []) :: rest
  | .conditional g yes none, rest =>
    .choose (g - 1) (stepsOf widths f (leadingChar? last rest) yes []) [] :: rest
  | .conditional g yes (some []), rest =>
    .choose (g - 1) (stepsOf widths f (leadingChar? last rest) yes []) [] :: rest
  | .conditional g yes (some (p :: no)), rest =>
    .choose (g - 1) (stepsOf widths f none yes [])
      (p.steps widths f (leadingChar? last rest)
        (stepsOf widths f (leadingChar? last rest) no [])) :: rest

/-- The steps of a sequence, before the steps `rest`. -/
def stepsOf (widths : Nat → Width) (f : Flags) (last : Option Nat) : List Piece → List Step → List Step
  | [], rest => rest
  | p :: ps, rest => p.steps widths f last (stepsOf widths f last ps rest)

/-- The steps of each of several alternatives. -/
def stepsOfEach (widths : Nat → Width) (f : Flags) : List (List Piece) → List (List Step)
  | [] => []
  | a :: rest => stepsOf widths f none a [] :: stepsOfEach widths f rest

end

mutual

/-- The first fault of a piece that shows only once all of the expression is read. -/
def Piece.fault? (widths : Nat → Width) (template : Bool) : Piece → Option Fault
  | .group _ _ _ body | .atomic body | .lookAhead _ body => firstFault? widths template body
  | .branch alternatives => firstBranchFault? widths template alternatives
  | .loop greed _ _ body =>
    if template then
      let name := match greed with
        | .greedy => "MAX_REPEAT"
        | .lazy => "MIN_REPEAT"
        | .possessive => "POSSESSIVE_REPEAT"
      some (.malformed s!"internal: unsupported template operator {name}" none)
    else firstFault? widths template body
  | .lookBehind _ body =>
    let (lo, hi) := widthOf widths body
    if lo ≠ hi then some (.malformed "look-behind requires fixed-width pattern" none)
    else firstFault? widths template body
  | .conditional _ yes none => firstFault? widths template yes
  | .conditional _ yes (some no) =>
    match firstFault? widths template yes with
    | some f => some f
    | none => firstFault? widths template no
  | _ => none

/-- The first such fault of a sequence. -/
def firstFault? (widths : Nat → Width) (template : Bool) : List Piece → Option Fault
  | [] => none
  | p :: rest =>
    match p.fault? widths template with
    | some f => some f
    | none => firstFault? widths template rest

/-- The first such fault of alternatives. -/
def firstBranchFault? (widths : Nat → Width) (template : Bool) : List (List Piece) → Option Fault
  | [] => none
  | a :: rest =>
    match firstFault? widths template a with
    | some f => some f
    | none => firstBranchFault? widths template rest

end

/-- The greatest number of characters that a program can look back. -/
def farthestBehind : Nat := 0x7FFFFFFF

mutual

/-- Whether a step looks farther back than a program can say. -/
def Step.looksTooFar : Step → Bool
  | .look behind _ body => farthestBehind < behind || anyTooFar body
  | .loop _ _ _ body | .atomic body => anyTooFar body
  | .branch alternatives => anyOfEachTooFar alternatives
  | .choose _ yes no => anyTooFar yes || anyTooFar no
  | _ => false

/-- Whether one of the steps does. -/
def anyTooFar : List Step → Bool
  | [] => false
  | s :: rest => s.looksTooFar || anyTooFar rest

/-- Whether a step of one of several bodies does. -/
def anyOfEachTooFar : List (List Step) → Bool
  | [] => false
  | a :: rest => anyTooFar a || anyOfEachTooFar rest

end

/-- An expression in the form in which it is run. -/
structure Program where
  steps : List Step
  /-- The least number of characters of a match. -/
  least : Nat

/-- Whether a step takes one character of a kind that is known without regard to case. -/
def Step.startsPlainly : Step → Bool
  | .one (.literal _) => true
  | .one (.oneOf _ folded ..) => !folded
  | .branch alternatives => alternatives.all fun a => (leadingChar? none a).isSome
  | _ => false

/-- Whether the first character of every match is of such a kind. -/
def Program.startsPlainly (p : Program) : Bool :=
  0 < p.least &&
    ((p.steps.dropWhile fun s => s matches .mark _).head?.any Step.startsPlainly)

/-- The program of an expression, or why there is none. -/
def Program.ofExpression (e : Expression) : Except Fault Program :=
  match firstFault? e.groupWidth e.flags.template e.pieces with
  | some f => .error f
  | none =>
    let steps := stepsOf e.groupWidth e.flags none e.pieces []
    if anyTooFar steps then .error .lookBehindTooWide
    else .ok ⟨steps, (widthOf e.groupWidth e.pieces).1⟩

end ElementLocator.Regex
