import ElementLocator.Proofs.Outcome
import ElementLocator.Regex

/-! # Plain expressions

    An expression is plain if it is a row of characters that stand for themselves and of marks
    of the two ends of the text. It is read part by part, and its program has one step for each.

    * `Regex.Part` — the parts, with their tokens, pieces and steps;
    * `Regex.run_readSequence` — a row of parts is read as the row of their pieces;
    * `Regex.read_chars` — a plain expression is read;
    * `Regex.compile_chars` — a plain expression compiles. -/

namespace ElementLocator.Regex

open ReadM

-- ── parts ─────────────────────────────────────────────────────────────────

/-- A part of a plain expression: a character that stands for itself, or an end of the text. -/
inductive Part
  | char (c : Char)
  | textStart
  | textEnd

/-- The characters that mean something in an expression. -/
def special : List Char := ".^$*+?\x7b\x7d[]\\|()".toList

namespace Part

/-- How a part is written. -/
def chars : Part → List Char
  | char c => [c]
  | textStart => ['\\', 'A']
  | textEnd => ['\\', 'Z']

/-- A part that is written as itself: its character means nothing else. -/
def IsPlain : Part → Prop
  | char c => c ∉ special
  | _ => True

/-- The token of a part. -/
def token : Part → Token
  | char c => .char c
  | textStart => .escape 'A'
  | textEnd => .escape 'Z'

/-- The number of characters that a part takes. -/
def taken : Part → Nat
  | char _ => 1
  | _ => 0

/-- The piece that a part is read as. -/
def piece : Part → Piece
  | char c => .char c.toNat
  | textStart => .anchor .textStart
  | textEnd => .anchor .textEnd

/-- The step that a part is run as. -/
def step : Part → Step
  | char c => .one (.literal c.toNat)
  | textStart => .place ⟨.textStart, false, false⟩
  | textEnd => .place ⟨.textEnd, false, false⟩

/-- The number of characters that parts take together. -/
def charCount : List Part → Nat
  | [] => 0
  | part :: rest => part.taken + charCount rest

end Part

-- ── reading ───────────────────────────────────────────────────────────────

theorem tokens_chars {parts : List Part} (h : ∀ part ∈ parts, part.IsPlain) :
    tokens (parts.flatMap Part.chars) = (parts.map Part.token, false) := by
  induction parts with
  | nil => rfl
  | cons part rest ih =>
      have hrest := ih fun q hq => h q (List.mem_cons_of_mem part hq)
      cases part with
      | char c =>
          have hc : c ≠ '\\' := fun heq => h (.char c) List.mem_cons_self (heq ▸ (by decide))
          rw [List.flatMap_cons, Part.chars, List.singleton_append, tokens, hrest]
          · rfl
          · exact fun heq => absurd heq hc
          · exact fun _ _ heq => absurd heq hc
      | textStart | textEnd =>
          rw [List.flatMap_cons, Part.chars, List.cons_append, List.singleton_append, tokens, hrest]
          rfl

theorem run_peek (s : State) : peek.run s = .ok (s.rest.head?, s) := rfl

theorem run_advance {s : State} {t : Token} {rest : List Token} (h : s.rest = t :: rest)
    (hd : s.dangling = false) :
    advance.run s = .ok ((), { s with rest := rest, pos := s.pos + t.length }) := by
  have hget : (get : ReadM State).run s = .ok (s, s) := rfl
  rw [advance, run_bind_of_ok hget, h, hd]
  dsimp only
  rw [Bool.and_false]
  rfl

/-- One part is read as its piece. -/
theorem run_readSequence_part {part : Part} (hpart : part.IsPlain) {s : State} {rest : List Token}
    (h : s.rest = part.token :: rest) (hd : s.dangling = false) (fuel : Nat) (first : Bool)
    (done : List Piece) : (readSequence (fuel + 1) false first done).run s =
      (readSequence fuel false first (part.piece :: done)).run
        { s with rest := rest, pos := s.pos + part.token.length } := by
  have hpeek : peek.run s = .ok (some part.token, s) := by rw [run_peek, h]; rfl
  rw [readSequence, run_bind_of_ok hpeek]
  cases part with
  | char c =>
      have hne (d : Char) (hd : d ∈ special) : (c == d) = false :=
        beq_eq_false_iff_ne.mpr fun heq => hpart (heq ▸ hd)
      simp only [Part.token, hne '|' (by decide), hne ')' (by decide), hne '[' (by decide),
        hne '.' (by decide), hne '^' (by decide), hne '$' (by decide), hne '?' (by decide),
        hne '*' (by decide), hne '+' (by decide), hne '\x7b' (by decide), hne '(' (by decide),
        Bool.or_false, Bool.false_and, Bool.false_eq_true, if_false]
      exact run_bind_of_ok (run_advance h hd)
  | textStart | textEnd =>
      simp only [Part.token]
      rw [run_bind_of_ok (run_advance h hd)]
      rfl

theorem unpacked_pieces (parts : List Part) : unpacked (parts.map Part.piece) = parts.map Part.piece := by
  induction parts with
  | nil => rfl
  | cons part rest ih =>
      cases part <;> exact congrArg (List.cons _) ih

/-- Parts up to the end are read as their pieces. -/
theorem run_readSequence {parts : List Part} (hparts : ∀ part ∈ parts, part.IsPlain) {fuel : Nat}
    (hfuel : parts.length < fuel) (first : Bool) (before : List Part) {s : State}
    (h : s.rest = parts.map Part.token) (hd : s.dangling = false) :
    ∃ pos, (readSequence fuel false first (before.reverse.map Part.piece)).run s =
      .ok ((before ++ parts).map Part.piece, { s with rest := [], pos := pos }) := by
  induction parts generalizing fuel before s with
  | nil =>
      obtain ⟨fuel, rfl⟩ := Nat.exists_eq_succ_of_ne_zero (Nat.ne_of_gt hfuel)
      have hpeek : peek.run s = .ok (none, s) := by rw [run_peek, h]; rfl
      have hend : s = { s with rest := [] } := by rw [← show s.rest = [] from h]
      refine ⟨s.pos, ?_⟩
      rw [readSequence, run_bind_of_ok hpeek]
      show Except.ok (unpacked (before.reverse.map Part.piece).reverse, s) = _
      rw [← List.map_reverse, List.reverse_reverse, unpacked_pieces, List.append_nil, ← hend]
  | cons part rest ih =>
      obtain ⟨fuel, rfl⟩ := Nat.exists_eq_succ_of_ne_zero (Nat.ne_of_gt (Nat.zero_lt_of_lt hfuel))
      have hdone : part.piece :: before.reverse.map Part.piece =
          (before ++ [part]).reverse.map Part.piece := by
        rw [List.reverse_append, List.reverse_singleton, List.singleton_append, List.map_cons]
      obtain ⟨pos, hread⟩ := ih (fun q hq => hparts q (List.mem_cons_of_mem part hq))
        (Nat.lt_of_succ_lt_succ hfuel) (before ++ [part])
        (s := { s with rest := rest.map Part.token, pos := s.pos + part.token.length }) rfl hd
      refine ⟨pos, ?_⟩
      rw [run_readSequence_part (hparts part List.mem_cons_self) h hd, hdone, hread, List.append_assoc,
        List.singleton_append]

/-- Parts up to the end have no alternatives. -/
theorem run_readBranches {parts : List Part} (hparts : ∀ part ∈ parts, part.IsPlain) {fuel : Nat}
    (hfuel : parts.length < fuel) {s : State} (h : s.rest = parts.map Part.token) (hd : s.dangling = false) :
    ∃ pos, (readBranches (fuel + 1) false false []).run s =
      .ok (parts.map Part.piece, { s with rest := [], pos := pos }) := by
  obtain ⟨pos, hread⟩ :
      ∃ pos, (readSequence fuel false (!false && ([] : List (List Piece)).isEmpty) []).run s =
        .ok (parts.map Part.piece, { s with rest := [], pos := pos }) :=
    run_readSequence hparts hfuel true [] h hd
  refine ⟨pos, ?_⟩
  rw [readBranches, run_bind_of_ok hread]
  rfl

/-- The reader before the tokens of a text. -/
def State.before (ts : List Token) : State where
  rest := ts
  pos := 0
  dangling := false
  flags := .none
  groups := 1
  names := []
  widths := []
  lookBehindGroups := none
  conditions := []

/-- A plain expression is read as the pieces of its parts. -/
theorem read_chars {parts : List Part} (hparts : ∀ part ∈ parts, part.IsPlain) :
    read (String.ofList (parts.flatMap Part.chars)) = .ok ⟨parts.map Part.piece, .none, []⟩ := by
  have hfuel : parts.length < 3 * (State.before (parts.map Part.token)).rest.length + 7 := by
    rw [State.before, List.length_map]
    omega
  have hget : (get : ReadM State).run (State.before (parts.map Part.token)) = .ok (_, _) := rfl
  obtain ⟨pos, hread⟩ := run_readBranches hparts hfuel (s := State.before (parts.map Part.token)) rfl rfl
  rw [read, String.toList_ofList, tokens_chars hparts]
  show (readExpression.run (State.before (parts.map Part.token))).map (·.1) = _
  rw [readExpression, run_bind_of_ok hget, if_neg (by rw [State.before, Bool.and_false]; nofun),
    run_bind_of_ok hread]
  rfl

-- ── programs ──────────────────────────────────────────────────────────────

section Program

variable (parts : List Part) (widths : Nat → Width)

theorem firstFault?_pieces (template : Bool) : firstFault? widths template (parts.map Part.piece) = none := by
  induction parts with
  | nil => rfl
  | cons part rest ih =>
      rw [List.map_cons, firstFault?]
      cases part <;> exact ih

theorem stepsOf_pieces (last : Option Nat) :
    stepsOf widths .none last (parts.map Part.piece) [] = parts.map Part.step := by
  induction parts with
  | nil => rfl
  | cons part rest ih =>
      rw [List.map_cons, stepsOf, ih]
      cases part <;> rfl

theorem anyTooFar_steps : anyTooFar (parts.map Part.step) = false := by
  induction parts with
  | nil => rfl
  | cons part rest ih =>
      rw [List.map_cons, anyTooFar, ih]
      cases part <;> rfl

theorem widthOf_pieces_le : (widthOf widths (parts.map Part.piece)).1 ≤ Part.charCount parts := by
  induction parts with
  | nil => exact Nat.le_refl 0
  | cons part rest ih =>
      have hpart : (part.piece.width widths).1 = part.taken := by cases part <;> rfl
      rw [List.map_cons, Part.charCount, widthOf, ← hpart]
      exact Nat.le_trans (Nat.min_le_left _ _) (Nat.add_le_add_left ih _)

end Program

/-- **PLAIN EXPRESSIONS COMPILE** to one step for each part. A match takes at least as many
    characters as are counted. -/
theorem compile_chars {parts : List Part} (hparts : ∀ part ∈ parts, part.IsPlain) :
    ∃ least ≤ Part.charCount parts,
      compile (String.ofList (parts.flatMap Part.chars)) = .ok ⟨parts.map Part.step, least⟩ := by
  refine ⟨_, widthOf_pieces_le parts (Expression.groupWidth ⟨parts.map Part.piece, .none, []⟩), ?_⟩
  rw [compile, read_chars hparts, Except.bind, Program.ofExpression, firstFault?_pieces, stepsOf_pieces]
  dsimp only
  rw [anyTooFar_steps]
  rfl

end ElementLocator.Regex
