import ElementLocator.Proofs.Outcome
import ElementLocator.Proofs.Yaml.QuotedScalar
import ElementLocator.Yaml.Token.Reader

/-! # Steps of the token reader

    What the reader of tokens does at the places that an outline has: before a key on a line of
    its own, before the colon, a quoted text or a dash, at an empty mapping, and at the end of
    a line or of the text. Its state is seen through `Stands`: what is read, what follows, and
    the columns of the block collections that are open.

    * `Ready` — the reader is about to read a token at a column, and a key may begin there;
    * `Steps` — the reader gets from one state to another by reading tokens, no more of them
      than there are characters between. -/

namespace ElementLocator.Yaml

open Cursor

/-- The reader outside of flow collections, seen through its place, whether a key may begin, the
    possible keys, the kinds of tokens read so far, and the columns of the open block collections,
    innermost first. -/
structure Stands (r : Reading) (c : Cursor) (allowed : Bool) (keys : List (Nat × PossibleKey))
    (kinds : List TokenKind) (columns : List Nat) : Prop where
  cursor : r.cursor = c
  allowed : r.keyAllowed = allowed
  keys : r.keys = keys
  kinds : r.tokens.reverse.map (·.kind) = kinds
  count : r.count = r.tokens.length
  flow : r.flow = 0
  columns : r.indent :: r.indents = columns.map Int.ofNat ++ [-1]
  running : r.done = false

namespace Stands

variable {r : Reading} {c : Cursor} {allowed : Bool} {keys : List (Nat × PossibleKey)}
  {kinds : List TokenKind} {columns : List Nat}

theorem indent_cons {column : Nat} (h : Stands r c allowed keys kinds (column :: columns)) :
    r.indent = column ∧ r.indents = columns.map Int.ofNat ++ [-1] :=
  List.cons.inj h.columns

theorem indent_nil (h : Stands r c allowed keys kinds []) : r.indent = -1 ∧ r.indents = [] :=
  List.cons.inj h.columns

theorem length_indents (h : Stands r c allowed keys kinds columns) : r.indents.length = columns.length := by
  have := congrArg List.length h.columns
  rw [List.length_cons, List.length_append, List.length_map, List.length_singleton] at this
  omega

/-- A token more. -/
theorem add (h : Stands r c allowed keys kinds columns) (t : Token) :
    Stands { r with tokens := t :: r.tokens, count := r.count + 1 } c allowed keys
      (kinds ++ [t.kind]) columns := by
  refine ⟨h.cursor, h.allowed, h.keys, ?_, ?_, h.flow, h.columns, h.running⟩
  · rw [List.reverse_cons, List.map_append, h.kinds]
    rfl
  · rw [h.count]
    rfl

theorem move (h : Stands r c allowed keys kinds columns) (d : Cursor) :
    Stands { r with cursor := d } d allowed keys kinds columns :=
  ⟨rfl, h.allowed, h.keys, h.kinds, h.count, h.flow, h.columns, h.running⟩

theorem allow (h : Stands r c allowed keys kinds columns) (b : Bool) :
    Stands { r with keyAllowed := b } c b keys kinds columns :=
  ⟨h.cursor, rfl, h.keys, h.kinds, h.count, h.flow, h.columns, h.running⟩

theorem setKeys (h : Stands r c allowed keys kinds columns) (ks : List (Nat × PossibleKey)) :
    Stands { r with keys := ks } c allowed ks kinds columns :=
  ⟨h.cursor, h.allowed, rfl, h.kinds, h.count, h.flow, h.columns, h.running⟩

/-- A collection more. -/
theorem push (h : Stands r c allowed keys kinds columns) (column : Nat) :
    Stands { r with indent := column, indents := r.indent :: r.indents } c allowed keys kinds
      (column :: columns) :=
  ⟨h.cursor, h.allowed, h.keys, h.kinds, h.count, h.flow, congrArg (Int.ofNat column :: ·) h.columns,
    h.running⟩

/-- A collection less. -/
theorem pop {column : Nat} (h : Stands r c allowed keys kinds (column :: columns)) :
    ∃ i is, r.indents = i :: is ∧
      Stands { r with indent := i, indents := is } c allowed keys kinds columns := by
  obtain ⟨-, hindents⟩ := h.indent_cons
  cases hr : r.indents with
  | nil =>
      rw [hr] at hindents
      exact absurd hindents.symm (List.append_ne_nil_of_right_ne_nil _ (List.cons_ne_nil _ _))
  | cons i is =>
      rw [hr] at hindents
      exact ⟨i, is, rfl, h.cursor, h.allowed, h.keys, h.kinds, h.count, h.flow, hindents, h.running⟩

end Stands

namespace ReadM

@[simp] theorem run_here (r : Reading) : here.run r = .ok (r.cursor, r) := rfl

theorem run_lift {α : Type} {x : Except Fault α} {a : α} (h : x = .ok a) (r : Reading) :
    (lift x).run r = .ok (a, r) := by
  rw [h]
  rfl

theorem run_moveTo (r : Reading) {c : Cursor} (h : c.beyond = none) :
    (moveTo c).run r = .ok ((), { r with cursor := c }) := by
  rw [moveTo, look_of_beyond_eq_none h]
  rfl

@[simp] theorem run_add (r : Reading) (t : Token) :
    (add t).run r = .ok ((), { r with tokens := t :: r.tokens, count := r.count + 1 }) := rfl

@[simp] theorem run_allowKey (r : Reading) (b : Bool) :
    (allowKey b).run r = .ok ((), { r with keyAllowed := b }) := rfl

@[simp] theorem run_mark (r : Reading) (kind : TokenKind) :
    (mark kind).run r =
      .ok ((), { r with tokens := ⟨kind, r.cursor.mark, r.cursor.mark⟩ :: r.tokens, count := r.count + 1 }) := rfl

theorem run_take {r : Reading} (h : r.cursor.beyond = none) (kind : TokenKind) (n : Nat) :
    (take kind n).run r =
      .ok ((), { r with
        tokens := ⟨kind, r.cursor.mark, (r.cursor.forwardBy n).mark⟩ :: r.tokens
        count := r.count + 1
        cursor := r.cursor.forwardBy n }) :=
  run_moveTo { r with
    tokens := ⟨kind, r.cursor.mark, (r.cursor.forwardBy n).mark⟩ :: r.tokens
    count := r.count + 1 } ((beyond_forwardBy r.cursor n).trans h)

-- ── keys that are left behind ─────────────────────────────────────────────

/-- Keys that the reader may keep at a mark: they are on its line and not too far back. -/
def Near (m : Mark) (keys : List (Nat × PossibleKey)) : Prop :=
  ∀ k ∈ keys, k.2.mark.line = m.line ∧ m.index ≤ k.2.mark.index + 1024

/-- Keys that the reader may forget at the end of a line. -/
def Passing (m : Mark) (keys : List (Nat × PossibleKey)) : Prop :=
  ∀ k ∈ keys, k.2.required = false ∧ k.2.mark.line = m.line

theorem run_checkKeys_near {m : Mark} {keys : List (Nat × PossibleKey)} (h : Near m keys)
    (r : Reading) : (checkKeys m keys).run r = .ok (keys, r) := by
  induction keys with
  | nil => rfl
  | cons k keys ih =>
      obtain ⟨level, k⟩ := k
      obtain ⟨hline, hindex⟩ := h _ List.mem_cons_self
      have hkeep : (k.mark.line != m.line || 1024 < m.index - k.mark.index) = false := by
        rw [Bool.or_eq_false_iff]
        refine ⟨bne_eq_false_iff_eq.mpr hline, ?_⟩
        rw [decide_eq_false_iff_not]
        dsimp only at hindex
        omega
      rw [checkKeys, hkeep, if_neg Bool.false_ne_true,
        run_bind_of_ok (ih fun k hk => h k (List.mem_cons_of_mem _ hk))]
      rfl

theorem run_dropStaleKeys_near {r : Reading} (h : Near r.cursor.mark r.keys) :
    dropStaleKeys.run r = .ok ((), r) := by
  show (checkKeys r.cursor.mark r.keys >>= fun keys => modify fun r => { r with keys := keys }).run r = _
  rw [run_bind_of_ok (run_checkKeys_near h r)]
  rfl

theorem run_checkKeys_passing {m : Mark} {keys : List (Nat × PossibleKey)} (h : Passing m keys)
    {n : Mark} (hn : n.line ≠ m.line) (r : Reading) : (checkKeys n keys).run r = .ok ([], r) := by
  induction keys with
  | nil => rfl
  | cons k keys ih =>
      obtain ⟨level, k⟩ := k
      obtain ⟨hrequired, hline⟩ := h _ List.mem_cons_self
      dsimp only at hrequired hline
      have hdrop : (k.mark.line != n.line || 1024 < n.index - k.mark.index) = true := by
        rw [hline, Bool.or_eq_true]
        exact Or.inl (bne_iff_ne.mpr (Ne.symm hn))
      rw [checkKeys, hdrop, if_pos rfl, hrequired]
      exact ih fun k hk => h k (List.mem_cons_of_mem _ hk)

/-- Over the end of a line the keys on it are forgotten. -/
theorem run_dropStaleKeys_passing {r : Reading} {m : Mark} (h : Passing m r.keys)
    (hline : r.cursor.mark.line ≠ m.line) : dropStaleKeys.run r = .ok ((), { r with keys := [] }) := by
  show (checkKeys r.cursor.mark r.keys >>= fun keys => modify fun r => { r with keys := keys }).run r = _
  rw [run_bind_of_ok (run_checkKeys_passing h hline r)]
  rfl

-- ── blanks and line ends ──────────────────────────────────────────────────

/-- Whether a text is at its end or goes on with a visible character that begins no comment. -/
def Starts (rest : List Char) : Prop :=
  ∀ ch, rest.head? = some ch → 0x20 < ch.toNat ∧ ch.toNat < 0x7F ∧ ch ≠ '#'

theorem Starts.ne {rest : List Char} (h : Starts rest) (ch : Char)
    (hch : ¬ (0x20 < ch.toNat ∧ ch.toNat < 0x7F ∧ ch ≠ '#')) : rest.head? ≠ some ch :=
  fun hhead => hch (h ch hhead)

theorem Starts.not_break {rest : List Char} (h : Starts rest) : rest.head?.any isBreak = false := by
  cases rest with
  | nil => rfl
  | cons ch rest =>
      obtain ⟨hlow, hhigh, -⟩ := h ch rfl
      have := takesColumn_of_lt (Nat.le_of_lt hlow) hhigh
      rw [takesColumn] at this
      rw [Bool.and_eq_true, Bool.not_eq_true'] at this
      exact this.1

/-- The cursor past blanks. -/
theorem skipWhile_blanks {rest : List Char} (h : Starts rest) (n : Nat) (m : Mark) :
    (before m (List.replicate n ' ' ++ rest)).skipWhile (· == ' ') = before (m.advance n) rest := by
  simp only [Cursor.skipWhile]
  rw [takeWhile_before]
  · have hblank : ∀ ch ∈ List.replicate n ' ', takesColumn ch = true := fun ch hch => by
      rw [List.eq_of_mem_replicate hch]
      decide
    have := forwardBy_before hblank m rest
    rw [List.length_replicate] at this
    rw [List.length_replicate, this]
  · intro ch hch
    rw [List.eq_of_mem_replicate hch]
    rfl
  · intro ch hch
    obtain ⟨hlow, -⟩ := h ch hch
    rw [beq_eq_false_iff_ne]
    rintro rfl
    exact absurd hlow (by decide)

/-- Blanks before a token on the same line are skipped. -/
theorem run_skipToToken_here {r : Reading} {m : Mark} {n : Nat} {rest : List Char}
    (hr : r.cursor = before m (List.replicate n ' ' ++ rest)) (h : Starts rest) (fuel : Nat) :
    (skipToToken (fuel + 1)).run r = .ok ((), { r with cursor := before (m.advance n) rest }) := by
  have hcomment : (if (before (m.advance n) rest).peek == some '#' then
      (before (m.advance n) rest).skipWhile (!isBreak ·) else before (m.advance n) rest) =
      before (m.advance n) rest := by
    refine if_neg ?_
    rw [peek_before, beq_iff_eq]
    exact h.ne '#' (by decide)
  rw [skipToToken, run_bind_of_ok (run_here r), hr, skipWhile_blanks h]
  dsimp only
  rw [hcomment, peek_before, h.not_break, if_neg Bool.false_ne_true]
  rfl

/-- The end of a line and the blanks of the next one are skipped, and a key may begin. -/
theorem run_skipToToken_line {r : Reading} {m : Mark} {n : Nat} {rest : List Char}
    (hr : r.cursor = before m ('\n' :: (List.replicate n ' ' ++ rest))) (hflow : r.flow = 0)
    (h : Starts rest) (fuel : Nat) :
    (skipToToken (fuel + 2)).run r =
      .ok ((), { r with
        cursor := before ⟨m.index + 1 + n, m.line + 1, n⟩ rest
        keyAllowed := true }) := by
  have hskip : (before m ('\n' :: (List.replicate n ' ' ++ rest))).skipWhile (· == ' ') =
      before m ('\n' :: (List.replicate n ' ' ++ rest)) := rfl
  rw [skipToToken, run_bind_of_ok (run_here r), hr, hskip]
  show (moveTo (before m ('\n' :: (List.replicate n ' ' ++ rest))).takeBreak.2 >>= fun _ =>
    (get >>= fun r => if r.flow == 0 then allowKey true >>= fun _ => skipToToken (fuel + 1)
      else skipToToken (fuel + 1) : ReadM Unit)).run r = _
  rw [run_bind_of_ok (run_moveTo r rfl), run_bind_of_ok (StateT.run_get _)]
  dsimp only
  rw [hflow, if_pos (beq_self_eq_true 0), run_bind_of_ok (run_allowKey _ _)]
  have hnext : (before m ('\n' :: (List.replicate n ' ' ++ rest))).takeBreak.2 =
      before ⟨m.index + 1, m.line + 1, 0⟩ (List.replicate n ' ' ++ rest) := rfl
  have hmark : Mark.advance ⟨m.index + 1, m.line + 1, 0⟩ n = ⟨m.index + 1 + n, m.line + 1, n⟩ := by
    simp only [Mark.advance]
    rw [Nat.zero_add]
  rw [run_skipToToken_here hnext h, hmark]

-- ── block collections ─────────────────────────────────────────────────────

variable {r : Reading} {c : Cursor} {allowed : Bool} {keys : List (Nat × PossibleKey)}
  {kinds : List TokenKind} {columns : List Nat}

/-- **COLLECTIONS THAT END BEFORE A COLUMN ARE ENDED**, innermost first, and no others. The
    induction is on those that end. -/
theorem run_unwind {column : Int} {ending : List Nat} (hending : ∀ k ∈ ending, column < k)
    (hstop : ∀ k, columns.head? = some k → (k : Int) ≤ column) (hout : -1 ≤ column) {fuel : Nat}
    (hfuel : ending.length < fuel) (h : Stands r c allowed keys kinds (ending ++ columns)) :
    ∃ r', (unwind column fuel).run r = .ok ((), r') ∧
      Stands r' c allowed keys (kinds ++ List.replicate ending.length .blockEnd) columns := by
  induction fuel generalizing ending r kinds with
  | zero => exact nomatch hfuel
  | succ fuel ih =>
      rw [unwind, run_bind_of_ok (StateT.run_get r)]
      cases ending with
      | nil =>
          have hdone : ¬ column < r.indent := by
            cases columns with
            | nil =>
                rw [h.indent_nil.1]
                omega
            | cons k columns =>
                have := hstop k rfl
                rw [h.indent_cons.1]
                omega
          rw [if_neg hdone, List.length_nil, List.replicate_zero, List.append_nil]
          exact ⟨r, rfl, h⟩
      | cons k ending =>
          have hopen : column < r.indent := by
            rw [h.indent_cons.1]
            exact hending k List.mem_cons_self
          obtain ⟨i, is, hindents, hpop⟩ := h.pop
          obtain ⟨r', hrun, hr'⟩ := ih (fun j hj => hending j (List.mem_cons_of_mem k hj))
            (Nat.lt_of_succ_lt_succ hfuel) (hpop.add ⟨.blockEnd, r.cursor.mark, r.cursor.mark⟩)
          rw [List.append_assoc] at hr'
          refine ⟨r', ?_, hr'⟩
          rw [if_pos hopen, hindents]
          exact hrun

theorem run_unwindTo (column : Int) (ending : List Nat) (hending : ∀ k ∈ ending, column < k)
    (hstop : ∀ k, columns.head? = some k → (k : Int) ≤ column) (hout : -1 ≤ column)
    (h : Stands r c allowed keys kinds (ending ++ columns)) :
    ∃ r', (unwindTo column).run r = .ok ((), r') ∧
      Stands r' c allowed keys (kinds ++ List.replicate ending.length .blockEnd) columns := by
  have hfuel : ending.length < r.indents.length + 1 := by
    rw [h.length_indents, List.length_append]
    omega
  obtain ⟨r', hrun, hr'⟩ := run_unwind hending hstop hout hfuel h
  refine ⟨r', ?_, hr'⟩
  rw [unwindTo, run_bind_of_ok (StateT.run_get r), h.flow]
  exact hrun

-- ── on the way to a token ─────────────────────────────────────────────────

/-- A token on the same line is come to without any change but the place. -/
theorem run_approach_here {m : Mark} {n : Nat} {rest : List Char}
    (h : Stands r (before m (List.replicate n ' ' ++ rest)) allowed keys kinds columns)
    (hrest : Starts rest) (hkeys : Near (m.advance n) keys)
    (hcolumns : ∀ k, columns.head? = some k → k ≤ m.column + n) :
    ∃ r', approach.run r = .ok ((), r') ∧
      Stands r' (before (m.advance n) rest) allowed keys kinds columns := by
  have hmark : ¬ (r.cursor.mark.index == 0 && r.cursor.peek == some '\uFEFF') = true := by
    rw [h.cursor, Bool.and_eq_true, not_and, peek_before]
    intro _
    rw [beq_iff_eq]
    cases n with
    | zero => exact hrest.ne '\uFEFF' (by decide)
    | succ n =>
        rw [List.replicate_succ, List.cons_append, List.head?_cons]
        decide
  have hmoved := h.move (before (m.advance n) rest)
  obtain ⟨r', hrun, hr'⟩ := run_unwindTo ((m.advance n).column : Int) [] (fun _ hk => nomatch hk)
    (fun k hk => Int.ofNat_le.mpr (hcolumns k hk)) (by omega) hmoved
  rw [List.length_nil, List.replicate_zero, List.append_nil] at hr'
  refine ⟨r', ?_, hr'⟩
  rw [approach, run_bind_of_ok (StateT.run_get r), if_neg hmark,
    run_bind_of_ok (run_skipToToken_here h.cursor hrest _),
    run_bind_of_ok (run_dropStaleKeys_near (by rw [hmoved.cursor, hmoved.keys]; exact hkeys)),
    run_bind_of_ok (run_here _)]
  exact hrun

/-- **A TOKEN ON THE NEXT LINE** is come to past the end of this one: possible keys are forgotten,
    a key may begin, and the collections that are indented more are ended. -/
theorem run_approach_line {m : Mark} {n : Nat} {rest : List Char} {ending : List Nat}
    (h : Stands r (before m ('\n' :: (List.replicate n ' ' ++ rest))) allowed keys kinds (ending ++ columns))
    (hrest : Starts rest) (hkeys : Passing m keys) (hending : ∀ k ∈ ending, n < k)
    (hcolumns : ∀ k, columns.head? = some k → k ≤ n) :
    ∃ r' m', approach.run r = .ok ((), r') ∧ m'.column = n ∧
      Stands r' (before m' rest) true [] (kinds ++ List.replicate ending.length .blockEnd) columns := by
  have hmark : ¬ (r.cursor.mark.index == 0 && r.cursor.peek == some '\uFEFF') = true := by
    rw [h.cursor, Bool.and_eq_true, not_and, peek_before, List.head?_cons]
    intro _
    decide
  have hfuel : ∃ fuel, r.cursor.left + 1 = fuel + 2 := by
    rw [h.cursor, left_before, List.length_cons]
    exact ⟨_, rfl⟩
  obtain ⟨fuel, hfuel⟩ := hfuel
  let m' : Mark := ⟨m.index + 1 + n, m.line + 1, n⟩
  have hmoved := ((h.move (before m' rest)).allow true).setKeys []
  obtain ⟨r', hrun, hr'⟩ := run_unwindTo (n : Int) ending
    (fun k hk => Int.ofNat_lt.mpr (hending k hk)) (fun k hk => Int.ofNat_le.mpr (hcolumns k hk))
    (by omega) hmoved
  refine ⟨r', m', ?_, rfl, hr'⟩
  have hline : m'.line ≠ m.line := Nat.succ_ne_self _
  rw [approach, run_bind_of_ok (StateT.run_get r), if_neg hmark, hfuel,
    run_bind_of_ok (run_skipToToken_line h.cursor h.flow hrest _),
    run_bind_of_ok (run_dropStaleKeys_passing (m := m) (by exact h.keys ▸ hkeys) hline),
    run_bind_of_ok (run_here _)]
  exact hrun

end ReadM

end ElementLocator.Yaml
