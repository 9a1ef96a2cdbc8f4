import ElementLocator.Proofs.Yaml.TokenStep

/-! # Reading the tokens of an outline

    One reader after the other, at the places where an outline brings it in: what it adds to
    the tokens and how it leaves the reader. A key is read as a plain scalar first; the colon
    after it puts the key token in front, and the start of a mapping if one begins there.

    * `run_readPlain`, `run_readValue` — a key and its colon;
    * `run_readQuoted` — a quoted text after a colon;
    * `run_readBlockEntry` — a dash;
    * `run_readFlowStart`, `run_readFlowEnd` — an empty mapping;
    * `run_readStreamEnd` — the end of the text. -/

namespace ElementLocator.Yaml

open Cursor

-- ── tokens put in between ─────────────────────────────────────────────────

/-- A token put in front of the last ones. -/
theorem Stands.insert {r : Reading} {c : Cursor} {allowed : Bool} {keys : List (Nat × PossibleKey)}
    {front back : List TokenKind} {columns : List Nat}
    (h : Stands r c allowed keys (front ++ back) columns) (kind : TokenKind) (m : Mark) :
    ∃ r', (ReadM.insertAt front.length kind m).run r = .ok ((), r') ∧
      Stands r' c allowed keys (front ++ kind :: back) columns := by
  have hlength : r.tokens.length = front.length + back.length := by
    have := congrArg List.length h.kinds
    rw [List.length_map, List.length_reverse, List.length_append] at this
    exact this
  have hlater : r.count - front.length = back.length := by
    rw [h.count, hlength]
    omega
  have hsplit : ((r.tokens.drop back.length).reverse.map (·.kind)) ++
      ((r.tokens.take back.length).reverse.map (·.kind)) = front ++ back := by
    rw [← List.map_append, ← List.reverse_append, List.take_append_drop, h.kinds]
  obtain ⟨hfront, hback⟩ := List.append_inj hsplit (by
    rw [List.length_map, List.length_reverse, List.length_drop, hlength]
    omega)
  refine ⟨_, rfl, h.cursor, h.allowed, h.keys, ?_, ?_, h.flow, h.columns, h.running⟩
  · dsimp only
    rw [hlater, List.reverse_append, List.reverse_cons, List.append_assoc, List.map_append,
      List.map_append, hfront, hback]
    rfl
  · dsimp only
    rw [hlater, List.length_append, List.length_cons, List.length_take, List.length_drop, h.count,
      hlength]
    omega

-- ── single changes ────────────────────────────────────────────────────────

namespace Stands

variable {r : Reading} {c : Cursor} {allowed : Bool} {keys : List (Nat × PossibleKey)}
  {kinds : List TokenKind} {columns : List Nat}

theorem run_add (h : Stands r c allowed keys kinds columns) (t : Token) :
    ∃ r', (ReadM.add t).run r = .ok ((), r') ∧ Stands r' c allowed keys (kinds ++ [t.kind]) columns :=
  ⟨_, rfl, h.add t⟩

theorem run_mark (h : Stands r c allowed keys kinds columns) (kind : TokenKind) :
    ∃ r', (ReadM.mark kind).run r = .ok ((), r') ∧
      Stands r' c allowed keys (kinds ++ [kind]) columns :=
  ⟨_, rfl, h.add ⟨kind, r.cursor.mark, r.cursor.mark⟩⟩

theorem run_moveTo (h : Stands r c allowed keys kinds columns) (m : Mark) (rest : List Char) :
    ∃ r', (ReadM.moveTo (before m rest)).run r = .ok ((), r') ∧
      Stands r' (before m rest) allowed keys kinds columns :=
  ⟨_, ReadM.run_moveTo r rfl, h.move _⟩

theorem run_allowKey (h : Stands r c allowed keys kinds columns) (b : Bool) :
    ∃ r', (ReadM.allowKey b).run r = .ok ((), r') ∧ Stands r' c b keys kinds columns :=
  ⟨_, rfl, h.allow b⟩

theorem run_forgetKey (h : Stands r c allowed [] kinds columns) : ReadM.forgetKey.run r = .ok ((), r) := by
  have hkeys := h.keys
  obtain ⟨cursor, tokens, count, flow, indent, indents, keyAllowed, keys, done⟩ := r
  cases hkeys
  rfl

/-- One visible character is taken as a token. -/
theorem run_take {m : Mark} {ch : Char} {rest : List Char}
    (h : Stands r (before m (ch :: rest)) allowed keys kinds columns) (hch : takesColumn ch = true)
    (kind : TokenKind) :
    ∃ r', (ReadM.take kind 1).run r = .ok ((), r') ∧
      Stands r' (before (m.advance 1) rest) allowed keys (kinds ++ [kind]) columns := by
  have hmoved : r.cursor.forwardBy 1 = before (m.advance 1) rest := by
    rw [h.cursor]
    show (before m (ch :: rest)).forward = _
    rw [forward_before, markAfter_of_takesColumn hch]
  have hadded := (h.add ⟨kind, r.cursor.mark, (r.cursor.forwardBy 1).mark⟩).move (r.cursor.forwardBy 1)
  rw [hmoved] at hadded
  refine ⟨_, ReadM.run_take (congrArg Cursor.beyond h.cursor) kind 1, ?_⟩
  rw [hmoved]
  exact hadded

end Stands

namespace ReadM

variable {r : Reading} {c : Cursor} {allowed : Bool} {keys : List (Nat × PossibleKey)}
  {kinds : List TokenKind} {columns : List Nat}

-- ── block collections that begin ──────────────────────────────────────────

/-- The open collections once there is one at a column that none is indented more than. -/
def openAt (column : Nat) (columns : List Nat) : List Nat :=
  if columns.head? = some column then columns else column :: columns

/-- The token that a collection begins with, unless it is open. -/
def startAt (kind : TokenKind) (column : Nat) (columns : List Nat) : List TokenKind :=
  if columns.head? = some column then [] else [kind]

/-- A collection begins at a column unless it is open there. -/
theorem run_indentTo (h : Stands r c allowed keys kinds columns) {column : Nat}
    (hcolumns : ∀ k, columns.head? = some k → k ≤ column) :
    ∃ r', (indentTo column).run r = .ok (decide (columns.head? ≠ some column), r') ∧
      Stands r' c allowed keys kinds (openAt column columns) := by
  rw [indentTo, run_bind_of_ok (StateT.run_get r)]
  simp only [openAt]
  by_cases hopen : columns.head? = some column
  · obtain ⟨columns, rfl⟩ : ∃ rest, columns = column :: rest := by
      cases columns with
      | nil => exact nomatch hopen
      | cons k rest => exact ⟨rest, by rw [Option.some.inj hopen]⟩
    rw [if_pos hopen, decide_eq_false (not_not_intro hopen), if_neg]
    · exact ⟨r, rfl, h⟩
    · rw [h.indent_cons.1]
      omega
  · rw [if_neg hopen, decide_eq_true hopen, if_pos]
    · exact ⟨_, rfl, h.push column⟩
    · cases columns with
      | nil =>
          rw [h.indent_nil.1]
          omega
      | cons k rest =>
          have hle := hcolumns k rfl
          have hne : k ≠ column := fun heq => hopen (congrArg some heq)
          rw [h.indent_cons.1]
          omega

/-- What follows the start of a collection runs alike whether it was open or begins, only with
    the token that it begins with put in. -/
theorem run_begin {front back : List TokenKind} {column : Nat} (kind : TokenKind) {start : ReadM Unit}
    (h : Stands r c allowed keys (front ++ back) columns)
    (hcolumns : ∀ k, columns.head? = some k → k ≤ column)
    (hstart : ∀ {r}, Stands r c allowed keys (front ++ back) (column :: columns) →
      ∃ r', start.run r = .ok ((), r') ∧
        Stands r' c allowed keys (front ++ kind :: back) (column :: columns)) (next : ReadM Unit) :
    ∃ r', (indentTo column >>= fun begins =>
        if begins = true then start >>= fun _ => next else next).run r = next.run r' ∧
      Stands r' c allowed keys (front ++ startAt kind column columns ++ back)
        (openAt column columns) := by
  obtain ⟨r₁, hindent, h₁⟩ := run_indentTo h hcolumns
  rw [run_bind_of_ok hindent]
  simp only [startAt]
  simp only [openAt] at h₁ ⊢
  by_cases hopen : columns.head? = some column
  · rw [if_pos hopen] at h₁
    rw [decide_eq_false (not_not_intro hopen), if_neg Bool.false_ne_true, if_pos hopen, if_pos hopen,
      List.append_nil]
    exact ⟨r₁, rfl, h₁⟩
  · rw [if_neg hopen] at h₁
    obtain ⟨r₂, hrun, h₂⟩ := hstart h₁
    rw [decide_eq_true hopen, if_pos rfl, if_neg hopen, if_neg hopen, run_bind_of_ok hrun,
      List.append_assoc]
    exact ⟨r₂, rfl, h₂⟩

-- ── possible keys ─────────────────────────────────────────────────────────

/-- Where a key may begin, its place is remembered. It is needed if a collection is open there. -/
theorem run_saveKey (h : Stands r c true [] kinds columns) :
    ∃ k r', saveKey.run r = .ok ((), r') ∧ Stands r' c true [(0, k)] kinds columns ∧
      k.token = kinds.length ∧ k.mark = c.mark ∧
      (columns.head? ≠ some c.mark.column → k.required = false) := by
  let k : PossibleKey :=
    ⟨r.count, r.flow == 0 && r.indent == (r.cursor.mark.column : Int), r.cursor.mark⟩
  have hrun : saveKey.run r = .ok ((), { r with keys := r.keys ++ [(r.flow, k)] }) := by
    rw [saveKey, run_bind_of_ok (StateT.run_get r), if_pos h.allowed,
      run_bind_of_ok h.run_forgetKey]
    rfl
  have hkeys : r.keys ++ [(r.flow, k)] = [(0, k)] := by
    rw [h.keys]
    exact congrArg (fun n => [(n, k)]) h.flow
  rw [hkeys] at hrun
  refine ⟨k, _, hrun, h.setKeys _, ?_, congrArg Cursor.mark h.cursor, ?_⟩
  · show r.count = _
    rw [h.count, ← h.kinds, List.length_map, List.length_reverse]
  · intro hopen
    show (r.flow == 0 && r.indent == (r.cursor.mark.column : Int)) = false
    rw [h.flow, h.cursor, beq_self_eq_true, Bool.true_and, beq_eq_false_iff_ne]
    intro heq
    cases columns with
    | nil =>
        rw [h.indent_nil.1] at heq
        omega
    | cons k rest =>
        rw [h.indent_cons.1] at heq
        exact hopen (congrArg some (Int.ofNat_inj.mp heq))

/-- After a key's colon none may begin. -/
theorem run_saveKey_refused (h : r.keyAllowed = false) : saveKey.run r = .ok ((), r) := by
  rw [saveKey, run_bind_of_ok (StateT.run_get r), h]
  rfl

-- ── keys ──────────────────────────────────────────────────────────────────

/-- A key as outlines have them: letters only. -/
def IsKey (key : List Char) : Prop := key ≠ [] ∧ ∀ ch ∈ key, ch.isAlpha = true

theorem isKey_of_all {key : List Char} (hne : key ≠ []) (h : key.all Char.isAlpha = true) : IsKey key :=
  ⟨hne, List.all_eq_true.mp h⟩

theorem ne_of_isAlpha {ch x : Char} (h : ch.isAlpha = true) (hx : x.isAlpha = false) : ch ≠ x := by
  rintro rfl
  rw [h] at hx
  exact nomatch hx

theorem toNat_of_isAlpha {ch : Char} (h : ch.isAlpha = true) : 0x20 < ch.toNat ∧ ch.toNat < 0x7F := by
  unfold Char.isAlpha Char.isUpper Char.isLower at h
  simp only [Bool.or_eq_true, Bool.and_eq_true, decide_eq_true_eq, UInt32.le_iff_toNat_le] at h
  have hn : ch.val.toNat = ch.toNat := rfl
  have hlow : ('A' : Char).val.toNat = 65 := rfl
  have hhigh : ('z' : Char).val.toNat = 122 := rfl
  have hZ : ('Z' : Char).val.toNat = 90 := rfl
  have ha : ('a' : Char).val.toNat = 97 := rfl
  omega

theorem endsPlain_of_isAlpha {ch : Char} (h : ch.isAlpha = true) (next : Option Char) :
    endsPlain false ch next = false := by
  simp only [endsPlain, isBreak]
  simp [ne_of_isAlpha h (show ' '.isAlpha = false by decide),
    ne_of_isAlpha h (show '\t'.isAlpha = false by decide),
    ne_of_isAlpha h (show '\n'.isAlpha = false by decide),
    ne_of_isAlpha h (show '\r'.isAlpha = false by decide),
    ne_of_isAlpha h (show '\x85'.isAlpha = false by decide),
    ne_of_isAlpha h (show '\u2028'.isAlpha = false by decide),
    ne_of_isAlpha h (show '\u2029'.isAlpha = false by decide),
    ne_of_isAlpha h (show ':'.isAlpha = false by decide)]

theorem plainLength_key {key rest : List Char} (hkey : ∀ ch ∈ key, ch.isAlpha = true)
    (hrest : endsToken rest.head? = true) : plainLength false (key ++ ':' :: rest) = key.length := by
  induction key with
  | nil =>
      rw [List.nil_append, plainLength, if_pos]
      · rfl
      · simp only [endsPlain]
        rw [hrest]
        rfl
  | cons ch key ih =>
      rw [List.cons_append, plainLength, endsPlain_of_isAlpha (hkey ch List.mem_cons_self),
        if_neg Bool.false_ne_true, ih fun d hd => hkey d (List.mem_cons_of_mem ch hd)]
      rfl

/-- A key is read as a plain scalar up to its colon. -/
theorem plainScalar_key {key rest : List Char} (hkey : IsKey key)
    (hrest : endsToken rest.head? = true) (indent : Int) (m : Mark) :
    plainScalar false indent (before m (key ++ ':' :: rest)) =
      .ok ⟨key, m.advance key.length, before (m.advance key.length) (':' :: rest), false⟩ := by
  obtain ⟨hne, hkey⟩ := hkey
  have hmoved : (before m (key ++ ':' :: rest)).forwardBy key.length =
      before (m.advance key.length) (':' :: rest) :=
    forwardBy_before (fun ch hch =>
      takesColumn_of_lt (Nat.le_of_lt (toNat_of_isAlpha (hkey ch hch)).1)
        (toNat_of_isAlpha (hkey ch hch)).2) m _
  have hhash : ¬ ((before m (key ++ ':' :: rest)).peek == some '#') = true := by
    cases key with
    | nil => exact absurd rfl hne
    | cons ch key =>
        rw [peek_before, List.cons_append, List.head?_cons, beq_iff_eq, Option.some.injEq]
        exact ne_of_isAlpha (hkey ch List.mem_cons_self) (by decide)
  have hlength : key.length ≠ 0 := fun h => hne (List.eq_nil_of_length_eq_zero h)
  have hblanks : plainBlanks (before (m.advance key.length) (':' :: rest)) =
      .ok (some [], false, before (m.advance key.length) (':' :: rest)) := by
    simp only [plainBlanks]
    rw [takeWhile_stops (by decide)]
    rfl
  simp only [plainScalar]
  rw [left_before, plainRest]
  dsimp only
  rw [if_neg hhash, rest_before, plainLength_key hkey hrest, hmoved, look_before, if_neg hlength, hblanks,
    List.nil_append, List.nil_append, List.take_left]
  rfl

theorem atMarker_of_ne {ch x : Char} (h : (ch == x) = false) (m : Mark) (rest : List Char) :
    (before m (ch :: rest)).atMarker x = false := by
  simp only [Cursor.atMarker]
  split
  · rename_i heq
    cases heq
    rw [h]
    rfl
  · rfl

/-- In a text that is there as a whole the kind of a token shows at once. -/
theorem run_readHere (h : r.cursor.beyond = none) :
    readHere.run r = (readAt (r.flow != 0) r.cursor).run r := by
  rw [readHere, run_bind_of_ok (StateT.run_get r)]
  dsimp only
  rw [look_of_beyond_eq_none h]
  rfl

/-- The reader takes a key for a plain scalar. -/
theorem run_readHere_alpha {ch : Char} {rest : List Char} {m : Mark} (hr : r.cursor = before m (ch :: rest))
    (hflow : r.flow = 0) (h : ch.isAlpha = true) : readHere.run r = readPlain.run r := by
  have hne (x : Char) (hx : x.isAlpha = false) : (ch == x) = false :=
    beq_eq_false_iff_ne.mpr (ne_of_isAlpha h hx)
  have hplain : startsPlain false ch ((before m (ch :: rest)).peekAt 1) = true := by
    have hends : endsToken (some ch) = false := by
      have := endsPlain_of_isAlpha h none
      rw [endsPlain] at this
      simp only [endsToken]
      simp only [Bool.or_eq_false_iff] at this ⊢
      exact this.1.1
    have hindicator : "-?:,[]\x7b\x7d#&*!|>'\"%@`".toList.contains ch = false := by
      rw [← Bool.not_eq_true, List.contains_iff_mem]
      intro hmem
      have hall : ("-?:,[]\x7b\x7d#&*!|>'\"%@`".toList.all fun x => !x.isAlpha) = true := by decide
      have hother := List.all_eq_true.mp hall ch hmem
      rw [h] at hother
      exact Bool.false_ne_true hother
    simp only [startsPlain, isIndicator]
    rw [hends, hindicator]
    rfl
  rw [run_readHere (by rw [hr]; rfl), hr, hflow, readAt]
  dsimp only [peek_before, List.head?_cons]
  rw [show (0 != 0) = false from rfl, atMarker_of_ne (hne '-' (by decide)),
    atMarker_of_ne (hne '.' (by decide)), hplain]
  simp only [hne '%' (by decide), hne '[' (by decide), hne '\x7b' (by decide), hne ']' (by decide),
    hne '\x7d' (by decide), hne ',' (by decide), hne '-' (by decide), hne '?' (by decide),
    hne ':' (by decide), hne '*' (by decide), hne '&' (by decide), hne '!' (by decide),
    hne '|' (by decide), hne '>' (by decide), hne '\'' (by decide), hne '"' (by decide),
    Bool.false_and, Bool.and_false, if_true, Bool.false_eq_true, if_false]

/-- A key is read as a scalar, and its place is remembered. -/
theorem run_readPlain {m : Mark} {key rest : List Char} (hkey : IsKey key)
    (hrest : endsToken rest.head? = true)
    (h : Stands r (before m (key ++ ':' :: rest)) true [] kinds columns) :
    ∃ k r', readPlain.run r = .ok ((), r') ∧ k.token = kinds.length ∧ k.mark = m ∧
      Stands r' (before (m.advance key.length) (':' :: rest)) false [(0, k)]
        (kinds ++ [.scalar (String.ofList key) true]) columns := by
  obtain ⟨k, r₁, hsave, h₁, htoken, hmark, -⟩ := run_saveKey h
  have hscalar : plainScalar (r₁.flow != 0) (r₁.indent + 1) r₁.cursor =
      .ok ⟨key, m.advance key.length, before (m.advance key.length) (':' :: rest), false⟩ := by
    rw [h₁.flow, h₁.cursor]
    exact plainScalar_key hkey hrest _ m
  obtain ⟨r₂, hallow, h₂⟩ := h₁.run_allowKey false
  obtain ⟨r₃, hadd, h₃⟩ := h₂.run_add
    ⟨.scalar (String.ofList key) true, r₁.cursor.mark, m.advance key.length⟩
  obtain ⟨r₄, hmove, h₄⟩ := h₃.run_moveTo (m.advance key.length) (':' :: rest)
  refine ⟨k, r₄, ?_, htoken, hmark, h₄⟩
  rw [readPlain, run_bind_of_ok hsave, run_bind_of_ok (StateT.run_get r₁),
    run_bind_of_ok (run_lift hscalar r₁), run_bind_of_ok hallow, run_bind_of_ok hadd, hmove]

/-- A colon makes a key of what stands before it. -/
theorem run_readValue {m : Mark} {rest : List Char} {k : PossibleKey} {scalar : TokenKind}
    (htoken : k.token = kinds.length) (hcolumns : ∀ j, columns.head? = some j → j ≤ k.mark.column)
    (h : Stands r (before m (':' :: rest)) false [(0, k)] (kinds ++ [scalar]) columns) :
    ∃ r', readValue.run r = .ok ((), r') ∧
      Stands r' (before (m.advance 1) rest) false []
        (kinds ++ startAt .blockMappingStart k.mark.column columns ++ [.key, scalar, .value])
        (openAt k.mark.column columns) := by
  have hfind : r.keys.find? (·.1 == r.flow) = some (0, k) := by
    rw [h.keys, h.flow]
    rfl
  have hfilter : r.keys.filter (·.1 != r.flow) = [] := by
    rw [h.keys, h.flow]
    rfl
  obtain ⟨r₁, hinsert, h₁⟩ := (h.setKeys []).insert .key k.mark
  obtain ⟨r₂, hbegin, h₂⟩ := run_begin .blockMappingStart h₁ hcolumns
    (fun h => h.insert .blockMappingStart k.mark) (allowKey false >>= fun _ => take .value 1)
  obtain ⟨r₃, hallow, h₃⟩ := h₂.run_allowKey false
  obtain ⟨r₄, htake, h₄⟩ := h₃.run_take (by decide) .value
  rw [List.append_assoc] at h₄
  refine ⟨r₄, ?_, h₄⟩
  rw [run_bind_of_ok hallow, htake] at hbegin
  rw [readValue, run_bind_of_ok (StateT.run_get r), hfind]
  dsimp only
  rw [run_bind_of_ok (StateT.run_modify _ _), hfilter, htoken, run_bind_of_ok hinsert, h.flow]
  exact hbegin

theorem peekAt_one (m : Mark) (ch : Char) (rest : List Char) :
    (before m (ch :: rest)).peekAt 1 = rest.head? := by
  simp only [Cursor.peekAt]
  cases rest <;> rfl

theorem run_readHere_colon {rest : List Char} {m : Mark} (hr : r.cursor = before m (':' :: rest))
    (hrest : endsToken rest.head? = true) : readHere.run r = readValue.run r := by
  rw [run_readHere (by rw [hr]; rfl), hr, readAt]
  dsimp only [peek_before, List.head?_cons]
  rw [peekAt_one, hrest, atMarker_of_ne (by decide), atMarker_of_ne (by decide), Bool.and_false,
    Bool.or_true]
  rfl

/-- A quoted text after a colon is read. -/
theorem run_readQuoted {m m' : Mark} {quoted text rest : List Char}
    (hread : quotedScalar true (before m quoted) = .ok (text, before m' rest))
    (h : Stands r (before m quoted) false [] kinds columns) :
    ∃ r', (readQuoted true).run r = .ok ((), r') ∧
      Stands r' (before m' rest) false [] (kinds ++ [.scalar (String.ofList text) false]) columns := by
  obtain ⟨r₁, hallow, h₁⟩ := h.run_allowKey false
  obtain ⟨r₂, hadd, h₂⟩ := h₁.run_add ⟨.scalar (String.ofList text) false, m, m'⟩
  obtain ⟨r₃, hmove, h₃⟩ := h₂.run_moveTo m' rest
  refine ⟨r₃, ?_, h₃⟩
  rw [readQuoted, run_bind_of_ok (run_saveKey_refused h.allowed), run_bind_of_ok hallow,
    run_bind_of_ok (run_here r₁), h₁.cursor, hread]
  exact (run_bind_of_ok (f := fun _ => moveTo (before m' rest)) hadd).trans hmove

/-- A quoted text that is refused ends the reading. -/
theorem run_readQuoted_error {m : Mark} {quoted : List Char} {f : Fault}
    (hread : quotedScalar true (before m quoted) = .error f)
    (h : Stands r (before m quoted) false [] kinds columns) : (readQuoted true).run r = .error f := by
  obtain ⟨r₁, hallow, h₁⟩ := h.run_allowKey false
  rw [readQuoted, run_bind_of_ok (run_saveKey_refused h.allowed), run_bind_of_ok hallow,
    run_bind_of_ok (run_here r₁), h₁.cursor, hread]
  rfl

/-- A dash begins an entry, and a sequence unless one is open at its column. -/
theorem run_readBlockEntry {m : Mark} {rest : List Char}
    (hcolumns : ∀ k, columns.head? = some k → k ≤ m.column)
    (h : Stands r (before m ('-' :: rest)) true [] kinds columns) :
    ∃ r', readBlockEntry.run r = .ok ((), r') ∧
      Stands r' (before (m.advance 1) rest) true []
        (kinds ++ startAt .blockSequenceStart m.column columns ++ [.blockEntry])
        (openAt m.column columns) := by
  rw [← List.append_nil kinds] at h
  obtain ⟨r₁, hbegin, h₁⟩ := run_begin .blockSequenceStart h hcolumns
    (fun {r} h => by
      rw [List.append_nil] at h
      exact h.run_mark .blockSequenceStart)
    (allowKey true >>= fun _ => forgetKey >>= fun _ => take .blockEntry 1)
  rw [List.append_nil] at h₁
  obtain ⟨r₂, hallow, h₂⟩ := h₁.run_allowKey true
  obtain ⟨r₃, htake, h₃⟩ := h₂.run_take (by decide) .blockEntry
  refine ⟨r₃, ?_, h₃⟩
  rw [run_bind_of_ok hallow, run_bind_of_ok h₂.run_forgetKey, htake] at hbegin
  rw [readBlockEntry, run_bind_of_ok (StateT.run_get r)]
  simp only [h.flow, h.allowed, h.cursor]
  exact hbegin

theorem run_readHere_quote {rest : List Char} {m : Mark} (hr : r.cursor = before m ('"' :: rest)) :
    readHere.run r = (readQuoted true).run r := by
  rw [run_readHere (by rw [hr]; rfl), hr, readAt]
  dsimp only [peek_before, List.head?_cons]
  rw [atMarker_of_ne (by decide), atMarker_of_ne (by decide), Bool.and_false]
  rfl

theorem run_readHere_dash {rest : List Char} {m : Mark}
    (hr : r.cursor = before m ('-' :: ' ' :: rest)) : readHere.run r = readBlockEntry.run r := by
  have hmarker : (before m ('-' :: ' ' :: rest)).atMarker '-' = false := by
    cases rest <;> rfl
  rw [run_readHere (by rw [hr]; rfl), hr, readAt]
  dsimp only [peek_before, List.head?_cons]
  rw [hmarker, atMarker_of_ne (by decide), Bool.and_false]
  rfl

theorem run_readHere_open {rest : List Char} {m : Mark} (hr : r.cursor = before m ('\x7b' :: rest)) :
    readHere.run r = (readFlowStart .flowMappingStart).run r := by
  rw [run_readHere (by rw [hr]; rfl), hr, readAt]
  dsimp only [peek_before, List.head?_cons]
  rw [atMarker_of_ne (by decide), atMarker_of_ne (by decide), Bool.and_false]
  rfl

theorem run_readHere_close {rest : List Char} {m : Mark} (hr : r.cursor = before m ('\x7d' :: rest)) :
    readHere.run r = (readFlowEnd .flowMappingEnd).run r := by
  rw [run_readHere (by rw [hr]; rfl), hr, readAt]
  dsimp only [peek_before, List.head?_cons]
  rw [atMarker_of_ne (by decide), atMarker_of_ne (by decide), Bool.and_false]
  rfl

/-- The reader inside of a flow collection, as it would stand without it. -/
def Inside (r : Reading) (c : Cursor) (keys : List (Nat × PossibleKey)) (kinds : List TokenKind)
    (columns : List Nat) : Prop :=
  r.flow = 1 ∧ Stands { r with flow := 0 } c true keys kinds columns

/-- An empty mapping opens. Its place might be that of a key, but none is needed there. -/
theorem run_readFlowStart {m : Mark} {rest : List Char} (hopen : columns.head? ≠ some m.column)
    (h : Stands r (before m ('\x7b' :: rest)) true [] kinds columns) :
    ∃ k r', (readFlowStart .flowMappingStart).run r = .ok ((), r') ∧ k.mark = m ∧ k.required = false ∧
      Inside r' (before (m.advance 1) rest) [(0, k)] (kinds ++ [.flowMappingStart]) columns := by
  obtain ⟨k, r₁, hsave, h₁, -, hmark, hrequired⟩ := run_saveKey h
  have hmoved : r₁.cursor.forwardBy 1 = before (m.advance 1) rest := by
    rw [h₁.cursor]
    rfl
  obtain ⟨-, -, -, hkinds, hcount, -, hcolumns, hrunning⟩ :=
    h₁.add ⟨.flowMappingStart, r₁.cursor.mark, (r₁.cursor.forwardBy 1).mark⟩
  refine ⟨k, { r₁ with
      flow := r₁.flow + 1
      keyAllowed := true
      tokens := ⟨.flowMappingStart, r₁.cursor.mark, (r₁.cursor.forwardBy 1).mark⟩ :: r₁.tokens
      count := r₁.count + 1
      cursor := r₁.cursor.forwardBy 1 }, ?_, hmark, hrequired hopen, ?_, hmoved, rfl, h₁.keys, hkinds,
    hcount, rfl, hcolumns, hrunning⟩
  · rw [readFlowStart, run_bind_of_ok hsave, run_bind_of_ok (StateT.run_modify _ _)]
    exact run_take (by exact congrArg Cursor.beyond h₁.cursor) _ 1
  · show r₁.flow + 1 = 1
    rw [h₁.flow]

/-- An empty mapping closes. -/
theorem run_readFlowEnd {m : Mark} {rest : List Char} {k : PossibleKey}
    (h : Inside r (before m ('\x7d' :: rest)) [(0, k)] kinds columns) :
    ∃ r', (readFlowEnd .flowMappingEnd).run r = .ok ((), r') ∧
      Stands r' (before (m.advance 1) rest) false [(0, k)] (kinds ++ [.flowMappingEnd]) columns := by
  obtain ⟨hflow, h⟩ := h
  have hcursor : r.cursor = before m ('\x7d' :: rest) := h.cursor
  have hkeys : r.keys = [(0, k)] := h.keys
  have hforget : forgetKey.run r = .ok ((), r) := by
    obtain ⟨cursor, tokens, count, flow, indent, indents, keyAllowed, keys, done⟩ := r
    cases hkeys
    cases hflow
    rfl
  have hmoved : r.cursor.forwardBy 1 = before (m.advance 1) rest := by
    rw [hcursor]
    rfl
  obtain ⟨-, -, -, hkinds, hcount, -, hcolumns, hrunning⟩ :=
    h.add ⟨.flowMappingEnd, r.cursor.mark, (r.cursor.forwardBy 1).mark⟩
  refine ⟨{ r with
      flow := r.flow - 1
      keyAllowed := false
      tokens := ⟨.flowMappingEnd, r.cursor.mark, (r.cursor.forwardBy 1).mark⟩ :: r.tokens
      count := r.count + 1
      cursor := r.cursor.forwardBy 1 }, ?_, hmoved, rfl, hkeys, hkinds, hcount, ?_, hcolumns, hrunning⟩
  · rw [readFlowEnd, run_bind_of_ok hforget, run_bind_of_ok (StateT.run_modify _ _)]
    exact run_take (by exact congrArg Cursor.beyond hcursor) _ 1
  · show r.flow - 1 = 0
    rw [hflow]

/-- Inside of a flow collection a token that follows at once is come to without any change. -/
theorem run_approach_inside {m : Mark} {rest : List Char} (hr : r.cursor = before m rest)
    (hrest : Starts rest) (hkeys : Near m r.keys) (hflow : r.flow = 1) :
    approach.run r = .ok ((), r) := by
  have hmark : ¬ (r.cursor.mark.index == 0 && r.cursor.peek == some '\uFEFF') = true := by
    rw [hr, Bool.and_eq_true, not_and, peek_before]
    intro _
    rw [beq_iff_eq]
    exact hrest.ne '\uFEFF' (by decide)
  have hsame : { r with cursor := before (m.advance 0) rest } = r := by
    rw [Mark.advance_zero, ← hr]
  have hskip := run_skipToToken_here (n := 0) hr hrest r.cursor.left
  rw [hsame] at hskip
  rw [approach, run_bind_of_ok (StateT.run_get r), if_neg hmark, run_bind_of_ok hskip,
    run_bind_of_ok (run_dropStaleKeys_near (by rw [hr]; exact hkeys)), run_bind_of_ok (run_here r),
    unwindTo, run_bind_of_ok (StateT.run_get r), hflow]
  rfl

-- ── the end of the text ───────────────────────────────────────────────────

theorem run_readHere_end {m : Mark} (hr : r.cursor = before m []) : readHere.run r = readStreamEnd.run r := by
  rw [run_readHere (by rw [hr]; rfl), hr]
  rfl

/-- At the end of the text every open collection is ended. -/
theorem run_readStreamEnd {m : Mark} (h : Stands r (before m []) true [] kinds columns) :
    ∃ r', readStreamEnd.run r = .ok ((), r') ∧ r'.done = true ∧ r'.keys = [] ∧
      r'.tokens.reverse.map (·.kind) =
        kinds ++ List.replicate columns.length .blockEnd ++ [.streamEnd] := by
  have hall : Stands r (before m []) true [] kinds (columns ++ []) := by
    rw [List.append_nil]
    exact h
  have hnone (k : Nat) (hk : ([] : List Nat).head? = some k) : (k : Int) ≤ -1 := nomatch hk
  obtain ⟨r₁, hunwind, h₁⟩ := run_unwindTo (-1) columns (fun k _ => by omega) hnone (by omega) hall
  obtain ⟨r₂, hallow, h₂⟩ := h₁.run_allowKey false
  refine ⟨{ r₂ with
      keys := []
      done := true
      tokens := ⟨.streamEnd, r₂.cursor.mark, r₂.cursor.mark⟩ :: r₂.tokens
      count := r₂.count + 1 }, ?_, rfl, rfl, ?_⟩
  · rw [readStreamEnd, run_bind_of_ok hunwind, run_bind_of_ok h₁.run_forgetKey,
      run_bind_of_ok hallow, run_bind_of_ok (StateT.run_modify _ _)]
    exact run_mark _ _
  · rw [List.reverse_cons, List.map_append, h₂.kinds]
    rfl

end ReadM

end ElementLocator.Yaml
