import ElementLocator.Proofs.Yaml.TokenRead

/-! # From line to line

    The token reader over whole pieces of an outline. Between two pieces it is before a token
    (`Ready`) or at the end of a line (`Ended`); the open collections that the next line will
    end are already counted as ended then, so that what is read so far does not depend on how
    deep the last line stood.

    * `Steps` — the reader gets from one state to another, in no more steps than there are
      characters between;
    * `steps_key`, `steps_quoted`, `steps_entry`, `steps_empty` — the pieces of a line;
    * `ready_of_ended` — from the end of a line to the first token of the next one;
    * `ready_start`, `tokensOf_of_steps` — from the start of a text to its tokens. -/

namespace ElementLocator.Yaml

open Cursor ReadM

-- ── steps ─────────────────────────────────────────────────────────────────

/-- Reading goes on from another state, after no more steps than there are characters between. -/
def Steps (r r' : Reading) : Prop :=
  ∃ n, n + r'.cursor.left ≤ r.cursor.left ∧ ∀ fuel, readTokens (fuel + n) r = readTokens fuel r'

theorem Steps.refl (r : Reading) : Steps r r := ⟨0, by omega, fun _ => rfl⟩

theorem Steps.trans {r r' r'' : Reading} (h : Steps r r') (h' : Steps r' r'') : Steps r r'' := by
  obtain ⟨n, hn, hrun⟩ := h
  obtain ⟨k, hk, hrun'⟩ := h'
  refine ⟨k + n, by omega, ?_⟩
  intro fuel
  rw [← Nat.add_assoc, hrun, hrun']

/-- Whether reading gets before a token on its way to the next one. -/
def Arrives (r r' : Reading) : Prop :=
  ∃ r₀, dropStaleKeys.run r = .ok ((), r₀) ∧ r₀.done = false ∧ approach.run r₀ = .ok ((), r')

theorem Arrives.step {r r₁ r' : Reading} (h : Arrives r r₁) (hread : readHere.run r₁ = .ok ((), r'))
    (fuel : Nat) : readTokens (fuel + 1) r = readTokens fuel r' := by
  obtain ⟨r₀, hdrop, hrunning, hcome⟩ := h
  have htoken : readToken.run r₀ = .ok ((), r') := by
    rw [readToken, run_bind_of_ok hcome, hread]
  rw [readTokens, hdrop]
  dsimp only
  rw [hrunning, htoken]
  rfl

variable {r : Reading} {kinds : List TokenKind} {columns : List Nat} {rest : List Char}

theorem arrives_here {m : Mark} {n : Nat} {allowed : Bool} {keys : List (Nat × PossibleKey)}
    (h : Stands r (before m (List.replicate n ' ' ++ rest)) allowed keys kinds columns)
    (hrest : Starts rest) (hkeys : Near m keys) (hkeys' : Near (m.advance n) keys)
    (hcolumns : ∀ k, columns.head? = some k → k ≤ m.column + n) :
    ∃ r', Arrives r r' ∧ Stands r' (before (m.advance n) rest) allowed keys kinds columns := by
  obtain ⟨r', hcome, hr'⟩ := run_approach_here h hrest hkeys' hcolumns
  refine ⟨r', ⟨r, run_dropStaleKeys_near ?_, h.running, hcome⟩, hr'⟩
  rw [h.cursor, h.keys]
  exact hkeys

theorem near_nil (m : Mark) : Near m [] := fun _ h => nomatch h

theorem passing_nil (m : Mark) : Passing m [] := fun _ h => nomatch h

-- ── places between pieces ─────────────────────────────────────────────────

/-- The reader comes to a token at a column where a key may begin. -/
def Ready (r : Reading) (column : Nat) (kinds : List TokenKind) (columns : List Nat)
    (rest : List Char) : Prop :=
  ∃ r' m, Arrives r r' ∧ m.column = column ∧ Stands r' (before m rest) true [] kinds columns ∧
    rest.length ≤ r.cursor.left ∧ ∀ k, columns.head? = some k → k ≤ column

/-- The reader is past the colon of a key. -/
def AfterColon (r : Reading) (kinds : List TokenKind) (columns : List Nat) (rest : List Char) : Prop :=
  ∃ m, Stands r (before m rest) false [] kinds columns ∧ ∀ k, columns.head? = some k → k ≤ m.column

/-- The reader is at the end of a line. -/
def LineEnd (r : Reading) (kinds : List TokenKind) (columns : List Nat) (rest : List Char) : Prop :=
  ∃ m allowed keys, Stands r (before m rest) allowed keys kinds columns ∧ Near m keys ∧ Passing m keys

/-- The reader is at the end of a line, and once the collections that are indented by `least` or
    more are ended, the tokens and the open collections are as given. -/
def Ended (r : Reading) (kinds : List TokenKind) (least : Nat) (columns : List Nat)
    (rest : List Char) : Prop :=
  ∃ kinds' opened, LineEnd r kinds' (opened ++ columns) rest ∧
    kinds = kinds' ++ List.replicate opened.length .blockEnd ∧ ∀ k ∈ opened, least ≤ k

theorem AfterColon.lineEnd (h : AfterColon r kinds columns rest) : LineEnd r kinds columns rest := by
  obtain ⟨m, h, -⟩ := h
  exact ⟨m, false, [], h, near_nil m, passing_nil m⟩

theorem LineEnd.ended (h : LineEnd r kinds columns rest) (least : Nat) :
    Ended r kinds least columns rest :=
  ⟨kinds, [], h, (List.append_nil kinds).symm, fun _ hk => nomatch hk⟩

/-- The innermost collections count as ended. -/
theorem Ended.close {least : Nat} (closed : List Nat) (least' : Nat)
    (h : Ended r kinds least (closed ++ columns) rest) (hleast : least' ≤ least)
    (hclosed : ∀ k ∈ closed, least' ≤ k) :
    Ended r (kinds ++ List.replicate closed.length .blockEnd) least' columns rest := by
  obtain ⟨kinds', opened, hend, rfl, hopened⟩ := h
  refine ⟨kinds', opened ++ closed, ?_, ?_, ?_⟩
  · rw [List.append_assoc]
    exact hend
  · rw [List.append_assoc, List.length_append, List.replicate_append_replicate]
  · intro k hk
    rcases List.mem_append.mp hk with hk | hk
    · exact Nat.le_trans hleast (hopened k hk)
    · exact hclosed k hk

/-- **FROM LINE TO LINE**: past the break the reader comes to the first token of the next line. -/
theorem ready_of_ended {least column : Nat}
    (h : Ended r kinds least columns ('\n' :: (List.replicate column ' ' ++ rest)))
    (hrest : Starts rest) (hleast : column < least)
    (hcolumns : ∀ k, columns.head? = some k → k ≤ column) : Ready r column kinds columns rest := by
  obtain ⟨kinds', opened, ⟨m, allowed, keys, hstands, hnear, hpassing⟩, rfl, hopened⟩ := h
  obtain ⟨r', m', hcome, hcolumn, hr'⟩ := run_approach_line hstands hrest hpassing
    (fun k hk => Nat.lt_of_lt_of_le hleast (hopened k hk)) hcolumns
  refine ⟨r', m', ⟨r, run_dropStaleKeys_near ?_, hstands.running, hcome⟩, hcolumn, hr', ?_, hcolumns⟩
  · rw [hstands.cursor, hstands.keys]
    exact hnear
  · rw [hstands.cursor, left_before, List.length_cons, List.length_append]
    omega

-- ── pieces of a line ──────────────────────────────────────────────────────

/-- **A KEY AND ITS COLON** begin a mapping, unless one is open at the column. -/
theorem steps_key {column : Nat} {key : List Char} (hkey : IsKey key) (hshort : key.length ≤ 1024)
    (hrest : endsToken rest.head? = true)
    (h : Ready r column kinds columns (key ++ ':' :: rest)) :
    ∃ r', Steps r r' ∧
      AfterColon r'
        (kinds ++ startAt .blockMappingStart column columns ++
          [.key, .scalar (String.ofList key) true, .value])
        (openAt column columns) rest := by
  obtain ⟨r₁, m, hcome, rfl, h₁, hleft, hcolumns⟩ := h
  obtain ⟨k, r₂, hread, htoken, hmark, h₂⟩ := run_readPlain hkey hrest h₁
  have hhere : readHere.run r₁ = .ok ((), r₂) := by
    obtain ⟨hne, halpha⟩ := hkey
    cases key with
    | nil => exact absurd rfl hne
    | cons ch key => rw [run_readHere_alpha h₁.cursor h₁.flow (halpha ch List.mem_cons_self), hread]
  have hnear : Near (m.advance key.length) [(0, k)] := by
    intro j hj
    rw [List.mem_singleton.mp hj]
    dsimp only
    rw [hmark, Mark.advance_line, Mark.advance_index]
    exact ⟨rfl, by omega⟩
  obtain ⟨r₃, hcome', h₃⟩ := arrives_here (n := 0) h₂ (by
      intro ch hch
      rw [← Option.some.inj hch]
      decide) hnear hnear fun j hj => by
    have := hcolumns j hj
    rw [Mark.advance_column]
    omega
  obtain ⟨r₄, hread', h₄⟩ := run_readValue htoken (hmark ▸ hcolumns) h₃
  rw [hmark] at h₄
  refine ⟨r₄, ⟨2, ?_, fun fuel => ?_⟩, _, h₄, ?_⟩
  · rw [h₄.cursor, left_before]
    rw [List.length_append, List.length_cons] at hleft
    have hone : key.length ≠ 0 := fun hzero => hkey.1 (List.eq_nil_of_length_eq_zero hzero)
    omega
  · rw [hcome.step hhere, hcome'.step (by rw [run_readHere_colon h₃.cursor hrest, hread'])]
  · intro j hj
    rw [Mark.advance_zero, Mark.advance_column, Mark.advance_column]
    rw [openAt] at hj
    split at hj
    · have := hcolumns j hj
      omega
    · rw [List.head?_cons, Option.some.injEq] at hj
      omega

/-- After a colon the reader comes to a quoted text behind a blank. -/
theorem arrives_quote {quoted : List Char} (h : AfterColon r kinds columns (' ' :: '"' :: quoted)) :
    ∃ m r₁, Arrives r r₁ ∧ Stands r₁ (before m ('"' :: quoted)) false [] kinds columns := by
  obtain ⟨m, h, hcolumns⟩ := h
  obtain ⟨r₁, hcome, h₁⟩ := arrives_here (n := 1) h (by
      intro ch hch
      rw [← Option.some.inj hch]
      decide) (near_nil m) (near_nil _) fun j hj => by
    have := hcolumns j hj
    omega
  exact ⟨_, r₁, hcome, h₁⟩

/-- **A QUOTED TEXT** after a colon is read, or refused with all tokens before it settled. -/
theorem steps_quotedScalar {quoted : List Char} (h : AfterColon r kinds columns (' ' :: '"' :: quoted)) :
    ∃ m, (∀ {text m' rest}, rest.length ≤ quoted.length →
        quotedScalar true (before m ('"' :: quoted)) = .ok (text, before m' rest) →
        ∃ r', Steps r r' ∧ LineEnd r' (kinds ++ [.scalar (String.ofList text) false]) columns rest) ∧
      ∀ {f}, quotedScalar true (before m ('"' :: quoted)) = .error f →
        ∃ ts : List Token, (∀ fuel, readTokens (fuel + 1) r = ⟨ts, some f⟩) ∧ ts.map (·.kind) = kinds := by
  obtain ⟨m, r₁, hcome, h₁⟩ := arrives_quote h
  obtain ⟨m₀, h, -⟩ := h
  refine ⟨m, fun {text m' rest} hlength hread => ?_, fun {f} hread => ?_⟩
  · obtain ⟨r₂, hrun, h₂⟩ := run_readQuoted hread h₁
    refine ⟨r₂, ⟨1, ?_, fun fuel => ?_⟩, m', false, [], h₂, near_nil m', passing_nil m'⟩
    · rw [h₂.cursor, h.cursor, left_before, left_before, List.length_cons, List.length_cons]
      omega
    · exact hcome.step (by rw [run_readHere_quote h₁.cursor, hrun]) fuel
  · have hhere : readHere.run r₁ = .error f := by
      rw [run_readHere_quote h₁.cursor]
      exact run_readQuoted_error hread h₁
    have hstale : dropStaleKeys.run r = .ok ((), r) :=
      run_dropStaleKeys_near (by rw [h.keys]; exact near_nil _)
    obtain ⟨r₀, hdrop, hrunning, happroach⟩ := hcome
    obtain rfl : r₀ = r := by
      rw [hstale] at hdrop
      exact (congrArg Prod.snd (Except.ok.inj hdrop)).symm
    have hsettled : r₀.settled = r₀.tokens.reverse := by
      simp only [Reading.settled]
      rw [h.keys, List.foldl_nil, h.count, ← List.length_reverse, List.take_length]
    refine ⟨r₀.tokens.reverse, fun fuel => ?_, h.kinds⟩
    rw [readTokens, hdrop]
    dsimp only
    rw [hrunning, if_neg Bool.false_ne_true, readToken, run_bind_of_ok happroach, hhere, hsettled]

/-- **A LEGIBLE TEXT** in quotes after a colon ends the line. -/
theorem steps_quoted {cs : List Char} (hcs : ∀ ch ∈ cs, Legible ch)
    (h : AfterColon r kinds columns (' ' :: '"' :: (Text.Quoted.body cs ++ '"' :: rest))) :
    ∃ r', Steps r r' ∧ LineEnd r' (kinds ++ [.scalar (String.ofList cs) false]) columns rest := by
  obtain ⟨m, hread, -⟩ := steps_quotedScalar h
  obtain ⟨m', hquote⟩ := quotedScalar_quote hcs m rest
  refine hread ?_ hquote
  rw [List.length_append, List.length_cons]
  omega

/-- **A DASH** begins an entry, and a sequence unless one is open at the column; the entry itself
    begins two columns further on. -/
theorem steps_entry {column : Nat} (hrest : Starts rest)
    (h : Ready r column kinds columns ('-' :: ' ' :: rest)) :
    ∃ r', Steps r r' ∧
      Ready r' (column + 2) (kinds ++ startAt .blockSequenceStart column columns ++ [.blockEntry])
        (openAt column columns) rest := by
  obtain ⟨r₁, m, hcome, rfl, h₁, hleft, hcolumns⟩ := h
  obtain ⟨r₂, hread, h₂⟩ := run_readBlockEntry hcolumns h₁
  have hopen (j : Nat) (hj : (openAt m.column columns).head? = some j) : j ≤ m.column := by
    rw [openAt] at hj
    split at hj
    · exact hcolumns j hj
    · rw [List.head?_cons, Option.some.injEq] at hj
      omega
  obtain ⟨r₃, hcome', h₃⟩ := arrives_here (n := 1) h₂ hrest (near_nil _) (near_nil _) fun j hj => by
    have := hopen j hj
    rw [Mark.advance_column]
    omega
  rw [List.length_cons, List.length_cons] at hleft
  refine ⟨r₂, ⟨1, ?_, fun fuel => ?_⟩, r₃, _, hcome', rfl, h₃, ?_, fun j hj => ?_⟩
  · rw [h₂.cursor, left_before, List.length_cons]
    omega
  · exact hcome.step (by rw [run_readHere_dash h₁.cursor, hread]) fuel
  · rw [h₂.cursor, left_before, List.length_cons]
    omega
  · have := hopen j hj
    omega

/-- **AN EMPTY MAPPING** ends the line. -/
theorem steps_empty {column : Nat} (hopen : columns.head? ≠ some column)
    (h : Ready r column kinds columns ('\x7b' :: '\x7d' :: rest)) :
    ∃ r', Steps r r' ∧ LineEnd r' (kinds ++ [.flowMappingStart, .flowMappingEnd]) columns rest := by
  obtain ⟨r₁, m, hcome, rfl, h₁, hleft, hcolumns⟩ := h
  obtain ⟨k, r₂, hread, hmark, hrequired, hflow, h₂⟩ := run_readFlowStart hopen h₁
  have hcursor : r₂.cursor = before (m.advance 1) ('\x7d' :: rest) := h₂.cursor
  have hnear (n : Nat) (hn : n ≤ 1024) : Near (m.advance n) [(0, k)] := by
    intro j hj
    rw [List.mem_singleton.mp hj]
    dsimp only
    rw [hmark, Mark.advance_line, Mark.advance_index]
    exact ⟨rfl, by omega⟩
  have hkeys : Near (m.advance 1) r₂.keys := by
    rw [show r₂.keys = [(0, k)] from h₂.keys]
    exact hnear 1 (by decide)
  have hcome' : Arrives r₂ r₂ :=
    ⟨r₂, run_dropStaleKeys_near (by rw [hcursor]; exact hkeys), h₂.running,
      run_approach_inside hcursor (by
        intro ch hch
        rw [← Option.some.inj hch]
        decide) hkeys hflow⟩
  obtain ⟨r₃, hread', h₃⟩ := run_readFlowEnd ⟨hflow, h₂⟩
  rw [List.append_assoc] at h₃
  refine ⟨r₃, ⟨2, ?_, fun fuel => ?_⟩, (m.advance 1).advance 1, false, [(0, k)], h₃, ?_, ?_⟩
  · rw [h₃.cursor, left_before]
    rw [List.length_cons, List.length_cons] at hleft
    omega
  · rw [hcome.step (by rw [run_readHere_open h₁.cursor, hread]),
      hcome'.step (by rw [run_readHere_close hcursor, hread'])]
  · exact hnear 2 (by decide)
  · intro j hj
    rw [List.mem_singleton.mp hj]
    exact ⟨hrequired, by rw [hmark]; rfl⟩

/-- **THE END OF THE TEXT** ends all collections and the tokens. -/
theorem readTokens_of_ready {column : Nat} (h : Ready r column kinds columns []) :
    ∃ ts : List Token, (∀ fuel, readTokens (fuel + 2) r = ⟨ts, none⟩) ∧
      ts.map (·.kind) = kinds ++ List.replicate columns.length .blockEnd ++ [.streamEnd] := by
  obtain ⟨r₁, m, hcome, -, h₁, -, -⟩ := h
  obtain ⟨r₂, hread, hdone, hkeys, hkinds⟩ := run_readStreamEnd h₁
  refine ⟨r₂.tokens.reverse, fun fuel => ?_, hkinds⟩
  have hdrop : dropStaleKeys.run r₂ = .ok ((), r₂) :=
    run_dropStaleKeys_near (by rw [hkeys]; exact near_nil _)
  rw [hcome.step (by rw [run_readHere_end h₁.cursor, hread]), readTokens, hdrop]
  dsimp only
  rw [hdone]
  rfl

-- ── the whole text ────────────────────────────────────────────────────────

/-- At its start the reader comes to the first token. -/
theorem ready_start {cs : List Char} (h : Starts cs) : Ready (Reading.start cs) 0 [] [] cs := by
  have hstart : Stands (Reading.start cs) (before ⟨0, 0, 0⟩ (List.replicate 0 ' ' ++ cs)) true [] [] [] :=
    ⟨rfl, rfl, rfl, rfl, rfl, rfl, rfl, rfl⟩
  obtain ⟨r, hcome, hr⟩ := arrives_here hstart h (near_nil _) (near_nil _) fun k hk => by cases hk
  exact ⟨r, _, hcome, rfl, hr, Nat.le_refl _, fun k hk => by cases hk⟩

/-- The tokens of a text are those read from a state that reading gets to. -/
theorem tokensOf_of_steps {cs : List Char} (h : Steps (Reading.start cs) r) {x : Tokens}
    (hx : ∀ fuel, readTokens (fuel + 2) r = x) : tokensOf cs = x := by
  obtain ⟨n, hn, hrun⟩ := h
  have hleft : (Reading.start cs).cursor.left = cs.length := rfl
  obtain ⟨fuel, hfuel⟩ : ∃ fuel, cs.length + 2 = fuel + 2 + n := ⟨cs.length - n, by omega⟩
  rw [tokensOf, hfuel, hrun, hx]

end ElementLocator.Yaml
