import ElementLocator.Proofs.Yaml.QuotedText

/-! # What comes back of quoted texts

    Blanks of a quoted text come back in their places, unless a line ends beside them: what the
    reader makes of the lines of a text is folded. So a text need not come back, and one that does
    not has grown shorter or holds another character; or it is refused, where a line begins with
    the marker of a document.

    * `quotedBreaks_body`, `quotedBlanks_body` — a run of blanks and breaks is read as something
      that is no longer than the run;
    * `quotedScalar_body` — what is read is no longer than what was quoted, and it is the same text
      if and only if nothing is folded;
    * `quotedScalar_quote` — a legible text comes back, and the cursor stands after the closing
      quote. -/

namespace ElementLocator.Yaml

open Text.Quoted (escape body)

open Cursor

variable (start : Mark)

-- ── markers of documents ──────────────────────────────────────────────────

theorem opensMarker_iff {cs : List Char} :
    opensMarker cs = true ↔
      ∃ x w cs', (x = '-' ∨ x = '.') ∧ cs = x :: x :: x :: w :: cs' ∧ isSpacing w = true := by
  constructor
  · intro h
    simp only [opensMarker] at h
    split at h
    · rename_i x y z w cs'
      simp only [Bool.and_eq_true, Bool.or_eq_true, beq_iff_eq] at h
      obtain ⟨⟨⟨rfl, rfl⟩, rfl⟩ | ⟨⟨rfl, rfl⟩, rfl⟩, hw⟩ := h
      · exact ⟨_, w, cs', Or.inl rfl, rfl, hw⟩
      · exact ⟨_, w, cs', Or.inr rfl, rfl, hw⟩
    · exact absurd h Bool.false_ne_true
  · rintro ⟨x, w, cs', rfl | rfl, rfl, hw⟩
    · exact hw
    · exact hw

theorem atMarker_iff {m : Mark} {cs : List Char} {x : Char} :
    (before m cs).atMarker x = true ↔ ∃ ds, cs = x :: x :: x :: ds ∧ endsToken ds.head? = true := by
  constructor
  · intro h
    simp only [Cursor.atMarker] at h
    rw [rest_before] at h
    split at h
    · rename_i ds
      simp only [Bool.and_eq_true, beq_iff_eq] at h
      obtain ⟨⟨⟨rfl, rfl⟩, rfl⟩, hds⟩ := h
      exact ⟨ds, rfl, hds⟩
    · exact absurd h Bool.false_ne_true
  · rintro ⟨ds, rfl, hds⟩
    simp only [Cursor.atMarker, rest_before]
    rw [beq_self_eq_true x, hds]
    rfl

/-- After a marker only spacing ends it. -/
theorem endsToken_body {cs rest : List Char} :
    endsToken (body cs ++ '"' :: rest).head? = true ↔ ∃ w cs', cs = w :: cs' ∧ isSpacing w = true := by
  constructor
  · intro h
    by_cases hspacing : ∀ ch, cs.head? = some ch → isSpacing ch = false
    · obtain ⟨x, xs, hbody, hblank, hbreak⟩ := head_body hspacing rest
      rw [hbody, List.head?_cons] at h
      simp only [endsToken] at h
      rw [hblank, hbreak] at h
      exact absurd h Bool.false_ne_true
    · cases cs with
      | nil => exact absurd (fun _ hd => by cases hd) hspacing
      | cons w cs' =>
          by_cases hw : isSpacing w = true
          · exact ⟨w, cs', rfl, hw⟩
          · refine absurd (fun ch hch => ?_) hspacing
            rw [← Option.some.inj hch]
            exact eq_false_of_ne_true hw
  · rintro ⟨w, cs', rfl, hw⟩
    rw [body_cons, escape_of_isSpacing hw]
    show endsToken (some w) = true
    rcases isSpacing_iff.mp hw with rfl | hbreak
    · rfl
    · rcases isBareBreak_iff.mp hbreak with rfl | rfl | rfl <;> rfl

theorem atMarker_body {x : Char} (hx : escape x = [x]) (hslash : x ≠ '\\') (hquote : x ≠ '"')
    {m : Mark} {cs rest : List Char} :
    (before m (body cs ++ '"' :: rest)).atMarker x = true ↔
      ∃ w cs', cs = x :: x :: x :: w :: cs' ∧ isSpacing w = true := by
  rw [atMarker_iff]
  constructor
  · rintro ⟨ds, hcs, hds⟩
    obtain ⟨cs₁, rfl, hcs₁⟩ := (quoted_cons_iff hx hslash hquote _ _ _).mp hcs
    obtain ⟨cs₂, rfl, hcs₂⟩ := (quoted_cons_iff hx hslash hquote _ _ _).mp hcs₁.symm
    obtain ⟨cs₃, rfl, rfl⟩ := (quoted_cons_iff hx hslash hquote _ _ _).mp hcs₂.symm
    obtain ⟨w, cs', rfl, hw⟩ := endsToken_body.mp hds
    exact ⟨w, cs', rfl, hw⟩
  · rintro ⟨w, cs', rfl, hw⟩
    refine ⟨body (w :: cs') ++ '"' :: rest, ?_, endsToken_body.mpr ⟨w, cs', rfl, hw⟩⟩
    rw [body_cons, body_cons, body_cons, hx]
    rfl

/-- A line of a quoted text begins with a marker just if the text does. -/
theorem atDocumentMarker_body (m : Mark) (cs rest : List Char) :
    (before m (body cs ++ '"' :: rest)).atDocumentMarker = opensMarker cs := by
  rw [Bool.eq_iff_iff, Cursor.atDocumentMarker, Bool.or_eq_true, opensMarker_iff,
    atMarker_body (by rfl) (by decide) (by decide), atMarker_body (by rfl) (by decide) (by decide)]
  constructor
  · rintro (⟨w, cs', rfl, hw⟩ | ⟨w, cs', rfl, hw⟩)
    · exact ⟨'-', w, cs', Or.inl rfl, rfl, hw⟩
    · exact ⟨'.', w, cs', Or.inr rfl, rfl, hw⟩
  · rintro ⟨x, w, cs', rfl | rfl, rfl, hw⟩
    · exact Or.inl ⟨w, cs', rfl, hw⟩
    · exact Or.inr ⟨w, cs', rfl, hw⟩

-- ── runs of blanks and breaks ─────────────────────────────────────────────

/-- How the run of blanks and breaks at the start of a quoted text is read: it is refused, or read
    as something that is not longer. `unfolded` says whether nothing is folded from there on: the
    text is not refused then, and the run is read as it is. -/
def ReadsRun (cs rest : List Char) (unfolded : Bool) (x : Except Fault (List Char × Cursor)) : Prop :=
  (∃ p, x = .error (.problem p) ∧ unfolded = false) ∨
    ∃ read run tail m, cs = run ++ tail ∧ (∀ ch, tail.head? = some ch → isSpacing ch = false) ∧
      x = .ok (read, before m (body tail ++ '"' :: rest)) ∧ read.length ≤ run.length ∧
      (read = run ∧ isUnfolded tail = true ↔ unfolded = true)

/-- A text that starts without a blank starts with a bare break or goes on with other characters. -/
theorem bare_or_not_spacing {cs : List Char} (h : ∀ ch, cs.head? = some ch → ch ≠ ' ') :
    (∃ ch cs', cs = ch :: cs' ∧ isBareBreak ch = true) ∨
      ∀ ch, cs.head? = some ch → isSpacing ch = false := by
  cases cs with
  | nil => exact Or.inr fun _ hch => by cases hch
  | cons ch cs =>
      by_cases hbreak : isBareBreak ch = true
      · exact Or.inl ⟨ch, cs, rfl, hbreak⟩
      · refine Or.inr fun d hd => ?_
        rw [← Option.some.inj hd]
        exact isSpacing_eq_false_iff.mpr ⟨h ch rfl, eq_false_of_ne_true hbreak⟩

theorem takeWhile_blanks {cs : List Char} (h : ∀ ch, cs.head? = some ch → ch ≠ ' ') (n : Nat) (m : Mark)
    (rest : List Char) :
    (before m (body (List.replicate n ' ' ++ cs) ++ '"' :: rest)).takeWhile
        (fun ch => ch == ' ' || ch == '\t') =
      (List.replicate n ' ', before (m.advance n) (body cs ++ '"' :: rest)) := by
  have hblank : ∀ ch ∈ List.replicate n ' ', takesColumn ch = true := by
    intro ch hch
    rw [List.eq_of_mem_replicate hch]
    decide
  have hmoved := forwardBy_before hblank m (body cs ++ '"' :: rest)
  rw [List.length_replicate] at hmoved
  rw [body_replicate_append, List.append_assoc, takeWhile_before, List.length_replicate, hmoved]
  · intro ch hch
    rw [List.eq_of_mem_replicate hch]
    rfl
  · intro x hx
    rcases bare_or_not_spacing h with ⟨ch, cs', rfl, hbreak⟩ | hspacing
    · rw [body_cons, escape_of_isSpacing (isSpacing_iff.mpr (Or.inr hbreak)), List.append_assoc,
        List.singleton_append, List.head?_cons, Option.some.injEq] at hx
      rw [← hx]
      rcases isBareBreak_iff.mp hbreak with rfl | rfl | rfl <;> rfl
    · obtain ⟨y, ys, hbody, hy, -⟩ := head_body hspacing rest
      rw [hbody, List.head?_cons, Option.some.injEq] at hx
      rw [← hx, hy]

theorem skipWhile_spacing {cs : List Char} (h : ∀ ch, cs.head? = some ch → ch ≠ ' ') (n : Nat) (m : Mark)
    (rest : List Char) :
    (before m (body (List.replicate n ' ' ++ cs) ++ '"' :: rest)).skipWhile
        (fun ch => ch == ' ' || ch == '\t') = before (m.advance n) (body cs ++ '"' :: rest) :=
  congrArg Prod.snd (takeWhile_blanks h n m rest)

/-- A bare break is taken as itself, but for the next line, which is taken as a line feed. -/
theorem takeBreak_bare {ch : Char} (h : isBareBreak ch = true) (m : Mark) (cs rest : List Char) :
    ∃ m', (before m (body (ch :: cs) ++ '"' :: rest)).takeBreak =
      ([if ch = '\x85' then '\n' else ch], before m' (body cs ++ '"' :: rest)) := by
  rw [body_cons, escape_of_isSpacing (isSpacing_iff.mpr (Or.inr h)), List.append_assoc,
    List.singleton_append]
  rcases isBareBreak_iff.mp h with rfl | rfl | rfl <;> exact ⟨_, rfl⟩

theorem peek_bare {ch : Char} (h : isBareBreak ch = true) (m : Mark) (cs rest : List Char) :
    (before m (body (ch :: cs) ++ '"' :: rest)).peek = some ch ∧ isBreak ch = true := by
  rw [body_cons, escape_of_isSpacing (isSpacing_iff.mpr (Or.inr h))]
  refine ⟨rfl, ?_⟩
  rcases isBareBreak_iff.mp h with rfl | rfl | rfl <;> rfl

/-- Blanks before what is read are dropped. -/
theorem ReadsRun.blanks {cs rest : List Char} {unfolded : Bool} {x : Except Fault (List Char × Cursor)}
    (h : ReadsRun cs rest unfolded x) (n : Nat) :
    ReadsRun (List.replicate n ' ' ++ cs) rest (n == 0 && unfolded) x := by
  cases n with
  | zero => exact h
  | succ n =>
      rcases h with ⟨p, herror, -⟩ | ⟨read, run, tail, m, rfl, htail, hread, hlength, -⟩
      · exact Or.inl ⟨p, herror, rfl⟩
      · refine Or.inr ⟨read, List.replicate (n + 1) ' ' ++ run, tail, m, (List.append_assoc ..).symm, htail,
          hread, ?_, ?_⟩
        · rw [List.length_append]
          omega
        · refine iff_of_false ?_ Bool.false_ne_true
          rintro ⟨rfl, -⟩
          rw [List.length_append, List.length_replicate] at hlength
          omega

/-- A bare break and the empty lines after it, joined to what is not longer, and to the same just if
    the break is not the next line. -/
theorem ReadsRun.break {ch : Char} {cs rest : List Char} {x : Except Fault (List Char × Cursor)}
    (hbreak : isBareBreak ch = true) (h : ReadsRun cs rest (beginsLine cs && isUnfolded cs) x)
    (join : List Char → List Char) (hlength : ∀ bs, (join bs).length ≤ bs.length + 1)
    (hsame : ∀ bs run, bs.length ≤ run.length → (join bs = ch :: run ↔ ch ≠ '\x85' ∧ bs = run)) :
    ReadsRun (ch :: cs) rest (isUnfolded (ch :: cs)) (x.map fun (bs, c) => (join bs, c)) := by
  rw [isUnfolded_break hbreak, Bool.and_assoc]
  rcases h with ⟨p, rfl, hfolded⟩ | ⟨read, run, tail, m, rfl, htail, rfl, hshort, hiff⟩
  · refine Or.inl ⟨p, rfl, ?_⟩
    rw [hfolded, Bool.and_false]
  · refine Or.inr ⟨join read, ch :: run, tail, m, rfl, htail, rfl, ?_, ?_⟩
    · rw [List.length_cons]
      exact Nat.le_trans (hlength read) (Nat.succ_le_succ hshort)
    · rw [Bool.and_eq_true, ← hiff, hsame read run hshort, bne_iff_ne, and_assoc]

/-- **THE EMPTY LINES OF A QUOTED TEXT** after a break. The induction is on the fuel, which is more
    than there are characters. -/
theorem quotedBreaks_body (cs rest : List Char) {fuel : Nat} (hfuel : cs.length < fuel) (m : Mark) :
    ReadsRun cs rest (beginsLine cs && isUnfolded cs)
      (quotedBreaks start fuel (before m (body cs ++ '"' :: rest))) := by
  induction fuel generalizing cs m with
  | zero => exact absurd hfuel (Nat.not_lt_zero _)
  | succ fuel ih =>
      rw [quotedBreaks, atDocumentMarker_body]
      by_cases hmarker : opensMarker cs = true
      · refine Or.inl ⟨_, if_pos hmarker, ?_⟩
        simp only [beginsLine]
        rw [hmarker, Bool.not_true, Bool.and_false, Bool.false_and]
      obtain ⟨n, later, rfl, hlater⟩ := exists_replicate_append cs
      have hflag : (beginsLine (List.replicate n ' ' ++ later) &&
          isUnfolded (List.replicate n ' ' ++ later)) = (n == 0 && isUnfolded later) := by
        cases n with
        | succ n => rfl
        | zero =>
            have hhead : later.head? ≠ some ' ' := fun hblank => hlater ' ' hblank rfl
            simp only [List.replicate_zero, List.nil_append, beginsLine] at hmarker ⊢
            rw [bne_iff_ne.mpr hhead, eq_false_of_ne_true hmarker]
            rfl
      rw [if_neg hmarker, hflag]
      refine ReadsRun.blanks ?_ n
      dsimp only
      rw [skipWhile_spacing hlater]
      rcases bare_or_not_spacing hlater with ⟨ch, cs', rfl, hbreak⟩ | hspacing
      · obtain ⟨hpeek, hisbreak⟩ := peek_bare hbreak (m.advance n) cs' rest
        obtain ⟨m', htake⟩ := takeBreak_bare hbreak (m.advance n) cs' rest
        have hshort : cs'.length < fuel := by
          rw [List.length_append, List.length_cons] at hfuel
          omega
        rw [hpeek, Option.any_some, if_pos hisbreak, htake]
        refine ReadsRun.break hbreak (ih cs' hshort m') _ (fun bs => Nat.le_of_eq ?_) (fun bs run _ => ?_)
        · rw [List.singleton_append, List.length_cons]
        · rw [List.singleton_append, List.cons.injEq, ite_eq_right_iff, and_congr_left_iff]
          refine fun _ => forall_congr' ?_
          rintro rfl
          decide
      · obtain ⟨x, xs, hbody, -, hx⟩ := head_body hspacing rest
        rw [peek_before, hbody, List.head?_cons, Option.any_some, hx, if_neg Bool.false_ne_true, ← hbody]
        exact Or.inr ⟨[], [], later, _, rfl, hspacing, rfl, Nat.le_refl _, and_iff_right rfl⟩

/-- What a bare break stands for before the empty lines after it. -/
def folded (ch : Char) (bs : List Char) : List Char :=
  if ch = '\x85' then if bs.isEmpty then [' '] else bs else ch :: bs

theorem length_folded (ch : Char) (bs : List Char) : (folded ch bs).length ≤ bs.length + 1 := by
  simp only [folded]
  split_ifs with _ hempty
  · rw [List.length_singleton]
    omega
  · omega
  · exact Nat.le_refl _

theorem folded_ne_nil (ch : Char) (bs : List Char) : folded ch bs ≠ [] := by
  simp only [folded]
  split_ifs with _ hempty
  · exact List.cons_ne_nil _ _
  · exact fun hnil => hempty (List.isEmpty_iff.mpr hnil)
  · exact List.cons_ne_nil _ _

theorem folded_eq_cons_iff {ch : Char} {bs run : List Char} (h : bs.length ≤ run.length) :
    folded ch bs = ch :: run ↔ ch ≠ '\x85' ∧ bs = run := by
  simp only [folded]
  split_ifs with hnext hempty
  · rw [hnext]
    exact iff_of_false (fun hsame => absurd (List.cons.inj hsame).1 (by decide)) fun hne => hne.1 rfl
  · refine iff_of_false ?_ fun hne => hne.1 hnext
    rintro rfl
    exact absurd h (Nat.not_le_of_lt (Nat.lt_succ_self _))
  · rw [List.cons.injEq]
    exact and_congr_left fun _ => iff_of_true rfl hnext

/-- Blanks before a bare break are dropped, and the break is folded with the empty lines after it. -/
theorem quotedBlanks_break {ch : Char} (hbreak : isBareBreak ch = true) (n : Nat) (cs rest : List Char)
    (m : Mark) :
    ∃ m', quotedBlanks start (before m (body (List.replicate n ' ' ++ ch :: cs) ++ '"' :: rest)) =
      (quotedBreaks start ((body cs ++ '"' :: rest).length + 1) (before m' (body cs ++ '"' :: rest))).map
        fun (bs, c) => (folded ch bs, c) := by
  obtain ⟨hpeek, hisbreak⟩ := peek_bare hbreak (m.advance n) cs rest
  obtain ⟨m', htake⟩ := takeBreak_bare hbreak (m.advance n) cs rest
  have hlater : ∀ d, (ch :: cs).head? = some d → d ≠ ' ' := by
    rintro d hd rfl
    rw [Option.some.inj hd] at hbreak
    exact absurd hbreak (by decide)
  have hfold (bs : List Char) :
      (if [if ch = '\x85' then '\n' else ch] != ['\n'] then [if ch = '\x85' then '\n' else ch]
        else if bs.isEmpty then [' '] else []) ++ bs = folded ch bs := by
    rcases isBareBreak_iff.mp hbreak with rfl | rfl | rfl <;> cases bs <;> rfl
  refine ⟨m', ?_⟩
  simp only [quotedBlanks]
  rw [takeWhile_blanks hlater]
  dsimp only
  rw [hpeek]
  dsimp only
  rw [if_pos hisbreak, htake]
  dsimp only
  rw [left_before]
  cases quotedBreaks start ((body cs ++ '"' :: rest).length + 1) (before m' (body cs ++ '"' :: rest)) with
  | error f => rfl
  | ok taken =>
      dsimp only
      rw [hfold]
      rfl

/-- Blanks before other characters stand for themselves. -/
theorem quotedBlanks_blanks {cs : List Char} (h : ∀ ch, cs.head? = some ch → isSpacing ch = false) (n : Nat)
    (rest : List Char) (m : Mark) :
    quotedBlanks start (before m (body (List.replicate n ' ' ++ cs) ++ '"' :: rest)) =
      .ok (List.replicate n ' ', before (m.advance n) (body cs ++ '"' :: rest)) := by
  obtain ⟨x, xs, hbody, -, hx⟩ := head_body h rest
  simp only [quotedBlanks]
  rw [takeWhile_blanks fun ch hch => (isSpacing_eq_false_iff.mp (h ch hch)).1]
  dsimp only
  rw [peek_before, hbody, List.head?_cons]
  dsimp only
  rw [hx, if_neg Bool.false_ne_true]

/-- **BLANKS AND BREAKS OF A QUOTED TEXT**: blanks stand for themselves unless a line ends after
    them. -/
theorem quotedBlanks_body (cs rest : List Char) (m : Mark) :
    ReadsRun cs rest (isUnfolded cs) (quotedBlanks start (before m (body cs ++ '"' :: rest))) := by
  obtain ⟨n, later, rfl, hlater⟩ := exists_replicate_append cs
  rcases bare_or_not_spacing hlater with ⟨ch, cs', rfl, hbreak⟩ | hspacing
  · obtain ⟨m', hrun⟩ := quotedBlanks_break start hbreak n cs' rest m
    have hflag : isUnfolded (List.replicate n ' ' ++ ch :: cs') = (n == 0 && isUnfolded (ch :: cs')) := by
      cases n with
      | zero => rfl
      | succ n =>
          rw [isUnfolded_blanks, List.head?_cons, Option.any_some, hbreak]
          rfl
    rw [hrun, hflag]
    refine ReadsRun.blanks ?_ n
    exact ReadsRun.break hbreak (quotedBreaks_body start cs' rest (length_lt_body cs' rest) m')
      (folded ch) (length_folded ch) (fun bs run => folded_eq_cons_iff)
  · have hflag : isUnfolded (List.replicate n ' ' ++ later) = isUnfolded later := by
      cases n with
      | zero => rfl
      | succ n =>
          have hnext : later.head?.any isBareBreak = false := by
            cases later with
            | nil => rfl
            | cons ch later => exact (isSpacing_eq_false_iff.mp (hspacing ch rfl)).2
          rw [isUnfolded_blanks, hnext]
          rfl
    rw [quotedBlanks_blanks start hspacing, hflag]
    exact Or.inr ⟨_, _, later, _, rfl, hspacing, rfl, Nat.le_refl _, and_iff_right rfl⟩

/-- A run of blanks and breaks is not read as nothing. -/
theorem quotedBlanks_ne_nil {ch : Char} {cs rest read : List Char} {m : Mark} {c : Cursor}
    (hch : isSpacing ch = true)
    (h : quotedBlanks start (before m (body (ch :: cs) ++ '"' :: rest)) = .ok (read, c)) : read ≠ [] := by
  obtain ⟨n, later, hsplit, hlater⟩ := exists_replicate_append (ch :: cs)
  rw [hsplit] at h
  rcases bare_or_not_spacing hlater with ⟨d, cs', rfl, hbreak⟩ | hspacing
  · obtain ⟨m', hrun⟩ := quotedBlanks_break start hbreak n cs' rest m
    rw [hrun] at h
    cases hbreaks : quotedBreaks start ((body cs' ++ '"' :: rest).length + 1)
        (before m' (body cs' ++ '"' :: rest)) with
    | error f =>
        rw [hbreaks] at h
        cases h
    | ok taken =>
        rw [hbreaks] at h
        cases h
        exact folded_ne_nil d taken.1
  · rw [quotedBlanks_blanks start hspacing] at h
    cases h
    cases n with
    | zero =>
        have hnone := hspacing ch (by rw [List.replicate_zero, List.nil_append] at hsplit; rw [← hsplit]; rfl)
        rw [hch] at hnone
        exact absurd hnone.symm Bool.false_ne_true
    | succ n => exact List.cons_ne_nil _ _

-- ── quoted texts ──────────────────────────────────────────────────────────

/-- How a quoted text is read up to its closing quote: it is refused, and then something in it is
    folded; or what is read is not longer and not nothing, and it is the same text just if nothing is
    folded. -/
def ReadsBack (cs rest : List Char) (x : Except Fault (List Char × Cursor)) : Prop :=
  (∃ p, x = .error (.problem p) ∧ isUnfolded cs = false) ∨
    ∃ read m, x = .ok (read, before m rest) ∧ read.length ≤ cs.length ∧ (read = [] → cs = []) ∧
      (read = cs ↔ isUnfolded cs = true)

/-- Parts that are not longer make up the same text just if each part is the same. -/
theorem append_eq_append_iff_of_length_le {α : Type} {as bs cs ds : List α}
    (hfirst : as.length ≤ bs.length) (hsecond : cs.length ≤ ds.length) :
    as ++ cs = bs ++ ds ↔ as = bs ∧ cs = ds := by
  constructor
  · intro h
    have hlength := congrArg List.length h
    rw [List.length_append, List.length_append] at hlength
    exact List.append_inj h (by omega)
  · rintro ⟨rfl, rfl⟩
    rfl

/-- **THE REST OF A QUOTED TEXT** from a blank or bare break on is read run by run. -/
theorem quotedRest_body {cs : List Char} (hcs : ∀ ch, cs.head? = some ch → isSpacing ch = true)
    (rest : List Char) {fuel : Nat} (hfuel : cs.length < fuel) (m : Mark) :
    ReadsBack cs ('"' :: rest) (quotedRest true start fuel (before m (body cs ++ '"' :: rest))) := by
  induction fuel generalizing cs m with
  | zero => exact absurd hfuel (Nat.not_lt_zero _)
  | succ fuel ih =>
      cases cs with
      | nil => exact Or.inr ⟨[], m, rfl, Nat.le_refl _, fun _ => rfl, iff_of_true rfl rfl⟩
      | cons ch cs =>
          have hspacing := hcs ch rfl
          have hopen : ¬ (before m (body (ch :: cs) ++ '"' :: rest)).peek == some (if true then '"' else '\'') := by
            rw [body_cons, escape_of_isSpacing hspacing]
            rcases isSpacing_iff.mp hspacing with rfl | hbreak
            · exact Bool.false_ne_true
            · rcases isBareBreak_iff.mp hbreak with rfl | rfl | rfl <;> exact Bool.false_ne_true
          rw [quotedRest, if_neg hopen]
          rcases quotedBlanks_body start (ch :: cs) rest m with
            ⟨p, herror, hfolded⟩ | ⟨read, run, later, m₁, hsplit, hlater, hread, hlength, hiff⟩
          · rw [herror]
            exact Or.inl ⟨p, rfl, hfolded⟩
          obtain ⟨seg, tail, m₂, rfl, hseg, htail, htext⟩ := quotedText_body start later rest
            (length_lt_body later rest) m₁
          -- the run is not empty, since what follows it is no spacing
          have hrun : run ≠ [] := by
            rintro rfl
            rw [List.nil_append] at hsplit
            have := hlater ch (by rw [← hsplit]; rfl)
            rw [hspacing] at this
            exact absurd this.symm Bool.false_ne_true
          have hshort : tail.length < fuel := by
            have hone := List.length_pos_iff.mpr hrun
            have hall := congrArg List.length hsplit
            rw [List.length_append, List.length_append] at hall
            omega
          have hread_ne := quotedBlanks_ne_nil start hspacing hread
          rw [isUnfolded_append hseg] at hiff
          rw [hread]
          dsimp only
          rw [left_before, htext]
          dsimp only
          rcases ih htail hshort m₂ with ⟨p, herror, hfolded⟩ | ⟨others, m', hothers, hlength', -, hiff'⟩
          · rw [herror]
            refine Or.inl ⟨p, rfl, ?_⟩
            rw [hfolded] at hiff
            exact eq_false_of_ne_true fun h => Bool.false_ne_true (hiff.mpr h).2
          · rw [hothers]
            refine Or.inr ⟨read ++ seg ++ others, m', rfl, ?_, fun hnil => ?_, ?_⟩
            · rw [hsplit]
              simp only [List.length_append]
              omega
            · rw [List.append_assoc] at hnil
              exact absurd (List.append_eq_nil_iff.mp hnil).1 hread_ne
            · rw [← hiff, hsplit, List.append_assoc, append_eq_append_iff_of_length_le hlength,
                List.append_cancel_left_eq, hiff']
              rw [List.length_append, List.length_append]
              omega

/-- **WHAT COMES BACK OF A QUOTED TEXT**: it is refused, or read as something that is not longer, and
    as the same text if and only if nothing is folded; the cursor stands after it. -/
theorem quotedScalar_body (cs rest : List Char) (m : Mark) :
    ReadsBack cs rest (quotedScalar true (before m ('"' :: (body cs ++ '"' :: rest)))) := by
  obtain ⟨seg, tail, m₁, rfl, hseg, htail, htext⟩ := quotedText_body m cs rest (length_lt_body cs rest)
    (markAfter m '"' (body cs ++ '"' :: rest).head?)
  simp only [quotedScalar]
  dsimp only [mark_before, forward_before, left_before]
  rw [htext]
  dsimp only [left_before]
  simp only [ReadsBack]
  rw [isUnfolded_append hseg]
  rcases quotedRest_body m htail rest (length_lt_body tail rest) m₁ with
    ⟨p, herror, hfolded⟩ | ⟨read, m₂, hread, hlength, hnil, hiff⟩
  · rw [herror]
    exact Or.inl ⟨p, rfl, hfolded⟩
  · rw [hread]
    refine Or.inr ⟨seg ++ read, _, rfl, ?_, fun hall => ?_, ?_⟩
    · rw [List.length_append, List.length_append]
      omega
    · obtain ⟨rfl, hread⟩ := List.append_eq_nil_iff.mp hall
      rw [hnil hread]
      rfl
    · rw [List.append_cancel_left_eq]
      exact hiff

/-- **A LEGIBLE TEXT IS READ BACK**, and the cursor stands after it. -/
theorem quotedScalar_quote {cs : List Char} (h : ∀ ch ∈ cs, Legible ch) (m : Mark) (rest : List Char) :
    ∃ m', quotedScalar true (before m ('"' :: (body cs ++ '"' :: rest))) = .ok (cs, before m' rest) := by
  have hunfolded := isUnfolded_of_legible h
  rcases quotedScalar_body cs rest m with ⟨p, -, hfolded⟩ | ⟨read, m', hread, -, -, hiff⟩
  · rw [hunfolded] at hfolded
    exact absurd hfolded.symm Bool.false_ne_true
  · rw [hiff.mpr hunfolded] at hread
    exact ⟨m', hread⟩

end ElementLocator.Yaml
