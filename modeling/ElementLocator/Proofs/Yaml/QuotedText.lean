import ElementLocator.Proofs.Yaml.Cursor
import ElementLocator.Yaml.Scalar
import Mathlib.Tactic.SplitIfs

/-! # Quoted texts, up to blanks and breaks

    The quoted form of a text is read as a double-quoted scalar. Escapes stand for the characters
    they were written for, and the other characters stand for themselves; only blanks are taken
    apart by the reader, and the three characters that break lines and are not escaped.

    * `isUnfolded` — the texts in which nothing is folded when their lines are put together;
    * `quotedText_body` — up to the next blank or bare break the reader gives back what was quoted;
    * `head_body`, `quoted_cons_iff` — what the quoted form of a text starts with. -/

namespace ElementLocator.Yaml

open Text.Quoted (escape body)

/-- Whether a character can stand in an outline and be read back: the reader takes some
    characters for line breaks and refuses others, and quoting leaves them as they are. -/
def Legible (ch : Char) : Prop :=
  ¬ (0x7F ≤ ch.toNat ∧ ch.toNat ≤ 0x9F) ∧ ch.toNat ≠ 0x2028 ∧ ch.toNat ≠ 0x2029 ∧
    ch.toNat ≠ 0xFFFE ∧ ch.toNat ≠ 0xFFFF

instance (ch : Char) : Decidable (Legible ch) := by
  simp only [Legible]
  infer_instance

/-- Whether a character breaks a line and still stands for itself in a quoted text. -/
def isBareBreak (ch : Char) : Bool := ch == '\x85' || ch == '\u2028' || ch == '\u2029'

/-- Whether a character is taken apart from the others when a quoted text is read. -/
def isSpacing (ch : Char) : Bool := ch == ' ' || isBareBreak ch

/-- Whether a text begins with the marker of a document and something that ends the marker. -/
def opensMarker : List Char → Bool
  | x :: y :: z :: w :: _ =>
    (x == '-' && y == '-' && z == '-' || x == '.' && y == '.' && z == '.') && isSpacing w
  | _ => false

/-- Whether a line of a quoted text may begin with a text as it is. -/
def beginsLine (cs : List Char) : Bool := cs.head? != some ' ' && !opensMarker cs

/-- Whether nothing in a text is folded when its quoted form is read: the only breaks that are not
    escaped are separators of lines and paragraphs, with no blank beside them and no marker of a
    document after them. -/
def isUnfolded : List Char → Bool
  | [] => true
  | ch :: rest =>
    (if isBareBreak ch then ch != '\x85' && beginsLine rest
     else ch != ' ' || !rest.head?.any isBareBreak) && isUnfolded rest

theorem isSpacing_iff {ch : Char} : isSpacing ch = true ↔ ch = ' ' ∨ isBareBreak ch = true := by
  simp only [isSpacing]
  rw [Bool.or_eq_true, beq_iff_eq]

theorem isSpacing_eq_false_iff {ch : Char} : isSpacing ch = false ↔ ch ≠ ' ' ∧ isBareBreak ch = false := by
  simp only [isSpacing]
  rw [Bool.or_eq_false_iff, beq_eq_false_iff_ne]

theorem isBareBreak_iff {ch : Char} :
    isBareBreak ch = true ↔ ch = '\x85' ∨ ch = '\u2028' ∨ ch = '\u2029' := by
  simp only [isBareBreak]
  simp only [Bool.or_eq_true, beq_iff_eq, or_assoc]

theorem isBareBreak_of_legible {ch : Char} (h : Legible ch) : isBareBreak ch = false := by
  obtain ⟨hcontrol, hline, hparagraph, -⟩ := h
  rw [← Bool.not_eq_true]
  intro hbreak
  rcases isBareBreak_iff.mp hbreak with rfl | rfl | rfl
  · exact hcontrol (by decide)
  · exact hline (by decide)
  · exact hparagraph (by decide)

-- ── texts that nothing is folded in ───────────────────────────────────────

theorem isUnfolded_break {ch : Char} (h : isBareBreak ch = true) (cs : List Char) :
    isUnfolded (ch :: cs) = (ch != '\x85' && beginsLine cs && isUnfolded cs) := by
  rw [isUnfolded, if_pos h]

/-- Nothing is folded beside a character that is not taken apart. -/
theorem isUnfolded_append {seg : List Char} (h : ∀ ch ∈ seg, isSpacing ch = false) (cs : List Char) :
    isUnfolded (seg ++ cs) = isUnfolded cs := by
  induction seg with
  | nil => rfl
  | cons ch seg ih =>
      obtain ⟨hblank, hbreak⟩ := isSpacing_eq_false_iff.mp (h ch List.mem_cons_self)
      rw [List.cons_append, isUnfolded, hbreak, if_neg Bool.false_ne_true, bne_iff_ne.mpr hblank,
        Bool.true_or, Bool.true_and, ih fun d hd => h d (List.mem_cons_of_mem ch hd)]

/-- Blanks are folded if and only if a line ends after them. -/
theorem isUnfolded_blanks (n : Nat) (cs : List Char) :
    isUnfolded (List.replicate (n + 1) ' ' ++ cs) = (!cs.head?.any isBareBreak && isUnfolded cs) := by
  have hblank (ds : List Char) :
      isUnfolded (' ' :: ds) = (!ds.head?.any isBareBreak && isUnfolded ds) := rfl
  induction n with
  | zero => exact hblank cs
  | succ n ih =>
      rw [List.replicate_succ, List.cons_append, hblank, ih, List.replicate_succ]
      rfl

theorem isUnfolded_of_legible {cs : List Char} (h : ∀ ch ∈ cs, Legible ch) : isUnfolded cs = true := by
  induction cs with
  | nil => rfl
  | cons ch cs ih =>
      have hnext : cs.head?.any isBareBreak = false := by
        cases cs with
        | nil => rfl
        | cons d cs =>
            exact isBareBreak_of_legible (h d (List.mem_cons_of_mem ch List.mem_cons_self))
      rw [isUnfolded, isBareBreak_of_legible (h ch List.mem_cons_self), if_neg Bool.false_ne_true, hnext,
        Bool.not_false, Bool.or_true, Bool.true_and]
      exact ih fun d hd => h d (List.mem_cons_of_mem ch hd)

namespace Cursor

theorem takeWhile_before_cons {p : Char → Bool} {ch : Char} (h : p ch = true) (m : Mark)
    (cs : List Char) :
    (before m (ch :: cs)).takeWhile p =
      (ch :: ((before (markAfter m ch cs.head?) cs).takeWhile p).1,
        ((before (markAfter m ch cs.head?) cs).takeWhile p).2) := by
  simp only [Cursor.takeWhile]
  rw [rest_before, List.takeWhile_cons, if_pos h]
  rfl

end Cursor

open Cursor

variable (start : Mark)

-- ── one character of a text ───────────────────────────────────────────────

/-- A character that stands for itself comes before what follows it. -/
theorem quotedText_cons {ch : Char} (h : isQuotedText ch = true) (double : Bool) (fuel : Nat)
    (m : Mark) (cs : List Char) :
    quotedText double start (fuel + 1) (before m (ch :: cs)) =
      (quotedText double start (fuel + 1) (before (markAfter m ch cs.head?) cs)).map
        fun (t, c) => (ch :: t, c) := by
  rw [quotedText, quotedText, takeWhile_before_cons h]
  generalize (before (markAfter m ch cs.head?) cs).takeWhile isQuotedText = taken
  obtain ⟨text, c⟩ := taken
  have hmore (piece : List Char) (x : Except Fault (List Char × Cursor)) :
      x.map (fun (t, c) => (ch :: text ++ piece ++ t, c)) =
        (x.map fun (t, c) => (text ++ piece ++ t, c)).map fun (t, c) => (ch :: t, c) := by
    cases x <;> rfl
  dsimp only
  split
  · cases double
    · rw [if_neg Bool.false_ne_true, if_neg Bool.false_ne_true]
      split
      · exact hmore _ _
      · rfl
    · exact hmore _ _
  · cases double
    · exact hmore _ _
    · rfl
  · cases double
    · exact hmore _ _
    · rw [if_pos rfl, if_pos rfl]
      split
      · exact hmore _ _
      · rfl
  · rfl

theorem takeWhile_stops {p : Char → Bool} {ch : Char} (h : p ch = false) (m : Mark) (cs : List Char) :
    (before m (ch :: cs)).takeWhile p = ([], before m (ch :: cs)) :=
  takeWhile_before_nil m fun d hd => by
    rw [List.head?_cons, Option.some.injEq] at hd
    rw [← hd, h]

/-- An apostrophe stands for itself between double quotes. -/
theorem quotedText_apostrophe (fuel : Nat) (m : Mark) (cs : List Char) :
    quotedText true start (fuel + 1) (before m ('\'' :: cs)) =
      (quotedText true start fuel (before (markAfter m '\'' cs.head?) cs)).map
        fun (t, c) => ('\'' :: t, c) := by
  rw [quotedText, takeWhile_stops (by decide)]
  rfl

/-- An escape comes before what follows it. -/
theorem quotedText_escape {ch : Char} {code rest : List Char} {c : Cursor} {fuel : Nat} {m : Mark}
    (h : quotedEscape start (before (markAfter m '\\' (code ++ rest).head?) (code ++ rest)) =
      .ok ([ch], c)) :
    quotedText true start (fuel + 1) (before m ('\\' :: (code ++ rest))) =
      (quotedText true start fuel c).map fun (t, c) => (ch :: t, c) := by
  rw [quotedText, takeWhile_stops (by decide)]
  dsimp only [peek_before, List.head?_cons, forward_before]
  rw [if_pos rfl, h]
  rfl

theorem quotedEscape_simple {e ch : Char} (h : simpleEscape? e = some ch) (m : Mark) (rest : List Char) :
    quotedEscape start (before m ([e] ++ rest)) =
      .ok ([ch], before (markAfter m e rest.head?) rest) := by
  simp only [quotedEscape]
  dsimp only [List.singleton_append, peek_before, List.head?_cons]
  rw [h]
  rfl

theorem hexValue?_digitChar {d : Nat} (h : d < 16) :
    Text.Quoted.hexValue? (Nat.digitChar d) = some d := by
  have hall : ∀ d : Fin 16, Text.Quoted.hexValue? (Nat.digitChar d) = some d.val := by decide
  exact hall ⟨d, h⟩

theorem hexNumber_hex4 {n : Nat} (h : n < 0x10000) : hexNumber (Text.Quoted.hex4 n) = n := by
  simp only [hexNumber, Text.Quoted.hex4, List.foldl_cons, List.foldl_nil]
  rw [hexValue?_digitChar (Nat.mod_lt _ (by decide)), hexValue?_digitChar (Nat.mod_lt _ (by decide)),
    hexValue?_digitChar (Nat.mod_lt _ (by decide)), hexValue?_digitChar (Nat.mod_lt _ (by decide))]
  simp only [Option.getD_some]
  omega

/-- An escape by code is read as the character of that code. -/
theorem quotedEscape_code {n : Nat} (h : n < 0xD800) (m : Mark) (rest : List Char) :
    ∃ m', quotedEscape start (before m (('u' :: Text.Quoted.hex4 n) ++ rest)) =
      .ok ([Char.ofNat n], before m' rest) := by
  have hdigit (d : Nat) : (Text.Quoted.hexValue? (Nat.digitChar (d % 16))).isSome = true := by
    rw [hexValue?_digitChar (Nat.mod_lt _ (by decide))]
    rfl
  have hcode : hexNumber (Text.Quoted.hex4 n) = n := hexNumber_hex4 (by omega)
  let c := before (markAfter m 'u' (Text.Quoted.hex4 n ++ rest).head?) (Text.Quoted.hex4 n ++ rest)
  have hdigits : (List.range 4).find? (fun k =>
      !(c.peekAt k).any fun d => (Text.Quoted.hexValue? d).isSome) = none := by
    refine List.find?_eq_none.mpr ?_
    intro k hk
    have hk : k < 4 := List.mem_range.mp hk
    rw [Bool.not_eq_true, Bool.not_eq_false']
    rcases (by omega : k = 0 ∨ k = 1 ∨ k = 2 ∨ k = 3) with rfl | rfl | rfl | rfl <;> exact hdigit _
  refine ⟨(c.forwardBy 4).mark, ?_⟩
  rw [quotedEscape]
  dsimp only [List.cons_append, peek_before, List.head?_cons, forward_before]
  rw [show simpleEscape? 'u' = none from rfl, show codeLength? 'u' = some 4 from rfl]
  dsimp only
  rw [hdigits]
  dsimp only
  rw [show List.take 4 (before (markAfter m 'u' (Text.Quoted.hex4 n ++ rest).head?)
    (Text.Quoted.hex4 n ++ rest)).rest = Text.Quoted.hex4 n from rfl, hcode,
    if_neg (by omega), if_neg (by omega), if_neg (by omega)]
  rw [eq_before (c := c.forwardBy 4) (beyond_forwardBy c 4)]
  rfl

/-- Of the other characters only line feeds and carriage returns break lines. -/
theorem isBreak_of_not_spacing {ch : Char} (h : isSpacing ch = false) (hn : ch ≠ '\n') (hr : ch ≠ '\r') :
    isBreak ch = false := by
  obtain ⟨-, hbare⟩ := isSpacing_eq_false_iff.mp h
  rw [isBareBreak, Bool.or_eq_false_iff, Bool.or_eq_false_iff] at hbare
  obtain ⟨⟨hx, hl⟩, hp⟩ := hbare
  simp only [isBreak]
  rw [hx, hl, hp, beq_eq_false_iff_ne.mpr hn, beq_eq_false_iff_ne.mpr hr]
  rfl

/-- A character that is not taken apart is read back from what was written for it. -/
theorem quotedText_char {ch : Char} (h : isSpacing ch = false) (fuel : Nat) (m : Mark)
    (rest : List Char) :
    ∃ k m', fuel ≤ k ∧ quotedText true start (fuel + 1) (before m (escape ch ++ rest)) =
      (quotedText true start k (before m' rest)).map fun (t, c) => (ch :: t, c) := by
  have hsimple {e : Char} (he : simpleEscape? e = some ch) (hch : escape ch = ['\\', e]) :
      ∃ k m', fuel ≤ k ∧ quotedText true start (fuel + 1) (before m (escape ch ++ rest)) =
        (quotedText true start k (before m' rest)).map fun (t, c) => (ch :: t, c) := by
    rw [hch]
    exact ⟨fuel, _, Nat.le_refl _, quotedText_escape start (quotedEscape_simple start he _ _)⟩
  by_cases hquote : ch = '"'
  · exact hsimple (e := '"') (by rw [hquote]; rfl) (by rw [hquote]; rfl)
  by_cases hslash : ch = '\\'
  · exact hsimple (e := '\\') (by rw [hslash]; rfl) (by rw [hslash]; rfl)
  by_cases hn : ch = '\n'
  · exact hsimple (e := 'n') (by rw [hn]; rfl) (by rw [hn]; rfl)
  by_cases hr : ch = '\r'
  · exact hsimple (e := 'r') (by rw [hr]; rfl) (by rw [hr]; rfl)
  by_cases ht : ch = '\t'
  · exact hsimple (e := 't') (by rw [ht]; rfl) (by rw [ht]; rfl)
  by_cases hb : ch = '\x08'
  · exact hsimple (e := 'b') (by rw [hb]; rfl) (by rw [hb]; rfl)
  by_cases hf : ch = '\x0c'
  · exact hsimple (e := 'f') (by rw [hf]; rfl) (by rw [hf]; rfl)
  simp only [escape]
  rw [if_neg hquote, if_neg hslash, if_neg hn, if_neg hr, if_neg ht, if_neg hb, if_neg hf]
  by_cases hlow : ch.toNat < 0x20
  · obtain ⟨m', hcode⟩ := quotedEscape_code start (n := ch.toNat) (by omega)
      (markAfter m '\\' (some 'u')) rest
    rw [Char.ofNat_toNat] at hcode
    rw [if_pos hlow]
    exact ⟨fuel, m', Nat.le_refl _, quotedText_escape start hcode⟩
  · rw [if_neg hlow]
    by_cases happ : ch = '\''
    · rw [happ]
      exact ⟨fuel, _, Nat.le_refl _, quotedText_apostrophe start fuel m rest⟩
    · refine ⟨fuel + 1, _, Nat.le_succ _, quotedText_cons start ?_ true fuel m rest⟩
      have hbreak := isBreak_of_not_spacing h hn hr
      obtain ⟨hblank, -⟩ := isSpacing_eq_false_iff.mp h
      simp only [isQuotedText]
      rw [hbreak]
      simp [hquote, hslash, ht, happ, hblank]

-- ── runs of characters ────────────────────────────────────────────────────

theorem body_cons (ch : Char) (cs : List Char) : body (ch :: cs) = escape ch ++ body cs :=
  List.flatMap_cons

/-- What is taken apart is quoted as it is. -/
theorem escape_of_isSpacing {ch : Char} (h : isSpacing ch = true) : escape ch = [ch] := by
  rcases isSpacing_iff.mp h with rfl | hbreak
  · rfl
  · rcases isBareBreak_iff.mp hbreak with rfl | rfl | rfl <;> rfl

/-- **UP TO THE NEXT BLANK OR BARE BREAK** what was quoted is read back. The induction is on the
    text; the fuel goes down by at most one for each character of it. -/
theorem quotedText_body (cs rest : List Char) {fuel : Nat} (hfuel : cs.length < fuel) (m : Mark) :
    ∃ seg tail m', cs = seg ++ tail ∧ (∀ ch ∈ seg, isSpacing ch = false) ∧
      (∀ ch, tail.head? = some ch → isSpacing ch = true) ∧
      quotedText true start fuel (before m (body cs ++ '"' :: rest)) =
        .ok (seg, before m' (body tail ++ '"' :: rest)) := by
  induction cs generalizing fuel m with
  | nil =>
      refine ⟨[], [], m, rfl, (fun _ hd => absurd hd List.not_mem_nil), (fun _ hd => by cases hd), ?_⟩
      cases fuel with
      | zero => exact absurd hfuel (Nat.not_lt_zero _)
      | succ fuel =>
          show quotedText true start (fuel + 1) (before m ('"' :: rest)) = _
          rw [quotedText, takeWhile_stops (by decide)]
          rfl
  | cons ch cs ih =>
      cases fuel with
      | zero => exact absurd hfuel (Nat.not_lt_zero _)
      | succ fuel =>
          by_cases hspacing : isSpacing ch = true
          · refine ⟨[], ch :: cs, m, rfl, (fun _ hd => absurd hd List.not_mem_nil), ?_, ?_⟩
            · intro d hd
              rw [List.head?_cons, Option.some.injEq] at hd
              rw [← hd]
              exact hspacing
            · rw [body_cons, escape_of_isSpacing hspacing]
              show quotedText true start (fuel + 1) (before m (ch :: (body cs ++ '"' :: rest))) = _
              rcases isSpacing_iff.mp hspacing with rfl | hbreak
              · rw [quotedText, takeWhile_stops (by decide)]
                rfl
              · rcases isBareBreak_iff.mp hbreak with rfl | rfl | rfl
                all_goals
                  rw [quotedText, takeWhile_stops (by decide)]
                  rfl
          · have hspacing := eq_false_of_ne_true hspacing
            obtain ⟨k, m₁, hk, hchar⟩ := quotedText_char start hspacing fuel m (body cs ++ '"' :: rest)
            have hlong : cs.length < k := by
              rw [List.length_cons] at hfuel
              omega
            obtain ⟨seg, tail, m', hsplit, hseg, htail, hread⟩ := ih hlong m₁
            refine ⟨ch :: seg, tail, m', by rw [hsplit, List.cons_append], ?_, htail, ?_⟩
            · intro d hd
              rcases List.mem_cons.mp hd with rfl | hd
              · exact hspacing
              · exact hseg d hd
            · rw [body_cons, List.append_assoc, hchar, hread]
              rfl

/-- Text of blanks is quoted as it is. -/
theorem body_replicate_append (n : Nat) (cs : List Char) :
    body (List.replicate n ' ' ++ cs) = List.replicate n ' ' ++ body cs := by
  simp only [body]
  rw [List.flatMap_append]
  congr 1
  induction n with
  | zero => rfl
  | succ n ih => rw [List.replicate_succ, List.flatMap_cons, ih]; rfl

theorem length_le_body (cs : List Char) : cs.length ≤ (body cs).length := by
  induction cs with
  | nil => exact Nat.le_refl _
  | cons ch cs ih =>
      have hone : 1 ≤ (escape ch).length := by
        simp only [escape]
        split_ifs <;> exact Nat.succ_le_succ (Nat.zero_le _)
      rw [body_cons, List.length_append, List.length_cons]
      omega

theorem length_lt_body (cs rest : List Char) : cs.length < (body cs ++ '"' :: rest).length + 1 := by
  have := length_le_body cs
  rw [List.length_append]
  omega

/-- A text that starts with a blank, as its first blanks and the rest. -/
theorem exists_replicate_append (cs : List Char) :
    ∃ n rest, cs = List.replicate n ' ' ++ rest ∧ (∀ ch, rest.head? = some ch → ch ≠ ' ') := by
  induction cs with
  | nil => exact ⟨0, [], rfl, fun _ h => by cases h⟩
  | cons ch cs ih =>
      by_cases hblank : ch = ' '
      · obtain ⟨n, rest, hcs, hrest⟩ := ih
        exact ⟨n + 1, rest, by rw [hblank, hcs]; rfl, hrest⟩
      · refine ⟨0, ch :: cs, rfl, ?_⟩
        intro d hd
        rw [List.head?_cons, Option.some.injEq] at hd
        rw [← hd]
        exact hblank

-- ── the first character of what was quoted ────────────────────────────────

/-- What is written for a character starts with the character or a backslash, and only what is
    taken apart can start it as a blank, a tab or a break. -/
theorem head_escape (ch : Char) :
    ∃ x xs, escape ch = x :: xs ∧ (x = ch ∨ x = '\\') ∧
      (isSpacing ch = false → (x == ' ' || x == '\t') = false ∧ isBreak x = false) := by
  have hslash {xs : List Char} : ∃ y ys, '\\' :: xs = y :: ys ∧ (y = ch ∨ y = '\\') ∧
      (isSpacing ch = false → (y == ' ' || y == '\t') = false ∧ isBreak y = false) :=
    ⟨_, _, rfl, Or.inr rfl, fun _ => ⟨rfl, rfl⟩⟩
  simp only [escape]
  split_ifs with hquote hback hn hr ht
  all_goals try exact hslash
  refine ⟨ch, [], rfl, Or.inl rfl, fun h => ⟨?_, isBreak_of_not_spacing h hn hr⟩⟩
  rw [beq_eq_false_iff_ne.mpr (isSpacing_eq_false_iff.mp h).1, beq_eq_false_iff_ne.mpr ht]
  rfl

/-- What follows a run of blanks and breaks is neither, in the text and in its quoted form. -/
theorem head_body {cs : List Char} (h : ∀ ch, cs.head? = some ch → isSpacing ch = false)
    (rest : List Char) :
    ∃ x xs, body cs ++ '"' :: rest = x :: xs ∧ (x == ' ' || x == '\t') = false ∧ isBreak x = false := by
  cases cs with
  | nil => exact ⟨'"', rest, rfl, rfl, rfl⟩
  | cons ch cs =>
      obtain ⟨x, xs, hescape, -, hx⟩ := head_escape ch
      obtain ⟨hblank, hbreak⟩ := hx (h ch rfl)
      refine ⟨x, xs ++ (body cs ++ '"' :: rest), ?_, hblank, hbreak⟩
      rw [body_cons, hescape, List.append_assoc, List.cons_append]

/-- The quoted form of a text starts with a character that needs no escape just if the text does. -/
theorem quoted_cons_iff {x : Char} (hx : escape x = [x]) (hslash : x ≠ '\\') (hquote : x ≠ '"')
    (cs rest ds : List Char) :
    body cs ++ '"' :: rest = x :: ds ↔ ∃ cs', cs = x :: cs' ∧ ds = body cs' ++ '"' :: rest := by
  constructor
  · intro h
    cases cs with
    | nil => exact absurd (List.cons.inj h).1.symm hquote
    | cons ch cs =>
        obtain ⟨y, ys, hescape, hy, -⟩ := head_escape ch
        rw [body_cons, hescape, List.append_assoc, List.cons_append] at h
        obtain ⟨rfl, hds⟩ := List.cons.inj h
        rcases hy with rfl | hy
        · rw [hx] at hescape
          obtain ⟨-, rfl⟩ := List.cons.inj hescape
          exact ⟨cs, rfl, hds.symm⟩
        · exact absurd hy hslash
  · rintro ⟨cs', rfl, rfl⟩
    rw [body_cons, hx]
    rfl

end ElementLocator.Yaml
