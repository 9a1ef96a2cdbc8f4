import ElementLocator.Proofs.Acceptance
import ElementLocator.Proofs.Comparisons
import ElementLocator.Proofs.PlainExpressions

/-! # Literal texts as regular expressions

    A text in which no character has a meaning of its own is a regular expression that is found
    where the text lies. With the marks of the two ends around it, it is found at the start, at
    the end, or as the whole: the comparisons by regular expression and the plain ones agree.

    * `Regex.FitsAt` — parts that lie at a place of a text, one after the other;
    * `Regex.runAll_steps` — a program of parts matches where they fit;
    * `Regex.answers_search` — it is found if they fit somewhere;
    * `literal_matches_plainly` — the four comparisons of a literal text. -/

namespace ElementLocator

/-- A question that is answered, and rightly. -/
def Answers {ε : Type} (x : Except ε Bool) (P : Prop) : Prop := ∃ b, x = .ok b ∧ (b = true ↔ P)

theorem Answers.eq {ε : Type} {x y : Except ε Bool} {P : Prop} (hx : Answers x P) (hy : Answers y P) :
    x = y := by
  obtain ⟨b, rfl, hb⟩ := hx
  obtain ⟨c, rfl, hc⟩ := hy
  rw [Bool.eq_iff_iff.mpr (hb.trans hc.symm)]

theorem Answers.congr {ε : Type} {x : Except ε Bool} {P Q : Prop} (hx : Answers x P) (h : P ↔ Q) :
    Answers x Q := by
  obtain ⟨b, hb, hanswer⟩ := hx
  exact ⟨b, hb, hanswer.trans h⟩

namespace Regex

/-- Whether a part lies at a place of a text. -/
def Part.LiesAt (text : List Char) (place : Nat) : Part → Prop
  | char c => text[place]? = some c
  | textStart => place = 0
  | textEnd => text.length ≤ place

instance (text : List Char) (place : Nat) (part : Part) : Decidable (part.LiesAt text place) :=
  match part with
  | .char c => inferInstanceAs (Decidable (text[place]? = some c))
  | .textStart => inferInstanceAs (Decidable (place = 0))
  | .textEnd => inferInstanceAs (Decidable (text.length ≤ place))

/-- Parts that lie at a place of a text, one after the other. -/
def FitsAt (text : List Char) : List Part → (place : Nat) → Prop
  | [], _ => True
  | part :: rest, place => part.LiesAt text place ∧ FitsAt text rest (place + part.taken)

variable {text : List Char}

-- ── programs of parts ─────────────────────────────────────────────────────

theorem holdsAt_literal_iff {c : Char} {p : Nat} :
    (CharTest.literal c.toNat).holdsAt text.toArray p = true ↔ text[p]? = some c := by
  rw [CharTest.holdsAt, List.getElem?_toArray, Option.any_eq_true]
  constructor
  · rintro ⟨d, hd, hsame⟩
    rw [hd, Char.toNat_inj.mp (beq_iff_eq.mp hsame)]
  · intro h
    exact ⟨c, h, beq_self_eq_true c.toNat⟩

/-- The step of a part goes on behind it if it lies there, and fails otherwise. -/
theorem run_step (part : Part) (k : Next) (p : Nat) (m : Memory) :
    part.step.run text.toArray false k p m =
      if part.LiesAt text p then k (p + part.taken) m else failed m := by
  cases part with
  | char c =>
      rw [Part.step, Step.run]
      exact if_congr holdsAt_literal_iff rfl rfl
  | textStart =>
      rw [Part.step, Step.run]
      exact if_congr beq_iff_eq rfl rfl
  | textEnd =>
      rw [Part.step, Step.run]
      exact if_congr decide_eq_true_iff rfl rfl

/-- A program of parts matches where they fit, and sets no marks. -/
theorem runAll_steps (parts : List Part) (p : Nat) (m : Memory) :
    ((runAll text.toArray false (parts.map Part.step) stop p m).matched = true ↔ FitsAt text parts p) ∧
      (runAll text.toArray false (parts.map Part.step) stop p m).memory.marks = m.marks := by
  induction parts generalizing p with
  | nil => exact ⟨iff_of_true rfl trivial, rfl⟩
  | cons part rest ih =>
      rw [List.map_cons, runAll, run_step, FitsAt]
      split
      · rename_i h
        obtain ⟨hmatched, hmarks⟩ := ih (p + part.taken)
        exact ⟨hmatched.trans (and_iff_right h).symm, hmarks⟩
      · rename_i h
        exact ⟨iff_of_false Bool.false_ne_true fun hfits => h hfits.1, rfl⟩

-- ── searches ──────────────────────────────────────────────────────────────

/-- What is found is found at some place. -/
theorem exists_of_firstFrom {pr : Program} {text : Array Char} {more p : Nat} {m : Memory}
    (h : pr.firstFrom text more p = some m) :
    ∃ q ≤ p + more, (pr.runAt text q).matched = true ∧ (pr.runAt text q).memory = m := by
  induction more generalizing p with
  | zero =>
      simp only [Program.firstFrom] at h
      split at h
      · rename_i hmatched
        exact ⟨p, Nat.le_refl p, hmatched, Option.some.inj h⟩
      · cases h
  | succ more ih =>
      simp only [Program.firstFrom] at h
      split at h
      · rename_i hmatched
        exact ⟨p, Nat.le_add_right p _, hmatched, Option.some.inj h⟩
      · obtain ⟨q, hq, hmatched, hmemory⟩ := ih h
        exact ⟨q, by omega, hmatched, hmemory⟩

/-- Where nothing is found, nothing matches at any of the places that are tried. -/
theorem not_matched_of_firstFrom {pr : Program} {text : Array Char} {more p : Nat}
    (h : pr.firstFrom text more p = none) {q : Nat} (hp : p ≤ q) (hq : q ≤ p + more) :
    (pr.runAt text q).matched ≠ true := by
  induction more generalizing p with
  | zero =>
      obtain rfl : q = p := Nat.le_antisymm hq hp
      simp only [Program.firstFrom] at h
      split at h
      · cases h
      · assumption
  | succ more ih =>
      simp only [Program.firstFrom] at h
      split at h
      · cases h
      · rename_i hmatched
        rcases Nat.eq_or_lt_of_le hp with rfl | hp
        · exact hmatched
        · exact ih h hp (by omega)

/-- Where no marks are set, no group ends before it starts. -/
theorem inOrder_of_marks {m : Memory} (h : m.marks = #[]) : m.inOrder = true := by
  rw [Memory.inOrder, h]
  simp

/-- Parts that fit do not reach beyond the end of the text. -/
theorem FitsAt.add_le_length {parts : List Part} {p : Nat} (h : FitsAt text parts p) (hp : p ≤ text.length) :
    p + Part.charCount parts ≤ text.length := by
  induction parts generalizing p with
  | nil => exact hp
  | cons part rest ih =>
      have hpart : p + part.taken ≤ text.length := by
        cases part with
        | char c => exact (List.getElem?_eq_some_iff.mp h.1).1
        | textStart => exact hp
        | textEnd => exact hp
      rw [Part.charCount, ← Nat.add_assoc]
      exact ih h.2 hpart

/-- **A SEARCH FINDS WHAT FITS**: a program of parts is found in a text if its parts fit at some
    place. The places that are left out are too near to the end. -/
theorem answers_search_steps {parts : List Part} {least : Nat} (hleast : least ≤ Part.charCount parts) :
    Answers (Program.search ⟨parts.map Part.step, least⟩ text.toArray)
      (∃ p ≤ text.length, FitsAt text parts p) := by
  have hrun (p : Nat) :
      ((Program.runAt ⟨parts.map Part.step, least⟩ text.toArray p).matched = true ↔ FitsAt text parts p) ∧
        (Program.runAt ⟨parts.map Part.step, least⟩ text.toArray p).memory.marks = #[] :=
    runAll_steps parts p ⟨p, #[]⟩
  rw [Program.search]
  cases hfirst : Program.first? ⟨parts.map Part.step, least⟩ text.toArray with
  | none =>
      refine ⟨false, rfl, iff_of_false Bool.false_ne_true ?_⟩
      rintro ⟨p, hp, hfits⟩
      -- a place at which the parts fit leaves room for them, so it is among those that are tried
      have hroom := hfits.add_le_length hp
      rw [Program.first?, List.size_toArray] at hfirst
      dsimp only at hfirst
      split at hfirst
      · omega
      · refine not_matched_of_firstFrom hfirst (Nat.zero_le p) ?_ ((hrun p).1.mpr hfits)
        split <;> omega
  | some m =>
      rw [Program.first?, List.size_toArray] at hfirst
      split at hfirst
      · cases hfirst
      · obtain ⟨p, hp, hmatch, rfl⟩ := exists_of_firstFrom hfirst
        have hplace : p ≤ text.length := by
          split at hp <;> omega
        exact ⟨true, if_pos (inOrder_of_marks (hrun p).2), iff_of_true rfl ⟨p, hplace, (hrun p).1.mp hmatch⟩⟩

/-- A search for a plain expression finds what fits. -/
theorem answers_search {parts : List Part} (hparts : ∀ part ∈ parts, part.IsPlain) (value : String) :
    Answers (search (String.ofList (parts.flatMap Part.chars)) value)
      (∃ p ≤ value.toList.length, FitsAt value.toList parts p) := by
  obtain ⟨least, hleast, hcompile⟩ := compile_chars hparts
  rw [search, hcompile]
  exact answers_search_steps hleast

-- ── literal texts ─────────────────────────────────────────────────────────

/-- A text in which no character has a meaning of its own. -/
def IsLiteral (l : String) : Prop := ∀ c ∈ l.toList, c ∉ special

instance (l : String) : Decidable (IsLiteral l) := List.decidableBAll (fun c => c ∉ special) l.toList

theorem cons_prefix_drop_iff {c : Char} {l : List Char} {p : Nat} :
    c :: l <+: text.drop p ↔ text[p]? = some c ∧ l <+: text.drop (p + 1) := by
  by_cases hp : p < text.length
  · rw [List.drop_eq_getElem_cons hp, List.cons_prefix_cons, List.getElem?_eq_getElem hp, Option.some.injEq,
      eq_comm]
  · rw [List.drop_eq_nil_of_le (Nat.le_of_not_lt hp), List.getElem?_eq_none (Nat.le_of_not_lt hp)]
    exact iff_of_false (fun h => List.cons_ne_nil c l (List.prefix_nil.mp h))
      fun h => Option.some_ne_none c h.1.symm

/-- Characters fit where the text goes on with them. -/
theorem fitsAt_chars_append {l : List Char} {rest : List Part} {p : Nat} :
    FitsAt text (l.map .char ++ rest) p ↔ l <+: text.drop p ∧ FitsAt text rest (p + l.length) := by
  induction l generalizing p with
  | nil => exact (and_iff_right List.nil_prefix).symm
  | cons c l ih =>
      rw [List.map_cons, List.cons_append, FitsAt, ih, cons_prefix_drop_iff, and_assoc, List.length_cons,
        Nat.add_comm l.length, ← Nat.add_assoc]
      rfl

theorem fitsAt_chars_iff {l : List Char} {p : Nat} : FitsAt text (l.map .char) p ↔ l <+: text.drop p := by
  rw [← List.append_nil (l.map Part.char), fitsAt_chars_append]
  exact and_iff_left trivial

theorem fitsAt_chars_textEnd_iff {l : List Char} {p : Nat} :
    FitsAt text (l.map .char ++ [.textEnd]) p ↔ text.drop p = l := by
  rw [fitsAt_chars_append]
  constructor
  · rintro ⟨hstart, hend : text.length ≤ p + l.length, -⟩
    refine (hstart.eq_of_length_le ?_).symm
    rw [List.length_drop]
    omega
  · rintro rfl
    refine ⟨List.prefix_refl _, ?_, trivial⟩
    show text.length ≤ p + (text.drop p).length
    rw [List.length_drop]
    omega

/-- What begins with the start of the text fits there or nowhere. -/
theorem fits_textStart_iff {parts : List Part} :
    (∃ p ≤ text.length, FitsAt text (.textStart :: parts) p) ↔ FitsAt text parts 0 := by
  constructor
  · rintro ⟨p, -, rfl, h⟩
    exact h
  · intro h
    exact ⟨0, Nat.zero_le _, rfl, h⟩

theorem fits_chars_iff {l : List Char} : (∃ p ≤ text.length, FitsAt text (l.map .char) p) ↔ l <:+: text := by
  simp only [fitsAt_chars_iff]
  constructor
  · rintro ⟨p, -, h⟩
    exact h.isInfix.trans (List.drop_suffix p text).isInfix
  · rintro ⟨before, after, rfl⟩
    refine ⟨before.length, ?_, ?_⟩
    · simp only [List.length_append]
      omega
    · rw [List.append_assoc, List.drop_left]
      exact List.prefix_append l after

theorem fits_chars_textEnd_iff {l : List Char} :
    (∃ p ≤ text.length, FitsAt text (l.map .char ++ [.textEnd]) p) ↔ l <:+ text := by
  simp only [fitsAt_chars_textEnd_iff]
  constructor
  · rintro ⟨p, -, rfl⟩
    exact List.drop_suffix p text
  · rintro ⟨before, rfl⟩
    refine ⟨before.length, ?_, List.drop_left⟩
    rw [List.length_append]
    omega

end Regex

-- ── comparisons ───────────────────────────────────────────────────────────

theorem MatchType.answers_compare {t : MatchType} (ht : t ≠ .regex) (value expected : String) :
    Answers (t.compare value expected) (t.Asks expected value) := by
  cases hc : t.compare value expected with
  | error f => exact absurd hc (compare_ne_error ht value expected f)
  | ok b =>
      refine ⟨b, rfl, ?_⟩
      rw [← compare_eq_true_iff ht, hc, Except.ok.injEq]

/-- A regular expression that is found just where a comparison holds is matched like it. -/
theorem matchesText_regex_eq {source expected : String} {t : MatchType} (ht : t ≠ .regex)
    (h : ∀ value, Answers (Regex.search source value) (t.Asks expected value)) (v : Option String) :
    matchesText v source .regex = matchesText v expected t := by
  cases v with
  | none => rfl
  | some value =>
      simp only [matchesText]
      split
      · rfl
      · exact (h value).eq (MatchType.answers_compare ht value expected)

namespace Regex

theorem ofList_chars (l : String) : String.ofList ((l.toList.map Part.char).flatMap Part.chars) = l := by
  have hchars : (l.toList.map Part.char).flatMap Part.chars = l.toList := by
    rw [List.flatMap_map]
    exact List.flatMap_singleton' l.toList
  rw [hchars, String.ofList_toList]

section Literal

variable {l : String} (h : IsLiteral l) (value : String)

include h

theorem isPlain_of_literal : ∀ part ∈ l.toList.map Part.char, part.IsPlain := by
  rw [List.forall_mem_map]
  exact h

theorem answers_literal : Answers (search l value) (MatchType.Asks l value .contains) := by
  have hsearch := answers_search (isPlain_of_literal h) value
  rw [ofList_chars] at hsearch
  exact hsearch.congr fits_chars_iff

theorem answers_textStart_literal :
    Answers (search ("\\A" ++ l) value) (MatchType.Asks l value .startsWith) := by
  have hparts : ∀ part ∈ Part.textStart :: l.toList.map .char, part.IsPlain :=
    List.forall_mem_cons.mpr ⟨trivial, isPlain_of_literal h⟩
  have hsearch := answers_search hparts value
  rw [List.flatMap_cons, String.ofList_append, ofList_chars] at hsearch
  refine hsearch.congr ?_
  rw [fits_textStart_iff, fitsAt_chars_iff, List.drop_zero, MatchType.Asks]

theorem isPlain_of_literal_textEnd : ∀ part ∈ l.toList.map Part.char ++ [.textEnd], part.IsPlain :=
  List.forall_mem_append.mpr ⟨isPlain_of_literal h, List.forall_mem_singleton.mpr trivial⟩

theorem answers_literal_textEnd :
    Answers (search (l ++ "\\Z") value) (MatchType.Asks l value .endsWith) := by
  have hsearch := answers_search (isPlain_of_literal_textEnd h) value
  rw [List.flatMap_append, String.ofList_append, ofList_chars] at hsearch
  exact hsearch.congr fits_chars_textEnd_iff

theorem answers_whole_literal :
    Answers (search ("\\A" ++ l ++ "\\Z") value) (MatchType.Asks l value .exact) := by
  have hparts : ∀ part ∈ Part.textStart :: (l.toList.map .char ++ [.textEnd]), part.IsPlain :=
    List.forall_mem_cons.mpr ⟨trivial, isPlain_of_literal_textEnd h⟩
  have hsearch := answers_search hparts value
  rw [List.flatMap_cons, List.flatMap_append, String.ofList_append, String.ofList_append, ofList_chars,
    ← String.append_assoc] at hsearch
  refine hsearch.congr ?_
  rw [fits_textStart_iff, fitsAt_chars_textEnd_iff, List.drop_zero, MatchType.Asks, String.toList_inj]

end Literal

end Regex

/-- **LITERAL TEXTS ARE FOUND WHERE THEY LIE**: by regular expression, a literal text is found just
    in the values that contain it; with the marks of the ends, just in those that start with it,
    end with it, or are equal to it. -/
theorem literal_matches_plainly {l : String} (h : Regex.IsLiteral l) (v : Option String) :
    matchesText v l .regex = matchesText v l .contains ∧
      matchesText v ("\\A" ++ l) .regex = matchesText v l .startsWith ∧
      matchesText v (l ++ "\\Z") .regex = matchesText v l .endsWith ∧
      matchesText v ("\\A" ++ l ++ "\\Z") .regex = matchesText v l .exact :=
  ⟨matchesText_regex_eq (by decide) (Regex.answers_literal h) v,
    matchesText_regex_eq (by decide) (Regex.answers_textStart_literal h) v,
    matchesText_regex_eq (by decide) (Regex.answers_literal_textEnd h) v,
    matchesText_regex_eq (by decide) (Regex.answers_whole_literal h) v⟩

/-- With marks of both ends, the literal text of two lines is found in itself and not in a text that
    goes on with the end of a line. -/
theorem literal_of_two_lines :
    matchesText (some "a-b\nc") "\\Aa-b\nc\\Z" .regex = .ok true ∧
      matchesText (some "a-b\nc\n") "\\Aa-b\nc\\Z" .regex = .ok false ∧
      matchesText (some "a-b\nc\n") "a-b\nc" .regex = .ok true := by
  have h : Regex.IsLiteral "a-b\nc" := by decide
  exact ⟨(literal_matches_plainly h _).2.2.2, (literal_matches_plainly h _).2.2.2,
    (literal_matches_plainly h _).1⟩

end ElementLocator
