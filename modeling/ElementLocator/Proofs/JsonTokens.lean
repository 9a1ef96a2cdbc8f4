import ElementLocator.Json.Reader
import ElementLocator.Proofs.OutlineInjectivity

/-! # Reading plain data, part by part

    The reader of JSON texts on what the printer writes: a word, a number, a quoted text, and the
    beginning of a list or an object, each with anything behind it that the printer may put there.

    * `readNumber_toDigits` — digits are read as their number, if they can be converted;
    * `readValue_quote` — a quoted text is read as that text;
    * `readValue_list`, `readItems_more`, `readItems_last`, `readMembers_step` — a list and an
      object are read one part after the other. -/

namespace ElementLocator.Json

-- ── blanks ────────────────────────────────────────────────────────────────

theorem skipBlanks_of_blanks {bs : List Char} (h : ∀ c ∈ bs, isBlank c = true) (cs : List Char) :
    skipBlanks (bs ++ cs) = skipBlanks cs :=
  List.dropWhile_append_of_pos h

theorem skipBlanks_cons {c : Char} (h : isBlank c = false) (cs : List Char) :
    skipBlanks (c :: cs) = c :: cs := by
  rw [skipBlanks, List.dropWhile_cons_of_neg]
  rw [h]
  exact Bool.false_ne_true

theorem skipBlanks_skipBlanks (cs : List Char) : skipBlanks (skipBlanks cs) = skipBlanks cs := by
  induction cs with
  | nil => rfl
  | cons c cs ih =>
      cases h : isBlank c with
      | true =>
          have hskip : skipBlanks (c :: cs) = skipBlanks cs := List.dropWhile_cons_of_pos h
          rw [hskip, ih]
      | false => rw [skipBlanks_cons h, skipBlanks_cons h]

theorem isBlank_of_mem_margin {depth : Nat} : ∀ c ∈ (margin depth).toList, isBlank c = true := by
  intro c hc
  simp only [margin, String.toList_append, String.toList_ofList] at hc
  rcases List.mem_append.mp hc with hc | hc
  · cases List.mem_singleton.mp hc
    rfl
  · rw [(List.mem_replicate.mp hc).2]
    rfl

/-- Blanks before a value do not matter. -/
theorem readValue_skipBlanks (fuel : Nat) (cs : List Char) :
    readValue fuel (skipBlanks cs) = readValue fuel cs := by
  cases fuel with
  | zero => rfl
  | succ fuel => rw [readValue, readValue, skipBlanks_skipBlanks]

-- ── numbers ───────────────────────────────────────────────────────────────

/-- What may follow a value: the comma before the next one, or the line break before a bracket. -/
def Closes (rest : List Char) : Prop := rest = [] ∨ ∃ c cs, rest = c :: cs ∧ (c = ',' ∨ c = '\n')

theorem digitsValue_toDigits (n : Nat) : digitsValue (Nat.toDigits 10 n) = n := by
  refine Eq.trans ?_ Nat.ofDigitChars_ten_toDigits
  rw [Nat.ofDigitChars_eq_foldl, digitsValue]
  congr 1
  funext m c
  rw [Nat.mul_comm]
  rfl

theorem takeDigits_append {ds rest : List Char} (hds : ∀ c ∈ ds, c.isDigit = true)
    (hrest : Closes rest) : takeDigits (ds ++ rest) = (ds, rest) := by
  have hstop : rest.takeWhile Char.isDigit = [] ∧ rest.dropWhile Char.isDigit = rest := by
    rcases hrest with rfl | ⟨c, cs, rfl, rfl | rfl⟩
    · exact ⟨rfl, rfl⟩
    · exact ⟨rfl, rfl⟩
    · exact ⟨rfl, rfl⟩
  rw [takeDigits, List.takeWhile_append_of_pos hds, List.dropWhile_append_of_pos hds, hstop.1, hstop.2,
    List.append_nil]

theorem exists_digit (n : Nat) : ∃ d ds, Nat.toDigits 10 n = d :: ds ∧ d.isDigit = true := by
  cases hd : Nat.toDigits 10 n with
  | nil => exact absurd hd Nat.toDigits_ne_nil
  | cons d ds =>
      have hmem : d ∈ Nat.toDigits 10 n := hd ▸ List.mem_cons_self
      exact ⟨d, ds, rfl, Nat.isDigit_of_mem_toDigits (by decide) (by decide) hmem⟩

/-- The digits of a number begin with a zero only if it is zero. -/
theorem head_toDigits {n : Nat} (h : 0 < n) : ∃ d ds, Nat.toDigits 10 n = d :: ds ∧ d ≠ '0' := by
  induction n using Nat.strongRecOn with
  | _ n ih =>
    by_cases hn : n < 10
    · have hdigit : ∀ m < 10, 0 < m → Nat.digitChar m ≠ '0' := by decide
      rw [Nat.toDigits_of_lt_base hn]
      exact ⟨_, [], rfl, hdigit n hn h⟩
    · obtain ⟨d, ds, hd, hzero⟩ := ih (n / 10) (by omega) (by omega)
      rw [Nat.toDigits_of_base_le (by decide) (by omega), hd]
      exact ⟨d, _, rfl, hzero⟩

/-- Without a fraction or an exponent a number is whole. -/
theorem readFraction_of_closes {rest : List Char} (h : Closes rest) :
    readFraction rest = (none, rest) := by
  rcases h with rfl | ⟨c, cs, rfl, rfl | rfl⟩ <;> rfl

theorem readExponent_of_closes {rest : List Char} (h : Closes rest) :
    readExponent rest = (none, rest) := by
  rcases h with rfl | ⟨c, cs, rfl, rfl | rfl⟩ <;> rfl

/-- **DIGITS ARE READ BACK** as their number. -/
theorem readNumber_toDigits (negative : Bool) {n : Nat}
    (hn : (Nat.toDigits 10 n).length ≤ Text.Whole.maxDigits) {rest : List Char} (hrest : Closes rest) :
    readNumber negative (Nat.toDigits 10 n ++ rest) =
      some (.int (if negative then -(n : Int) else n), rest) := by
  have hdigits : takeDigits (Nat.toDigits 10 n ++ rest) = (Nat.toDigits 10 n, rest) :=
    takeDigits_append (fun _ hc => Nat.isDigit_of_mem_toDigits (by decide) (by decide) hc) hrest
  have hnonempty : (Nat.toDigits 10 n).isEmpty = false := by
    rw [List.isEmpty_eq_false_iff]
    exact Nat.toDigits_ne_nil
  rcases Nat.eq_zero_or_pos n with rfl | hpos
  · show readNumber negative ('0' :: rest) = _
    simp only [readNumber]
    rw [readFraction_of_closes hrest]
    dsimp only
    rw [readExponent_of_closes hrest]
    cases negative <;> rfl
  · obtain ⟨d, ds, hd, hzero⟩ := head_toDigits hpos
    have hhead (r : List Char) : Nat.toDigits 10 n ++ rest ≠ '0' :: r := by
      rw [hd]
      intro h
      exact hzero (List.cons.inj h).1
    rw [readNumber, hdigits]
    · dsimp only
      rw [hnonempty, if_neg Bool.false_ne_true, readFraction_of_closes hrest]
      dsimp only
      rw [readExponent_of_closes hrest]
      dsimp only
      rw [if_neg (Nat.not_lt.mpr hn), digitsValue_toDigits]
    · exact hhead

-- ── words ─────────────────────────────────────────────────────────────────

theorem dropWord?_of_ne {c d : Char} (h : c ≠ d) (w cs : List Char) :
    dropWord? (c :: w) (d :: cs) = none := by
  rw [dropWord?, List.isPrefixOf_cons_cons, beq_eq_false_iff_ne.mpr h, Bool.false_and,
    if_neg Bool.false_ne_true]

theorem ne_of_isDigit {c d : Char} (hd : d.isDigit = true) (hc : c.isDigit = false) : c ≠ d := by
  rintro rfl
  rw [hd] at hc
  cases hc

/-- No word of the grammar begins with a digit. -/
theorem readWord_of_isDigit {d : Char} (hd : d.isDigit = true) (cs : List Char) :
    readWord (d :: cs) = none := by
  have hdrop {c : Char} (hc : c.isDigit = false) (w : List Char) :=
    dropWord?_of_ne (ne_of_isDigit hd hc) w cs
  refine List.findSome?_eq_none_iff.mpr ?_
  intro word hword
  simp only [List.mem_cons, List.not_mem_nil, or_false] at hword
  rcases hword with rfl | rfl | rfl | rfl | rfl | rfl
  all_goals exact congrArg (Option.map _) (hdrop rfl _)

/-- The word that begins with a minus goes on otherwise. -/
theorem readWord_minus {d : Char} (hd : d.isDigit = true) (cs : List Char) :
    readWord ('-' :: d :: cs) = none := by
  have hdrop {c : Char} (hc : c ≠ '-') (w : List Char) := dropWord?_of_ne hc w (d :: cs)
  have hinfinity (w : List Char) : dropWord? ('-' :: 'I' :: w) ('-' :: d :: cs) = none := by
    rw [dropWord?, List.isPrefixOf_cons_cons, List.isPrefixOf_cons_cons,
      beq_eq_false_iff_ne.mpr (ne_of_isDigit (c := 'I') hd rfl), Bool.false_and, Bool.and_false,
      if_neg Bool.false_ne_true]
  refine List.findSome?_eq_none_iff.mpr ?_
  intro word hword
  simp only [List.mem_cons, List.not_mem_nil, or_false] at hword
  rcases hword with rfl | rfl | rfl | rfl | rfl | rfl
  case inr.inr.inr.inr.inr => exact congrArg (Option.map _) (hinfinity _)
  all_goals exact congrArg (Option.map _) (hdrop (by decide) _)

-- ── single values ─────────────────────────────────────────────────────────

section Values

variable (fuel : Nat)

/-- The character begins a text, a list or an object. -/
def opens (c : Char) : Bool := c == '"' || c == '[' || c == '\x7b'

/-- What begins otherwise is a word or else a number. -/
theorem readValue_of_opens {c : Char} (hblank : isBlank c = false) (hopens : opens c = false)
    (cs : List Char) :
    readValue (fuel + 1) (c :: cs) =
      (readWord (c :: cs)).or
        (if c = '-' then readNumber true cs else readNumber false (c :: cs)) := by
  rw [readValue, skipBlanks_cons hblank]
  split
  · rename_i h
    rw [(List.cons.inj h).1] at hopens
    cases hopens
  · rename_i h
    rw [(List.cons.inj h).1] at hopens
    cases hopens
  · rename_i h
    rw [(List.cons.inj h).1] at hopens
    cases hopens
  · cases readWord (c :: cs) with
    | some r => rfl
    | none =>
        dsimp only
        split
        · rename_i h
          rw [(List.cons.inj h).1, (List.cons.inj h).2, if_pos rfl]
          rfl
        · rename_i h
          rw [if_neg fun hc => h cs (congrArg (· :: cs) hc)]
          rfl

theorem readValue_null (rest : List Char) :
    readValue (fuel + 1) ("null".toList ++ rest) = some (.null, rest) := by
  show readValue (fuel + 1) ('n' :: ("ull".toList ++ rest)) = _
  rw [readValue_of_opens fuel rfl rfl]
  rfl

theorem readValue_bool (b : Bool) (rest : List Char) :
    readValue (fuel + 1) ((if b then "true" else "false").toList ++ rest) = some (.bool b, rest) := by
  cases b
  · show readValue (fuel + 1) ('f' :: ("alse".toList ++ rest)) = _
    rw [readValue_of_opens fuel rfl rfl]
    rfl
  · show readValue (fuel + 1) ('t' :: ("rue".toList ++ rest)) = _
    rw [readValue_of_opens fuel rfl rfl]
    rfl

/-- **A QUOTED TEXT IS READ BACK**, whatever it holds. -/
theorem readValue_quote (s : String) (rest : List Char) :
    readValue (fuel + 1) ((Text.Quoted.quote s).toList ++ rest) = some (.str s, rest) := by
  rw [Text.Quoted.quote, String.toList_ofList, List.append_assoc]
  show (Text.Quoted.readBody (Text.Quoted.body s.toList ++ '"' :: rest)).map _ = _
  rw [Text.Quoted.readBody_body, Option.map_some]
  exact congrArg (fun s => some (str s, rest)) String.ofList_toList

/-- A digit begins nothing but a number. -/
theorem isDigit_ordinary {d : Char} (hd : d.isDigit = true) :
    isBlank d = false ∧ opens d = false ∧ d ≠ '-' := by
  have hne {c : Char} (hc : c.isDigit = false) : d ≠ c := (ne_of_isDigit hd hc).symm
  simp only [isBlank, opens]
  refine ⟨?_, ?_, hne rfl⟩
  · simp [hne]
  · simp [hne]

/-- **A NUMBER IS READ BACK**, if its digits can be converted. -/
theorem readValue_int {n : Int} (hn : (Nat.toDigits 10 n.natAbs).length ≤ Text.Whole.maxDigits)
    {rest : List Char} (hrest : Closes rest) :
    readValue (fuel + 1) ((toString n).toList ++ rest) = some (.int n, rest) := by
  cases n with
  | ofNat n =>
      have htext : (toString (Int.ofNat n)).toList = Nat.toDigits 10 n := Nat.toList_repr
      have hnumber := readNumber_toDigits false hn hrest
      obtain ⟨d, ds, hd, hdigit⟩ := exists_digit n
      obtain ⟨hblank, hopens, hminus⟩ := isDigit_ordinary hdigit
      rw [htext, hd, List.cons_append, readValue_of_opens fuel hblank hopens,
        readWord_of_isDigit hdigit, Option.none_or, if_neg hminus, ← List.cons_append, ← hd]
      exact hnumber
  | negSucc m =>
      have htext : (toString (Int.negSucc m)).toList = '-' :: Nat.toDigits 10 (m + 1) := by
        rw [← Nat.toList_repr]
        exact String.toList_append
      have hnumber := readNumber_toDigits true hn hrest
      obtain ⟨d, ds, hd, hdigit⟩ := exists_digit (m + 1)
      rw [htext, List.cons_append, readValue_of_opens fuel rfl rfl, if_pos rfl, hd, List.cons_append,
        readWord_minus hdigit, Option.none_or, ← List.cons_append, ← hd]
      exact hnumber

/-- What stands in brackets is read as items, unless the bracket closes at once. -/
theorem readValue_list {cs : List Char} (h : ∀ r, skipBlanks cs ≠ ']' :: r) :
    readValue (fuel + 1) ('[' :: cs) = readItems fuel (skipBlanks cs) [] := by
  rw [readValue, skipBlanks_cons rfl]
  split
  · rename_i hopen
    cases hopen
  · rename_i hopen
    cases hopen
    split
    · rename_i hclose
      exact absurd hclose (h _)
    · rfl
  · rename_i hopen
    cases hopen
  · rename_i hopen _
    exact absurd rfl (hopen cs)

theorem readValue_object {cs : List Char} (h : ∀ r, skipBlanks cs ≠ '\x7d' :: r) :
    readValue (fuel + 1) ('\x7b' :: cs) = readMembers fuel (skipBlanks cs) [] := by
  rw [readValue, skipBlanks_cons rfl]
  split
  · rename_i hopen
    cases hopen
  · rename_i hopen
    cases hopen
  · rename_i hopen
    cases hopen
    split
    · rename_i hclose
      exact absurd hclose (h _)
    · rfl
  · rename_i hopen
    exact absurd rfl (hopen cs)

end Values

-- ── several values ────────────────────────────────────────────────────────

section Several

variable {fuel depth : Nat} {cs rest after : List Char} {j : Json}

theorem skipBlanks_margin {c : Char} (hc : isBlank c = false) (depth : Nat) (cs : List Char) :
    skipBlanks ((margin depth).toList ++ c :: cs) = c :: cs := by
  rw [skipBlanks_of_blanks isBlank_of_mem_margin, skipBlanks_cons hc]

theorem readItems_more (h : readValue fuel cs = some (j, ',' :: rest)) (done : List Json) :
    readItems (fuel + 1) cs done = readItems fuel rest (j :: done) := by
  rw [readItems, h]
  rfl

theorem readItems_last (h : readValue fuel cs = some (j, (margin depth).toList ++ ']' :: after))
    (done : List Json) : readItems (fuel + 1) cs done = some (.list (j :: done).reverse, after) := by
  rw [readItems, h]
  dsimp only
  rw [skipBlanks_margin rfl]
  rfl

variable {key : String}

/-- A member is read up to what follows its value: a comma, or the closing brace. -/
theorem readMembers_step (hkey : skipBlanks cs = (Text.Quoted.quote key).toList ++ ':' :: rest)
    (h : readValue fuel rest = some (j, after)) (done : List (String × Json)) :
    (∀ r, skipBlanks after = ',' :: r →
      readMembers (fuel + 1) cs done = readMembers fuel r ((key, j) :: done)) ∧
    ∀ r, skipBlanks after = '\x7d' :: r →
      readMembers (fuel + 1) cs done =
        some (.object (((key, j) :: done).reverse.foldl (fun ms m => putMember ms m.1 m.2) []), r) := by
  rw [Text.Quoted.quote, String.toList_ofList, List.append_assoc] at hkey
  have hkey : skipBlanks cs = '"' :: (Text.Quoted.body key.toList ++ '"' :: ':' :: rest) := hkey
  have hkeyed : String.ofList key.toList = key := String.ofList_toList
  constructor
  all_goals
    intro r hr
    rw [readMembers, hkey]
    split
    · rename_i hquote
      cases hquote
      rw [Text.Quoted.readBody_body]
      dsimp only
      rw [skipBlanks_cons rfl]
      split
      · rename_i hcolon
        cases hcolon
        rw [h]
        dsimp only
        rw [hr, hkeyed]
        rfl
      · rename_i hcolon
        exact absurd rfl (hcolon rest)
    · rename_i hquote
      exact absurd rfl (hquote _)

end Several

end ElementLocator.Json
