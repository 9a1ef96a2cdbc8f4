import ElementLocator.Proofs.Yaml.Faults
import ElementLocator.Yaml.Scalar

/-! # Faults of scalars among characters

    Three kinds of faults blame a scalar before any node is read: an escape in a quoted scalar may
    name no character or half of one, and a number in a directive may have more digits than are
    converted.
    Readers of characters only move forward, so that what they blame stands in the text.

    * `ScanFault` — these kinds, each with the part of the text that is to blame;
    * `scans_quotedScalar` — a quoted scalar blames escapes of the text;
    * `yields_plainScalar`, `scans_blockScalar` — other scalars are read without such faults. -/

namespace ElementLocator.Yaml

/-- The name of the directive for versions, and more of its line: what may stand before a number. -/
def InVersion (before : List Char) : Prop :=
  ∃ line, before = "YAML".toList ++ line ∧ ∀ ch ∈ line, ch == ' ' || ch == '.' || ch.isDigit

/-- An escape by code that stands in a text. -/
structure EscapeIn (cs digits : List Char) : Prop where
  place : ∃ letter, '\\' :: letter :: digits <:+: cs ∧ codeLength? letter = some digits.length
  digits : ∀ d ∈ digits, (Text.Quoted.hexValue? d).isSome

/-- Why a text is not read as tokens although it breaks no rule of the format. -/
inductive ScanFault (cs : List Char) : ScalarFault → Prop
  /-- An escape by code is well written, and there is no character with the code. -/
  | escape {digits : List Char} (h : EscapeIn cs digits) (hcode : 0x10FFFF < hexNumber digits) :
    ScanFault cs (if 0x7FFFFFFF < hexNumber digits then .codeTooLarge else .codePoint)
  /-- An escape by code names half of a character. -/
  | half {digits : List Char} (h : EscapeIn cs digits)
    (hcode : 0xD800 ≤ hexNumber digits ∧ hexNumber digits < 0xE000) : ScanFault cs .halfCharacter
  /-- A number of the version in a directive has more digits than are converted. -/
  | version {before digits : List Char} (hplace : before ++ digits <:+: cs) (hbefore : InVersion before)
    (hdigits : ∀ d ∈ digits, d.isDigit) (hlong : Text.Whole.maxDigits < digits.length) :
    ScanFault cs (.whole (.tooLong digits.length))

-- ── places in a text ──────────────────────────────────────────────────────

namespace Cursor

/-- The place is one of a text: what follows it is the end of the text. -/
def Within (cs : List Char) (c : Cursor) : Prop := c.rest <:+ cs

theorem rest_forward (c : Cursor) : c.forward.rest = c.rest.tail := by
  obtain ⟨m, cs, n, rfl, o⟩ := c
  cases cs <;> rfl

theorem rest_forwardBy (c : Cursor) (n : Nat) : (c.forwardBy n).rest = c.rest.drop n := by
  induction n generalizing c with
  | zero => rfl
  | succ n ih =>
      rw [forwardBy, ih, rest_forward, List.drop_tail]

theorem cons_rest_forward {c : Cursor} {ch : Char} (h : c.peek = some ch) :
    ch :: c.forward.rest = c.rest := by
  obtain ⟨rest, hrest⟩ := List.head?_eq_some_iff.mp h
  rw [rest_forward, hrest, List.tail_cons]

namespace Within

variable {cs : List Char} {c : Cursor}

theorem start (beyond : Option Obstacle) : (Cursor.start cs beyond).Within cs := List.suffix_refl cs

theorem forwardBy (h : c.Within cs) (n : Nat) : (c.forwardBy n).Within cs := by
  rw [Within, rest_forwardBy]
  exact (List.drop_suffix n c.rest).trans h

theorem forward (h : c.Within cs) : c.forward.Within cs := h.forwardBy 1

theorem takeWhile (h : c.Within cs) (p : Char → Bool) : (c.takeWhile p).2.Within cs := h.forwardBy _

theorem skipWhile (h : c.Within cs) (p : Char → Bool) : (c.skipWhile p).Within cs := h.forwardBy _

theorem skipComment (h : c.Within cs) :
    (if c.peek == some '#' then c.skipWhile (!isBreak ·) else c).Within cs := by
  split
  · exact h.skipWhile _
  · exact h

theorem takeBreak (h : c.Within cs) : c.takeBreak.2.Within cs := by
  rw [Cursor.takeBreak]
  split
  · exact h.forwardBy 2
  · split
    · exact h.forward
    · split
      · exact h.forward
      · exact h
  · exact h

end Within

/-- The place comes right after a part of a text. -/
def After (cs before : List Char) (c : Cursor) : Prop := before ++ c.rest <:+ cs

namespace After

variable {cs before : List Char} {c : Cursor}

theorem within (h : c.After cs before) : c.Within cs := (List.suffix_append before c.rest).trans h

theorem forward {ch : Char} (h : c.After cs before) (hch : c.peek = some ch) :
    c.forward.After cs (before ++ [ch]) := by
  rw [After, List.append_assoc]
  show before ++ (ch :: c.forward.rest) <:+ cs
  rw [cons_rest_forward hch]
  exact h

theorem takeWhile (h : c.After cs before) (p : Char → Bool) :
    (c.takeWhile p).2.After cs (before ++ c.rest.takeWhile p) := by
  have hrest : c.rest.takeWhile p ++ (c.takeWhile p).2.rest = c.rest := by
    rw [Cursor.takeWhile, rest_forwardBy]
    exact List.prefix_iff_eq_append.mp (List.takeWhile_prefix p)
  rw [After, List.append_assoc, hrest]
  exact h

end After

end Cursor

/-- A reader stays in a text: it goes on at a place of the text, or its fault blames a part of it. -/
def Scans {α : Type} (cs : List Char) (x : Except Fault (α × Cursor)) : Prop :=
  Yields (ScanFault cs) (fun r => r.2.Within cs) x

variable {cs : List Char} {c : Cursor} (start : Mark)

-- ── quoted scalars ────────────────────────────────────────────────────────

theorem scans_quotedBreaks (fuel : Nat) (h : c.Within cs) : Scans cs (quotedBreaks start fuel c) := by
  induction fuel generalizing c with
  | zero => exact h
  | succ fuel ih =>
      rw [quotedBreaks]
      refine (Yields.look c _).bind fun _ _ => ?_
      split
      · exact Yields.reject ..
      · have hskip := h.skipWhile fun ch => ch == ' ' || ch == '\t'
        dsimp only
        split
        · exact (ih hskip.takeBreak).map fun _ hr => hr
        · exact hskip

theorem scans_quotedBlanks (h : c.Within cs) : Scans cs (quotedBlanks start c) := by
  have htake := h.takeWhile fun ch => ch == ' ' || ch == '\t'
  rw [quotedBlanks]
  dsimp only
  split
  · exact Yields.reject ..
  · split
    · have hbreaks := scans_quotedBreaks start
        ((c.takeWhile fun ch => ch == ' ' || ch == '\t').2.takeBreak.2.left + 1) htake.takeBreak
      split
      · rename_i hq
        rw [hq] at hbreaks
        exact Yields.of_error hbreaks
      · rename_i hq
        rw [hq] at hbreaks
        exact hbreaks
    · exact htake

/-- The digits of an escape by code, if none is missing, are all there is between its letter and the
    characters after it. -/
theorem digits_of_find?_eq_none {n : Nat}
    (h : ((List.range n).find? fun k => !(c.peekAt k).any fun d => (Text.Quoted.hexValue? d).isSome) = none) :
    (c.rest.take n).length = n ∧ ∀ d ∈ c.rest.take n, (Text.Quoted.hexValue? d).isSome := by
  have hall (k : Nat) (hk : k < n) : ∃ d, c.rest[k]? = some d ∧ (Text.Quoted.hexValue? d).isSome := by
    have hk := List.find?_eq_none.mp h k (List.mem_range.mpr hk)
    rw [Cursor.peekAt] at hk
    cases hd : c.rest[k]? with
    | none =>
        rw [hd] at hk
        exact absurd rfl hk
    | some d =>
        rw [hd] at hk
        exact ⟨d, rfl, by simpa only [Option.any_some, Bool.not_not, Bool.not_eq_true',
          Bool.not_eq_false] using hk⟩
  constructor
  · rw [List.length_take]
    rcases Nat.lt_or_ge c.rest.length n with hlt | hge
    · obtain ⟨d, hd, -⟩ := hall c.rest.length hlt
      rw [List.getElem?_eq_none (Nat.le_refl _)] at hd
      exact nomatch hd
    · exact Nat.min_eq_left hge
  · intro d hd
    obtain ⟨k, hk, rfl⟩ := List.getElem_of_mem hd
    rw [List.length_take] at hk
    obtain ⟨d, hd, hhex⟩ := hall k (by omega)
    rw [List.getElem_take]
    rw [List.getElem?_eq_getElem (by omega)] at hd
    rw [Option.some.inj hd]
    exact hhex

/-- An escape; its backslash stands in the text right before the place. -/
theorem scans_quotedEscape (hplace : '\\' :: c.rest <:+ cs) : Scans cs (quotedEscape start c) := by
  have h : c.Within cs := (List.suffix_cons _ _).trans hplace
  rw [quotedEscape]
  dsimp only
  split
  · exact Yields.reject ..
  · rename_i letter hletter
    split
    · exact h.forward
    · rename_i n _ hlength
      split
      · exact Yields.reject ..
      · rename_i hdigits
        obtain ⟨hcount, hhex⟩ := digits_of_find?_eq_none hdigits
        have hescape : '\\' :: letter :: c.forward.rest.take n <:+: cs := by
          rw [← Cursor.cons_rest_forward hletter] at hplace
          have hprefix : '\\' :: letter :: c.forward.rest.take n <+: '\\' :: letter :: c.forward.rest :=
            List.cons_prefix_cons.mpr ⟨rfl, List.cons_prefix_cons.mpr ⟨rfl, List.take_prefix _ _⟩⟩
          exact hprefix.isInfix.trans hplace.isInfix
        have hescape : EscapeIn cs (c.forward.rest.take n) :=
          ⟨⟨letter, hescape, by rw [hcount, hlength]⟩, hhex⟩
        have hfault := ScanFault.escape hescape
        split
        · rename_i hlarge
          rw [if_pos hlarge] at hfault
          exact hfault (Nat.lt_trans (by decide) hlarge)
        · rename_i hsmall
          rw [if_neg hsmall] at hfault
          split
          · rename_i hcode
            exact hfault hcode
          · split
            · rename_i hhalf
              exact .half hescape hhalf
            · exact h.forward.forwardBy n
    · split
      · exact scans_quotedBreaks start _ h.takeBreak
      · exact Yields.reject ..

theorem scans_quotedText (double : Bool) (fuel : Nat) (h : c.Within cs) :
    Scans cs (quotedText double start fuel c) := by
  induction fuel generalizing c with
  | zero => exact h
  | succ fuel ih =>
      have htext := h.takeWhile isQuotedText
      have hmore {piece : List Char → List Char} {c : Cursor} (hc : c.Within cs) :
          Scans cs ((quotedText double start fuel c).map fun r => (piece r.1, r.2)) :=
        (ih hc).map fun _ hr => hr
      rw [quotedText]
      dsimp only
      split
      · split
        · exact hmore htext.forward
        · split
          · exact hmore (htext.forwardBy 2)
          · exact htext
      · split
        · exact htext
        · exact hmore htext.forward
      · rename_i hbackslash
        split
        · have hescape : Scans cs (quotedEscape start (c.takeWhile isQuotedText).2.forward) :=
            scans_quotedEscape start (by rw [Cursor.cons_rest_forward hbackslash]; exact htext)
          split
          · rename_i hpiece
            rw [hpiece] at hescape
            exact hmore hescape
          · rename_i hpiece
            rw [hpiece] at hescape
            exact Yields.of_error hescape
        · exact hmore htext.forward
      · exact htext

theorem scans_quotedRest (double : Bool) (fuel : Nat) (h : c.Within cs) :
    Scans cs (quotedRest double start fuel c) := by
  induction fuel generalizing c with
  | zero => exact h
  | succ fuel ih =>
      rw [quotedRest]
      by_cases hclosed : c.peek == some (if double then '"' else '\'')
      · rw [if_pos hclosed]
        exact h
      · rw [if_neg hclosed]
        have hblanks := scans_quotedBlanks start h
        split
        · rename_i hq
          rw [hq] at hblanks
          exact Yields.of_error hblanks
        · rename_i blanks c hq
          rw [hq] at hblanks
          have htext := scans_quotedText start double (c.left + 1) hblanks
          split
          · rename_i ht
            rw [ht] at htext
            exact Yields.of_error htext
          · rename_i ht
            rw [ht] at htext
            exact (ih htext).map fun _ hr => hr

/-- **QUOTED SCALARS** blame only escapes of the text. -/
theorem scans_quotedScalar (double : Bool) (h : c.Within cs) : Scans cs (quotedScalar double c) := by
  rw [quotedScalar]
  dsimp only
  have htext := scans_quotedText c.mark double (c.forward.left + 1) h.forward
  split
  · rename_i ht
    rw [ht] at htext
    exact Yields.of_error htext
  · rename_i ht
    rw [ht] at htext
    exact (scans_quotedRest c.mark double _ htext).map fun _ hr => Cursor.Within.forward hr

-- ── plain scalars ─────────────────────────────────────────────────────────

theorem scans_plainBreaks (fuel : Nat) (h : c.Within cs) : Scans cs (plainBreaks fuel c) := by
  induction fuel generalizing c with
  | zero => exact h
  | succ fuel ih =>
      have hskip := h.skipWhile (· == ' ')
      rw [plainBreaks]
      dsimp only
      split
      · refine (Yields.look _ _).bind fun _ _ => ?_
        split
        · exact hskip.takeBreak
        · exact (ih hskip.takeBreak).map fun _ hr => hr
      · exact hskip

theorem yields_plainBlanks (h : c.Within cs) :
    Yields (ScanFault cs) (fun r => r.2.2.Within cs) (plainBlanks c) := by
  have htake := h.takeWhile (· == ' ')
  rw [plainBlanks]
  dsimp only
  split
  · refine (Yields.look _ _).bind fun _ _ => ?_
    split
    · exact htake.takeBreak
    · exact (scans_plainBreaks _ htake.takeBreak).map fun _ hr => hr
  · exact htake

theorem yields_plainRest {flow : Bool} {indent : Int} {fuel : Nat} {blanks : List Char} {p : Plain}
    (h : p.cursor.Within cs) :
    Yields (ScanFault cs) (fun p => p.cursor.Within cs) (plainRest flow indent fuel blanks p) := by
  induction fuel generalizing blanks p with
  | zero => exact h
  | succ fuel ih =>
      rw [plainRest]
      dsimp only
      split
      · exact h
      · refine (Yields.look _ _).bind fun _ _ => ?_
        split
        · exact h
        · refine (yields_plainBlanks (h.forwardBy (plainLength flow p.cursor.rest))).bind ?_
          rintro ⟨next, brokeLine, after⟩ hafter
          dsimp only
          split
          · exact hafter
          · split
            · exact hafter
            · exact ih hafter

theorem yields_plainScalar (flow : Bool) (indent : Int) (h : c.Within cs) :
    Yields (ScanFault cs) (fun p => p.cursor.Within cs) (plainScalar flow indent c) := yields_plainRest h

-- ── block scalars ─────────────────────────────────────────────────────────

theorem scans_blockIncrement (h : c.Within cs) : Scans cs (blockIncrement start c) := by
  rw [blockIncrement]
  split
  · split
    · split
      · exact Yields.reject ..
      · exact h.forward
    · exact h
  · exact h

theorem yields_blockIndicators (h : c.Within cs) :
    Yields (ScanFault cs) (fun r => r.2.2.Within cs) (blockIndicators start c) := by
  have hends (k : Chomping) (n : Option Nat) {c : Cursor} (hc : c.Within cs) :
      Yields (ScanFault cs) (fun r => r.2.2.Within cs)
        (if endsWord c.peek then pure (k, n, c) else
          reject blockContext start
            ("expected chomping or indentation indicators, but found " ++ found c) c) := by
    split
    · exact hc
    · exact Yields.reject ..
  rw [blockIndicators]
  split
  · exact (scans_blockIncrement start h.forward).bind fun r hr => hends _ r.1 hr
  · refine (scans_blockIncrement start h).bind fun r hr => ?_
    dsimp only
    split
    · exact hends _ r.1 hr.forward
    · exact hends _ r.1 hr

theorem yields_ignoredLine (context : String) (h : c.Within cs) :
    Yields (ScanFault cs) (Cursor.Within cs) (ignoredLine context start c) := by
  have hcomment := (h.skipWhile (· == ' ')).skipComment
  unfold ignoredLine
  dsimp only
  by_cases hend : endsLine (if (c.skipWhile (· == ' ')).peek == some '#' then
      (c.skipWhile (· == ' ')).skipWhile (!isBreak ·) else c.skipWhile (· == ' ')).peek
  · rw [if_pos hend]
    exact hcomment.takeBreak
  · rw [if_neg hend]
    exact Yields.reject ..

theorem within_blockIndentation (fuel deepest : Nat) (h : c.Within cs) :
    (blockIndentation fuel deepest c).2.2.Within cs := by
  induction fuel generalizing c deepest with
  | zero => exact h
  | succ fuel ih =>
      rw [blockIndentation]
      split
      · split
        · exact ih _ h.forward
        · split
          · exact ih _ h.takeBreak
          · exact h
      · exact h

theorem within_blockBreaks (indent fuel : Nat) (h : c.Within cs) :
    (blockBreaks indent fuel c).2.Within cs := by
  induction fuel generalizing c with
  | zero => exact h
  | succ fuel ih =>
      have hskip : (skipIndent indent c).Within cs := h.forwardBy _
      rw [blockBreaks]
      dsimp only
      split
      · exact ih hskip.takeBreak
      · exact hskip

theorem within_blockLines (folded : Bool) (indent fuel : Nat) (breaks : List Char) (h : c.Within cs) :
    (blockLines folded indent fuel breaks c).2.2.2.Within cs := by
  induction fuel generalizing c breaks with
  | zero => exact h
  | succ fuel ih =>
      rw [blockLines]
      dsimp only
      split
      · have hnext := within_blockBreaks indent ((c.takeWhile (!isBreak ·)).2.takeBreak.2.left + 1)
          (h.takeWhile (!isBreak ·)).takeBreak
        split
        · exact ih _ hnext
        · exact hnext
      · exact h

theorem scans_blockScalar (folded : Bool) (parent : Int) (h : c.Within cs) :
    Scans cs (blockScalar folded parent c) := by
  rw [blockScalar]
  refine (yields_blockIndicators c.mark h.forward).bind ?_
  rintro ⟨chomp, increment, after⟩ hafter
  refine (yields_ignoredLine c.mark blockContext hafter).bind ?_
  intro line hline
  cases increment with
  | none =>
      have hfirst := within_blockIndentation (line.left + 1) 0 hline
      dsimp only
      exact within_blockLines folded _ _ _ hfirst
  | some n =>
      have hfirst := within_blockBreaks ((max 1 (parent + 1)).toNat + n - 1) (line.left + 1) hline
      dsimp only
      exact within_blockLines folded _ _ _ hfirst

end ElementLocator.Yaml
