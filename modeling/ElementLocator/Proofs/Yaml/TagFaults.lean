import ElementLocator.Proofs.Yaml.ScanFaults
import ElementLocator.Yaml.Token.Tag

/-! # Faults of scalars in tags and directives

    What stands before nodes and documents is read without blaming a scalar, but for the numbers
    in a directive for versions. Its digits are those of ASCII, so that the only thing wrong with
    such a number can be its length.

    * `Text.Whole.read_digits_eq_error` — a run of digits is read unless it is too long;
    * `yields_readTag`, `scans_readAnchor` — tags and anchors;
    * `yields_readDirective` — directives. -/

namespace ElementLocator.Text.Whole

-- ── numbers of digits ─────────────────────────────────────────────────────

theorem toNat_of_isDigit {d : Char} (h : d.isDigit) : 48 ≤ d.toNat ∧ d.toNat ≤ 57 := by
  simp only [Char.isDigit, Bool.and_eq_true, decide_eq_true_eq, ge_iff_le,
    UInt32.le_iff_toNat_le] at h
  exact h

theorem ne_of_isDigit {d c : Char} (h : d.isDigit) (hc : c.isDigit = false) : d ≠ c := by
  rintro rfl
  rw [h] at hc
  exact nomatch hc

theorem isAround_of_isDigit {d : Char} (h : d.isDigit) : Numeral.isAround d = false := by
  obtain ⟨hlow, hhigh⟩ := toNat_of_isDigit h
  have hblank : (d == ' ') = false := beq_eq_false_iff_ne.mpr (ne_of_isDigit h rfl)
  have htab : (9 ≤ d.toNat && d.toNat ≤ 13) = false := by
    simp only [Bool.and_eq_false_iff, decide_eq_false_iff_not]
    omega
  rw [Numeral.isAround, if_pos (by omega), hblank, htab]
  rfl

/-- The ASCII digits are the first range of decimal digits. -/
theorem rangeOf?_digit {n : Nat} (hlow : 48 ≤ n) (hhigh : n ≤ 57) :
    Numeral.decimals.rangeOf? n = some (48, 57) := by
  have hbelow {m : Nat} (hm : 57 < m) : n < m := by omega
  simp [RangeTable.rangeOf?, Numeral.decimals, RangeTable.search, hbelow, hlow, hhigh]

theorem value?_of_isDigit {d : Char} (h : d.isDigit) : Numeral.value? d = some (d.toNat - 48) := by
  obtain ⟨hlow, hhigh⟩ := toNat_of_isDigit h
  rw [Numeral.value?, rangeOf?_digit hlow hhigh, Option.map_some, Nat.mod_eq_of_lt (by omega)]

theorem digit?_of_isDigit {d : Char} (h : d.isDigit) : digit? 10 d = some (d.toNat - 48) := by
  obtain ⟨hlow, hhigh⟩ := toNat_of_isDigit h
  have hten : decide (d.toNat - 48 < 10) = true := decide_eq_true (by omega)
  rw [digit?, if_pos h, Option.filter_some, if_pos hten]

theorem plain_digits {ds : List Char} (h : ∀ d ∈ ds, d.isDigit) : Numeral.plain ds = ds := by
  have hdrop {es : List Char} (hes : ∀ d ∈ es, d.isDigit) : es.dropWhile Numeral.isAround = es := by
    cases es with
    | nil => rfl
    | cons d rest =>
        rw [List.dropWhile_cons, isAround_of_isDigit (hes d List.mem_cons_self)]
        rfl
  rw [Numeral.plain, hdrop h, hdrop fun d hd => h d (List.mem_reverse.mp hd), List.reverse_reverse]
  refine (List.map_congr_left fun d hd => ?_).trans (List.map_id ds)
  rw [value?_of_isDigit (h d hd)]
  dsimp only
  rw [Nat.add_sub_cancel' (toNat_of_isDigit (h d hd)).1, Char.ofNat_toNat]
  rfl

theorem takeDigits?_digits {ds : List Char} (h : ∀ d ∈ ds, d.isDigit) :
    ∃ vs, takeDigits? 10 true ds = some (vs, []) ∧ vs.length = ds.length := by
  induction ds with
  | nil => exact ⟨[], rfl, rfl⟩
  | cons d rest ih =>
      have hd := h d List.mem_cons_self
      obtain ⟨vs, hvs, hlength⟩ := ih fun e he => h e (List.mem_cons_of_mem d he)
      refine ⟨(d.toNat - 48) :: vs, ?_, by rw [List.length_cons, List.length_cons, hlength]⟩
      have hbar : ¬ d == '_' := fun heq => ne_of_isDigit hd rfl (beq_iff_eq.mp heq)
      rw [takeDigits?, if_neg hbar, digit?_of_isDigit hd, hvs]
      rfl

/-- A run of digits is read as a number, unless there are more digits than are converted. -/
theorem read_digits_eq_error {ds : List Char} (hne : ds ≠ []) (h : ∀ d ∈ ds, d.isDigit) {f : Fault}
    (hread : read 10 (String.ofList ds) = .error f) :
    maxDigits < ds.length ∧ f = .tooLong ds.length := by
  obtain ⟨d, rest, rfl⟩ := List.exists_cons_of_ne_nil hne
  have hd := h d List.mem_cons_self
  obtain ⟨vs, hvs, hlength⟩ := takeDigits?_digits h
  have hsign : takeSign (d :: rest) = (false, d :: rest) := by
    rw [takeSign]
    · rintro r h
      exact ne_of_isDigit hd rfl (List.cons.inj h).1
    · rintro r h
      exact ne_of_isDigit hd rfl (List.cons.inj h).1
  have hmark : skipMark 10 (d :: rest) = d :: rest := by
    rw [skipMark.eq_def]
    split
    · rename_i c r hr
      rw [hr]
      rfl
    · rfl
  have hfirst : takeDigits? 10 false (d :: rest) = some (vs, []) := by
    have hbar : ¬ d == '_' := fun heq => ne_of_isDigit hd rfl (beq_iff_eq.mp heq)
    rw [takeDigits?, if_neg hbar, digit?_of_isDigit hd] at hvs ⊢
    exact hvs
  rw [read, String.toList_ofList, plain_digits h, hsign] at hread
  dsimp only at hread
  rw [hmark, hfirst] at hread
  dsimp only at hread
  split at hread
  · rename_i hlong
    rw [hlength] at hlong hread
    have hlong : maxDigits < (d :: rest).length := by simpa using hlong
    exact ⟨hlong, (Except.error.inj hread).symm⟩
  · exact nomatch hread

end ElementLocator.Text.Whole

namespace ElementLocator.Yaml

variable {cs : List Char} {c : Cursor} (start : Mark)

-- ── tags and anchors ──────────────────────────────────────────────────────

theorem scans_uriBytes (what : String) (fuel : Nat) (h : c.Within cs) :
    Scans cs (uriBytes what start fuel c) := by
  induction fuel generalizing c with
  | zero => exact h
  | succ fuel ih =>
      rw [uriBytes]
      split
      · exact h
      · dsimp only
        split
        · exact Yields.reject ..
        · exact (ih (h.forward.forwardBy 2)).map fun _ hr => hr

theorem scans_uriEscapes (what : String) (h : c.Within cs) : Scans cs (uriEscapes what start c) := by
  have hbytes := scans_uriBytes start what (c.left + 1) h
  rw [uriEscapes]
  split
  · rename_i hb
    rw [hb] at hbytes
    exact Yields.of_error hbytes
  · rename_i hb
    rw [hb] at hbytes
    split
    · exact hbytes
    · exact (Yields.look _ _).bind fun _ _ => trivial

theorem scans_uriChars (what : String) (fuel : Nat) (h : c.Within cs) :
    Scans cs (uriChars what start fuel c) := by
  induction fuel generalizing c with
  | zero => exact h
  | succ fuel ih =>
      rw [uriChars]
      split
      · have hescapes := scans_uriEscapes start what h
        split
        · rename_i he
          rw [he] at hescapes
          exact Yields.of_error hescapes
        · rename_i he
          rw [he] at hescapes
          exact (ih hescapes).map fun _ hr => hr
      · split
        · exact (ih h.forward).map fun _ hr => hr
        · exact h
      · exact h

theorem scans_tagUri (what : String) (h : c.Within cs) : Scans cs (tagUri what start c) := by
  have hchars := scans_uriChars start what (c.left + 1) h
  rw [tagUri]
  split
  · rename_i hu
    rw [hu] at hchars
    exact Yields.of_error hchars
  · rename_i hu
    rw [hu] at hchars
    split
    · exact Yields.reject ..
    · exact hchars
  · rename_i hu
    rw [hu] at hchars
    exact hchars

theorem scans_tagHandle (what : String) (h : c.Within cs) : Scans cs (tagHandle what start c) := by
  rw [tagHandle]
  dsimp only
  split
  · exact Yields.reject ..
  · split
    · exact h.forward
    · split
      · exact (h.forward.takeWhile isNameChar).forward
      · exact Yields.reject ..

/-- **TAGS** blame no scalar. -/
theorem yields_readTag (h : c.Within cs) :
    Yields (ScanFault cs) (fun r => r.2.2.Within cs) (readTag c) := by
  have hends (handle : Option String) (suffix : String) {c' : Cursor} (hc : c'.Within cs) :
      Yields (ScanFault cs) (fun r => r.2.2.Within cs)
        (if endsWord c'.peek then pure (handle, suffix, c') else
          reject "while scanning a tag" c.mark ("expected ' ', but found " ++ found c') c') := by
    split
    · exact hc
    · exact Yields.reject ..
  rw [readTag]
  dsimp only
  split
  · refine (scans_tagUri c.mark "tag" (h.forwardBy 2)).bind ?_
    rintro ⟨suffix, c'⟩ hc'
    dsimp only
    split
    · exact (Yields.reject (P := fun _ => False) ..).bind fun _ hnone => hnone.elim
    · exact hends _ _ hc'.forward
  · split
    · exact hends _ _ h.forward
    · refine (Yields.look c _).bind fun _ _ => ?_
      split
      · refine (scans_tagHandle c.mark "tag" h).bind ?_
        rintro ⟨handle, c'⟩ hc'
        refine (scans_tagUri c.mark "tag" hc').bind ?_
        rintro ⟨suffix, c'⟩ hc'
        exact hends _ _ hc'
      · refine (scans_tagUri c.mark "tag" h.forward).bind ?_
        rintro ⟨suffix, c'⟩ hc'
        exact hends _ _ hc'

/-- **ANCHORS** blame no scalar. -/
theorem scans_readAnchor (what : String) (h : c.Within cs) : Scans cs (readAnchor what c) := by
  have hends (b : Bool) (x : Except Fault (String × Cursor)) (name : String) (hx : Scans cs x) :
      Scans cs (if b then x else .ok (name, (c.forward.takeWhile isNameChar).2)) := by
    split
    · exact hx
    · exact h.forward.takeWhile isNameChar
  exact hends _ _ _ (Yields.reject ..)

-- ── directives ────────────────────────────────────────────────────────────

theorem InVersion.append {before line : List Char} (h : InVersion before)
    (hline : ∀ ch ∈ line, ch == ' ' || ch == '.' || ch.isDigit) : InVersion (before ++ line) := by
  obtain ⟨first, rfl, hfirst⟩ := h
  refine ⟨first ++ line, List.append_assoc .., ?_⟩
  intro ch hch
  rcases List.mem_append.mp hch with hch | hch
  · exact hfirst ch hch
  · exact hline ch hch

/-- A number in a directive for versions; it stands right after the part read before. -/
theorem yields_directiveNumber {before : List Char} (h : c.After cs before) (hbefore : InVersion before) :
    Yields (ScanFault cs) (fun r => ∃ before, r.2.After cs before ∧ InVersion before)
      (directiveNumber start c) := by
  have hdigits : ∀ d ∈ c.rest.takeWhile Char.isDigit, d.isDigit :=
    List.all_eq_true.mp List.all_takeWhile
  rw [directiveNumber]
  dsimp only
  split
  · exact Yields.reject ..
  · rename_i hne
    split
    · refine ⟨_, h.takeWhile Char.isDigit, hbefore.append fun d hd => ?_⟩
      rw [hdigits d hd, Bool.or_true]
    · rename_i f hread
      obtain ⟨hlong, rfl⟩ := Text.Whole.read_digits_eq_error
        (fun hnil => hne (List.isEmpty_iff.mpr hnil)) hdigits hread
      have hplace : before ++ c.rest.takeWhile Char.isDigit <+: before ++ c.rest :=
        (List.prefix_append_right_inj before).mpr (List.takeWhile_prefix _)
      exact (Yields.look _ _).bind fun _ _ =>
        .version (hplace.isInfix.trans (List.IsSuffix.isInfix h)) hbefore hdigits hlong

theorem scans_directiveVersion (h : c.After cs "YAML".toList) : Scans cs (directiveVersion start c) := by
  have hblanks : InVersion ("YAML".toList ++ c.rest.takeWhile (· == ' ')) := by
    refine ⟨_, rfl, fun ch hch => ?_⟩
    have hblank := List.all_eq_true.mp List.all_takeWhile ch hch
    rw [hblank, Bool.true_or, Bool.true_or]
  rw [directiveVersion]
  refine (yields_directiveNumber start (h.takeWhile (· == ' ')) hblanks).bind ?_
  rintro ⟨major, afterMajor⟩ ⟨before, hmajor, hbefore⟩
  dsimp only
  split
  · exact Yields.reject ..
  · rename_i hdot
    have hdot : afterMajor.peek = some '.' := by simpa using hdot
    have hpoint : InVersion (before ++ ['.']) := hbefore.append fun ch hch => by
      rw [List.mem_singleton.mp hch]
      rfl
    refine (yields_directiveNumber start (hmajor.forward hdot) hpoint).bind ?_
    rintro ⟨minor, afterMinor⟩ ⟨_, hminor, -⟩
    dsimp only
    split
    · exact hminor.within
    · exact Yields.reject ..

theorem scans_directiveTag (h : c.Within cs) : Scans cs (directiveTag start c) := by
  rw [directiveTag]
  refine (scans_tagHandle start "directive" (h.skipWhile _)).bind ?_
  rintro ⟨handle, afterHandle⟩ hhandle
  dsimp only
  split
  · exact Yields.reject ..
  · refine (scans_tagUri start "directive" (Cursor.Within.skipWhile hhandle _)).bind ?_
    rintro ⟨meaning, afterMeaning⟩ hmeaning
    dsimp only
    split
    · exact hmeaning
    · exact Yields.reject ..

/-- **DIRECTIVES** blame only numbers of the text. -/
theorem yields_readDirective (h : c.Within cs) :
    Yields (ScanFault cs) (fun r => r.2.2.Within cs) (readDirective c) := by
  have hname := h.forward.takeWhile isNameChar
  have hends (d : Directive) (stop : Mark) {after : Cursor} (hafter : after.Within cs) :
      Yields (ScanFault cs) (fun r => r.2.2.Within cs)
        (ignoredLine directiveContext c.mark after >>= fun c => pure (d, stop, c)) :=
    (yields_ignoredLine c.mark directiveContext hafter).bind fun _ hline => hline
  rw [readDirective]
  dsimp only
  split
  · exact Yields.reject ..
  · split
    · exact Yields.reject ..
    · split
      · rename_i hyaml
        refine (scans_directiveVersion c.mark ?_).bind ?_
        · have hplace : c.forward.After cs [] := h.forward
          have hname : c.forward.rest.takeWhile isNameChar = "YAML".toList := by
            rw [← hyaml]
            exact (String.toList_ofList).symm
          rw [← hname]
          exact hplace.takeWhile isNameChar
        rintro ⟨d, after⟩ hafter
        exact hends _ _ hafter
      · refine (scans_directiveTag c.mark hname).bind ?_
        rintro ⟨d, after⟩ hafter
        exact hends _ _ hafter
      · exact hends _ _ (hname.skipWhile _)

end ElementLocator.Yaml
