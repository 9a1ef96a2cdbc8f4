import ElementLocator.Pattern.Reader
import ElementLocator.Proofs.Acceptance
import ElementLocator.Proofs.OutlineBlocks

/-! # Patterns in lines

    A pattern is shown as a list with one line for itself and one for each pattern inside it, indented by
    its level.

    * `Pattern.format_eq` — what a pattern is shown as, at any indent, or that it cannot be shown;
    * `Pattern.splitOn_shown` — the lines of a text that shows a pattern without line ends;
    * `Pattern.levels_append_inj` — the levels of patterns in order determine how they are nested;
    * `Pattern.format_goes_by_lines` — all this of every pattern. -/

namespace ElementLocator

/-- The texts of criteria, with or without a constraint. -/
def Criteria.texts (c : Criteria) : List String :=
  c.role :: (c.identifier.toList ++ c.className.toList ++ c.label.toList)

namespace Pattern

open Outline (line_break_not_mem_append)

-- ── levels ────────────────────────────────────────────────────────────────

mutual

/-- A pattern and all patterns inside it, in order and each with its level, where the pattern itself is on
    level `k`. -/
def levelled (k : Nat) : Pattern → List (Nat × Pattern)
  | .node c cs => (k, .node c cs) :: levelledEach (k + 1) cs

/-- Several patterns on a level and all patterns inside them. -/
def levelledEach (k : Nat) : List Pattern → List (Nat × Pattern)
  | [] => []
  | p :: rest => p.levelled k ++ levelledEach k rest

end

mutual

theorem map_snd_levelled : ∀ (k : Nat) (p : Pattern), (p.levelled k).map Prod.snd = p.parts
  | k, .node c cs => by rw [levelled, List.map_cons, map_snd_levelledEach (k + 1) cs, parts]

theorem map_snd_levelledEach : ∀ (k : Nat) (ps : List Pattern), (levelledEach k ps).map Prod.snd = partsEach ps
  | _, [] => rfl
  | k, p :: rest => by
      rw [levelledEach, List.map_append, map_snd_levelled k p, map_snd_levelledEach k rest, partsEach]

end

mutual

theorem levelled_add (n : Nat) :
    ∀ (k : Nat) (p : Pattern), p.levelled (n + k) = (p.levelled k).map fun e => (n + e.1, e.2)
  | k, .node c cs => by
      rw [levelled, levelled, List.map_cons, Nat.add_assoc, levelledEach_add n (k + 1) cs]

theorem levelledEach_add (n : Nat) :
    ∀ (k : Nat) (ps : List Pattern), levelledEach (n + k) ps = (levelledEach k ps).map fun e => (n + e.1, e.2)
  | _, [] => rfl
  | k, p :: rest => by
      rw [levelledEach, levelledEach, List.map_append, levelled_add n k p, levelledEach_add n k rest]

end

theorem levelledEach_eq_flatMap (k : Nat) (ps : List Pattern) : levelledEach k ps = ps.flatMap (levelled k) := by
  induction ps with
  | nil => rfl
  | cons p rest ih => rw [levelledEach, List.flatMap_cons, ih]

theorem levelled_ne_nil (k : Nat) (p : Pattern) : p.levelled k ≠ [] := by
  cases p with
  | node c cs =>
      rw [levelled]
      exact List.cons_ne_nil _ _

-- ── lines ─────────────────────────────────────────────────────────────────

/-- The line of a pattern on a level: two blanks for each level, a dash, and what the pattern asks for. -/
def line (level : Nat) (p : Pattern) : List Char :=
  List.replicate (2 * level) ' ' ++ '-' :: ' ' :: p.describe.toList

/-- The lines of a pattern on a level and of all patterns inside it. -/
def linesFrom (level : Nat) (p : Pattern) : List (List Char) := (p.levelled level).map fun e => e.2.line e.1

/-- The lines as a text. -/
def shown (level : Nat) (p : Pattern) : String := String.ofList (['\n'].intercalate (p.linesFrom level))

/-- Lists between separators may be put between further ones. -/
theorem intercalate_intercalate {sep : List Char} {ls : List (List Char)} (hls : ls ≠ [])
    (others : List (List Char)) :
    sep.intercalate (sep.intercalate ls :: others) = sep.intercalate (ls ++ others) := by
  induction ls with
  | nil => exact absurd rfl hls
  | cons l rest ih =>
      cases rest with
      | nil => rw [List.intercalate_singleton, List.singleton_append]
      | cons l' rest =>
          have hrest := ih (List.cons_ne_nil l' rest)
          cases others with
          | nil => rw [List.intercalate_singleton, List.append_nil]
          | cons o others =>
              rw [List.cons_append, List.cons_append, List.intercalate_cons_cons, List.intercalate_cons_cons,
                List.intercalate_cons_cons, ← List.cons_append, ← hrest, List.intercalate_cons_cons]
              simp only [List.append_assoc]

theorem intercalate_flatMap {sep : List Char} {f : Pattern → List (List Char)} (hf : ∀ p, f p ≠ []) (first : List Char)
    (ps : List Pattern) :
    sep.intercalate (first :: ps.map fun p => sep.intercalate (f p)) = sep.intercalate (first :: ps.flatMap f) := by
  induction ps generalizing first with
  | nil => rfl
  | cons p rest ih =>
      have hne : f p ++ rest.flatMap f ≠ [] := List.append_ne_nil_of_left_ne_nil (hf p) _
      rw [List.map_cons, List.flatMap_cons, List.intercalate_cons_cons, ih, intercalate_intercalate (hf p),
        List.intercalate_cons_of_ne_nil hne]

/-- A pattern is shown as its line and what the patterns inside it are shown as. -/
theorem shown_node (level : Nat) (c : Criteria) (cs : List Pattern) :
    shown level (.node c cs) = String.intercalate "\n"
      ((String.ofList (List.replicate (2 * level) ' ') ++ "- " ++ (node c cs).describe) ::
        cs.map (shown (level + 1))) := by
  apply String.toList_injective
  have hline : (String.ofList (List.replicate (2 * level) ' ') ++ "- " ++ (node c cs).describe).toList =
      (node c cs).line level := by
    rw [String.toList_append, String.toList_append, String.toList_ofList, List.append_assoc]
    rfl
  have hinner : (cs.map (shown (level + 1))).map String.toList =
      cs.map fun p => ['\n'].intercalate (p.linesFrom (level + 1)) := by
    rw [List.map_map]
    exact List.map_congr_left fun p _ => String.toList_ofList
  have hlines : (node c cs).linesFrom level = (node c cs).line level :: cs.flatMap (linesFrom (level + 1)) := by
    rw [linesFrom, levelled, List.map_cons, levelledEach_eq_flatMap, List.map_flatMap]
    rfl
  have hne (p : Pattern) : p.linesFrom (level + 1) ≠ [] := by
    rw [linesFrom, ne_eq, List.map_eq_nil_iff]
    exact levelled_ne_nil _ p
  rw [shown, String.toList_ofList, hlines, String.toList_intercalate, List.map_cons, hline, hinner]
  exact (intercalate_flatMap hne _ cs).symm

mutual

/-- **WHAT A PATTERN IS SHOWN AS**: its lines, unless some index in it has too many digits. The recursion is
    on the pattern, and each indent is one more inside. -/
theorem format_eq : ∀ (n : Nat) (p : Pattern),
    p.format n = if p.parts.any hasLongIndex then .error .numberTooLong else .ok (p.shown n)
  | n, .node c cs => by
      rw [format, formatAll_eq (n + 1) cs, described, parts, List.any_cons, shown_node]
      cases (node c cs).hasLongIndex with
      | true => rfl
      | false => cases (partsEach cs).any hasLongIndex <;> rfl

theorem formatAll_eq : ∀ (n : Nat) (ps : List Pattern),
    formatAll n ps = if (partsEach ps).any hasLongIndex then .error .numberTooLong else .ok (ps.map (shown n))
  | _, [] => rfl
  | n, p :: rest => by
      rw [formatAll, format_eq n p, formatAll_eq n rest, partsEach, List.any_append]
      cases p.parts.any hasLongIndex with
      | true => rfl
      | false => cases (partsEach rest).any hasLongIndex <;> rfl

end

-- ── lines of their own ────────────────────────────────────────────────────

/-- No text of the pattern or of a pattern inside it has a line end. -/
def OneLine (p : Pattern) : Prop := ∀ q ∈ p.parts, ∀ s ∈ q.criteria.texts, '\n' ∉ s.toList

theorem line_break_not_mem_toString_nat (n : Nat) : '\n' ∉ (toString n).toList := by
  intro h
  have hdigits : (toString n).toList = Nat.toDigits 10 n := String.toList_ofList
  rw [hdigits] at h
  exact absurd (Nat.isDigit_of_mem_toDigits (by decide) (by decide) h) (by decide)

theorem line_break_not_mem_toString_int (n : Int) : '\n' ∉ (toString n).toList := by
  cases n with
  | ofNat n => exact line_break_not_mem_toString_nat n
  | negSucc n => exact line_break_not_mem_append (s := "-") (by decide) (line_break_not_mem_toString_nat (n + 1))

theorem line_break_not_mem_spelling (m : MatchType) : '\n' ∉ m.spelling.toList := by
  cases m <;> decide

/-- A part of a description has a line end only from its name or its text. -/
theorem line_break_not_mem_part (name : String) (hname : '\n' ∉ name.toList) (v : Option String)
    (hv : ∀ s ∈ v.toList, '\n' ∉ s.toList) :
    '\n' ∉ (match v with
      | some s => s!", {name}: {s}"
      | none => "").toList := by
  cases v with
  | none => exact List.not_mem_nil
  | some s =>
      have hstart := line_break_not_mem_append (line_break_not_mem_append (s := ", ") (by decide) hname)
        (t := ": ") (by decide)
      exact line_break_not_mem_append hstart (hv s (List.mem_singleton_self s))

theorem line_break_not_mem_describe {p : Pattern} (h : ∀ s ∈ p.criteria.texts, '\n' ∉ s.toList) :
    '\n' ∉ p.describe.toList := by
  have hrole : '\n' ∉ p.criteria.role.toList := h _ List.mem_cons_self
  have hothers (s : String)
      (hs : s ∈ p.criteria.identifier.toList ++ p.criteria.className.toList ++ p.criteria.label.toList) :
      '\n' ∉ s.toList := h s (List.mem_cons_of_mem _ hs)
  have hidentifier := line_break_not_mem_part "Identifier" (by decide) p.criteria.identifier
    fun s hs => hothers s (List.mem_append_left _ (List.mem_append_left _ hs))
  have hclass := line_break_not_mem_part "Class" (by decide) p.criteria.className
    fun s hs => hothers s (List.mem_append_left _ (List.mem_append_right _ hs))
  have hlabel := line_break_not_mem_part "Label" (by decide) p.criteria.label
    fun s hs => hothers s (List.mem_append_right _ hs)
  have hindex := line_break_not_mem_part "Index" (by decide) (p.criteria.index.map toString) (by
    intro s hs
    obtain ⟨n, -, rfl⟩ : ∃ n, p.criteria.index = some n ∧ toString n = s := by simpa using hs
    exact line_break_not_mem_toString_int n)
  have hcount : '\n' ∉ (if p.children.isEmpty then "" else s!", Children: {p.children.length}").toList := by
    split
    · exact List.not_mem_nil
    · exact line_break_not_mem_append (s := ", Children: ") (by decide) (line_break_not_mem_toString_nat _)
  have hmatch : '\n' ∉ (s!", MatchType: {p.criteria.matchType.spelling}").toList :=
    line_break_not_mem_append (s := ", MatchType: ") (by decide) (line_break_not_mem_spelling _)
  have hstart : '\n' ∉ (s!"Role: {p.criteria.role}").toList :=
    line_break_not_mem_append (s := "Role: ") (by decide) hrole
  have htexts := line_break_not_mem_append
    (line_break_not_mem_append (line_break_not_mem_append hstart hidentifier) hclass) hlabel
  exact line_break_not_mem_append (line_break_not_mem_append (line_break_not_mem_append htexts hindex) hmatch) hcount

theorem line_break_not_mem_line {p : Pattern} (h : ∀ s ∈ p.criteria.texts, '\n' ∉ s.toList) (level : Nat) :
    '\n' ∉ p.line level := by
  rw [line, List.mem_append, List.mem_cons, List.mem_cons, not_or, not_or, not_or]
  exact ⟨fun hblank => absurd (List.eq_of_mem_replicate hblank) (by decide), by decide, by decide,
    line_break_not_mem_describe h⟩

/-- **THE LINES OF A TEXT** that shows a pattern without line ends are those of the pattern. -/
theorem splitOn_shown {p : Pattern} (h : p.OneLine) (n : Nat) : (p.shown n).toList.splitOn '\n' = p.linesFrom n := by
  rw [shown, String.toList_ofList]
  refine List.splitOn_intercalate _ ?_ ?_
  · intro l hl
    obtain ⟨⟨level, q⟩, hq, rfl⟩ := List.mem_map.mp hl
    have hpart : q ∈ p.parts := map_snd_levelled n p ▸ List.mem_map_of_mem hq
    exact line_break_not_mem_line (h q hpart) level
  · rw [linesFrom, ne_eq, List.map_eq_nil_iff]
    exact levelled_ne_nil n p

-- ── shapes ────────────────────────────────────────────────────────────────

/-- How a pattern is nested. -/
inductive Shape
  | node (inner : List Shape)

mutual

/-- The shape of a pattern. -/
def shape : Pattern → Shape
  | .node _ cs => .node (shapeEach cs)

/-- The shapes of several patterns. -/
def shapeEach : List Pattern → List Shape
  | [] => []
  | p :: rest => p.shape :: shapeEach rest

end

/-- The levels of a pattern on a level and of all patterns inside it, in order. -/
def levels (k : Nat) (p : Pattern) : List Nat := (p.levelled k).map Prod.fst

/-- The levels of several patterns and of all patterns inside them. -/
def levelsEach (k : Nat) (ps : List Pattern) : List Nat := (levelledEach k ps).map Prod.fst

theorem levels_node (k : Nat) (c : Criteria) (cs : List Pattern) :
    levels k (.node c cs) = k :: levelsEach (k + 1) cs := by
  rw [levels, levelled, List.map_cons, levelsEach]

theorem levelsEach_cons (k : Nat) (p : Pattern) (rest : List Pattern) :
    levelsEach k (p :: rest) = p.levels k ++ levelsEach k rest := by
  rw [levelsEach, levelledEach, List.map_append, levels, levelsEach]

/-- Nothing on a level, or further in, comes first. -/
def Outside (k : Nat) (r : List Nat) : Prop := ∀ j ∈ r.head?, j < k

theorem Outside.inside {k : Nat} {r : List Nat} (h : Outside k r) (ps : List Pattern) :
    Outside (k + 1) (levelsEach k ps ++ r) := by
  intro j hj
  cases ps with
  | nil => exact Nat.lt_succ_of_lt (h j hj)
  | cons p rest =>
      obtain ⟨c, cs⟩ := p
      rw [levelsEach_cons, levels_node] at hj
      obtain rfl : k = j := Option.some.inj hj
      exact Nat.lt_succ_self k

theorem Outside.ne_cons {k : Nat} {r : List Nat} (h : Outside k r) (p : Pattern) (rest : List Pattern) (s : List Nat) :
    r ≠ levelsEach k (p :: rest) ++ s := by
  rintro rfl
  obtain ⟨c, cs⟩ := p
  rw [levelsEach_cons, levels_node] at h
  exact Nat.lt_irrefl k (h k rfl)

mutual

/-- **THE LEVELS DETERMINE THE SHAPE**, and what follows outside. The recursion is on one of the patterns;
    what stands behind the patterns inside it is further out than these. -/
theorem levels_append_inj (k : Nat) {r s : List Nat} (hr : Outside (k + 1) r) (hs : Outside (k + 1) s) :
    ∀ p q : Pattern, p.levels k ++ r = q.levels k ++ s → p.shape = q.shape ∧ r = s
  | .node c cs, .node d ds, h => by
      rw [levels_node, levels_node, List.cons_append, List.cons_append] at h
      obtain ⟨hshapes, hrest⟩ := levelsEach_append_inj (k + 1) hr hs cs ds (List.cons.inj h).2
      exact ⟨by rw [shape, shape, hshapes], hrest⟩

theorem levelsEach_append_inj (k : Nat) {r s : List Nat} (hr : Outside k r) (hs : Outside k s) :
    ∀ ps qs : List Pattern, levelsEach k ps ++ r = levelsEach k qs ++ s → shapeEach ps = shapeEach qs ∧ r = s
  | [], [], h => ⟨rfl, h⟩
  | [], q :: qs, h => absurd h (hr.ne_cons q qs s)
  | p :: ps, [], h => absurd h.symm (hs.ne_cons p ps r)
  | p :: ps, q :: qs, h => by
      rw [levelsEach_cons, levelsEach_cons, List.append_assoc, List.append_assoc] at h
      obtain ⟨hfirst, hothers⟩ := levels_append_inj k (hr.inside ps) (hs.inside qs) p q h
      obtain ⟨hrest, hend⟩ := levelsEach_append_inj k hr hs ps qs hothers
      exact ⟨by rw [shapeEach, shapeEach, hfirst, hrest], hend⟩

end

/-- The level of a line is half the number of blanks that it starts with. -/
theorem length_blanks_line (level : Nat) (p : Pattern) :
    ((p.line level).takeWhile (· == ' ')).length / 2 = level := by
  have hblanks : (p.line level).takeWhile (· == ' ') = List.replicate (2 * level) ' ' := by
    rw [line, List.takeWhile_append_of_pos fun c hc => by rw [List.eq_of_mem_replicate hc]; rfl]
    exact List.append_nil _
  rw [hblanks, List.length_replicate, Nat.mul_div_cancel_left level (by decide)]

theorem levels_eq_map_linesFrom (n : Nat) (p : Pattern) :
    p.levels n = (p.linesFrom n).map fun l => (l.takeWhile (· == ' ')).length / 2 := by
  rw [levels, linesFrom, List.map_map]
  exact List.map_congr_left fun e _ => (length_blanks_line e.1 e.2).symm

/-- The lines of a pattern determine its indent and its shape. -/
theorem linesFrom_inj {n m : Nat} {p q : Pattern} (h : p.linesFrom n = q.linesFrom m) : n = m ∧ p.shape = q.shape := by
  have hlevels : p.levels n = q.levels m := by
    rw [levels_eq_map_linesFrom, levels_eq_map_linesFrom, h]
  have hfirst : n = m := by
    obtain ⟨c, cs⟩ := p
    obtain ⟨d, ds⟩ := q
    rw [levels_node, levels_node] at hlevels
    exact (List.cons.inj hlevels).1
  subst hfirst
  have hend : Outside (n + 1) [] := nofun
  exact ⟨rfl, (levels_append_inj n hend hend p q (by rw [hlevels])).1⟩

-- ── patterns as texts ─────────────────────────────────────────────────────

/-- No index in a pattern has more digits than are shown. -/
def IsPrintable (p : Pattern) : Prop := ∀ q ∈ p.parts, q.hasLongIndex = false

/-- How a pattern is shown at an indent. -/
structure ShownInLines (n : Nat) (p : Pattern) : Prop where
  /-- There is one line for each pattern, in order: two blanks for each level, on from the indent, a dash and
      the description. -/
  lines : ∃ text, p.format n = .ok text ∧
    text.toList.splitOn '\n' = (p.levelled 0).map fun e =>
      List.replicate (2 * (n + e.1)) ' ' ++ "- ".toList ++ e.2.describe.toList
  /-- These are the pattern and all patterns inside it. -/
  patterns : (p.levelled 0).map Prod.snd = p.parts
  /-- Another pattern has the same lines only at the same indent and if it has the same shape. -/
  shape {m : Nat} {q : Pattern} (hq : q.OneLine) {text text' : String} (h : p.format n = .ok text)
    (h' : q.format m = .ok text') (hlines : text.toList.splitOn '\n' = text'.toList.splitOn '\n') :
    n = m ∧ p.shape = q.shape

theorem format_of_isPrintable {p : Pattern} (h : p.IsPrintable) (n : Nat) : p.format n = .ok (p.shown n) := by
  have hany : p.parts.any hasLongIndex = false := List.any_eq_false.mpr fun q hq => by
    rw [h q hq]
    decide
  rw [format_eq, hany]
  rfl

theorem eq_shown_of_format {p : Pattern} {n : Nat} {text : String} (h : p.format n = .ok text) : text = p.shown n := by
  rw [format_eq] at h
  split at h
  · cases h
  · exact (Except.ok.inj h).symm

/-- **PATTERNS GO BY LINES**: every pattern without line ends in its texts is shown in lines, at every indent,
    unless some index in it has too many digits to be shown. -/
theorem format_goes_by_lines {p : Pattern} (h : p.OneLine) (n : Nat) :
    (p.IsPrintable → ShownInLines n p) ∧ (¬ p.IsPrintable → p.format n = .error .numberTooLong) := by
  refine ⟨fun hprintable => ⟨?_, map_snd_levelled 0 p, ?_⟩, fun hlong => ?_⟩
  · refine ⟨p.shown n, format_of_isPrintable hprintable n, ?_⟩
    have hlevels : p.levelled n = (p.levelled 0).map fun e => (n + e.1, e.2) := levelled_add n 0 p
    rw [splitOn_shown h, linesFrom, hlevels, List.map_map]
    refine List.map_congr_left fun e _ => ?_
    rw [List.append_assoc]
    rfl
  · intro m q hq text text' htext htext' hlines
    rw [eq_shown_of_format htext, eq_shown_of_format htext', splitOn_shown h, splitOn_shown hq] at hlines
    exact linesFrom_inj hlines
  · have hany : p.parts.any hasLongIndex = true := by
      rw [← Bool.not_eq_false]
      exact fun hnone => hlong fun q hq => eq_false_of_ne_true (List.any_eq_false.mp hnone q hq)
    rw [format_eq, hany]
    rfl

namespace Sample

/-- A table with a row inside. -/
def table : Pattern :=
  .node ⟨"AXTable", some "searchResult", none, none, .contains, none⟩
    [.node ⟨"AXRow", none, none, none, .contains, some 0⟩ []]

/-- A row with an index. -/
def row (n : Int) : Pattern := .node ⟨"AXRow", none, none, none, .contains, some n⟩ []

/-- The row as a document. -/
def rowValue (n : Int) : Value := .mapping [(.text "role", .text "AXRow"), (.text "index", .int n)]

theorem ofValue_rowValue (n : Int) : ofValue (rowValue n) = .ok (.ok (row n)) := by rfl

/-- The first number that has too many digits. -/
def longNumber : Int := Int.ofNat (Nat.pow 10 Text.Whole.maxDigits)

end Sample

/-- The table is shown in two lines. -/
theorem table_goes_by_lines : Sample.table.OneLine ∧ Sample.table.IsPrintable ∧ ShownInLines 1 Sample.table := by
  have hline : Sample.table.OneLine := by
    have hall : Sample.table.parts.all (fun q => q.criteria.texts.all fun s => !s.toList.contains '\n') = true := by
      decide +kernel
    intro q hq s hs hnewline
    have htext := List.all_eq_true.mp (List.all_eq_true.mp hall q hq) s hs
    rw [List.contains_iff_mem.mpr hnewline] at htext
    cases htext
  have hprintable : Sample.table.IsPrintable := by
    have hall : Sample.table.parts.all (fun q => !q.hasLongIndex) = true := by decide +kernel
    intro q hq
    exact (Bool.not_eq_true' _).mp (List.all_eq_true.mp hall q hq)
  exact ⟨hline, hprintable, (format_goes_by_lines hline 1).1 hprintable⟩

example : (Sample.table.format 0).toOption = some
    ("- Role: AXTable, Identifier: searchResult, MatchType: contains, Children: 1\n" ++
      "  - Role: AXRow, Index: 0, MatchType: contains") := by
  decide +kernel

/-- A pattern without line ends that is accepted need not be shown: its index may have too many digits. -/
theorem long_index_is_not_shown :
    ¬ ∀ (v : Value) (p : Pattern), ofValue v = .ok (.ok p) → p.OneLine → ∀ n, ∃ text, p.format n = .ok text := by
  intro h
  have hline : (Sample.row Sample.longNumber).OneLine := by
    intro q hq s hs
    obtain rfl := List.mem_singleton.mp hq
    obtain rfl := List.mem_singleton.mp hs
    decide
  obtain ⟨text, htext⟩ := h _ _ (Sample.ofValue_rowValue Sample.longNumber) hline 0
  have hlong : (Sample.row Sample.longNumber).hasLongIndex = true := by decide +kernel
  have hparts : (Sample.row Sample.longNumber).parts.any hasLongIndex = true :=
    List.any_eq_true.mpr ⟨_, mem_parts_self _, hlong⟩
  rw [format_eq, if_pos hparts] at htext
  cases htext

end Pattern

end ElementLocator
