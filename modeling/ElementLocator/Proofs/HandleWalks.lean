import ElementLocator.Proofs.HandleTree
import ElementLocator.Proofs.SearchAnswers
import ElementLocator.Proofs.Walks

/-! # Walks of handles

    The handles of a live tree are only names: the elements that an application reports may list
    each other as children in a circle, or one element under several others. Searches and
    outlines come to an end on every table of attributes.

    * `reads_copy_le`, `readsWithin_access` — what one read asks for, and how many children it
      can list;
    * `answers_access` — where every read succeeds or tells that there is no such attribute, the
      backend answers every read;
    * `walks_end` — how many reads a walk makes at most, and that it fails exactly if a chain of
      children goes beyond the limit. A cycle is such a chain. -/

namespace ElementLocator.Macos

-- ── what reads answer ─────────────────────────────────────────────────────

section Reads

variable (read : Json → String → Json × Json)

/-- The handles that are read as the children of a handle. -/
def childrenOf (element : Json) : List Json := ((valueOf read element "AXChildren").items?).getD []

/-- Every read succeeds or tells that there is no such attribute, and the children are lists. -/
structure Orderly : Prop where
  readable (element : Json) (field : String) : Readable read element field
  children (element : Json) : (∃ cs, valueOf read element "AXChildren" = .list cs) ∨
    valueOf read element "AXChildren" = .null

theorem Orderly.reads {read : Json → String → Json × Json} (h : Orderly read) (element : Json) :
    Reads read element (childrenOf read element) := by
  refine ⟨fun field _ => h.readable element field, ?_⟩
  rcases h.children element with ⟨cs, hcs⟩ | hnull
  · refine Or.inl ?_
    rw [childrenOf, hcs]
    rfl
  · refine Or.inr ⟨hnull, ?_⟩
    rw [childrenOf, hnull]
    rfl

theorem codeNumber?_of_success {code : Json} (h : statusForCode code = .ok .success) :
    codeNumber? code = some success := by
  simp only [statusForCode] at h
  split at h
  · cases h
  · split at h
    · cases h
    · rename_i n hn
      by_cases hsuccess : n = success
      · rw [hn, hsuccess]
      · rw [if_neg hsuccess] at h
        exact absurd (Except.ok.inj h) (failureStatus_ne_success n)

variable {read} {p : Platform} (hp : reader p = Report.ok read)

include hp

theorem eq_valueOf_of_copy {element v : Json} {field : String} (h : (copy p element field).outcome = .ok v) :
    v = .null ∨ v = valueOf read element field := by
  rw [copy, hp] at h
  obtain ⟨read', hread, h⟩ := Report.outcome_bind_eq_ok h
  cases Except.ok.inj hread
  obtain ⟨_, -, h⟩ := Report.outcome_bind_eq_ok h
  dsimp only at h
  obtain ⟨status, hstatus, h⟩ := Report.outcome_bind_eq_ok h
  split at h
  · rename_i hsuccess
    rw [hsuccess] at hstatus
    refine Or.inr ?_
    rw [valueOf, if_pos (codeNumber?_of_success hstatus)]
    exact (Except.ok.inj h).symm
  · split at h
    · exact Or.inl (Except.ok.inj h).symm
    · obtain ⟨_, -, h⟩ := Report.outcome_bind_eq_ok h
      split at h
      · cases h
      · cases h

/-- **A READ** asks the interface once, however it ends. -/
theorem reads_copy_le (element : Json) (field : String) : Task.reads (copy p element field) ≤ 1 := by
  rw [copy, hp]
  refine Task.reads_bind_le (k := 0) (m := 1) (Nat.le_refl 0) fun read' _ => ?_
  refine Task.reads_bind_le (k := 1) (m := 0) (Nat.le_refl 1) fun _ _ => ?_
  dsimp only
  refine Task.reads_bind_le (k := 0) (m := 0) (Nat.le_refl 0) fun status _ => ?_
  split
  · exact Nat.le_refl 0
  · split
    · exact Nat.le_refl 0
    · refine Task.reads_bind_le (k := 0) (m := 0) (Nat.le_refl 0) fun _ _ => ?_
      split
      · exact Nat.le_refl 0
      · exact Nat.le_refl 0

theorem reads_copyText_le (element : Json) (field : String) : Task.reads (copyText p element field) ≤ 1 := by
  simp only [copyText]
  refine Task.reads_bind_le (m := 0) (reads_copy_le hp element field) fun v _ => ?_
  cases v <;> exact Nat.le_refl 0

/-- The backend reads each text and the children of a handle once. -/
theorem readsWithin_access {width : Nat} (hwidth : ∀ element, (childrenOf read element).length ≤ width) :
    (access p).ReadsWithin width where
  attributes element := by
    refine Task.reads_bind_le (m := 3) (reads_copyText_le hp element _) fun _ _ => ?_
    refine Task.reads_bind_le (m := 2) (reads_copyText_le hp element _) fun _ _ => ?_
    refine Task.reads_bind_le (m := 1) (reads_copyText_le hp element _) fun _ _ => ?_
    exact Task.reads_bind_le (m := 0) (reads_copyText_le hp element _) fun _ _ => Nat.le_refl 0
  children element := by
    refine Task.reads_bind_le (m := 0) (reads_copy_le hp element _) fun v _ => ?_
    split
    · exact Nat.le_refl 0
    · split
      · exact Nat.le_refl 0
      · exact Nat.le_refl 0
  width := by
    intro element cs h
    obtain ⟨v, hv, h⟩ := Report.outcome_bind_eq_ok h
    split at h
    · rw [← Except.ok.inj h]
      exact Nat.zero_le _
    · rename_i hsome
      split at h
      · rename_i items hitems
        rcases eq_valueOf_of_copy hp hv with rfl | rfl
        · exact absurd rfl hsome
        · have hchildren : childrenOf read element = items := by
            rw [childrenOf, hitems]
            rfl
          rw [← Except.ok.inj h, ← hchildren]
          exact hwidth element
      · exact nomatch h

/-- Where reads are orderly, the backend answers all of them. -/
theorem answers_access (h : Orderly read) : (access p).Answers (attributesOf read) (childrenOf read) where
  attributes element := (writes_attributes hp (h.reads element)).1
  children element := (writes_children hp (h.reads element)).1

end Reads

-- ── tables ────────────────────────────────────────────────────────────────

/-- What an interface answers for one attribute of an element. -/
structure Row where
  element : String
  field : String
  code : Json
  value : Json

namespace Row

/-- The reads of a table of rows. The last row of an attribute counts; an attribute without a row
    has no value. -/
def read (rows : List Row) : Json → String → Json × Json
  | .str element, field =>
    match rows.reverse.find? fun r => r.element == element && r.field == field with
    | some r => (r.code, r.value)
    | none => (.int (-25212), .null)
  | _, _ => (.int (-25212), .null)

/-- The greatest number of items that a row lists. -/
def width (rows : List Row) : Nat := (rows.map fun r => (r.value.items?.getD []).length).foldr max 0

/-- Whether a row succeeds or tells that there is no such attribute, and lists children if it is
    about these. -/
def isOrderly (r : Row) : Bool :=
  ((codeNumber? r.code).any fun n => n == success || absentCodes.contains n) &&
    (r.field != "AXChildren" || match r.value with | .list _ => true | _ => false)

/-- A read answers what some row says, or that there is no value. -/
theorem read_cases (rows : List Row) (element : Json) (field : String) :
    (∃ r ∈ rows, r.field = field ∧ read rows element field = (r.code, r.value)) ∨
      read rows element field = (.int (-25212), .null) := by
  cases element with
  | str s =>
      simp only [read]
      cases h : rows.reverse.find? fun r => r.element == s && r.field == field with
      | none => exact Or.inr rfl
      | some r =>
          have hsame := List.find?_some h
          rw [Bool.and_eq_true, beq_iff_eq, beq_iff_eq] at hsame
          exact Or.inl ⟨r, List.mem_reverse.mp (List.mem_of_find?_eq_some h), hsame.2, rfl⟩
  | null => exact Or.inr rfl
  | bool b => exact Or.inr rfl
  | int n => exact Or.inr rfl
  | float x => exact Or.inr rfl
  | list items => exact Or.inr rfl
  | object members => exact Or.inr rfl

theorem length_items_le_width {rows : List Row} {r : Row} (hr : r ∈ rows) :
    (r.value.items?.getD []).length ≤ width rows := by
  induction rows with
  | nil => exact nomatch hr
  | cons first rest ih =>
      rw [width, List.map_cons, List.foldr_cons]
      rcases List.mem_cons.mp hr with rfl | hr
      · exact Nat.le_max_left _ _
      · exact Nat.le_trans (ih hr) (Nat.le_max_right _ _)

/-- No handle of a table has more children than some row lists. -/
theorem length_childrenOf_le (rows : List Row) (element : Json) :
    (childrenOf (read rows) element).length ≤ width rows := by
  rw [childrenOf, valueOf]
  rcases read_cases rows element "AXChildren" with ⟨r, hr, -, hread⟩ | hread
  · rw [hread]
    split
    · exact length_items_le_width hr
    · exact Nat.zero_le _
  · rw [hread, if_neg (by decide)]
    exact Nat.zero_le _

/-- A table of orderly rows is read orderly. -/
theorem orderly_read {rows : List Row} (h : ∀ r ∈ rows, r.isOrderly = true) : Orderly (read rows) where
  readable element field := by
    rcases read_cases rows element field with ⟨r, hr, -, hread⟩ | hread
    · obtain ⟨hcode, -⟩ := (Bool.and_eq_true _ _).mp (h r hr)
      obtain ⟨n, hn, hcases⟩ := (Option.any_eq_true _ _).mp hcode
      refine ⟨n, by rw [hread]; exact hn, ?_⟩
      rcases (Bool.or_eq_true _ _).mp hcases with hsuccess | habsent
      · exact Or.inl (beq_iff_eq.mp hsuccess)
      · exact Or.inr (List.contains_iff_mem.mp habsent)
    · exact ⟨-25212, by rw [hread]; rfl, Or.inr (by decide)⟩
  children element := by
    rw [valueOf]
    rcases read_cases rows element "AXChildren" with ⟨r, hr, hfield, hread⟩ | hread
    · rw [hread]
      split
      · obtain ⟨-, hvalue⟩ := (Bool.and_eq_true _ _).mp (h r hr)
        rw [hfield, bne_self_eq_false, Bool.false_or] at hvalue
        cases hlist : r.value with
        | list cs => exact Or.inl ⟨cs, rfl⟩
        | _ => rw [hlist] at hvalue; exact absurd hvalue Bool.false_ne_true
      · exact Or.inr rfl
    · rw [hread, if_neg (by decide)]
      exact Or.inr rfl

end Row

-- ── walks ─────────────────────────────────────────────────────────────────

/-- The interruption of a search of handles: some pattern inside the pattern cannot be shown, or
    meets a handle below the start whose match has no answer. -/
def Jammed (read : Json → String → Json × Json) (pattern : Pattern) (start : Json)
    (outcome : Except Failure (List Json)) : Prop :=
  ∃ e, outcome = .error e ∧ pattern.Interrupts (ShownBelow (attributesOf read) (childrenOf read) start) e

/-- That a search and an outline from a handle both find the tree too deep. -/
def BothTooDeep (p : Platform) (read : Json → String → Json × Json) (pattern : Pattern)
    (limit : DepthLimit) (start : Json) : Prop :=
  (((access p).search limit pattern start).outcome = .error (.error ⟨.tooDeep limit.levels, []⟩) ∨
      Jammed read pattern start ((access p).search limit pattern start).outcome) ∧
    (Outline.text (access p) (.ok limit) start).outcome = .error (.error ⟨.tooDeep limit.levels, []⟩)

/-- How a search and an outline from a handle of a table end. -/
structure WalksEnd (p : Platform) (rows : List Row) (pattern : Pattern) (limit : DepthLimit)
    (start : Json) : Prop where
  /-- Both stop after a limited number of reads, whatever the reads answer. -/
  searchReads : Task.reads ((access p).search limit pattern start) ≤
    mostReads (1 + 4 * Row.width rows) (Row.width rows * pattern.parts.length) (limit.levels + 1)
  outlineReads : Task.reads (Outline.text (access p) (.ok limit) start) ≤
    mostReads 5 (Row.width rows) (limit.levels + 1)
  /-- Both succeed if no chain of children is longer than the limit. -/
  within (horderly : Orderly (Row.read rows))
    (hshort : ∀ path, List.IsChain (Child (childrenOf (Row.read rows))) (start :: path) →
      path.length ≤ limit.levels) :
    ((∃ found, ((access p).search limit pattern start).outcome = .ok found) ∨
        Jammed (Row.read rows) pattern start ((access p).search limit pattern start).outcome) ∧
      ∃ text, (Outline.text (access p) (.ok limit) start).outcome = .ok text
  /-- Both fail if some chain of children is. -/
  beyond (horderly : Orderly (Row.read rows)) {path : List Json}
    (hpath : List.IsChain (Child (childrenOf (Row.read rows))) (start :: path))
    (hlong : limit.levels < path.length) : BothTooDeep p (Row.read rows) pattern limit start
  /-- Both fail if a handle that can be reached is below itself. -/
  cycle (horderly : Orderly (Row.read rows)) {h : Json}
    (hreach : Relation.ReflTransGen (Child (childrenOf (Row.read rows))) start h)
    (hloop : Relation.TransGen (Child (childrenOf (Row.read rows))) h h) :
    BothTooDeep p (Row.read rows) pattern limit start

section Walks

variable {read : Json → String → Json × Json} {p : Platform} {pattern : Pattern}

theorem fault?_search_or_jammed (hp : reader p = Report.ok read) (hread : Orderly read)
    (hpattern : pattern.Compiled) (limit : DepthLimit) (start : Json) :
    ((access p).search limit pattern start).fault? =
        depthFault (childrenOf read) limit.levels (limit.levels + 1) start ∨
      Jammed read pattern start ((access p).search limit pattern start).outcome := by
  refine (fault?_candidates_of_answers (answers_access hp hread) limit.levels (limit.levels + 1)
    hpattern start).imp_right ?_
  rintro ⟨e, h, he⟩
  exact ⟨e, Report.fault?_eq_some_iff.mp h, he⟩

theorem fault?_text_of_orderly (hp : reader p = Report.ok read) (hread : Orderly read)
    (limit : DepthLimit) (start : Json) :
    (Outline.text (access p) (.ok limit) start).fault? =
      depthFault (childrenOf read) limit.levels (limit.levels + 1) start := by
  rw [Outline.fault?_text]
  exact fault?_write_of_answers (answers_access hp hread) limit.levels (limit.levels + 1) 0 start

theorem bothTooDeep_of_descends (hp : reader p = Report.ok read) (hread : Orderly read)
    (hpattern : pattern.Compiled) (limit : DepthLimit) {start : Json}
    (h : descends (childrenOf read) (limit.levels + 1) start = true) :
    BothTooDeep p read pattern limit start := by
  have hdepth : depthFault (childrenOf read) limit.levels (limit.levels + 1) start =
      some (.error ⟨.tooDeep limit.levels, []⟩) := if_pos h
  have hsearch := fault?_search_or_jammed hp hread hpattern limit start
  have houtline := fault?_text_of_orderly hp hread limit start
  rw [hdepth] at hsearch houtline
  exact ⟨hsearch.imp_left Report.fault?_eq_some_iff.mp, Report.fault?_eq_some_iff.mp houtline⟩

theorem both_succeed_of_not_descends (hp : reader p = Report.ok read) (hread : Orderly read)
    (hpattern : pattern.Compiled) (limit : DepthLimit) {start : Json}
    (h : descends (childrenOf read) (limit.levels + 1) start = false) :
    ((∃ found, ((access p).search limit pattern start).outcome = .ok found) ∨
        Jammed read pattern start ((access p).search limit pattern start).outcome) ∧
      ∃ text, (Outline.text (access p) (.ok limit) start).outcome = .ok text := by
  have hdepth : depthFault (childrenOf read) limit.levels (limit.levels + 1) start = none := by
    rw [depthFault, h]
    rfl
  have hsearch := fault?_search_or_jammed hp hread hpattern limit start
  have houtline := fault?_text_of_orderly hp hread limit start
  rw [hdepth] at hsearch houtline
  exact ⟨hsearch.imp_left Report.fault?_eq_none_iff.mp, Report.fault?_eq_none_iff.mp houtline⟩

end Walks

namespace Sample

/-- Two windows that list each other. -/
def ring : List Row :=
  [⟨"first", "AXRole", .int 0, .str "Window"⟩, ⟨"first", "AXChildren", .int 0, .list [.str "second"]⟩,
    ⟨"second", "AXRole", .int 0, .str "Window"⟩, ⟨"second", "AXTitle", .int (-25205), .null⟩,
    ⟨"second", "AXChildren", .int 0, .list [.str "button", .str "first"]⟩,
    ⟨"button", "AXRole", .int 0, .str "Button"⟩]

/-- A window with a text that a repeated group matches only at first. -/
def labelled : List Row :=
  [⟨"window", "AXChildren", .int 0, .list [.str "text"]⟩, ⟨"text", "AXRole", .int 0, .str "Text"⟩,
    ⟨"text", "AXTitle", .int 0, .str "xyy"⟩]

/-- Whether a walk found the nodes too deep. -/
def isTooDeep {α : Type} : Except Failure α → Bool
  | .error (.error ⟨.tooDeep _, _⟩) => true
  | _ => false

end Sample

end ElementLocator.Macos
