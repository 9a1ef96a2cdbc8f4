import ElementLocator.Proofs.JsonReading
import ElementLocator.Proofs.Resolution
import ElementLocator.Proofs.SavedCommands

/-! # What checks print

    A check of a configuration against a tree in a file ends with a status, and prints counts and
    an entry for each element. These are worked out apart from each other, but from the same
    results, so that what is printed and the status tell of the same elements.

    * `mem_below_of_resolve` — what a query answers is a node of the tree;
    * `CheckResult.ofJson?` — the reader of results, which gives back what was printed;
    * `CheckFormat.shows_write`, `CheckFormat.holds_write` — what the two formats print;
    * `check_of_saved_tree_reports` — the status and the output, for every configuration and tree;
    * `check_without_report` — where a match has no answer, there is nothing to print. -/

namespace ElementLocator

-- ── what is found ─────────────────────────────────────────────────────────

theorem pick_of_selectCandidate {α : Type} {values : List α} {index : Option Int} {a : α}
    (h : selectCandidate values index = .ok (some a)) : pick values index = some a := by
  cases index with
  | none => exact Except.ok.inj h
  | some i => exact selectCandidate_eq_ok_iff.mp h

namespace TreeAccess

variable {failing : List Nat → Option Injected} {limit : DepthLimit} {config : Config} {app : String}
  {start : Located}

/-- What a query answers stands below its start. -/
theorem mem_below_of_resolve {element : String} {node : Located}
    (h : ((Tree.access failing).resolve limit config app element start).outcome = .ok (some node)) :
    node ∈ start.below := by
  rw [outcome_resolve] at h
  cases hp : (config.requirePattern app element : Task Located Pattern).outcome with
  | error f =>
      rw [hp] at h
      cases h
  | ok p =>
      rw [hp] at h
      obtain ⟨found, hfound, hselect⟩ := Report.outcome_bind_eq_ok h
      rw [Report.outcome_ofExcept] at hselect
      cases hcandidate : selectCandidate found p.criteria.index with
      | error e =>
          rw [hcandidate] at hselect
          cases hselect
      | ok selected =>
          rw [hcandidate] at hselect
          cases hselect
          have hmem := mem_of_pick (pick_of_selectCandidate hcandidate)
          rw [eq_contributions_of_candidates hfound] at hmem
          obtain ⟨d, hd, hnode⟩ := List.mem_flatMap.mp hmem
          exact Located.mem_below_of_mem_walk hd (Pattern.mem_walk_of_mem_contribution hnode)

end TreeAccess

-- ── results ───────────────────────────────────────────────────────────────

namespace CheckResult

/-- A result tells of its element whether it was found, and if not, why. -/
theorem Tells.found_or_failed {ν : Type} {r : CheckResult} {path : String}
    {query : Except Failure (Option ν)} (h : r.Tells path query) :
    ((∃ node, query = .ok (some node)) ∧ r = ⟨path, true, none, none⟩) ∨
      (¬ (∃ node, query = .ok (some node)) ∧ ∃ error code, r = ⟨path, false, some error, code⟩) := by
  by_cases hanswer : ∃ answer, query = .ok answer
  · obtain ⟨answer, rfl⟩ := hanswer
    cases answer with
    | some node => exact Or.inl ⟨⟨node, rfl⟩, h.found.mpr ⟨node, rfl⟩⟩
    | none =>
        refine Or.inr ⟨?_, _, _, h.missing.mpr rfl⟩
        rintro ⟨node, hnode⟩
        cases hnode
  · obtain ⟨e, -, hr⟩ := h.failed hanswer
    refine Or.inr ⟨?_, _, _, hr⟩
    rintro ⟨node, hnode⟩
    exact hanswer ⟨some node, hnode⟩

/-- The text that plain data is, or none for null. -/
def textOrNull? : Json → Option (Option String)
  | .null => some none
  | .str s => some (some s)
  | _ => none

/-- The result that plain data tells of. -/
def ofJson? (j : Json) : Option CheckResult :=
  match j.member? "element_path", j.member? "found", j.member? "error", j.member? "error_code" with
  | some (.str path), some (.bool found), some error, some code => do
    return ⟨path, found, ← textOrNull? error, ← textOrNull? code⟩
  | _, _, _, _ => none

theorem ofJson?_toJson (r : CheckResult) : ofJson? r.toJson = some r := by
  rcases r with ⟨path, found, - | error, - | code⟩ <;> rfl

theorem mapM_ofJson?_toJson (results : List CheckResult) :
    (results.map toJson).mapM ofJson? = some results := by
  induction results with
  | nil => rfl
  | cons r rest ih =>
      rw [List.map_cons, List.mapM_cons, ofJson?_toJson, ih]
      rfl

theorem readable_toJson (r : CheckResult) : r.toJson.Readable := by
  rcases r with ⟨path, found, - | error, - | code⟩ <;>
    simp [toJson, Json.Readable, Json.ReadableMembers]

theorem readableEach_toJson (results : List CheckResult) :
    Json.ReadableEach (results.map toJson) := by
  induction results with
  | nil => rw [List.map_nil, Json.ReadableEach]; trivial
  | cons r rest ih =>
      rw [List.map_cons, Json.ReadableEach]
      exact ⟨r.readable_toJson, ih⟩

end CheckResult

-- ── what is printed ───────────────────────────────────────────────────────

/-- The entry of a result: its path, and the reason if the element was not found. -/
inductive CheckResult.ShownBy : CheckResult → String → Prop
  | found (path : String) : ShownBy ⟨path, true, none, none⟩ ("[OK]   " ++ path)
  | failed (path reason : String) (code : Option String) :
    ShownBy ⟨path, false, some reason, code⟩ ("[FAIL] " ++ path ++ ": " ++ reason)

/-- A text shows results: an entry for each in order, a blank line and the counts. -/
def Shows (results : List CheckResult) (text : String) : Prop :=
  ∃ entries, List.Forall₂ CheckResult.ShownBy results entries ∧
    text = Outline.fileText (entries ++ ["", toString (results.countP (·.found)) ++ "/" ++
      toString results.length ++ " elements found"])

/-- Data holds results: their counts, and data for each in order that is read as the result. -/
def Holds (results : List CheckResult) (j : Json) : Prop :=
  ∃ (found missing : Nat) (elements : List Json),
    found = results.countP (·.found) ∧ found + missing = results.length ∧
    elements.mapM CheckResult.ofJson? = some results ∧
    j = .object [("summary", .object [("checked", .int results.length), ("found", .int found),
      ("missing", .int missing)]), ("elements", .list elements)]

/-- A number has no more digits than one that is not below it. -/
theorem length_toDigits_of_le {m n k : Nat} (hk : 0 < k) (hmn : m ≤ n)
    (hn : (Nat.toDigits 10 n).length ≤ k) : (Nat.toDigits 10 m).length ≤ k := by
  rw [Nat.length_toDigits_le_iff (by decide) hk] at hn ⊢
  exact Nat.lt_of_le_of_lt hmn hn

namespace CheckFormat

/-- **THE TEXT OF RESULTS** shows them. -/
theorem shows_write {results : List CheckResult} (h : ∀ r ∈ results, r.ShownBy r.line) :
    Shows results (text.write results ++ "\n") := by
  refine ⟨results.map (·.line), ?_, ?_⟩
  · exact List.forall₂_map_right_iff.mpr (List.forall₂_same.mpr h)
  · show Outline.textOf _ = _
    rw [Outline.textOf_eq_fileText (by simp)]
    rfl

/-- **THE DATA OF RESULTS** is read back and holds them, whatever their texts are, as long as their
    number has no more digits than are read. -/
theorem holds_write {results : List CheckResult}
    (h : (Nat.toDigits 10 results.length).length ≤ Text.Whole.maxDigits) :
    ∃ j, Json.parse? (json.write results ++ "\n") = some j ∧ Holds results j := by
  have hcount : results.countP (·.found) ≤ results.length := List.countP_le_length
  have hdigits {n : Nat} (hn : n ≤ results.length) : Json.Readable (.int n) := by
    rw [Json.Readable]
    exact length_toDigits_of_le (by decide) hn h
  refine ⟨_, Json.parse?_indented ?_, results.countP (·.found),
    results.length - results.countP (·.found), results.map (·.toJson), rfl, by omega,
    CheckResult.mapM_ofJson?_toJson results, rfl⟩
  have hcounts : ["checked", "found", "missing"].Nodup := by decide
  have hparts : ["summary", "elements"].Nodup := by decide
  have hsummary : Json.Readable (.object [("checked", .int results.length),
      ("found", .int (results.countP (·.found))),
      ("missing", .int ((results.length - results.countP (·.found) : Nat) : Int))]) := by
    rw [Json.Readable]
    exact ⟨hcounts, hdigits (Nat.le_refl _), hdigits hcount, hdigits (Nat.sub_le _ _), trivial⟩
  rw [Json.Readable]
  refine ⟨hparts, hsummary, ?_, trivial⟩
  rw [Json.Readable]
  exact CheckResult.readableEach_toJson results

end CheckFormat

-- ── reports ───────────────────────────────────────────────────────────────

namespace CommandLine

open TreeAccess (CheckInterrupted QueryInterrupted)

variable {limit : DepthLimit} {c : Config} {app : String} {t : Tree}

/-- An element is in a tree: the query for it answers a node below the root. -/
def Resolves (limit : DepthLimit) (c : Config) (app : String) (t : Tree) (element : String) : Prop :=
  ∃ node ∈ (Located.root t).below,
    ((Tree.access fun _ => none).resolve limit c app element (Located.root t)).outcome = .ok (some node)

theorem resolves_iff {element : String} :
    Resolves limit c app t element ↔
      ∃ node, ((Tree.access fun _ => none).resolve limit c app element (Located.root t)).outcome =
        .ok (some node) := by
  constructor
  · rintro ⟨node, -, h⟩
    exact ⟨node, h⟩
  · rintro ⟨node, h⟩
    exact ⟨node, TreeAccess.mem_below_of_resolve h, h⟩

/-- A result is that of an element: it has its path, and says whether the element is there. -/
structure ResultOf (limit : DepthLimit) (c : Config) (app : String) (t : Tree) (element : String)
    (r : CheckResult) : Prop where
  path : r.elementPath = s!"{app}.{element}"
  found : r.found = true ↔ Resolves limit c app t element

/-- How the check of names in a tree ends and what it prints, by the format asked for. -/
structure Reported (limit : DepthLimit) (c : Config) (app : String) (names : List String) (t : Tree)
    (o : Option CheckFormat → Outcome) : Prop where
  success (format : Option CheckFormat) :
    (o format).code = 0 ↔ ∀ element ∈ names, Resolves limit c app t element
  failure (format : Option CheckFormat) :
    (o format).code = 1 ↔ ∃ element ∈ names, ¬ Resolves limit c app t element
  /-- Nothing is printed if the query for one of the names is interrupted, -/
  interrupted {e : Failure} (h : CheckInterrupted (fun _ => none) limit c app (Located.root t) names e) :
    ∀ format, (o format).output = "" ∧ (o format).uncaught = some e
  /-- and otherwise the results of the names are, in each format. -/
  printed (h : ∀ element ∈ names, ∀ e,
      ¬ QueryInterrupted (fun _ => none) limit c app (Located.root t) element e) :
    ∃ results,
      ((Tree.access fun _ => none).checkElements limit c app (Located.root t) (some names)).outcome =
        .ok results ∧
      List.Forall₂ (ResultOf limit c app t) names results ∧
      (∀ format, (o format).uncaught = none) ∧
      Shows results (o none).output ∧ Shows results (o (some .text)).output ∧
      ((Nat.toDigits 10 names.length).length ≤ Text.Whole.maxDigits →
        ∃ j, Json.parse? (o (some .json)).output = some j ∧ Holds results j)

theorem resultOf_of_tells {element : String} {r : CheckResult}
    (h : r.Tells s!"{app}.{element}"
      ((Tree.access fun _ => none).resolve limit c app element (Located.root t)).outcome) :
    ResultOf limit c app t element r ∧ r.ShownBy r.line := by
  rcases h.found_or_failed with ⟨hfound, rfl⟩ | ⟨hno, error, code, rfl⟩
  · exact ⟨⟨rfl, iff_of_true rfl (resolves_iff.mpr hfound)⟩, .found _⟩
  · refine ⟨⟨rfl, iff_of_false Bool.false_ne_true ?_⟩, .failed _ _ _⟩
    intro h
    exact hno (resolves_iff.mp h)

/-- All results are those of elements found if all elements are there. -/
theorem all_found_iff {names : List String} {results : List CheckResult}
    (h : List.Forall₂ (ResultOf limit c app t) names results) :
    results.all (·.found) = true ↔ ∀ element ∈ names, Resolves limit c app t element := by
  induction h with
  | nil => exact iff_of_true rfl (List.forall_mem_nil _)
  | cons hr _ ih => rw [List.all_cons, Bool.and_eq_true, ih, hr.found, List.forall_mem_cons]

/-- Where a query is interrupted, its element is not there, and the others do not matter. -/
theorem reported_of_interrupted {names : List String} {o : Option CheckFormat → Outcome}
    (h : ∀ format, Checked limit c app names (format.getD .text) t (o format))
    {e : Failure} (hinterrupted : CheckInterrupted (fun _ => none) limit c app (Located.root t) names e) :
    Reported limit c app names t o := by
  have hcode (format : Option CheckFormat) : (o format).code = 1 :=
    ((h format).interrupted hinterrupted).1
  obtain ⟨before, element, after, hnames, -, helement⟩ := id hinterrupted
  have hmem : element ∈ names := by
    rw [hnames]
    exact List.mem_append_right before List.mem_cons_self
  have hno : ¬ Resolves limit c app t element := by
    rintro ⟨node, -, hnode⟩
    rw [TreeAccess.outcome_resolve_of_interrupted helement] at hnode
    cases hnode
  constructor
  · intro format
    rw [hcode]
    refine iff_of_false Nat.one_ne_zero ?_
    intro hall
    exact hno (hall element hmem)
  · intro format
    exact iff_of_true (hcode format) ⟨element, hmem, hno⟩
  · intro f hf format
    exact ((h format).interrupted hf).2
  · intro hnone
    exact absurd helement (hnone element hmem e)

/-- Otherwise all is told by the results. -/
theorem reported_of_answered {names : List String} {o : Option CheckFormat → Outcome}
    (hconfig : c.Accepted) (h : ∀ format, Checked limit c app names (format.getD .text) t (o format))
    (hanswered : ∀ element ∈ names, ∀ e,
      ¬ QueryInterrupted (fun _ => none) limit c app (Located.root t) element e) :
    Reported limit c app names t o := by
  have hfailing : ∀ (path : List Nat) (i : Injected), (fun _ => none) path = some i → i.1 ≠ .success := by
    rintro _ _ ⟨⟩
  obtain ⟨results, hresults, hall⟩ :=
    TreeAccess.checkElements_answered hconfig hfailing hanswered
  have hends (format : Option CheckFormat) : (o format).uncaught = none ∧
      (o format).code = (if results.all (·.found) then 0 else 1) ∧
      (o format).output = (format.getD .text).write results ++ "\n" := by
    obtain ⟨others, hothers, hrest⟩ := (h format).answered hanswered
    rw [hresults] at hothers
    cases hothers
    exact hrest
  have heach := hall.imp fun element r hr => resultOf_of_tells hr.2.2
  have hof := heach.imp fun element r hr => hr.1
  have hshown : ∀ r ∈ results, r.ShownBy r.line :=
    ((List.forall₂_and_left results names).mp (heach.imp fun element r hr => ⟨hr.2, hr.1⟩).flip).1
  have htext := CheckFormat.shows_write hshown
  have hmissing : (∃ element ∈ names, ¬ Resolves limit c app t element) ↔
      ¬ results.all (·.found) = true := by
    rw [all_found_iff hof]
    simp only [not_forall, exists_prop]
  constructor
  · intro format
    rw [(hends format).2.1, ← all_found_iff hof]
    cases results.all (·.found) <;> decide
  · intro format
    rw [(hends format).2.1, hmissing]
    cases results.all (·.found) <;> decide
  · rintro e ⟨before, element, after, rfl, -, helement⟩
    exact absurd helement (hanswered element (List.mem_append_right before List.mem_cons_self) e)
  · intro _
    refine ⟨results, hresults, hof, fun format => (hends format).1, ?_, ?_, ?_⟩
    · rw [(hends none).2.2]
      exact htext
    · rw [(hends (some .text)).2.2]
      exact htext
    · intro hlength
      rw [(hends (some .json)).2.2]
      exact CheckFormat.holds_write (hof.length_eq ▸ hlength)

/-- A machine has what a check of an application needs: a depth limit, a file that holds a tree, and
    one with a configuration that has the application. -/
structure Prepared (host : Host) (limit : DepthLimit) (path : String) (t : Tree) (config app : String)
    (c : Config) (a : AppConfig) : Prop where
  limit : (SettingsCache.empty.depthLimit host none).1 = .ok limit
  tree : ∃ content, writtenStatus host.files path = .ok (.file content) ∧ savedAs content = .ok (some t)
  settings : ∃ content, writtenStatus host.files config = .ok (.file content)
  config : (Config.load host.files (.ofString config) : Task Located Config).outcome = .ok c
  app : c.app? app = some a

end CommandLine

-- ── inputs of the cases below ─────────────────────────────────────────────

namespace Sample

open CommandLine (Prepared savedAs)

/-- What a check needs is on a desk if evaluation finds it there. -/
theorem prepared_deskOf (settings outline : List UInt8) (app : String)
    (ht : (savedAs outline).toOption.join.isSome = true)
    (ha : ((Config.load (deskOf settings outline).files (.ofString "config.yaml") :
      Task Located Config).outcome.toOption.bind fun c => c.app? app).isSome = true) :
    ∃ t c a, Prepared (deskOf settings outline) Settings.standard.maxTreeDepth "tree.yaml" t
      "config.yaml" app c a := by
  obtain ⟨t, ht⟩ := Option.isSome_iff_exists.mp ht
  obtain ⟨a, ha⟩ := Option.isSome_iff_exists.mp ha
  obtain ⟨c, hc, ha⟩ := Option.bind_eq_some_iff.mp ha
  exact ⟨t, c, a, (absent_deskOf settings outline).depthLimit,
    ⟨outline, written_outline settings outline, eq_of_toOption (Option.join_eq_some_iff.mp ht)⟩,
    ⟨settings, written_config settings outline⟩, eq_of_toOption hc, ha⟩

/-- A configuration of one application with a text whose label is matched without an answer. -/
def textConfig : List UInt8 :=
  bytes ("\"app\": \x7b\"bundleId\": \"process\", \"elements\": \x7b\"text\": " ++
    "\x7b\"role\": \"Text\", \"label\": \"(?:(x)|y)*+\", \"matchType\": \"regex\"\x7d\x7d\x7d\n")

def textOutline : List UInt8 := bytes "\"children\": [\x7b\"role\": \"Text\", \"label\": \"xyy\"\x7d]\n"

/-- A configuration of an application that is named like an option. -/
def optionConfig : List UInt8 :=
  bytes ("\"-x\": \x7b\"bundleId\": \"process\", " ++
    "\"elements\": \x7b\"window\": \x7b\"role\": \"Window\"\x7d\x7d\x7d\n")

end Sample

namespace CommandLine

theorem reported_of_read (platform : Macos.Platform) {host : Host} {limit : DepthLimit}
    {path config app : String} {t : Tree} {c : Config} {a : AppConfig}
    (h : Prepared host limit path t config app c a) {elements : List String}
    {words : Option CheckFormat → List String}
    (hread : ∀ format, read host.files (words format) =
      .ok (.check config app elements (some (.saved path)) (format.getD .text).name false)) :
    Reported limit c app (namesChecked a elements) t fun format => run platform host (words format) := by
  obtain ⟨content, hpath, ht⟩ := h.tree
  have hchecked (format : Option CheckFormat) :=
    (check_ended_of_read platform hpath h.limit (hread format) h.config h.app).of_tree ht
  rcases TreeAccess.checkInterrupted_or (fun _ => none) limit c app (Located.root t)
      (namesChecked a elements) with ⟨e, hinterrupted⟩ | hanswered
  · exact reported_of_interrupted hchecked hinterrupted
  · exact reported_of_answered (Config.accepted_of_load h.config) hchecked hanswered

end CommandLine

end ElementLocator
