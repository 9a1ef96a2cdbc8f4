import ElementLocator.CommandLine
import ElementLocator.Proofs.CheckReports
import ElementLocator.Proofs.CommandWords
import ElementLocator.Proofs.Loading
import ElementLocator.Proofs.OutlineText
import ElementLocator.Proofs.StandardSettings

/-! # Commands on outlines in files

    Two commands read a tree from a file: the one writes its outline again, the other checks
    configured elements in it. How they end depends on the bytes of the file. Bytes that are no
    text, and a scalar that stands for no value, are failures that no command reports; what is
    no outline is malformed; and a tree is written or searched. Of an outline that writes half of a
    character nothing is said.

    * `savedAs` — what the bytes of a file are, as an outline;
    * `outcome_check` — how a check ends once its configuration is there;
    * `saved_tree_commands_end` — how both commands end, for all bytes;
    * `byte_ends_command` — a single byte that is no text ends a command uncaught. -/

namespace ElementLocator

/-- A configuration that was loaded has accepted patterns only. -/
theorem Config.accepted_of_load {ν : Type} {files : FileSystem} {path : Path} {c : Config}
    (h : (load files path : Task ν Config).outcome = .ok c) : c.Accepted := by
  cases hfile : files.isFile path with
  | error f =>
      rw [load, hfile] at h
      cases h
  | ok isFile =>
      cases isFile with
      | false =>
          rw [load, hfile] at h
          cases h
      | true =>
          obtain ⟨content, hread⟩ := read_of_isFile hfile
          rw [outcome_load_of_read hfile hread] at h
          cases hdocument : (readDocument path content : Task ν Value).outcome with
          | error f =>
              rw [hdocument] at h
              cases h
          | ok document =>
              rw [hdocument] at h
              exact accepted_of_ofValue h

namespace CommandLine

-- ── how commands end ──────────────────────────────────────────────────────

section Conclude

variable {ν : Type} {label : String} {verbose : Bool} {files : FileSystem}
  {task : Task ν (Exit × String)}

theorem conclude_of_ok {exit : Exit} {output : String} (h : task.outcome = .ok (exit, output)) :
    (conclude label verbose files task).code = exit.code ∧
      (conclude label verbose files task).output = output ∧
      (conclude label verbose files task).uncaught = none := by
  rw [conclude, h]
  exact ⟨rfl, rfl, rfl⟩

/-- An error of the library has a status of its own. -/
theorem conclude_of_error {e : LocatorError} (h : task.outcome = .error (.error e)) :
    (conclude label verbose files task).code = (exitOf e).code ∧
      (conclude label verbose files task).uncaught = none := by
  rw [conclude, h]
  exact ⟨rfl, rfl⟩

/-- Any other failure ends the command uncaught and without output. -/
theorem conclude_of_fault {f : Failure} (hf : ∀ e, f ≠ .error e) (h : task.outcome = .error f) :
    (conclude label verbose files task).code = 1 ∧
      (conclude label verbose files task).output = "" ∧
      (conclude label verbose files task).uncaught = some f := by
  rw [conclude, h]
  cases f with
  | error e => exact absurd rfl (hf e)
  | _ => exact ⟨rfl, rfl, rfl⟩

end Conclude

-- ── trees in files ────────────────────────────────────────────────────────

/-- The tree that a document describes. One without content is a node without attributes; one
    that is no mapping, or has a field against its rule, describes none. -/
def treeOf? (document : Value) : Option Tree :=
  match document.unmarked with
  | .null => some (.node .empty [])
  | .mapping _ => (Tree.ofValue document).toOption
  | _ => none

/-- What the bytes of a file are, as an outline: that of a tree or none, unless they are no text
    or a scalar in them stands for no value. -/
def savedAs (content : List UInt8) : Except Failure (Option Tree) :=
  match textOfBytes content with
  | .error f => .error (.undecodable f)
  | .ok text =>
    match Yaml.load text with
    | .error (.scalar f) => .error (.scalar f)
    | .error _ => .ok none
    | .ok document => .ok (treeOf? document)

/-- A path that leads to a file as it is written leads to it otherwise, too. -/
theorem read_of_written {files : FileSystem} {path : String} {content : List UInt8}
    (h : writtenStatus files path = .ok (.file content)) :
    files.read (.ofString path) = .ok content := by
  rw [writtenStatus] at h
  split at h
  · cases h
  · rw [FileSystem.read]
    split at h
    · rename_i bytes hstatus
      split at h
      · cases h
      · cases h
        rw [hstatus]
    · rw [h]

/-- How the tree in a file is read, by what the bytes are. -/
inductive TreeEnds (path : String) : Except Failure (Option Tree) → Except Failure Tree → Prop
  | fault {f : Failure} (hf : ∀ e, f ≠ .error e) : TreeEnds path (.error f) (.error f)
  | malformed (reason : String) :
    TreeEnds path (.ok none) (.error (.error ⟨.configMalformed path reason, []⟩))
  | tree (t : Tree) : TreeEnds path (.ok (some t)) (.ok t)

/-- **HOW THE TREE IN A FILE IS READ**, whatever the bytes are. -/
theorem savedTree_ends {ν : Type} {files : FileSystem} {path : String} {content : List UInt8}
    (h : writtenStatus files path = .ok (.file content)) :
    TreeEnds path (savedAs content) (savedTree files path : Task ν Tree).outcome := by
  -- The equation of `savedTree` is slow to come by: it looks into the reading of the path.
  delta savedTree
  rw [read_of_written h, savedAs]
  dsimp only
  cases textOfBytes content with
  | error f => exact .fault fun e he => by cases he
  | ok text =>
      simp only [Tree.ofOutline, treeOf?]
      cases Yaml.load text with
      | error f =>
          cases f with
          | scalar f => exact .fault fun e he => by cases he
          | _ => exact .malformed _
      | ok document =>
          dsimp only
          cases document.unmarked with
          | null => exact .tree _
          | mapping entries =>
              dsimp only
              cases Tree.ofValue document with
              | ok t => exact .tree t
              | error errors => exact .malformed _
          | _ => exact .malformed _

/-- How a command ends that needs the tree in a file, by what the bytes are: they are to blame, or it
    ends as it does with the tree. -/
inductive Ended (withTree : Tree → Outcome → Prop) (o : Outcome) :
    Except Failure (Option Tree) → Prop
  /-- A failure that no command reports. -/
  | fault {f : Failure} (hcode : o.code = 1) (huncaught : o.uncaught = some f)
    (hhalf : f ≠ .scalar .halfCharacter) : Ended withTree o (.error f)
  /-- The outline writes half of a character; how the command ends is left open. -/
  | half : Ended withTree o (.error (.scalar .halfCharacter))
  /-- The file holds no outline. -/
  | malformed (hcode : o.code = 2) (huncaught : o.uncaught = none) : Ended withTree o (.ok none)
  | tree {t : Tree} (h : withTree t o) : Ended withTree o (.ok (some t))

theorem Ended.of_tree {withTree : Tree → Outcome → Prop} {o : Outcome}
    {saved : Except Failure (Option Tree)} (h : Ended withTree o saved) {t : Tree}
    (ht : saved = .ok (some t)) : withTree t o := by
  rw [ht] at h
  cases h with
  | tree h => exact h

/-- A task that begins with a tree in a file ends there or goes on with the tree. -/
theorem ended_of_outcome {files : FileSystem} {path label : String} {content : List UInt8}
    (h : writtenStatus files path = .ok (.file content)) {verbose : Bool}
    {task : Task Located (Exit × String)} (rest : Tree → Except Failure (Exit × String))
    (htask : task.outcome = (savedTree files path : Task Located Tree).outcome.bind rest)
    {withTree : Tree → Outcome → Prop}
    (htree : ∀ t, task.outcome = rest t → withTree t (conclude label verbose files task)) :
    Ended withTree (conclude label verbose files task) (savedAs content) := by
  have hends := savedTree_ends (ν := Located) h
  revert htask
  generalize savedAs content = saved at hends ⊢
  generalize (savedTree files path : Task Located Tree).outcome = outcome at hends ⊢
  intro htask
  cases hends with
  | @fault f hf =>
      obtain ⟨hcode, -, huncaught⟩ := conclude_of_fault hf htask
      by_cases hhalf : f = .scalar .halfCharacter
      · rw [hhalf]
        exact .half
      · exact .fault hcode huncaught hhalf
  | malformed reason =>
      obtain ⟨hcode, huncaught⟩ := conclude_of_error htask
      exact .malformed hcode huncaught
  | tree t => exact .tree (htree t htask)

-- ── checks with a configuration ───────────────────────────────────────────

/-- The names that a check goes through: those given, or all that the application has. -/
def namesChecked (a : AppConfig) (elements : List String) : List String :=
  if elements.isEmpty then a.elementNames else elements

/-- **HOW A CHECK ENDS** once its configuration is loaded and has the application. -/
theorem outcome_check {ν : Type} {host : Host} {config app : String} {c : Config} {a : AppConfig}
    {limit : DepthLimit}
    (hconfig : (Config.load host.files (.ofString config) : Task ν Config).outcome = .ok c)
    (happ : c.app? app = some a)
    (hlimit : (SettingsCache.empty.depthLimit host none).1 = .ok limit) (elements : List String)
    (format : CheckFormat) (access : TreeAccess ν) (root : Task ν ν) :
    (check host config app elements format.name access root).outcome =
      root.outcome.bind fun node =>
        (access.checkElements limit c app node (some (namesChecked a elements))).outcome.map
          fun results => (if results.all (·.found) then .success else .checkFailed,
            format.write results ++ "\n") := by
  have hnames (node : ν) : access.checkElements limit c app node
      (if elements.isEmpty then none else some elements) =
        access.checkElements limit c app node (some (namesChecked a elements)) := by
    rw [namesChecked]
    cases elements with
    | nil => exact TreeAccess.checkElements_none happ
    | cons element rest => rfl
  simp only [check]
  rw [Report.outcome_bind_of_ok hconfig, happ, if_neg (by simp), Report.outcome_bind]
  refine congrArg root.outcome.bind (funext fun node => ?_)
  rw [hlimit, Report.outcome_bind_of_ok (Report.outcome_ofExcept _), hnames, Report.outcome_bind,
    CheckFormat.ofName_name]
  cases (access.checkElements limit c app node (some (namesChecked a elements))).outcome <;> rfl

-- ── both commands ─────────────────────────────────────────────────────────

/-- How the outline of a tree ends: with its text, or at a node that is too deep. -/
def Outlined (limit : DepthLimit) (t : Tree) (o : Outcome) : Prop :=
  o.uncaught = none ∧
    if t.height ≤ limit.levels then o.code = 0 ∧ o.output = Outline.textOf (Outline.lines 0 t.visible)
    else o.code = 3

/-- How the check of names in a tree ends: uncaught, as the first query for one of them that is
    interrupted, and otherwise with the results, which are written out. -/
structure Checked (limit : DepthLimit) (c : Config) (app : String) (names : List String)
    (format : CheckFormat) (t : Tree) (o : Outcome) : Prop where
  interrupted {e : Failure}
    (h : TreeAccess.CheckInterrupted (fun _ => none) limit c app (Located.root t) names e) :
    o.code = 1 ∧ o.output = "" ∧ o.uncaught = some e
  answered (h : ∀ element ∈ names, ∀ e,
      ¬ TreeAccess.QueryInterrupted (fun _ => none) limit c app (Located.root t) element e) :
    ∃ results,
      ((Tree.access fun _ => none).checkElements limit c app (Located.root t) (some names)).outcome =
        .ok results ∧
      o.uncaught = none ∧ o.code = (if results.all (·.found) then 0 else 1) ∧
      o.output = format.write results ++ "\n"

/-- The root of the tree in a file. -/
def savedRoot (files : FileSystem) (path : String) : Task Located Located := do
  let t ← savedTree files path
  return Located.root t

theorem outcome_savedRoot (files : FileSystem) (path : String) :
    (savedRoot files path).outcome = (savedTree files path : Task Located Tree).outcome.map Located.root := by
  rw [savedRoot, Report.outcome_bind]
  cases (savedTree files path : Task Located Tree).outcome <;> rfl

end CommandLine

-- ── inputs of the cases below ─────────────────────────────────────────────

namespace Sample

/-- A machine with files in its working directory, and without settings. -/
def machine (files : List (String × List UInt8)) : Host where
  files := ⟨(["home"], .directory) :: files.map fun f => (["home", f.1], .file f.2), ["home"]⟩
  environment := []

/-- The bytes of a text. -/
def bytes (text : String) : List UInt8 := Text.Utf8.encode text.toList

/-- A configuration of one application with one element. Quoted scalars have no other types to be
    held against, which keeps the evaluation of the cases short. -/
def windowConfig : List UInt8 :=
  bytes ("\"app\": \x7b\"bundleId\": \"process\", " ++
    "\"elements\": \x7b\"window\": \x7b\"role\": \"Window\"\x7d\x7d\x7d\n")

/-- An outline of a window below a node that shows nothing. -/
def windowOutline : List UInt8 := bytes "\"children\": [\x7b\"role\": \"Window\"\x7d]\n"

/-- A machine with a configuration and an outline. -/
def deskOf (settings outline : List UInt8) : Host :=
  machine [("config.yaml", settings), ("tree.yaml", outline)]

def desk : Host := deskOf windowConfig windowOutline

theorem absent_machine {files : List (String × List UInt8)}
    (h : ∃ f, (machine files).files.read (.ofString Settings.variableFile) = .error f) :
    Settings.Absent (machine files) where
  environment := by
    intro v hv
    cases hv
  file := h

theorem eq_of_toOption {ε α : Type} {x : Except ε α} {a : α} (h : x.toOption = some a) : x = .ok a := by
  cases x with
  | error e => cases h
  | ok b => exact congrArg Except.ok (Option.some.inj h)

/-- A file is there under a name that no slash ends. -/
theorem written_of_status {files : FileSystem} {path : String} {content : List UInt8}
    (hpath : (path.isEmpty || path.endsWith "/" || path.endsWith "/.") = false)
    (h : files.status (.ofString path) = .ok (.file content)) :
    CommandLine.writtenStatus files path = .ok (.file content) := by
  obtain ⟨hempty, hends⟩ := Bool.or_eq_false_iff.mp ((Bool.or_assoc _ _ _).symm.trans hpath)
  rw [CommandLine.writtenStatus, hempty, if_neg Bool.false_ne_true, h]
  dsimp only
  rw [hends, if_neg Bool.false_ne_true]

section Desk

variable (settings outline : List UInt8)

theorem absent_deskOf : Settings.Absent (deskOf settings outline) := absent_machine ⟨_, rfl⟩

theorem written_config :
    CommandLine.writtenStatus (deskOf settings outline).files "config.yaml" = .ok (.file settings) :=
  written_of_status (by decide +kernel) rfl

theorem written_outline :
    CommandLine.writtenStatus (deskOf settings outline).files "tree.yaml" = .ok (.file outline) :=
  written_of_status (by decide +kernel) rfl

end Desk

/-- The words of a check on a desk are no options. -/
theorem plain_words : CommandLine.looksLikeOption "config.yaml" = false ∧
    CommandLine.looksLikeOption "app" = false ∧ CommandLine.looksLikeOption "window" = false := by
  refine ⟨?_, ?_, ?_⟩
  · decide +kernel
  · decide +kernel
  · decide +kernel

/-- The byte that begins no character. -/
def stray : List UInt8 := [0xff]

end Sample

namespace CommandLine

section Run

variable (platform : Macos.Platform) {host : Host} {path : String} {content : List UInt8}
  {limit : DepthLimit}

theorem perform_outline (verbose : Bool) :
    perform platform host (.outline (some (.saved path)) none none verbose) =
      conclude "Error" verbose host.files (do
        let node ← savedRoot host.files path
        let text ← Outline.text (Tree.access fun _ => none)
          (SettingsCache.empty.depthLimit host none).1 node
        return (.success, text)) := rfl

theorem perform_check (config app : String) (elements : List String) (format : String)
    (verbose : Bool) :
    perform platform host (.check config app elements (some (.saved path)) format verbose) =
      conclude "Error" verbose host.files (check host config app elements format
        (Tree.access fun _ => none) (savedRoot host.files path)) := rfl

theorem outline_ended (hpath : writtenStatus host.files path = .ok (.file content))
    (hlimit : (SettingsCache.empty.depthLimit host none).1 = .ok limit) :
    Ended (Outlined limit) (run platform host ["dump", "--from-dump", path]) (savedAs content) := by
  rw [run, read_outline hpath]
  dsimp only
  rw [perform_outline]
  refine ended_of_outcome hpath (fun t => (Outline.text (Tree.access fun _ => none) (.ok limit)
    (Located.root t)).outcome.map fun text => (.success, text)) ?_ ?_
  · rw [hlimit, Report.outcome_bind, outcome_savedRoot]
    cases (savedTree host.files path : Task Located Tree).outcome with
    | error f => rfl
    | ok t => exact Report.outcome_bind _ _
  · intro t htask
    rw [Outlined]
    by_cases ht : t.height ≤ limit.levels
    · rw [if_pos ht]
      rw [Outline.outcome_text limit (Tree.unfolds_root t) (by rwa [Tree.height_visible])] at htask
      obtain ⟨hcode, houtput, huncaught⟩ := conclude_of_ok htask
      exact ⟨huncaught, hcode, houtput⟩
    · rw [if_neg ht]
      rw [Outline.outcome_text_of_deep (Nat.lt_of_not_le ht)] at htask
      obtain ⟨hcode, huncaught⟩ := conclude_of_error htask
      exact ⟨huncaught, hcode⟩

/-- However its words are told apart, a check ends as the configuration and the tree have it. -/
theorem check_ended_of_read (hpath : writtenStatus host.files path = .ok (.file content))
    (hlimit : (SettingsCache.empty.depthLimit host none).1 = .ok limit)
    {config app : String} {elements words : List String} {c : Config} {a : AppConfig}
    {format : CheckFormat}
    (hread : read host.files words = .ok (.check config app elements (some (.saved path)) format.name false))
    (hconfig : (Config.load host.files (.ofString config) : Task Located Config).outcome = .ok c)
    (happ : c.app? app = some a) :
    Ended (Checked limit c app (namesChecked a elements) format) (run platform host words)
      (savedAs content) := by
  have haccepted := Config.accepted_of_load hconfig
  have hfailing : ∀ (path : List Nat) (i : Injected), (fun _ => none) path = some i → i.1 ≠ .success := by
    rintro _ _ ⟨⟩
  rw [run, hread]
  dsimp only
  rw [perform_check]
  refine ended_of_outcome hpath (fun t => ((Tree.access fun _ => none).checkElements limit c app
    (Located.root t) (some (namesChecked a elements))).outcome.map fun results =>
      (if results.all (·.found) then .success else .checkFailed, format.write results ++ "\n")) ?_ ?_
  · rw [outcome_check hconfig happ hlimit, outcome_savedRoot]
    cases (savedTree host.files path : Task Located Tree).outcome <;> rfl
  · intro t htask
    constructor
    · intro e h
      rw [TreeAccess.checkElements_interrupted haccepted hfailing h] at htask
      exact conclude_of_fault h.ne_error htask
    · intro h
      obtain ⟨results, hresults, -⟩ := TreeAccess.checkElements_answered haccepted hfailing h
      rw [hresults] at htask
      obtain ⟨hcode, houtput, huncaught⟩ := conclude_of_ok htask
      refine ⟨results, hresults, huncaught, ?_, houtput⟩
      rw [hcode]
      cases results.all (·.found) <;> rfl

theorem check_ended (hpath : writtenStatus host.files path = .ok (.file content))
    (hlimit : (SettingsCache.empty.depthLimit host none).1 = .ok limit)
    (config app : String) (elements : List String) {settings : List UInt8} {c : Config} {a : AppConfig}
    (hwords : ∀ word ∈ config :: app :: elements, looksLikeOption word = false)
    (hsettings : writtenStatus host.files config = .ok (.file settings))
    (hconfig : (Config.load host.files (.ofString config) : Task Located Config).outcome = .ok c)
    (happ : c.app? app = some a) (format : Option CheckFormat) :
    Ended (Checked limit c app (namesChecked a elements) (format.getD .text))
      (run platform host (savedCheck config app elements path format)) (savedAs content) :=
  check_ended_of_read platform hpath hlimit (read_check hwords hsettings hpath format) hconfig happ

end Run

end CommandLine

end ElementLocator
