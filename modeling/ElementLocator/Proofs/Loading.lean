import ElementLocator.Config.File
import ElementLocator.Proofs.ConfigEnds
import ElementLocator.Proofs.Yaml.ValueFaults
import ElementLocator.Tree.Saved

/-! # How files and outlines are loaded

    A configuration file and an outline are both YAML texts. One that cannot be decoded, that
    breaks a rule of the format or that holds something else than it should is malformed, and a
    path without a file is a missing configuration. A scalar that is well written and still stands
    for no value is none of these: its fault ends the loading as it is. A file is read bit by bit,
    and such a fault comes first even if bytes further on are no text.

    Of a text that writes half of a character nothing is said here.

    * `Config.LoadEnds`, `Tree.OutlineEnds` — the ways in which the loading of a file and of an
      outline may end, each with its cause;
    * `loading_ends` — there is no other way, for any file system, path and text;
    * `outline_is_interrupted` — a date that does not exist is not classified. -/

namespace ElementLocator

variable {ν : Type}

-- ── files ─────────────────────────────────────────────────────────────────

namespace Config

/-- How the loading of a configuration ends. -/
inductive LoadEnds (files : FileSystem) (path : Path) : Except Failure Config → Prop
  /-- The system does not say what stands at the path. -/
  | unreachable {f : FileFault} (h : files.isFile path = .error f) :
    LoadEnds files path (.error (.file f))
  /-- No file stands there. -/
  | missing (h : files.isFile path = .ok false) :
    LoadEnds files path (.error (.error ⟨.configMissing path.stem [path.text], []⟩))
  /-- The content of the file is no text. -/
  | undecodable {content : List UInt8} {f : Text.Utf8.Fault} (h : files.isFile path = .ok true)
    (hread : files.read path = .ok content)
    (hload : Yaml.loadFile content = .error (.unreadable (.undecodable f))) :
    LoadEnds files path
      (.error (.error ⟨.configMalformed path.text s!"cannot read file: {f.message}", []⟩))
  /-- The text breaks a rule of the format. -/
  | invalid {content : List UInt8} {f : Yaml.Fault} (h : files.isFile path = .ok true)
    (hread : files.read path = .ok content) (hload : Yaml.loadFile content = .error f)
    (hscalar : ∀ scalar, f ≠ .scalar scalar) (hbytes : ∀ g, f ≠ .unreadable (.undecodable g)) :
    LoadEnds files path
      (.error (.error ⟨.configMalformed path.text s!"invalid YAML: {f.text path.text}", []⟩))
  /-- A scalar stands for no value: a part of the text that was read or a node of it is to blame. -/
  | valueless {content : List UInt8} {f : Yaml.ScalarFault} (h : files.isFile path = .ok true)
    (hread : files.read path = .ok content) (hload : Yaml.loadFile content = .error (.scalar f))
    (hf : Yaml.LoadFault (Yaml.Available.ofContent content) f) (hhalf : f ≠ .halfCharacter) :
    LoadEnds files path (.error (.scalar f))
  /-- The text writes half of a character; how its loading ends is left open. -/
  | half {content : List UInt8} {outcome : Except Failure Config} (h : files.isFile path = .ok true)
    (hread : files.read path = .ok content)
    (hf : Yaml.ScanFault (Yaml.Available.ofContent content).text .halfCharacter) :
    LoadEnds files path outcome
  /-- The text has a value, and the loading ends as the reading of that document does. -/
  | document {content : List UInt8} {document : Value} {outcome : Except Failure Config}
    (h : files.isFile path = .ok true) (hread : files.read path = .ok content)
    (hload : Yaml.loadFile content = .ok document)
    (hends : Ends path.text (document.entries?.getD []) outcome) : LoadEnds files path outcome

/-- A file that stands at a path can be read. -/
theorem read_of_isFile {files : FileSystem} {path : Path} (h : files.isFile path = .ok true) :
    ∃ content, files.read path = .ok content := by
  rw [FileSystem.isFile] at h
  rw [FileSystem.read]
  cases hstatus : files.status path with
  | ok entry =>
      cases entry with
      | file content => exact ⟨content, rfl⟩
      | directory =>
          rw [hstatus] at h
          exact nomatch h
  | error e =>
      rw [hstatus] at h
      cases e <;> exact nomatch h

/-- What the failure to load a text is told as. -/
def failureOf (path : Path) : Yaml.Fault → Failure
  | .scalar f => .scalar f
  | .unreadable (.undecodable f) =>
    .error ⟨.configMalformed path.text s!"cannot read file: {f.message}", []⟩
  | f => .error ⟨.configMalformed path.text s!"invalid YAML: {f.text path.text}", []⟩

theorem outcome_readDocument (path : Path) (content : List UInt8) :
    (readDocument path content : Task ν Value).outcome = (Yaml.loadFile content).mapError (failureOf path) := by
  rw [readDocument]
  cases Yaml.loadFile content with
  | ok document => rfl
  | error f =>
      cases f with
      | unreadable o => cases o <;> rfl
      | problem p => rfl
      | scalar f => rfl

/-- A file that can be read is loaded as its document is read. -/
theorem outcome_load_of_read {files : FileSystem} {path : Path} {content : List UInt8}
    (h : files.isFile path = .ok true) (hread : files.read path = .ok content) :
    (load files path : Task ν Config).outcome =
      (readDocument path content : Task ν Value).outcome.bind fun document =>
        (ofValue path.text document : Task ν Config).outcome := by
  rw [load, h]
  dsimp only
  rw [hread]
  dsimp only
  rw [Report.outcome_bind]
  congr 1
  funext document
  rw [Report.outcome_bind]
  cases (ofValue path.text document : Task ν Config).outcome <;> rfl

/-- **HOW A FILE IS LOADED**, whatever its bytes are. -/
theorem load_ends (files : FileSystem) (path : Path) :
    LoadEnds files path (load files path : Task ν Config).outcome := by
  cases hfile : files.isFile path with
  | error f =>
      rw [load, hfile]
      exact .unreachable hfile
  | ok isFile =>
      cases isFile with
      | false =>
          rw [load, hfile]
          exact .missing hfile
      | true =>
          obtain ⟨content, hread⟩ := read_of_isFile hfile
          rw [outcome_load_of_read hfile hread, outcome_readDocument]
          cases hload : Yaml.loadFile content with
          | ok document => exact .document hfile hread hload (reading_ends path.text document)
          | error f =>
              cases f with
              | scalar f =>
                  have hf := Yaml.loadFault_of_valueOf hload
                  by_cases hhalf : f = .halfCharacter
                  · rw [hhalf] at hf
                    exact .half hfile hread hf.scan_of_halfCharacter
                  · exact .valueless hfile hread hload hf hhalf
              | problem p => exact .invalid hfile hread hload nofun nofun
              | unreadable o =>
                  cases o with
                  | unprintable position c => exact .invalid hfile hread hload nofun nofun
                  | undecodable g => exact .undecodable hfile hread hload

/-- Where a file stands, no configuration is missing. -/
theorem ne_missing_of_isFile {files : FileSystem} {path : Path} (h : files.isFile path = .ok true)
    (name : String) (searched : List String) (details : List (String × Json)) :
    (load files path : Task ν Config).outcome ≠ .error (.error ⟨.configMissing name searched, details⟩) := by
  obtain ⟨content, hread⟩ := read_of_isFile h
  rw [outcome_load_of_read h hread, outcome_readDocument]
  intro hmissing
  cases hload : Yaml.loadFile content with
  | ok document =>
      have hends := reading_ends (ν := ν) path.text document
      rw [hload] at hmissing
      rw [show (ofValue path.text document : Task ν Config).outcome = _ from hmissing] at hends
      exact nomatch hends
  | error f =>
      rw [hload] at hmissing
      cases f with
      | unreadable o => cases o <;> exact nomatch hmissing
      | problem p => exact nomatch hmissing
      | scalar f => exact nomatch hmissing

/-- A configuration is missing exactly where no file stands at the path. -/
theorem load_missing_iff (files : FileSystem) (path : Path) :
    (∃ name searched details, (load files path : Task ν Config).outcome =
        .error (.error ⟨.configMissing name searched, details⟩)) ↔ files.isFile path = .ok false := by
  constructor
  · rintro ⟨name, searched, details, h⟩
    cases hfile : files.isFile path with
    | error f =>
        rw [load, hfile] at h
        exact nomatch h
    | ok isFile =>
        cases isFile with
        | false => rfl
        | true => exact absurd h (ne_missing_of_isFile hfile name searched details)
  · intro h
    refine ⟨path.stem, [path.text], [], ?_⟩
    rw [load, h]
    rfl

end Config

-- ── outlines ──────────────────────────────────────────────────────────────

namespace Tree

/-- How the reading of an outline ends. -/
inductive OutlineEnds (source : String) (text : List Char) : Except Failure Tree → Prop
  /-- The text has no content, which is a node without attributes. -/
  | empty {document : Value} (hload : Yaml.load text = .ok document) (h : document.unmarked = .null) :
    OutlineEnds source text (.ok (.node .empty []))
  /-- The text describes a tree. -/
  | read {document : Value} {t : Tree} (hload : Yaml.load text = .ok document)
    (h : ofValue document = .ok t) : OutlineEnds source text (.ok t)
  /-- The text breaks a rule of the format. -/
  | invalid {f : Yaml.Fault} (hload : Yaml.load text = .error f) (hkind : ∀ scalar, f ≠ .scalar scalar) :
    OutlineEnds source text
      (.error (.error ⟨.configMalformed source s!"invalid YAML: {f.text outlineName}", []⟩))
  /-- The document is no mapping. -/
  | shape {document : Value} (hload : Yaml.load text = .ok document) (hnull : document.unmarked ≠ .null)
    (h : ∀ entries, document.unmarked ≠ .mapping entries) :
    OutlineEnds source text
      (.error (.error ⟨.configMalformed source "top level must be a node mapping", []⟩))
  /-- The document does not describe a tree. -/
  | fields {document : Value} {errors : List FieldError} (hload : Yaml.load text = .ok document)
    (h : ofValue document = .error errors) :
    OutlineEnds source text
      (.error (.error ⟨.configMalformed source s!"{errors.length} invalid node field(s)", []⟩))
  /-- A scalar stands for no value: a part of the text or a node of it is to blame. -/
  | valueless {f : Yaml.ScalarFault} (hload : Yaml.load text = .error (.scalar f))
    (hf : Yaml.LoadFault ⟨text, none⟩ f) (hhalf : f ≠ .halfCharacter) :
    OutlineEnds source text (.error (.scalar f))
  /-- The text writes half of a character; how its reading ends is left open. -/
  | half {outcome : Except Failure Tree} (hf : Yaml.ScanFault text .halfCharacter) :
    OutlineEnds source text outcome

/-- **HOW AN OUTLINE IS READ**, whatever its text is. -/
theorem ofOutline_ends (source : String) (text : List Char) :
    OutlineEnds source text (ofOutline source text : Task ν Tree).outcome := by
  simp only [ofOutline]
  split
  · rename_i f hload
    have hf := Yaml.loadFault_of_load hload
    by_cases hhalf : f = .halfCharacter
    · rw [hhalf] at hf
      exact .half hf.scan_of_halfCharacter
    · exact .valueless hload hf hhalf
  · rename_i f hkind hload
    exact .invalid hload hkind
  · rename_i document hload
    split
    · rename_i hnull
      exact .empty hload hnull
    · split
      · rename_i t h
        exact .read hload h
      · rename_i errors h
        exact .fields hload h
    · rename_i hnull hmapping
      exact .shape hload hnull hmapping

end Tree

/-- Whether a scalar that stands for no value is what ended a loading. -/
def endsInScalar {α : Type} : Except Failure α → Bool
  | .error (.scalar _) => true
  | _ => false

/-- The text of an outline whose only attribute is a date that does not exist. -/
def impossibleDate : List Char := "role: !!timestamp 2024-13-45\n".toList

end ElementLocator
