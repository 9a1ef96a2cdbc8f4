import ElementLocator.FileSystem
import ElementLocator.Outline

/-! # Outlines in files

    An outline is written to a file line by line while the tree is read. The file is emptied
    before the first read; when the outline fails, the lines before the failure stay. A line that
    has no bytes ends the outline, too. -/

namespace ElementLocator.Outline

variable {σ ν : Type} [Inscription σ]

/-- The text of a file with lines, each ended by a line break. -/
def fileText (lines : List String) : String := String.join (lines.map (· ++ "\n"))

/-- Empties the file at a path, with the directories around it. -/
def prepare (files : FileSystem) (path : Path) : Except FileFault Unit × FileSystem :=
  match files.makeDirectories path.parent with
  | (.error f, files) => (.error f, files)
  | (.ok (), files) => files.attempted (files.write path [])

/-- The bytes of a line and the break at its end. -/
def lineBytes (line : σ) : Except Text.HalfFault (List UInt8) :=
  Inscription.encode (Inscription.append line (Inscription.ofString "\n"))

/-- The notes up to the first line that has no bytes, and why it has none. -/
def cut : List (Note ν σ) → List (Note ν σ) × Option Text.HalfFault
  | [] => ([], none)
  | .line s :: rest =>
    match lineBytes s with
    | .error f => ([], some f)
    | .ok _ => (.line s :: (cut rest).1, (cut rest).2)
  | .logged e :: rest => (.logged e :: (cut rest).1, (cut rest).2)
  | .asked node field :: rest => (.asked node field :: (cut rest).1, (cut rest).2)

/-- The task as far as its lines have bytes: the first that has none ends it. -/
def encoded (task : TaskOf σ ν Unit) : TaskOf σ ν Unit :=
  match cut task.notes with
  | (notes, some f) => ⟨notes, .error (.unencodable f)⟩
  | (_, none) => task

/-- Fills a file with the finished lines of a task. -/
def fill (files : FileSystem) (path : Path) (task : TaskOf σ ν Unit) : FileSystem :=
  let bytes := (finishedLines task.notes).flatMap fun s => ((lineBytes s).toOption).getD []
  ((files.write path bytes).toOption).getD files

/-- Writes the outline of a tree to a file. The depth limit is settled once the file is empty.
    Answers the number of lines, and the files afterwards. -/
def save (access : TreeAccess ν σ) (files : FileSystem) (path : Path)
    (limit : FileSystem → Except Failure DepthLimit) (node : ν) : TaskOf σ ν Nat × FileSystem :=
  match prepare files path with
  | (.error f, files) => (Report.fail (.file f), files)
  | (.ok (), files) =>
    let written := encoded (ofRoot access (limit files) node)
    let events := withoutLines written.notes
    let count := (finishedLines written.notes).length
    let done : LogEvent := ⟨.info, "tree_dump_written",
      [("path", .str path.text), ("lines", .int count), ("backend", .str access.backend)]⟩
    let task : TaskOf σ ν Nat :=
      match written.outcome with
      | .ok _ => ⟨events ++ [.logged done], .ok count⟩
      | .error f => ⟨events, .error f⟩
    (task, fill files path written)

end ElementLocator.Outline
