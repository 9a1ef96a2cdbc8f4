import ElementLocator.Path
import ElementLocator.Text.Stream

/-! # File systems

    The files that a task can see and write, as data: the names that lead to each file and
    directory from the top, and the bytes of each file. Operations answer what the system
    would: the new state, or the first problem met on the way along a path.

    Left out are permissions, so that no file is kept from the one who asks for it (where one is, the
    search for a configuration and the opening of a file fail with the system's own error), links, and
    the limit on how deep the calls of a program may go, which making hundreds of directories one
    inside the other can meet. -/

namespace ElementLocator

/-- What stands at a place. -/
inductive Entry
  | directory
  | file (content : List UInt8)

/-- Files and directories by the names that lead to them, and the directory that paths without
    a root start from. The top is always there. -/
structure FileSystem where
  entries : List (List String × Entry)
  workingDirectory : List String

namespace FileSystem

/-- What stands at a place reached by names alone. -/
def entry? (fs : FileSystem) : List String → Option Entry
  | [] => some .directory
  | names => (fs.entries.find? (·.1 == names)).map (·.2)

/-- Puts something at a place. -/
def put (fs : FileSystem) (names : List String) (e : Entry) : FileSystem :=
  { fs with entries := (names, e) :: fs.entries.filter (·.1 != names) }

/-- The greatest number of bytes in a name. -/
def maxName : Nat := 255

/-- The number of bytes that a path must stay below. -/
def pathBytes : Nat := 4096

/-- Follows names from a place, one directory after the other. The last name need not exist. -/
def walk (fs : FileSystem) (place : List String) : List String → Except FileProblem (List String)
  | [] => .ok place
  | name :: rest =>
    match fs.entry? place with
    | none => .error .missing
    | some (.file _) => .error .notDirectory
    | some .directory =>
      if name == ".." then walk fs place.dropLast rest
      else if maxName < name.utf8ByteSize then .error .nameTooLong
      else walk fs (place ++ [name]) rest

/-- The place that a path leads to. -/
def locate (fs : FileSystem) (p : Path) : Except FileProblem (List String) :=
  if p.text.toList.contains '\x00' then .error .nullCharacter
  else if pathBytes ≤ p.text.utf8ByteSize then .error .nameTooLong
  else fs.walk (if p.root.isEmpty then fs.workingDirectory else []) p.parts

/-- What stands at a path. -/
def status (fs : FileSystem) (p : Path) : Except FileProblem Entry :=
  match fs.locate p with
  | .error e => .error e
  | .ok place =>
    match fs.entry? place with
    | none => .error .missing
    | some e => .ok e

/-- Whether a file stands at a path. A name that is too long is a problem of its own. -/
def isFile (fs : FileSystem) (p : Path) : Except FileFault Bool :=
  match fs.status p with
  | .ok (.file _) => .ok true
  | .error .nameTooLong => .error ⟨.nameTooLong, p.text⟩
  | _ => .ok false

/-- Whether a directory stands at a path. -/
def isDirectory (fs : FileSystem) (p : Path) : Bool :=
  match fs.status p with
  | .ok .directory => true
  | _ => false

/-- The bytes of the file at a path. -/
def read (fs : FileSystem) (p : Path) : Except FileFault (List UInt8) :=
  match fs.status p with
  | .ok (.file content) => .ok content
  | .ok .directory => .error ⟨.isDirectory, p.text⟩
  | .error e => .error ⟨e, p.text⟩

/-- Writes a file, in place of one that stands there. -/
def write (fs : FileSystem) (p : Path) (content : List UInt8) : Except FileFault FileSystem :=
  match fs.locate p with
  | .error e => .error ⟨e, p.text⟩
  | .ok place =>
    match fs.entry? place with
    | some .directory => .error ⟨.isDirectory, p.text⟩
    | _ => .ok (fs.put place (.file content))

/-- Makes one directory. -/
def makeDirectory (fs : FileSystem) (p : Path) : Except FileProblem FileSystem :=
  match fs.locate p with
  | .error e => .error e
  | .ok place =>
    match fs.entry? place with
    | some _ => .error .occupied
    | none => .ok (fs.put place .directory)

/-- Makes a directory that may be there already: anything but a directory in its place is a
    problem. -/
def ensureOne (fs : FileSystem) (p : Path) : Except FileFault FileSystem :=
  match fs.makeDirectory p with
  | .ok fs => .ok fs
  | .error e => if e != .nullCharacter && fs.isDirectory p then .ok fs else .error ⟨e, p.text⟩

/-- The files after an attempt, which stay as they were if it fails. -/
def attempted (fs : FileSystem) : Except FileFault FileSystem → Except FileFault Unit × FileSystem
  | .ok fs => (.ok (), fs)
  | .error e => (.error e, fs)

/-- Makes a directory and those around it that are missing. Each round leaves out one name
    more. -/
def ensure (fs : FileSystem) : (rounds : Nat) → Path → Except FileFault Unit × FileSystem
  | 0, p => fs.attempted (fs.ensureOne p)
  | rounds + 1, p =>
    match fs.makeDirectory p with
    | .error .missing =>
      if p.parts.isEmpty then (.error ⟨.missing, p.text⟩, fs)
      else
        match fs.ensure rounds p.parent with
        | (.error e, fs) => (.error e, fs)
        | (.ok (), fs) => fs.attempted (fs.ensureOne p)
    | _ => fs.attempted (fs.ensureOne p)

/-- Makes the directory at a path and all around it. Where one cannot be made, those around it
    stay that were made before. -/
def makeDirectories (fs : FileSystem) (p : Path) : Except FileFault Unit × FileSystem :=
  fs.ensure p.parts.length p

end FileSystem

/-- The text of a file's bytes, read whole. -/
def textOfBytes (bytes : List UInt8) : Except Text.Utf8.Fault (List Char) :=
  (Text.Utf8.decode bytes).map plainBreaks

end ElementLocator
