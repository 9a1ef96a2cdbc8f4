import ElementLocator.Failure

/-! # Paths

    Paths of files, kept in a plain form: what they start from, and names without empty ones
    and without single points. Steps upwards are kept, since where they lead depends on the
    files. -/

namespace ElementLocator

/-- A path: empty `root` for one that starts in the working directory, else slashes. -/
structure Path where
  root : String
  parts : List String
  deriving DecidableEq, Repr

namespace Path

/-- The plain form of a written path. Two slashes at the start are kept, more count as one. -/
def ofString (s : String) : Path :=
  let slashes := (s.toList.takeWhile (· == '/')).length
  { root := if slashes = 0 then "" else if slashes = 2 then "//" else "/"
    parts := ((s.toList.splitOn '/').map String.ofList).filter fun p => !p.isEmpty && p != "." }

/-- The path as text; the empty path is a point. -/
def text (p : Path) : String :=
  let s := p.root ++ String.intercalate "/" p.parts
  if s.isEmpty then "." else s

/-- The path of names on the file system of a machine, from its top. -/
def absolute (names : List String) : Path := ⟨"/", names⟩

/-- One path below another; a path with a root of its own stands for itself. -/
def join (p q : Path) : Path := if q.root.isEmpty then ⟨p.root, p.parts ++ q.parts⟩ else q

/-- The path one step further out; the shortest paths are their own. -/
def parent (p : Path) : Path := ⟨p.root, p.parts.dropLast⟩

/-- The last name, empty if there is none. -/
def name (p : Path) : String := p.parts.getLastD ""

/-- The last name without its ending: what stands after its last point, if the point is
    neither first nor last. -/
def stem (p : Path) : String :=
  let cs := p.name.toList
  let ending := (cs.reverse.takeWhile (· != '.')).length
  let before := cs.length - ending - 1
  if ending < cs.length ∧ 0 < ending ∧ 0 < before then String.ofList (cs.take before) else p.name

/-- The person whose home a name stands for: the name after a tilde, or none for the tilde alone,
    which stands for one's own. -/
def homeOwner? (name : String) : Option (Option String) :=
  match name.toList with
  | ['~'] => some none
  | '~' :: person => some (some (String.ofList person))
  | _ => none

/-- The path with a home directory in place of a leading tilde, where `homeOf` gives the home of a
    person, or one's own. It cannot be asked for a name that holds the character zero. -/
def expandHome (homeOf : Option String → Option String) (p : Path) : Except Failure Path :=
  match p.root.isEmpty, p.parts with
  | true, first :: rest =>
    match homeOwner? first with
    | none => .ok p
    | some owner =>
      if first.toList.contains '\x00' then .error (.file ⟨.nullCharacter, p.text⟩)
      else
        match homeOf owner with
        | none => .error .noHome
        | some h =>
          let trimmed := String.ofList (h.toList.reverse.dropWhile (· == '/')).reverse
          if trimmed.startsWith "~" then .error .noHome
          else
            let base := ofString (if trimmed.isEmpty then "/" else trimmed)
            .ok ⟨base.root, base.parts ++ rest⟩
  | _, _ => .ok p

/-- The names that lead to a path from the top, by the names alone: a step upwards takes the
    name before it away. -/
def namesFrom (workingDirectory : List String) (p : Path) : List String :=
  let start := if p.root.isEmpty then workingDirectory else []
  p.parts.foldl (fun names part => if part == ".." then names.dropLast else names ++ [part]) start

end Path

end ElementLocator
