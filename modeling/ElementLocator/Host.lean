import ElementLocator.FileSystem

/-! # Hosts

    What a task knows of the machine it runs on: the files, the variables of its environment, and
    where people have their homes. -/

namespace ElementLocator

/-- The files, the environment and the people of a task. -/
structure Host where
  files : FileSystem
  environment : List (String × String)
  /-- The home directories of people by name. -/
  people : List (String × String) := []
  /-- The home directory of the one who runs the task, as far as no variable names another. -/
  ownHome : Option String := none

namespace Host

/-- The value of a variable of the environment. -/
def valueOf? (h : Host) (name : String) : Option String :=
  (h.environment.reverse.find? (·.1 == name)).map (·.2)

/-- Sets a variable, or takes it away. -/
def setVariable (h : Host) (name : String) (v : Option String) : Host :=
  let others := h.environment.filter (·.1 != name)
  { h with environment := match v with
      | some s => if others.length = h.environment.length then others ++ [(name, s)]
          else h.environment.map fun e => if e.1 == name then (name, s) else e
      | none => others }

/-- The home directory of a person, or one's own: the one that the environment names, or else the
    one on record. -/
def homeOf? (h : Host) : Option String → Option String
  | some person => (h.people.find? (·.1 == person)).map (·.2)
  | none => (h.valueOf? "HOME").or h.ownHome

/-- The working directory as a path. -/
def workingDirectory (h : Host) : Path := .absolute h.files.workingDirectory

end Host

end ElementLocator
