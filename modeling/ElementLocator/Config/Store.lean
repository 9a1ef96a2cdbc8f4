import ElementLocator.Config

/-! # Stores of configurations

    A store holds the configuration that queries are answered from. Installing another one
    replaces it whole: no query sees parts of two. A reload installs what a loader answers at
    that moment, and a reload that fails leaves the store as it was. -/

namespace ElementLocator

/-- A store with its installed configuration. -/
structure ConfigStore where
  current : Config

namespace ConfigStore

variable {ν : Type}

/-- A store without applications. -/
def empty : ConfigStore := ⟨.empty⟩

/-- Installs a configuration; answers the one that was installed before. -/
def replace (s : ConfigStore) (next : Config) : Task ν Config × ConfigStore :=
  let event : LogEvent := ⟨.info, "configuration_replaced", [("apps", .list (next.appNames.map .str))]⟩
  (⟨[.logged event], .ok s.current⟩, ⟨next⟩)

/-- Installs what the loader answers, if there is a loader and it does not fail; answers the
    configuration installed. -/
def reload (s : ConfigStore) (loader : Option (Task ν Config)) : Task ν Config × ConfigStore :=
  match loader with
  | none => (Report.fail .noLoader, s)
  | some load =>
    match load.outcome with
    | .error _ => (load, s)
    | .ok next =>
      let (replaced, s) := s.replace next
      (⟨load.notes ++ replaced.notes, .ok next⟩, s)

end ConfigStore

end ElementLocator
