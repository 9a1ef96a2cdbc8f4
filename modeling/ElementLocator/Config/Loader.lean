import ElementLocator.Config.Source
import ElementLocator.Config.Store

/-! # Loaders of stores

    Where a store gets another configuration from when it is told to reload: nowhere, from a
    loader of the caller's own, or from the file that a search finds at that moment. A loader
    is asked anew for each reload, and each time it may answer something else or fail. -/

namespace ElementLocator.ConfigStore

variable {ν : Type}

/-- Where the reloads of a store ask for a configuration. -/
inductive Loader (ν : Type)
  | nothing
  /-- A loader of the caller's own, by what it answers each time it is asked. -/
  | own (answers : Nat → Task ν Config)
  /-- A search for a configuration file. -/
  | source (name : Option String) (searchPaths : Option (List Path))

/-- What a loader answers on a host after it was asked `asked` times before, if there is a loader,
    and the settings kept afterwards. -/
def Loader.ask (cache : SettingsCache) (host : Host) (asked : Nat) :
    Loader ν → Option (Task ν Config) × SettingsCache
  | .nothing => (none, cache)
  | .own answers => (some (answers asked), cache)
  | .source name searchPaths =>
    let (found, cache) := Config.locateKept cache host name searchPaths
    (some found, cache)

end ElementLocator.ConfigStore
