import ElementLocator.Config.Reader
import ElementLocator.FileSystem
import ElementLocator.Yaml.Document

/-! # Configurations in files

    Loading of a configuration from a file. A file that is missing, cannot be read or does not
    hold a configuration is an error that names it. -/

namespace ElementLocator

variable {ν : Type}

namespace Config

/-- Reports what the loading of the text in a file came to. -/
def reportLoaded (path : Path) : Except Yaml.Fault Value → Task ν Value
  | .ok document => Report.ok document
  | .error (.scalar f) => Report.fail (.scalar f)
  | .error (.unreadable (.undecodable f)) => do
    Task.log .error "config_read_failed" [("path", .str path.text), ("error", .str f.message)]
    Task.malformed path.text s!"cannot read file: {f.message}" []
  | .error f => do
    let message := f.text path.text
    Task.log .error "config_parse_failed" [("path", .str path.text), ("error", .str message)]
    Task.malformed path.text s!"invalid YAML: {message}" []

/-- The document in the bytes of a file. -/
def readDocument (path : Path) (content : List UInt8) : Task ν Value :=
  reportLoaded path (Yaml.loadFile content)

/-- Loads the configuration in a file. -/
def load (files : FileSystem) (path : Path) : Task ν Config :=
  match files.isFile path with
  | .error f => Report.fail (.file f)
  | .ok false => Task.refuse (.configMissing path.stem [path.text])
  | .ok true =>
    match files.read path with
    | .error f => do
      Task.log .error "config_read_failed" [("path", .str path.text), ("error", .str f.message)]
      Task.malformed path.text s!"cannot read file: {f.message}" []
    | .ok content => do
      let document ← readDocument path content
      let config ← ofValue path.text document
      Task.log .info "config_loaded"
        [("path", .str path.text), ("apps", .list (config.appNames.map .str))]
      return config

end Config

end ElementLocator
