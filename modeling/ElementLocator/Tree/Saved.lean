import ElementLocator.Report
import ElementLocator.Tree.Reader
import ElementLocator.Yaml.Document

/-! # Saved trees

    Reading of the outline of a tree back as the tree. -/

namespace ElementLocator

variable {ν : Type}

namespace Tree

/-- How the text of an outline is named in places within it. -/
def outlineName : String := "<unicode string>"

/-- Reads an outline back as a tree; `source` names the outline in errors. An outline without
    content is a node without attributes. -/
def ofOutline (source : String) (text : List Char) : Task ν Tree :=
  match Yaml.load text with
  | .error (.scalar f) => Report.fail (.scalar f)
  | .error f => Task.malformed source s!"invalid YAML: {f.text outlineName}" []
  | .ok document =>
    match document.unmarked with
    | .null => Report.ok (node .empty [])
    | .mapping _ =>
      match ofValue document with
      | .ok t => Report.ok t
      | .error errors => Task.malformed source s!"{errors.length} invalid node field(s)" []
    | _ => Task.malformed source "top level must be a node mapping" []

/-- How an outline without a name of its own is named. -/
def unnamedOutline : String := "<dump>"

end Tree

end ElementLocator
