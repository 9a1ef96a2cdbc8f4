import ElementLocator.Pattern
import ElementLocator.Report
import ElementLocator.Text.Wide

/-! # Access to trees

    What the library needs of a tree of interface elements: a backend that answers the
    attributes and the ordered children of a node, or fails. Node handles mean nothing outside
    the backend that made them. -/

namespace ElementLocator

/-- The attributes of a node that patterns can match; one that the node lacks is `none`. -/
structure NodeAttributes (σ : Type := String) where
  role : Option σ
  identifier : Option σ
  className : Option σ
  label : Option σ
  deriving DecidableEq, Repr

/-- The attribute that a text constraint concerns. -/
def NodeAttributes.text (a : NodeAttributes) : TextField → Option String
  | .identifier => a.identifier
  | .className => a.className
  | .label => a.label

/-- An attribute that is not there counts like one without characters. -/
def present {σ : Type} [Inscription σ] (s : Option σ) : Option σ := s.filter (!Inscription.isEmpty ·)

/-- A backend over nodes with handles in `ν` and attributes in `σ`. -/
structure TreeAccess (ν : Type) (σ : Type := String) where
  backend : String
  attributes : ν → TaskOf σ ν (NodeAttributes σ)
  children : ν → TaskOf σ ν (List ν)

end ElementLocator
