import ElementLocator.Decimal.Shortest
import ElementLocator.Text.Quoted

/-! # Plain data

    Plain data in the sense of JSON, with whole numbers kept apart from floating-point numbers
    and the members of an object in their written order, and its two printed layouts: on one
    line, and indented. -/

namespace ElementLocator

/-- Plain data; an object keeps its members in order. -/
inductive Json
  | null
  | bool (b : Bool)
  | int (n : Int)
  | float (x : Binary64)
  | str (s : String)
  | list (items : List Json)
  | object (members : List (String × Json))

instance : Inhabited Json := ⟨.null⟩

namespace Json

/-- The text of a number with a fraction. -/
def floatText : Binary64 → String
  | .nan => "NaN"
  | .infinity s => if s then "-Infinity" else "Infinity"
  | x => Decimal.floatText x

/-- The text of data without parts. -/
def scalarText : Json → String
  | .null => "null"
  | .bool b => if b then "true" else "false"
  | .int n => toString n
  | .float x => floatText x
  | .str s => Text.Quoted.quote s
  | .list _ => "[]"
  | .object _ => "\x7b\x7d"

mutual

/-- The text on one line, with a blank after each comma and colon. -/
def line : Json → String
  | .list items => "[" ++ String.intercalate ", " (lineItems items) ++ "]"
  | .object members => "\x7b" ++ String.intercalate ", " (lineMembers members) ++ "\x7d"
  | j => scalarText j

/-- The one-line texts of list items. -/
def lineItems : List Json → List String
  | [] => []
  | j :: rest => line j :: lineItems rest

/-- The one-line texts of object members. -/
def lineMembers : List (String × Json) → List String
  | [] => []
  | (k, j) :: rest => (Text.Quoted.quote k ++ ": " ++ line j) :: lineMembers rest

end

/-- The start of a line that stands `depth` levels deep. -/
def margin (depth : Nat) : String := "\n" ++ String.ofList (List.replicate (2 * depth) ' ')

mutual

/-- The indented text of data that starts `depth` levels deep; each level takes two blanks, and
    empty lists and objects stay on their line. -/
def indented (depth : Nat) : Json → String
  | .list [] => "[]"
  | .list items =>
    "[" ++ margin (depth + 1) ++
      String.intercalate ("," ++ margin (depth + 1)) (indentedItems (depth + 1) items) ++
      margin depth ++ "]"
  | .object [] => "\x7b\x7d"
  | .object members =>
    "\x7b" ++ margin (depth + 1) ++
      String.intercalate ("," ++ margin (depth + 1)) (indentedMembers (depth + 1) members) ++
      margin depth ++ "\x7d"
  | j => scalarText j

/-- The indented texts of list items. -/
def indentedItems (depth : Nat) : List Json → List String
  | [] => []
  | j :: rest => indented depth j :: indentedItems depth rest

/-- The indented texts of object members. -/
def indentedMembers (depth : Nat) : List (String × Json) → List String
  | [] => []
  | (k, j) :: rest =>
    (Text.Quoted.quote k ++ ": " ++ indented depth j) :: indentedMembers depth rest

end

/-- The member of an object under a key; for repeated keys the last. -/
def member? (key : String) : Json → Option Json
  | .object members => (members.reverse.find? (·.1 == key)).map (·.2)
  | _ => none

/-- How messages name the kind of a value. -/
def kind : Json → String
  | .null => "NoneType"
  | .bool _ => "bool"
  | .int _ => "int"
  | .float _ => "float"
  | .str _ => "str"
  | .list _ => "list"
  | .object _ => "dict"

end Json

end ElementLocator
