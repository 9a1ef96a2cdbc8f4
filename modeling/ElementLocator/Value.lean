import ElementLocator.Calendar
import ElementLocator.Json
import ElementLocator.Text.Literal

/-! # Document values

    What a configuration document or a saved tree can hold once it is read: scalars of several
    kinds, including dates and bytes, and lists, sets and mappings whose keys may be any
    scalar. A mapping keeps its entries in order.

    A document may refer back to one of its own containers. Such a document is held unfolded
    to a fixed depth, and each of its containers carries an identity, so that a reader can
    tell that it meets a container again inside itself. -/

namespace ElementLocator

/-- A document value whose texts are in `σ`. -/
inductive Value (σ : Type := String)
  | null
  | bool (b : Bool)
  | int (n : Int)
  | float (x : Binary64)
  | text (s : σ)
  | bytes (bs : List UInt8)
  | date (d : Date)
  | moment (m : Moment)
  | list (items : List (Value σ))
  | tuple (items : List (Value σ))
  | set (items : List (Value σ))
  | mapping (entries : List (Value σ × Value σ))
  /-- A container of a document that refers back to itself, with its identity. -/
  | marked (identity : Nat) (container : Value σ)

namespace Value

mutual

/-- Plain data as a document value. -/
def ofJson : Json → Value
  | .null => .null
  | .bool b => .bool b
  | .int n => .int n
  | .float x => .float x
  | .str s => .text s
  | .list items => .list (ofJsonItems items)
  | .object members => .mapping (ofJsonMembers members)

/-- List items as document values. -/
def ofJsonItems : List Json → List Value
  | [] => []
  | j :: rest => ofJson j :: ofJsonItems rest

/-- Object members as mapping entries. -/
def ofJsonMembers : List (String × Json) → List (Value × Value)
  | [] => []
  | (k, j) :: rest => (.text k, ofJson j) :: ofJsonMembers rest

end

/-- The container without its identity. -/
def unmarked : Value → Value
  | .marked _ v => unmarked v
  | v => v

/-- The entries of a mapping. -/
def entries? (v : Value) : Option (List (Value × Value)) :=
  match v.unmarked with
  | .mapping es => some es
  | _ => none

/-- Whether two keys are the same: numbers by value (truth values count as 0 and 1), moments by
    the instant, and all else by kind and content. Not-a-number differs from itself. -/
def sameKey (a b : Value) : Bool :=
  match number? a, number? b with
  | some m, some n => m == n
  | none, none =>
    match a, b with
    | .null, .null => true
    | .float x, .float y => x == y && x != .nan
    | .text s, .text t => s == t
    | .bytes s, .bytes t => s == t
    | .date d, .date e => d == e
    | .moment m, .moment n => m.isSame n
    | _, _ => false
  | _, _ => false
where
  number? : Value → Option Int
    | .bool b => some (if b then 1 else 0)
    | .int n => some n
    | .float x => x.toInt?
    | _ => none

/-- A key of a mapping that is put together; `place` tells keys apart that are not-a-number. -/
structure Key where
  value : Value
  place : Nat

/-- Whether two keys are the same, by value or as one and the same not-a-number. -/
def Key.isSame (a b : Key) : Bool :=
  match a.value, b.value with
  | .float .nan, .float .nan => a.place == b.place
  | v, w => sameKey v w

/-- Puts an entry into a mapping: a known key keeps its first place and spelling. -/
def putEntry (entries : List (Key × Value)) (key : Key) (v : Value) : List (Key × Value) :=
  if entries.any (·.1.isSame key) then
    entries.map fun e => if e.1.isSame key then (e.1, v) else e
  else entries ++ [(key, v)]

end Value

end ElementLocator
