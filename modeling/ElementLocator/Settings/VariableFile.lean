import ElementLocator.Text.Blank

/-! # Files of variables

    A file of variables holds a name and a value on each line, as a shell would read them:
    `NAME=value`, perhaps after the word `export`, with quotes around values that need them.
    Comments start with a number sign. A line that cannot be read is passed over. Values may
    name variables that were set before, or those of the environment. -/

namespace ElementLocator.VariableFile

/-- A name as written, and its value; none if only the name stands there. -/
structure Binding where
  name : String
  value : Option String
  deriving DecidableEq, Repr

/-- White space within a line. -/
def isLineBlank (c : Char) : Bool := Text.isBlank c && c != '\n'

/-- The text after the blanks of a line. -/
def skipLineBlanks (cs : List Char) : List Char := cs.dropWhile isLineBlank

/-- The text from the next line on. -/
def dropLine (cs : List Char) : List Char := (cs.dropWhile (· != '\n')).drop 1

/-- The word that may stand before a name. -/
def exportWord : List Char := "export".toList

/-- The text after the word that may stand before a name. -/
def skipExport (cs : List Char) : List Char :=
  if exportWord.isPrefixOf cs then
    let rest := cs.drop exportWord.length
    if (rest.head?.map isLineBlank).getD false then skipLineBlanks rest else cs
  else cs

/-- Takes a name off the front; none stands before a comment. -/
def takeName? : List Char → Option (Option (List Char) × List Char)
  | '#' :: rest => some (none, '#' :: rest)
  | '\'' :: rest =>
    let name := rest.takeWhile (· != '\'')
    match name, rest.drop name.length with
    | [], _ => none
    | name, '\'' :: rest => some (some name, rest)
    | _, _ => none
  | cs =>
    let name := cs.takeWhile fun c => c != '=' && c != '#' && !Text.isBlank c
    if name.isEmpty then none else some (some name, cs.drop name.length)

/-- Takes a quoted value off the front, after its opening quote: the text as written and the
    rest. A backslash takes the character after it along, which has to be on its line. -/
def takeQuoted? (quote : Char) : List Char → Option (List Char × List Char)
  | [] => none
  | ['\\'] => none
  | '\\' :: c :: rest =>
    if c == '\n' then none
    else (takeQuoted? quote rest).map fun (taken, after) => ('\\' :: c :: taken, after)
  | c :: rest =>
    if c == quote then some ([], rest)
    else (takeQuoted? quote rest).map fun (taken, after) => (c :: taken, after)

/-- What the letter after a backslash stands for between double quotes. -/
def doubleEscape? : Char → Option Char
  | '\\' => some '\\'
  | '\'' => some '\''
  | '"' => some '"'
  | 'a' => some '\x07'
  | 'b' => some '\x08'
  | 'f' => some '\x0c'
  | 'n' => some '\n'
  | 'r' => some '\r'
  | 't' => some '\t'
  | 'v' => some '\x0b'
  | _ => none

/-- What the character after a backslash stands for between single quotes. -/
def singleEscape? : Char → Option Char
  | '\\' => some '\\'
  | '\'' => some '\''
  | _ => none

/-- Resolves escapes; a backslash that starts none stands for itself. -/
def unescape (escape? : Char → Option Char) : List Char → List Char
  | '\\' :: c :: rest =>
    match escape? c with
    | some e => e :: unescape escape? rest
    | none => '\\' :: unescape escape? (c :: rest)
  | c :: rest => c :: unescape escape? rest
  | [] => []

/-- The text up to blanks that stand before a number sign. -/
def cutComment : List Char → List Char
  | [] => []
  | c :: rest =>
    if Text.isBlank c && (rest.dropWhile Text.isBlank).head? == some '#' then []
    else c :: cutComment rest

/-- The text without blanks at its end. -/
def trimEnd (cs : List Char) : List Char := (cs.reverse.dropWhile Text.isBlank).reverse

/-- Takes a value off the front, with the blanks before it. A number sign right at the start is
    part of a value without quotes; after blanks it starts a comment. -/
def takeValue? (cs : List Char) : Option (List Char × List Char) :=
  match skipLineBlanks cs with
  | '\'' :: rest => (takeQuoted? '\'' rest).map fun (v, r) => (unescape singleEscape? v, r)
  | '"' :: rest => (takeQuoted? '"' rest).map fun (v, r) => (unescape doubleEscape? v, r)
  | _ =>
    let line := cs.takeWhile (· != '\n')
    some (trimEnd ((cutComment line).dropWhile Text.isBlank), cs.drop line.length)

/-- The text after a comment and the end of the line; none if something else stands there. -/
def endLine? (cs : List Char) : Option (List Char) :=
  match skipLineBlanks cs with
  | '#' :: rest => some (dropLine rest)
  | '\n' :: rest => some rest
  | [] => some []
  | _ => none

/-- Takes one line off the front: its binding, if it has one, and the rest. -/
def takeLine (cs : List Char) : Option Binding × List Char :=
  let start := skipExport cs
  match takeName? start with
  | none => (none, dropLine start)
  | some (name, rest) =>
    let afterName := skipLineBlanks rest
    let given : Option (List Char) := match afterName with
      | '=' :: r => some r
      | _ => none
    let read : Option (Option (List Char) × List Char) := match given with
      | some r => (takeValue? r).map fun (v, r) => (some v, r)
      | none => some (none, afterName)
    match read with
    | none => (none, dropLine (given.getD afterName))
    | some (v, after) =>
      match endLine? after with
      | none => (none, dropLine after)
      | some rest =>
        (name.map fun n => ⟨String.ofList n, v.map String.ofList⟩, rest)

/-- The bindings of a text, in order. Every line takes at least one character. -/
def bindings : (fuel : Nat) → List Char → List Binding
  | 0, _ => []
  | fuel + 1, cs =>
    match cs.dropWhile Text.isBlank with
    | [] => []
    | cs =>
      let (b, rest) := takeLine cs
      b.toList ++ bindings fuel rest

/-- Reads the name of a variable to be put in, after its opening brace, with what stands for it
    if it is not set. -/
def takeReference? (cs : List Char) : Option (List Char × Option (List Char) × List Char) :=
  let name := cs.takeWhile fun c => c != '\x7d' && c != ':'
  match cs.drop name.length with
  | '\x7d' :: rest => some (name, none, rest)
  | ':' :: '-' :: rest =>
    let other := rest.takeWhile (· != '\x7d')
    match rest.drop other.length with
    | '\x7d' :: after => some (name, some other, after)
    | _ => none
  | _ => none

/-- Puts in the values of variables. A name that is known without a value stands for nothing. -/
def expand (known : String → Option (Option String)) : (fuel : Nat) → List Char → List Char
  | 0, _ => []
  | _ + 1, [] => []
  | fuel + 1, '$' :: '\x7b' :: rest =>
    match takeReference? rest with
    | some (name, other, after) =>
      let v := match known (String.ofList name) with
        | some v => (v.getD "").toList
        | none => other.getD []
      v ++ expand known fuel after
    | none => '$' :: expand known fuel ('\x7b' :: rest)
  | fuel + 1, c :: rest => c :: expand known fuel rest

/-- Sets a variable after others: a known name keeps its place. -/
def putVariable (done : List (String × Option String)) (name : String) (v : Option String) :
    List (String × Option String) :=
  if done.any (·.1 == name) then done.map fun e => if e.1 == name then (name, v) else e
  else done ++ [(name, v)]

/-- The variables that bindings set, one after the other. -/
def setAll (environment : String → Option String) (done : List (String × Option String)) :
    List Binding → List (String × Option String)
  | [] => done
  | b :: rest =>
    let known (name : String) : Option (Option String) :=
      match done.find? (·.1 == name) with
      | some e => some e.2
      | none => (environment name).map some
    let v := b.value.map fun s => String.ofList (expand known (s.length + 1) s.toList)
    setAll environment (putVariable done b.name v) rest

/-- The variables of a file's text, where `environment` gives the variables around it. -/
def read (environment : String → Option String) (text : List Char) : List (String × Option String) :=
  setAll environment [] (bindings (text.length + 1) text)

end ElementLocator.VariableFile
