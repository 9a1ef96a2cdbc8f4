import ElementLocator.CommandLine.Usage
import ElementLocator.FileSystem
import ElementLocator.Text.Whole

/-! # Reading of command lines

    A command line is read in two passes. The first tells options from other words: a word
    that starts with a hyphen is an option or several short ones, until two hyphens alone end
    the options. The second holds every value against its rule: those of the options in the
    order in which the options first appear, then those of the arguments. An option that asks
    for help or the version goes before all values. -/

namespace ElementLocator.CommandLine

/-- An option as it was used: with its value, if it takes one. -/
structure Use where
  option : OptionRule
  value : Option String

/-- The words of a command line, told apart. -/
structure Words where
  uses : List Use
  others : List String

/-- What one word says: options used, and perhaps one that waits for its value, with the name
    that it was given by. -/
structure Piece where
  uses : List Use
  waiting : Option (OptionRule × String)

/-- Whether a name is a long one: with two hyphens before it. -/
def isLong (name : String) : Bool := name.startsWith "--"

/-- The option of a name. -/
def optionOf? (options : List OptionRule) (name : String) : Option OptionRule :=
  options.find? (·.names.contains name)

/-- Splits a word at its first equals sign. -/
def splitValue (word : String) : String × Option String :=
  let cs := word.toList
  let name := String.ofList (cs.takeWhile (· != '='))
  match cs.dropWhile (· != '=') with
  | _ :: rest => (name, some (String.ofList rest))
  | [] => (name, none)

/-- Reads a word of two hyphens and a name, perhaps with a value attached. -/
def readLong (options : List OptionRule) (word : String) : Except Misuse Piece :=
  let (name, attached) := splitValue word
  match optionOf? options name, attached with
  | none, _ =>
    let long := (options.flatMap (·.names)).filter isLong
    .error (.unknownOption name (Text.Similar.suggestions name long))
  | some o, attached =>
    match o.takesValue, attached with
    | true, some v => .ok ⟨[⟨o, some v⟩], none⟩
    | true, none => .ok ⟨[], some (o, name)⟩
    | false, some _ => .error (.unwantedValue name)
    | false, none => .ok ⟨[⟨o, none⟩], none⟩

/-- Reads short options written together. One that takes a value takes what is left. -/
def readShort (options : List OptionRule) : List Char → Except Misuse Piece
  | [] => .ok ⟨[], none⟩
  | c :: rest =>
    let name := String.ofList ['-', c]
    match optionOf? options name with
    | none => .error (.unknownOption name [])
    | some o =>
      if o.takesValue then
        if rest.isEmpty then .ok ⟨[], some (o, name)⟩
        else .ok ⟨[⟨o, some (String.ofList rest)⟩], none⟩
      else
        match readShort options rest with
        | .error m => .error m
        | .ok p => .ok ⟨⟨o, none⟩ :: p.uses, p.waiting⟩

/-- Whether a word is read as options. -/
def looksLikeOption (word : String) : Bool := word.startsWith "-" && decide (1 < word.length)

/-- Tells the words of a command line apart. `mixed` says whether options may stand after other
    words; `waiting` is an option whose value comes next. -/
def readWords (options : List OptionRule) (mixed : Bool) :
    (waiting : Option (OptionRule × String)) → List String → Except Misuse Words
  | some (_, name), [] => .error (.missingValue name)
  | none, [] => .ok ⟨[], []⟩
  | some (o, _), word :: rest =>
    match readWords options mixed none rest with
    | .error m => .error m
    | .ok w => .ok ⟨⟨o, some word⟩ :: w.uses, w.others⟩
  | none, word :: rest =>
    if word == "--" then .ok ⟨[], rest⟩
    else if looksLikeOption word then
      match if isLong word then readLong options word else readShort options (word.toList.drop 1) with
      | .error m => .error m
      | .ok p =>
        match readWords options mixed p.waiting rest with
        | .error m => .error m
        | .ok w => .ok ⟨p.uses ++ w.uses, w.others⟩
    else if mixed then
      match readWords options mixed none rest with
      | .error m => .error m
      | .ok w => .ok ⟨w.uses, word :: w.others⟩
    else .ok ⟨[], word :: rest⟩

-- ── values ────────────────────────────────────────────────────────────────

/-- A value that agrees with its rule. -/
inductive GivenValue
  | switched
  | text (s : String)
  | number (n : Int)
  | texts (l : List String)

/-- Why no command is run. -/
inductive Stop
  | help
  | version
  /-- The command line is empty. -/
  | nothingAsked
  | misuse (m : Misuse)
  /-- The system refuses to look at a path. -/
  | unusable (f : FileFault)

/-- What stands at a path as it is written. A path that ends in a slash, or in a point after
    one, leads to a directory or nowhere. -/
def writtenStatus (files : FileSystem) (path : String) : Except FileProblem Entry :=
  if path.isEmpty then .error .missing
  else
    match files.status (.ofString path) with
    | .ok (.file content) =>
      if path.endsWith "/" || path.endsWith "/." then .error .notDirectory else .ok (.file content)
    | r => r

/-- Holds the path of a file against its rule. -/
def checkFile (files : FileSystem) (owner path : String) (required : Bool) : Except Stop GivenValue :=
  match writtenStatus files path with
  | .ok (.file _) => .ok (.text path)
  | .ok .directory => .error (.misuse (.refusedValue owner ("File " ++ quoted path ++ " is a directory.")))
  | .error .nullCharacter => .error (.unusable ⟨.nullCharacter, path⟩)
  | .error _ =>
    if required then .error (.misuse (.refusedValue owner ("File " ++ quoted path ++ " does not exist.")))
    else .ok (.text path)

/-- Reads a whole number; `kind` names what is asked for. -/
def checkWhole (owner kind word : String) : Except Stop Int :=
  match Text.Whole.read 10 word with
  | .ok n => .ok n
  | .error _ => .error (.misuse (.refusedValue owner (quoted word ++ " is not a valid " ++ kind ++ ".")))

/-- Holds a word against a rule. -/
def ValueRule.check (files : FileSystem) (owner : String) (rule : ValueRule) (word : String) :
    Except Stop GivenValue :=
  match rule with
  | .text => .ok (.text word)
  | .whole => (checkWhole owner "integer" word).map .number
  | .wholeBetween least greatest =>
    match checkWhole owner "integer range" word with
    | .error s => .error s
    | .ok n =>
      if least ≤ n ∧ n ≤ greatest then .ok (.number n)
      else .error (.misuse (.refusedValue owner s!"{n} is not in the range {least}<=x<={greatest}."))
  | .existingFile => checkFile files owner word true
  | .outputFile => checkFile files owner word false
  | .oneOf words =>
    if words.contains word then .ok (.text word)
    else
      let known := String.intercalate ", " (words.map quoted)
      .error (.misuse (.refusedValue owner (quoted word ++ " is not one of " ++ known ++ ".")))

/-- The values of a command line, each under the name of its option or argument. -/
abbrev Given := List (String × GivenValue)

/-- Holds the value of an option against its rule. -/
def Use.check (files : FileSystem) (u : Use) : Except Stop (String × GivenValue) :=
  match u.option.kind, u.value with
  | .value rule, some word =>
    let owner := String.intercalate " / " (u.option.names.map fun n => "'" ++ n ++ "'")
    (rule.check files owner word).map (u.option.name, ·)
  | _, _ => .ok (u.option.name, .switched)

/-- The uses that count: of each option the last, in the order of the first ones. -/
def lastUses (uses : List Use) : List Use :=
  (uses.map (·.option.name)).eraseDups.filterMap fun name =>
    uses.reverse.find? (·.option.name == name)

/-- Deals words out to arguments in order. Answers the words for each, and those left. -/
def deal : List ArgumentRule → List String → List (ArgumentRule × List String) × List String
  | [], words => ([], words)
  | a :: rest, words =>
    let own := if a.many then words else words.take 1
    let (others, left) := deal rest (words.drop own.length)
    ((a, own) :: others, left)

/-- Holds the words of an argument against its rule. -/
def checkArgument (files : FileSystem) (a : ArgumentRule) (words : List String) :
    Except Stop (String × GivenValue) :=
  match a.many, words with
  | true, words => .ok (a.name, .texts words)
  | false, word :: _ => (a.rule.check files ("'" ++ a.shown ++ "'") word).map (a.name, ·)
  | false, [] => .error (.misuse (.missingArgument a.shown))

/-- What goes before all values: the first option that asks for help or the version. -/
def asked (uses : List Use) : Option Stop :=
  uses.findSome? fun u =>
    match u.option.kind with
    | .help => some .help
    | .version => some .version
    | _ => none

/-- Holds all words against the rules of a command. -/
def CommandRule.check (rule : CommandRule) (files : FileSystem) (words : Words) : Except Stop Given := do
  match asked words.uses with
  | some stop => .error stop
  | none =>
    let (dealt, left) := deal rule.arguments words.others
    let options ← (lastUses words.uses).mapM (Use.check files)
    let arguments ← dealt.mapM fun d => checkArgument files d.1 d.2
    if left.isEmpty then .ok (options ++ arguments) else .error (.misuse (.furtherArguments left))

/-- Reads the words that follow the name of a command. -/
def CommandRule.read (rule : CommandRule) (files : FileSystem) (words : List String) : Except Stop Given :=
  match readWords rule.options true none words with
  | .error m => .error (.misuse m)
  | .ok w => rule.check files w

namespace Given

/-- The text given under a name. -/
def text? (g : Given) (name : String) : Option String :=
  g.findSome? fun
    | (n, .text s) => if n == name then some s else none
    | _ => none

/-- The number given under a name. -/
def number? (g : Given) (name : String) : Option Int :=
  g.findSome? fun
    | (n, .number i) => if n == name then some i else none
    | _ => none

/-- All texts given under a name. -/
def texts (g : Given) (name : String) : List String :=
  (g.findSome? fun
    | (n, .texts l) => if n == name then some l else none
    | _ => none).getD []

/-- Whether a switch is on. -/
def has (g : Given) (name : String) : Bool := g.any (·.1 == name)

end Given

end ElementLocator.CommandLine
