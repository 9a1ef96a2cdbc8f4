import ElementLocator.CommandLine.Command

/-! # Words of command lines

    Which command the words of a line stand for, for the two commands on an outline in a file.
    The file is there under the path as it is written, and no word that stands for itself looks
    like an option.

    * `readWords_plain`, `readWords_named` — how words that stand for themselves, and an option
      with its value, go before other words;
    * `read_outline`, `read_check` — the lines `dump --from-dump FILE` and
      `check CONFIG APP ELEMENT… --from-dump FILE`, the latter in either format;
    * `read_endedCheck` — the same check for words of any look, after the end of the options. -/

namespace ElementLocator

/-- The name of a format. -/
def CheckFormat.name : CheckFormat → String
  | .text => "text"
  | .json => "json"

theorem CheckFormat.ofName_name (format : CheckFormat) : ofName format.name = .ok format := by
  cases format <;> rfl

namespace CommandLine

-- ── words told apart ──────────────────────────────────────────────────────

theorem looksLikeOption_end : looksLikeOption "--" = true := by decide +kernel

/-- A word that is not read as an option does not end the options either. -/
theorem ne_end_of_plain {word : String} (h : looksLikeOption word = false) : (word == "--") = false := by
  refine beq_eq_false_iff_ne.mpr ?_
  rintro rfl
  rw [looksLikeOption_end] at h
  cases h

section Words

variable {options : List OptionRule} {rest : List String} {w : Words}

/-- Words that stand for themselves go before the others. -/
theorem readWords_plain {words : List String} (hplain : ∀ word ∈ words, looksLikeOption word = false)
    (h : readWords options true none rest = .ok w) :
    readWords options true none (words ++ rest) = .ok ⟨w.uses, words ++ w.others⟩ := by
  induction words with
  | nil => exact h
  | cons word words ih =>
      have hword := hplain word List.mem_cons_self
      rw [List.cons_append, readWords, ne_end_of_plain hword, hword]
      rw [if_neg Bool.false_ne_true, if_neg Bool.false_ne_true, if_pos rfl]
      rw [ih fun other hother => hplain other (List.mem_cons_of_mem word hother)]
      rfl

/-- A long name of an option that takes a value. -/
structure Named (options : List OptionRule) (name : String) (o : OptionRule) : Prop where
  ne_end : (name == "--") = false
  looks : looksLikeOption name = true
  long : isLong name = true
  /-- No value is attached. -/
  split : splitValue name = (name, none)
  found : optionOf? options name = some o
  takes : o.takesValue = true

/-- The word after the name of an option is its value, whatever it looks like. -/
theorem readWords_named {name : String} {o : OptionRule} (hname : Named options name o)
    (value : String) {mixed : Bool} (h : readWords options mixed none rest = .ok w) :
    readWords options mixed none (name :: value :: rest) = .ok ⟨⟨o, some value⟩ :: w.uses, w.others⟩ := by
  have hpiece : readLong options name = .ok ⟨[], some (o, name)⟩ := by
    rw [readLong, hname.split]
    dsimp only
    rw [hname.found]
    dsimp only
    rw [hname.takes]
  rw [readWords, hname.ne_end, hname.looks, hname.long]
  rw [if_neg Bool.false_ne_true, if_pos rfl, if_pos rfl, hpiece]
  dsimp only
  rw [readWords, h]
  rfl

end Words

/-- The words of the program itself end with the name of a command. -/
theorem readWords_program {name : String} (h : looksLikeOption name = false) (rest : List String) :
    readWords programRule.options false none (name :: rest) = .ok ⟨[], name :: rest⟩ := by
  rw [readWords, ne_end_of_plain h, h]
  rw [if_neg Bool.false_ne_true, if_neg Bool.false_ne_true, if_neg Bool.false_ne_true]

-- ── words against rules ───────────────────────────────────────────────────

/-- The words after the name of a command are held against its rule. -/
theorem read_command {files : FileSystem} (rule : CommandRule)
    (hplain : looksLikeOption rule.name = false)
    (hrule : commandRules.find? (·.name == rule.name) = some rule) {rest : List String} {g : Given}
    (h : rule.read files rest = .ok g) :
    read files (rule.name :: rest) = .ok (Command.ofGiven rule.name g) := by
  rw [read, readWords_program hplain rest]
  dsimp only
  rw [show asked [] = none from rfl]
  dsimp only
  rw [hrule]
  dsimp only
  rw [h]

/-- Words that agree with the rule of a command, part by part. -/
theorem CommandRule.read_of {rule : CommandRule} {files : FileSystem} {rest : List String} {w : Words}
    {dealt : List (ArgumentRule × List String)} {options arguments : List (String × GivenValue)}
    (hwords : readWords rule.options true none rest = .ok w) (hasked : asked w.uses = none)
    (hdealt : deal rule.arguments w.others = (dealt, []))
    (hoptions : (lastUses w.uses).mapM (Use.check files) = .ok options)
    (harguments : (dealt.mapM fun d => checkArgument files d.1 d.2) = .ok arguments) :
    rule.read files rest = .ok (options ++ arguments) := by
  rw [CommandRule.read, hwords]
  dsimp only
  rw [CommandRule.check, hasked]
  dsimp only
  rw [hdealt]
  dsimp only
  rw [hoptions, harguments]
  rfl

section Files

variable {files : FileSystem} {path : String} {content : List UInt8}

theorem checkFile_of_file (h : writtenStatus files path = .ok (.file content)) (owner : String) :
    checkFile files owner path true = .ok (.text path) := by
  simp only [checkFile]
  rw [h]

/-- The option for an outline in a file, used with a path. -/
def savedUse (help path : String) : Use := ⟨savedOption help, some path⟩

theorem check_savedUse (h : writtenStatus files path = .ok (.file content)) (help : String) :
    (savedUse help path).check files = .ok ("--from-dump", .text path) := by
  rw [Use.check]
  dsimp only [savedUse, savedOption]
  rw [ValueRule.check, checkFile_of_file h]
  rfl

-- ── outlines of saved outlines ────────────────────────────────────────────

theorem named_saved_outline :
    Named outlineRule.options "--from-dump" (savedOption "Re-render a saved dump instead of a live process") := by
  constructor <;> first | rfl | decide +kernel

/-- **THE OUTLINE OF A TREE IN A FILE**, to the output. -/
theorem read_outline (h : writtenStatus files path = .ok (.file content)) :
    read files ["dump", "--from-dump", path] = .ok (.outline (some (.saved path)) none none false) := by
  have hwords : readWords outlineRule.options true none ["--from-dump", path] =
      .ok ⟨[savedUse "Re-render a saved dump instead of a live process" path], []⟩ :=
    readWords_named named_saved_outline path (w := ⟨[], []⟩) rfl
  have hgiven : outlineRule.read files ["--from-dump", path] = .ok [("--from-dump", .text path)] := by
    have hoptions : [savedUse "Re-render a saved dump instead of a live process" path].mapM
        (Use.check files) = .ok [("--from-dump", .text path)] := by
      simp only [List.mapM_cons, List.mapM_nil]
      rw [check_savedUse h]
      rfl
    have hdealt : deal outlineRule.arguments [] = ([], []) := rfl
    have harguments : ([] : List (ArgumentRule × List String)).mapM
        (fun d => checkArgument files d.1 d.2) = .ok [] := rfl
    exact CommandRule.read_of hwords rfl hdealt hoptions harguments
  exact read_command outlineRule (by decide +kernel) rfl hgiven

end Files

-- ── checks against saved outlines ─────────────────────────────────────────

/-- The words that ask for a format; none ask for the standard one. -/
def formatWords : Option CheckFormat → List String
  | none => []
  | some format => ["--format", format.name]

/-- The words of a check against an outline in a file. -/
def savedCheck (config app : String) (elements : List String) (path : String)
    (format : Option CheckFormat) : List String :=
  "check" :: ((config :: app :: elements) ++ "--from-dump" :: path :: formatWords format)

/-- The words of the same check where its arguments stand after the end of the options. -/
def endedCheck (config app : String) (elements : List String) (path : String)
    (format : Option CheckFormat) : List String :=
  "check" :: "--from-dump" :: path :: (formatWords format ++ "--" :: config :: app :: elements)

/-- The option for the format of a report. -/
def formatOption : OptionRule := ⟨["--format"], .value (.oneOf formatNames), "Output format"⟩

theorem named_saved_check :
    Named checkRule.options "--from-dump" (savedOption "Check against a saved dump instead of a live process") := by
  constructor <;> first | rfl | decide +kernel

theorem named_format_check : Named checkRule.options "--format" formatOption := by
  constructor <;> first | rfl | decide +kernel

/-- What the words that ask for a format are read as. -/
def formatUses : Option CheckFormat → List Use
  | none => []
  | some format => [⟨formatOption, some format.name⟩]

theorem readWords_format (format : Option CheckFormat) {rest : List String} {w : Words}
    (h : readWords checkRule.options true none rest = .ok w) :
    readWords checkRule.options true none (formatWords format ++ rest) =
      .ok ⟨formatUses format ++ w.uses, w.others⟩ := by
  cases format with
  | none => exact h
  | some format => exact readWords_named named_format_check format.name h

section Files

variable {files : FileSystem} {config path : String} {settings content : List UInt8}

/-- The options of a check agree with their rules. -/
theorem checkUses_check (h : writtenStatus files path = .ok (.file content)) (format : Option CheckFormat) :
    (lastUses (savedUse "Check against a saved dump instead of a live process" path ::
      formatUses format)).mapM (Use.check files) =
        .ok (("--from-dump", .text path) ::
          format.toList.map fun format => ("--format", .text format.name)) := by
  have hlast : lastUses (savedUse "Check against a saved dump instead of a live process" path ::
      formatUses format) = savedUse "Check against a saved dump instead of a live process" path ::
        formatUses format := by
    cases format <;> rfl
  have hformat : (formatUses format).mapM (Use.check files) =
      .ok (format.toList.map fun format => ("--format", .text format.name)) := by
    rcases format with - | - | - <;> rfl
  rw [hlast]
  simp only [List.mapM_cons]
  rw [check_savedUse h, hformat]
  rfl

/-- The words of a check that stand for themselves are its arguments in order. -/
theorem deal_check (config app : String) (elements : List String) :
    deal checkRule.arguments (config :: app :: elements) =
      ([(configArgument, [config]), (appArgument, [app]), (elementsArgument, elements)], []) := by
  show ([(configArgument, [config]), (appArgument, [app]), (elementsArgument, elements)],
    elements.drop elements.length) = _
  rw [List.drop_length]

/-- The arguments of a check agree with their rules. -/
theorem checkArguments_check (h : writtenStatus files config = .ok (.file settings)) (app : String)
    (elements : List String) :
    ([(configArgument, [config]), (appArgument, [app]), (elementsArgument, elements)].mapM
      fun d => checkArgument files d.1 d.2) =
        .ok [("CONFIG_PATH", .text config), ("APP_NAME", .text app), ("ELEMENT_NAMES", .texts elements)] := by
  have hconfig : checkArgument files configArgument [config] = .ok ("CONFIG_PATH", .text config) := by
    show (checkFile files _ config true).map _ = _
    rw [checkFile_of_file h]
    rfl
  simp only [List.mapM_cons, List.mapM_nil]
  rw [hconfig]
  rfl

/-- A check is read from words that are told apart as its options and arguments. -/
theorem read_check_of {app : String} {elements words : List String} {format : Option CheckFormat}
    (hconfig : writtenStatus files config = .ok (.file settings))
    (hpath : writtenStatus files path = .ok (.file content))
    (hwords : readWords checkRule.options true none words =
      .ok ⟨savedUse "Check against a saved dump instead of a live process" path :: formatUses format,
        config :: app :: elements⟩) :
    read files ("check" :: words) =
      .ok (.check config app elements (some (.saved path)) (format.getD .text).name false) := by
  have hgiven := CommandRule.read_of hwords (by cases format <;> rfl) (deal_check config app elements)
    (checkUses_check hpath format) (checkArguments_check hconfig app elements)
  refine (read_command checkRule (by decide +kernel) rfl hgiven).trans ?_
  rcases format with - | - | - <;> rfl

/-- **THE CHECK AGAINST A TREE IN A FILE**, in the format asked for. -/
theorem read_check {app : String} {elements : List String}
    (hplain : ∀ word ∈ config :: app :: elements, looksLikeOption word = false)
    (hconfig : writtenStatus files config = .ok (.file settings))
    (hpath : writtenStatus files path = .ok (.file content)) (format : Option CheckFormat) :
    read files (savedCheck config app elements path format) =
      .ok (.check config app elements (some (.saved path)) (format.getD .text).name false) := by
  have hformat := readWords_format format (show readWords checkRule.options true none [] = .ok ⟨[], []⟩ from rfl)
  rw [List.append_nil, List.append_nil] at hformat
  have hwords := readWords_plain hplain (readWords_named named_saved_check path hformat)
  rw [List.append_nil] at hwords
  exact read_check_of hconfig hpath hwords

/-- The words after the end of the options stand for themselves, whatever they look like. -/
theorem read_endedCheck (app : String) (elements : List String)
    (hconfig : writtenStatus files config = .ok (.file settings))
    (hpath : writtenStatus files path = .ok (.file content)) (format : Option CheckFormat) :
    read files (endedCheck config app elements path format) =
      .ok (.check config app elements (some (.saved path)) (format.getD .text).name false) := by
  have hend : readWords checkRule.options true none ("--" :: config :: app :: elements) =
      .ok ⟨[], config :: app :: elements⟩ := rfl
  have hwords := readWords_named named_saved_check path (readWords_format format hend)
  rw [List.append_nil] at hwords
  exact read_check_of hconfig hpath hwords

end Files

end CommandLine

end ElementLocator
