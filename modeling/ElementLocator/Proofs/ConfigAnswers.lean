import ElementLocator.Proofs.ConfigReading

/-! # What a configuration answers

    The laws of configurations that were read from a document.

    * `Config.Reflects` — the names of a configuration are those of the document in order, and
      a query for an element is answered by the pattern of the element's value, or by the error
      that says which of the two names is not known;
    * `Config.AnswersByName` — where the keys of elements are distinct texts, as is usual, an
      element is what stands under its name;
    * `document_and_config` — a configuration that was read reflects its document, and a
      document that is cut in two is read like its parts. -/

namespace ElementLocator

-- ── names that are plain texts ────────────────────────────────────────────

namespace Document

theorem eraseDups_of_nodup {names : List String} (h : names.Nodup) : names.eraseDups = names := by
  induction names with
  | nil => rfl
  | cons name rest ih =>
      obtain ⟨hfresh, hrest⟩ := List.nodup_cons.mp h
      have hkept : rest.filter (fun other => !other == name) = rest := by
        refine List.filter_eq_self.mpr fun other hother => ?_
        rw [Bool.not_eq_true', beq_eq_false_iff_ne]
        exact fun heq => hfresh (heq ▸ hother)
      rw [List.eraseDups_cons, hkept, ih hrest]

theorem filterMap_nameOf?_texts {elements : List (Value × Value)} {names : List String}
    (hkeys : elements.map (·.1) = names.map Value.text) :
    (elements.filterMap fun e => nameOf? e.1) = names := by
  have hnames : (elements.map (·.1)).filterMap nameOf? = names := by
    rw [hkeys, List.filterMap_map]
    exact List.filterMap_some
  rwa [List.filterMap_map] at hnames

/-- Under distinct texts the last value of a name is the first. -/
theorem valueOf?_of_texts {elements : List (Value × Value)} {names : List String}
    (hkeys : elements.map (·.1) = names.map Value.text) (hnames : names.Nodup) (name : String) :
    valueOf? elements name = (Validation.field? elements [name]).map (·.2) := by
  rw [valueOf?]
  induction elements generalizing names with
  | nil => rfl
  | cons e rest ih =>
      obtain ⟨k, v⟩ := e
      cases names with
      | nil => exact nomatch hkeys
      | cons first names =>
          obtain ⟨hk, hrest⟩ := List.cons.inj hkeys
          obtain rfl : k = .text first := hk
          obtain ⟨hfresh, hdistinct⟩ := List.nodup_cons.mp hnames
          rw [List.reverse_cons, List.find?_append, List.find?_singleton]
          by_cases hname : first = name
          · have hnone : rest.reverse.find? (fun e => nameOf? e.1 == some name) = none := by
              refine List.find?_eq_none.mpr fun e he hsame => hfresh ?_
              have hmem : name ∈ rest.filterMap fun e => nameOf? e.1 :=
                List.mem_filterMap.mpr ⟨e, List.mem_reverse.mp he, beq_iff_eq.mp hsame⟩
              rwa [filterMap_nameOf?_texts hrest, ← hname] at hmem
            rw [hnone, hname, Validation.field?_cons_self, if_pos (by exact beq_self_eq_true (some name))]
            rfl
          · have hother : ¬ (nameOf? (.text first) == some name) = true :=
              fun hsame => hname (Option.some.inj (beq_iff_eq.mp hsame))
            rw [Validation.field?_cons_of_ne fun heq => hname (Value.text.inj heq), if_neg hother,
              Option.or_none]
            exact ih hrest hdistinct

/-- **DISTINCT TEXTS NAME THEMSELVES**: the names are the keys in order, and an element is what
    stands under its name. -/
theorem names_of_texts {elements : List (Value × Value)} {names : List String}
    (hkeys : elements.map (·.1) = names.map Value.text) (hnames : names.Nodup) :
    namesOf elements = names ∧
      ∀ name, valueOf? elements name = (Validation.field? elements [name]).map (·.2) := by
  constructor
  · rw [namesOf, filterMap_nameOf?_texts hkeys, eraseDups_of_nodup hnames]
  · exact valueOf?_of_texts hkeys hnames

end Document

-- ── elements of one application ───────────────────────────────────────────

namespace AppConfig

variable {elements : List (Value × Value)} {named : List (String × Pattern)}

theorem nameOf?_of_gives {entry : Value × Value} {e : String × Pattern} (h : Gives entry e) :
    Document.nameOf? entry.1 = some e.1 := by
  rw [Document.nameOf?, h.1]
  rfl

theorem filterMap_nameOf? (h : List.Forall₂ Gives elements named) :
    (elements.filterMap fun e => Document.nameOf? e.1) = named.map (·.1) := by
  induction h with
  | nil => rfl
  | cons hgives _ ih => rw [List.filterMap_cons, nameOf?_of_gives hgives, List.map_cons, ih]

/-- The first entry of a name gives the first pattern of that name. -/
theorem find?_of_gives (h : List.Forall₂ Gives elements named) (name : String) :
    match elements.find? fun e => Document.nameOf? e.1 == some name with
    | none => named.find? (·.1 == name) = none
    | some entry => ∃ e, named.find? (·.1 == name) = some e ∧ Gives entry e := by
  induction h with
  | nil => rfl
  | @cons entry e rest others hgives _ ih =>
      have hsame : (Document.nameOf? entry.1 == some name) = (e.1 == name) := by
        rw [nameOf?_of_gives hgives]
        rfl
      rw [List.find?_cons, List.find?_cons, hsame]
      cases e.1 == name with
      | true => exact ⟨e, rfl, hgives⟩
      | false => exact ih

theorem elementNames_of_gives {a : AppConfig} (h : List.Forall₂ Gives elements named)
    (ha : a.elements = putElements [] named) : a.elementNames = Document.namesOf elements := by
  have hnames : (putElements [] named).map (·.1) = (([] : List String) ++ named.map (·.1)).eraseDups :=
    map_fst_putElements rfl
  rw [elementNames, ha, hnames, List.nil_append, Document.namesOf, filterMap_nameOf? h]

/-- An element has the pattern that its value is accepted as. -/
theorem pattern?_of_gives {a : AppConfig} (h : List.Forall₂ Gives elements named)
    (ha : a.elements = putElements [] named) (name : String) :
    match Document.valueOf? elements name with
    | none => a.pattern? name = none
    | some v => ∃ p, Pattern.ofValue v = .ok (.ok p) ∧ a.pattern? name = some p := by
  have hfind := find?_of_gives (List.rel_reverse h) name
  rw [Document.valueOf?, AppConfig.pattern?, ha, find?_putElements]
  cases hentry : elements.reverse.find? fun e => Document.nameOf? e.1 == some name with
  | none =>
      rw [hentry] at hfind
      rw [hfind]
      rfl
  | some entry =>
      rw [hentry] at hfind
      obtain ⟨e, he, hgives⟩ := hfind
      rw [he]
      exact ⟨e.2, Pattern.ofValue_of_read (Nat.sub_le _ _) hgives.2, rfl⟩

end AppConfig

namespace Config

-- ── applications ──────────────────────────────────────────────────────────

theorem appNames_of_shows {entries : List (Value × Value)} {apps : List (String × AppConfig)}
    (h : List.Forall₂ Shows entries apps) :
    entries.map (·.1) = (⟨apps⟩ : Config).appNames.map Value.text := by
  rw [appNames]
  induction h with
  | nil => rfl
  | cons hshows _ ih => rw [List.map_cons, List.map_cons, List.map_cons, hshows.1, ih]

/-- An application has the configuration that was read of its record. -/
theorem app?_of_shows {entries : List (Value × Value)} {apps : List (String × AppConfig)}
    (h : List.Forall₂ Shows entries apps) (app : String) :
    match Document.recordOf? entries app with
    | none => (⟨apps⟩ : Config).app? app = none
    | some record => ∃ a, (⟨apps⟩ : Config).app? app = some a ∧ Shows (.text app, record) (app, a) := by
  rw [app?, Document.recordOf?]
  induction h with
  | nil => rfl
  | @cons entry a rest others hshows _ ih =>
      obtain ⟨k, record⟩ := entry
      obtain ⟨name, a⟩ := a
      obtain rfl : k = .text name := hshows.1
      by_cases hname : name = app
      · rw [hname, Validation.field?_cons_self, List.find?_cons_of_pos (by exact beq_self_eq_true app)]
        exact ⟨a, rfl, hname ▸ hshows⟩
      · rw [Validation.field?_cons_of_ne fun heq => hname (Value.text.inj heq),
          List.find?_cons_of_neg (by exact fun hsame => hname (beq_iff_eq.mp hsame))]
        exact ih

/-- A configuration says what the entries of a document say. -/
structure Reflects (entries : List (Value × Value)) (c : Config) : Prop where
  /-- The applications are the keys in order. -/
  appNames : entries.map (·.1) = c.appNames.map Value.text
  /-- Each application has its key as its name, and the elements of its record in order. -/
  elements : List.Forall₂
    (fun entry app => app.2.name = app.1 ∧
      app.2.elementNames = Document.namesOf (Document.elementsOf entry.2)) entries c.apps
  /-- A query is answered by the pattern of the element, or says which name is not known. -/
  patterns : ∀ (ν : Type) (app element : String),
    match Document.recordOf? entries app with
    | none => (c.requirePattern app element : Task ν Pattern).outcome = .error (.error ⟨.appUnknown app, []⟩)
    | some record =>
      match Document.valueOf? (Document.elementsOf record) element with
      | none =>
        (c.requirePattern app element : Task ν Pattern).outcome =
          .error (.error ⟨.elementUnknown app element, []⟩)
      | some v =>
        ∃ p, Pattern.ofValue v = .ok (.ok p) ∧
          (c.requirePattern app element : Task ν Pattern).outcome = .ok p

/-- An application has elements by their names: these are its elements in order, and a query is answered
    by the pattern of the value under the name of the element. -/
def AnswersByName (c : Config) (app : String) (elements : List (Value × Value)) (names : List String) : Prop :=
  (∃ a, c.app? app = some a ∧ a.elementNames = names) ∧
    ∀ (ν : Type) (element : String),
      match (Validation.field? elements [element]).map (·.2) with
      | none =>
        (c.requirePattern app element : Task ν Pattern).outcome =
          .error (.error ⟨.elementUnknown app element, []⟩)
      | some v =>
        ∃ p, Pattern.ofValue v = .ok (.ok p) ∧
          (c.requirePattern app element : Task ν Pattern).outcome = .ok p

theorem reflects_of_shows {entries : List (Value × Value)} {apps : List (String × AppConfig)}
    (h : List.Forall₂ Shows entries apps) : Reflects entries ⟨apps⟩ := by
  refine ⟨appNames_of_shows h, h.imp ?_, ?_⟩
  · rintro entry app ⟨-, hname, named, hnamed, helements⟩
    exact ⟨hname, AppConfig.elementNames_of_gives hnamed helements⟩
  · intro ν app element
    have happ := app?_of_shows h app
    cases hrecord : Document.recordOf? entries app with
    | none =>
        rw [hrecord] at happ
        dsimp only at happ ⊢
        rw [requirePattern, happ]
        rfl
    | some record =>
        rw [hrecord] at happ
        obtain ⟨a, ha, -, -, named, hnamed, helements⟩ := happ
        have hpattern := AppConfig.pattern?_of_gives hnamed helements element
        dsimp only at hnamed ⊢
        cases hv : Document.valueOf? (Document.elementsOf record) element with
        | none =>
            rw [hv] at hpattern
            dsimp only at hpattern ⊢
            rw [requirePattern, ha]
            dsimp only
            rw [hpattern]
            rfl
        | some v =>
            rw [hv] at hpattern
            obtain ⟨p, hp, hpattern⟩ := hpattern
            refine ⟨p, hp, ?_⟩
            rw [requirePattern, ha]
            dsimp only
            rw [hpattern]
            rfl

/-- Where the keys of elements are distinct texts, their names are enough. -/
theorem answersByName_of_shows {entries : List (Value × Value)} {apps : List (String × AppConfig)}
    (h : List.Forall₂ Shows entries apps) {app : String} {record : Value} {names : List String}
    (hrecord : Document.recordOf? entries app = some record)
    (hkeys : (Document.elementsOf record).map (·.1) = names.map Value.text) (hnames : names.Nodup) :
    (⟨apps⟩ : Config).AnswersByName app (Document.elementsOf record) names := by
  obtain ⟨hnamesOf, hvalueOf⟩ := Document.names_of_texts hkeys hnames
  refine ⟨?_, fun ν element => ?_⟩
  · have happ := app?_of_shows h app
    rw [hrecord] at happ
    obtain ⟨a, ha, -, -, named, hnamed, helements⟩ := happ
    exact ⟨a, ha, (AppConfig.elementNames_of_gives hnamed helements).trans hnamesOf⟩
  · have hpattern := (reflects_of_shows h).patterns ν app element
    rw [hrecord] at hpattern
    dsimp only at hpattern
    rwa [hvalueOf] at hpattern

-- ── documents ─────────────────────────────────────────────────────────────

variable {ν : Type}

/-- A configuration that was read shows its document entry by entry. -/
theorem shows_of_ofValue {source : String} {document : Value} {entries : List (Value × Value)}
    {c : Config} (h : document.unmarked = .mapping entries)
    (hc : (ofValue source document : Task ν Config).outcome = .ok c) : List.Forall₂ Shows entries c.apps := by
  rw [outcome_ofValue source h] at hc
  obtain ⟨apps, happs, rfl⟩ := eq_ok_of_map hc
  exact shows_of_readApps happs

/-- **DOCUMENT AND CONFIGURATION**: a configuration that was read says what its document says, name by
    name where the keys of elements are distinct texts, and a document that is cut in two is read like
    its parts, the first that fails deciding. -/
theorem document_and_config (source : String) (document : Value) {entries : List (Value × Value)}
    (h : document.unmarked = .mapping entries) :
    (∀ c, (ofValue source document : Task ν Config).outcome = .ok c → c.Reflects entries ∧
      ∀ app record names, Document.recordOf? entries app = some record →
        (Document.elementsOf record).map (·.1) = names.map Value.text → names.Nodup →
          c.AnswersByName app (Document.elementsOf record) names) ∧
      ∀ xs ys, entries = xs ++ ys →
        match (ofValue source (.mapping xs) : Task ν Config).outcome,
          (ofValue source (.mapping ys) : Task ν Config).outcome with
        | .error e, _ => (ofValue source document : Task ν Config).outcome = .error e
        | .ok _, .error e => (ofValue source document : Task ν Config).outcome = .error e
        | .ok first, .ok second =>
          (ofValue source document : Task ν Config).outcome = .ok ⟨first.apps ++ second.apps⟩ := by
  constructor
  · intro c hc
    have hshows := shows_of_ofValue h hc
    exact ⟨reflects_of_shows hshows, fun _ _ _ => answersByName_of_shows hshows⟩
  · intro xs ys hcut
    rw [outcome_ofValue source h, hcut, outcome_readApps_append, outcome_ofValue source rfl,
      outcome_ofValue source rfl]
    cases (readApps source xs : Task ν (List (String × AppConfig))).outcome with
    | error e => rfl
    | ok apps =>
        cases (readApps source ys : Task ν (List (String × AppConfig))).outcome with
        | error e => rfl
        | ok others => rfl

/-- An application that names one of its elements by bytes. -/
def tools : Value × Value :=
  (.text "Tools", .mapping [(.text "bundleId", .text "tools"),
    (.text "elements", .mapping [(.text "search", .mapping [(.text "role", .text "Field")]),
      (.bytes [0x6f, 0x6b], .mapping [(.text "role", .text "Button"), (.text "index", .int (-1))])])])

/-- An application without elements. -/
def editor : Value × Value := (.text "Editor", .mapping [(.text "process_identifier", .text "editor")])

/-- A document with both is read like its parts and reflected. -/
theorem tools_and_editor :
    ∃ c first second : Config,
      (ofValue "memory" (.mapping [tools, editor]) : Task Unit Config).outcome = .ok c ∧
        c.Reflects [tools, editor] ∧
        (ofValue "memory" (.mapping [tools]) : Task Unit Config).outcome = .ok first ∧
        (ofValue "memory" (.mapping [editor]) : Task Unit Config).outcome = .ok second ∧
        c.apps = first.apps ++ second.apps := by
  obtain ⟨first, hfirst⟩ :
      ∃ c, (ofValue "memory" (.mapping [tools]) : Task Unit Config).outcome = .ok c := ⟨_, rfl⟩
  obtain ⟨second, hsecond⟩ :
      ∃ c, (ofValue "memory" (.mapping [editor]) : Task Unit Config).outcome = .ok c := ⟨_, rfl⟩
  obtain ⟨hreflects, hparts⟩ := document_and_config "memory" (.mapping [tools, editor]) rfl
  have hwhole := hparts [tools] [editor] rfl
  rw [hfirst, hsecond] at hwhole
  exact ⟨_, first, second, hwhole, (hreflects _ hwhole).1, hfirst, hsecond, rfl⟩

/-- An application with two keys for one name. -/
def twice : Value × Value :=
  (.text "Tools", .mapping [(.text "bundleId", .text "tools"),
    (.text "elements", .mapping [(.text "x", .mapping [(.text "role", .text "A")]),
      (.bytes [0x78], .mapping [(.text "role", .text "B")])])])

/-- An element need not have the pattern of the value that stands under its name. -/
theorem element_of_bytes :
    ¬ ∀ (source : String) (entries : List (Value × Value)) (c : Config),
      (ofValue source (.mapping entries) : Task Unit Config).outcome = .ok c →
        ∀ app element record v, Document.recordOf? entries app = some record →
          Validation.field? (Document.elementsOf record) [element] = some (element, v) →
            ∃ p, Pattern.ofValue v = .ok (.ok p) ∧
              (c.requirePattern app element : Task Unit Pattern).outcome = .ok p := by
  intro h
  obtain ⟨p, hp, hanswer⟩ := h "memory" [twice] _ rfl "Tools" "x" _ _ rfl rfl
  have hvalue : p.criteria.role = "A" := by
    rw [← Except.ok.inj (Except.ok.inj hp)]
    rfl
  have hrole : p.criteria.role = "B" := by
    rw [← Except.ok.inj hanswer]
    rfl
  exact absurd (hvalue.symm.trans hrole) (by decide)

end Config

end ElementLocator
