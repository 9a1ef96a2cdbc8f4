import ElementLocator.Proofs.SavedTree
import ElementLocator.Proofs.SearchAnswers

/-! # Outlines as patterns

    The outline of a node is also a document that describes a pattern: both records have the
    same keys, so that a fragment of an outline can be copied into a configuration. Where every
    node has a role, such a fragment is accepted, and it finds an element below the parent of
    the node that it was copied from.

    * `Tree.pattern` — the literal pattern of a tree: the texts of every node, and the patterns
      of its children inside;
    * `Pattern.read_value` — the value of a tree is read as its literal pattern;
    * `Located.contribution_ne_nil` — a node contributes something to a search for its own
      literal pattern, on every level of the pattern;
    * `outline_is_pattern` — an outline is accepted as a pattern and finds what it shows. -/

namespace ElementLocator

-- ── literal patterns ──────────────────────────────────────────────────────

theorem isEmpty_of_present {v : Option String} {s : String} (h : present v = some s) :
    s.isEmpty = false := by
  have h := (Option.filter_eq_some_iff.mp h).2
  rwa [Bool.not_eq_true'] at h

/-- The criteria that ask for the texts of a node. -/
def NodeAttributes.criteria (a : NodeAttributes) : Criteria :=
  ⟨(present a.role).getD "", present a.identifier, present a.className, present a.label, .contains, none⟩

namespace Tree

mutual

/-- The literal pattern of a tree. -/
def pattern : Tree → Pattern
  | .node a cs => .node a.criteria (patterns cs)

/-- The literal patterns of several trees. -/
def patterns : List Tree → List Pattern
  | [] => []
  | t :: rest => t.pattern :: patterns rest

end

/-- Whether every node of a tree has a role. -/
def HasRoles (t : Tree) : Prop := ∀ u ∈ t.walk, (present u.attributes.role).isSome = true

instance (t : Tree) : Decidable t.HasRoles := by
  unfold HasRoles
  infer_instance

theorem HasRoles.root {a : NodeAttributes} {cs : List Tree} (h : (Tree.node a cs).HasRoles) :
    ∃ role, present a.role = some role :=
  Option.isSome_iff_exists.mp (h (.node a cs) (by rw [walk]; exact List.mem_cons_self))

theorem HasRoles.children {a : NodeAttributes} {cs : List Tree} (h : (Tree.node a cs).HasRoles) :
    ∀ t ∈ cs, t.HasRoles := by
  intro t ht u hu
  refine h u ?_
  rw [walk]
  exact List.mem_cons_of_mem _ (mem_walkAll hu ht)

end Tree

-- ── reading ───────────────────────────────────────────────────────────────

namespace Pattern

open ElementLocator.Tree Outline

theorem readField_optional (entries : List (Value × Value)) (names : List String) :
    Criteria.readField entries names (.ok none) (Validation.optional Validation.text) =
      readText entries names := by
  unfold Criteria.readField readText
  cases Validation.field? entries names <;> rfl

section Node

variable (a : NodeAttributes) {inner : List (String × Value)} (hinner : ∀ e ∈ inner, e.1 = "children")

include hinner

theorem readField_role {role : String} (hrole : present a.role = some role) :
    Criteria.readField (textEntries (fieldValues a ++ inner)) ["role"]
      (.error [⟨["role"], "Field required"⟩]) Validation.nonemptyText = (some "role", .ok role) := by
  rw [Criteria.readField, field?_role a hinner, hrole]
  simp only [Option.map_some, Validation.nonemptyText, Validation.text]
  rw [Inscription.characters?_string]
  dsimp only
  rw [isEmpty_of_present hrole]
  rfl

/-- No node shows a comparison or an index. -/
theorem readField_absent {α : Type} (absent : Checked α) (check : Value → Checked α) {names : List String}
    (hnames : ∀ name ∈ names, name ∉ ["role", "identifier", "className", "label", "children"]) :
    Criteria.readField (textEntries (fieldValues a ++ inner)) names absent check = (none, absent) := by
  have hfield : Validation.field? (textEntries (fieldValues a ++ inner)) names = none := by
    rw [field?_textEntries, List.findSome?_eq_none_iff]
    intro name hname
    have h := hnames name hname
    simp only [List.mem_cons, List.not_mem_nil, or_false, not_or] at h
    rw [List.find?_append, find?_fieldValues, find?_inner hinner h.2.2.2.2]
    simp [Ne.symm h.1, Ne.symm h.2.1, Ne.symm h.2.2.1, Ne.symm h.2.2.2.1]
  rw [Criteria.readField, hfield]

/-- The entries of a node put together: the criteria that ask for its texts. -/
theorem assemble_textEntries {role : String} (hrole : present a.role = some role)
    {children : Option (Checked (List Pattern))} {ps : List Pattern}
    (hchildren : children.getD (.ok []) = .ok ps) (hgiven : inner ≠ [] → children.isSome = true) :
    assemble (textEntries (fieldValues a ++ inner)) children = .ok (.ok (.node a.criteria ps)) := by
  have hextra : Validation.extraErrors
      ([some "role", (present a.identifier).map fun _ => "identifier",
        (present a.className).map fun _ => "className", (present a.label).map fun _ => "label",
        none, none].filterMap id ++ (if children.isSome then ["children"] else []))
      (textEntries (fieldValues a ++ inner)) = [] := by
    refine List.filterMap_eq_nil_iff.mpr ?_
    intro x hx
    obtain ⟨e, he, rfl⟩ := List.mem_map.mp hx
    have hused := mem_used a hinner he hgiven
    rw [hrole] at hused
    refine if_pos (List.contains_iff_mem.mpr ?_)
    simpa [List.filterMap_cons] using hused
  simp only [assemble]
  rw [readField_role a hinner hrole, readField_optional, readField_optional, readField_optional,
    readText_identifier a hinner, readText_className a hinner, readText_label a hinner,
    readField_absent a hinner _ _ (by decide), readField_absent a hinner _ _ (by decide)]
  dsimp only
  rw [Validation.recordErrors_eq, Criteria.checkTexts_eq, hextra, hchildren]
  simp only [NodeAttributes.criteria]
  rw [hrole]
  rfl

end Node

/-- The children are those that the node shows. -/
theorem readChildren_fieldValues (seen : List Nat) (levels : Nat) (a : NodeAttributes)
    (inner : List (String × Value)) :
    readChildren seen levels (textEntries (fieldValues a ++ inner)) =
      (inner.find? fun e => e.1 == "children").elim (.ok none) fun e =>
        (readChildList seen levels e.2).map some := by
  rw [readChildren_eq_elim, field?_children]

mutual

/-- **THE VALUE OF A TREE IS READ AS ITS LITERAL PATTERN**, where every node has a role. The
    recursion is on the tree; the levels exceed its height all the way down. -/
theorem read_value (seen : List Nat) : ∀ {t : Tree} {levels : Nat}, t.height < levels → t.HasRoles →
    read seen levels (value t) = .ok (.ok t.pattern)
  | .node a cs, levels, h, hroles => by
      rw [height] at h
      obtain ⟨role, hrole⟩ := hroles.root
      have hlevels : levels ≠ 0 := by omega
      have hitems : readItems seen (levels - 1) 0 (values cs) = .ok (.ok (patterns cs)) :=
        readItems_values seen 0 (by omega) hroles.children
      rw [value, mappingOf, Tree.pattern]
      cases cs with
      | nil =>
          have hchildren : readChildren seen (levels - 1) (textEntries (fieldValues a ++ [])) = .ok none :=
            readChildren_fieldValues seen (levels - 1) a []
          refine (read_mapping hlevels hchildren).trans ?_
          refine assemble_textEntries a (fun e he => ?_) hrole rfl fun h => absurd rfl h
          exact absurd he List.not_mem_nil
      | cons t ts =>
          have hchildren : readChildren seen (levels - 1)
              (textEntries (fieldValues a ++ [("children", .list (values (t :: ts)))])) =
                .ok (some (.ok (patterns (t :: ts)))) := by
            rw [readChildren_fieldValues]
            show (readChildList seen (levels - 1) (.list (values (t :: ts)))).map some = _
            rw [readChildList, hitems]
            rfl
          refine (read_mapping hlevels hchildren).trans ?_
          refine assemble_textEntries a (fun e he => ?_) hrole rfl fun _ => rfl
          rw [List.mem_singleton.mp he]

theorem readItems_values (seen : List Nat) (i : Nat) : ∀ {ts : List Tree} {levels : Nat},
    heightAll ts ≤ levels → (∀ t ∈ ts, t.HasRoles) →
      readItems seen levels i (values ts) = .ok (.ok (patterns ts))
  | [], _, _, _ => rfl
  | t :: ts, levels, h, hroles => by
      rw [heightAll] at h
      have hfirst : read seen levels (value t) = .ok (.ok t.pattern) :=
        read_value seen (by omega) (hroles t List.mem_cons_self)
      have hothers : readItems seen levels (i + 1) (values ts) = .ok (.ok (patterns ts)) :=
        readItems_values seen (i + 1) (by omega) fun u hu => hroles u (List.mem_cons_of_mem t hu)
      rw [values, readItems, hfirst]
      dsimp only
      rw [hothers]
      rfl

end

end Pattern

-- ── matches ───────────────────────────────────────────────────────────────

theorem occursIn_self (s : List Char) : occursIn s s = true := by
  cases s with
  | nil => rfl
  | cons c rest =>
      rw [occursIn, List.isPrefixOf_iff_prefix.mpr (List.prefix_refl _), Bool.true_or]

/-- A text that is there contains itself. -/
theorem satisfies_self {v : Option String} {s : String} (h : present v = some s) :
    satisfies (present v) s .contains = true := by
  rw [h, satisfies, matchesText]
  rw [isEmpty_of_present h]
  exact occursIn_self s.toList

/-- **A NODE FITS THE CRITERIA THAT ASK FOR ITS TEXTS**. -/
theorem NodeAttributes.fits_criteria {a : NodeAttributes} {role : String}
    (hrole : present a.role = some role) : a.criteria.fits a.visible = true := by
  rw [Criteria.fits, Bool.and_eq_true]
  constructor
  · show (present a.role == some ((present a.role).getD "")) = true
    rw [hrole]
    exact beq_self_eq_true _
  · rw [List.all_eq_true]
    intro k hk
    simp only [Criteria.constraints, List.mem_append, List.mem_map, Option.mem_toList] at hk
    rcases hk with (⟨s, hs, rfl⟩ | ⟨s, hs, rfl⟩) | ⟨s, hs, rfl⟩
    · exact satisfies_self hs
    · exact satisfies_self hs
    · exact satisfies_self hs

theorem Tree.HasRoles.fits {t : Tree} (h : t.HasRoles) :
    t.pattern.criteria.fits t.attributes.visible = true := by
  obtain ⟨a, cs⟩ := t
  obtain ⟨role, hrole⟩ := h.root
  exact NodeAttributes.fits_criteria hrole

namespace Located

open ElementLocator.Tree

/-- A node without children contributes itself to a search for its literal pattern. -/
theorem contribution_leaf {d : Located} (h : d.tree.HasRoles) (hleaf : d.tree.children = []) :
    d.tree.pattern.contribution d = [d] := by
  obtain ⟨path, a, cs⟩ := d
  obtain rfl : cs = [] := hleaf
  rw [Pattern.contribution_of_fits h.fits]
  rfl

/-- **A NODE CONTRIBUTES TO A SEARCH FOR ITS LITERAL PATTERN**: itself if it has no children, and
    else what its first child contributes below it, at least. -/
theorem contribution_ne_nil : ∀ (path : List Nat) (t : Tree), t.HasRoles →
    t.pattern.contribution ⟨path, t⟩ ≠ []
  | path, .node a [], h => by
      rw [contribution_leaf (d := ⟨path, .node a []⟩) h rfl]
      exact List.cons_ne_nil _ _
  | path, .node a (c :: rest), h => by
      have hfirst : c.pattern.contribution ⟨path ++ [0], c⟩ ≠ [] :=
        contribution_ne_nil (path ++ [0]) c (h.children c List.mem_cons_self)
      obtain ⟨e, others, he⟩ := List.exists_cons_of_ne_nil hfirst
      have hbelow : (⟨path, .node a (c :: rest)⟩ : Located).below =
          ⟨path ++ [0], c⟩ :: ((⟨path ++ [0], c⟩ : Located).below ++ walkEachFrom path 1 rest) := by
        show walkFrom (path ++ [0]) c ++ walkEachFrom path 1 rest = _
        rw [show walkFrom (path ++ [0]) c = (⟨path ++ [0], c⟩ : Located).walk from rfl, walk_eq_cons]
        rfl
      -- the first child is the first candidate that its own pattern can select
      rw [Pattern.contribution_of_fits (d := ⟨path, .node a (c :: rest)⟩) h.fits]
      show Pattern.selections (c.pattern :: patterns rest) _ ≠ []
      rw [Pattern.selections, hbelow, List.flatMap_cons, he]
      obtain ⟨b, cs⟩ := c
      exact List.cons_ne_nil _ _

end Located

namespace Tree

mutual

/-- A literal pattern compares by containment and has no index, all the way down. -/
theorem plain_of_mem_parts : ∀ {t : Tree} {q : Pattern}, q ∈ t.pattern.parts →
    q.criteria.matchType = .contains ∧ q.criteria.index = none
  | .node a cs, q, hq => by
      rw [pattern, Pattern.parts] at hq
      rcases List.mem_cons.mp hq with rfl | hq
      · exact ⟨rfl, rfl⟩
      · exact plain_of_mem_partsEach hq

theorem plain_of_mem_partsEach : ∀ {ts : List Tree} {q : Pattern},
    q ∈ Pattern.partsEach (patterns ts) → q.criteria.matchType = .contains ∧ q.criteria.index = none
  | t :: rest, q, hq => by
      rw [patterns, Pattern.partsEach, List.mem_append] at hq
      rcases hq with hq | hq
      · exact plain_of_mem_parts hq
      · exact plain_of_mem_partsEach hq

end

-- ── trees within the limits ───────────────────────────────────────────────

/-- A tree within the limits of its outline and of nested records, where every node has a role and
    every text can be read back. -/
structure Ready (limit : DepthLimit) (t : Tree) : Prop where
  height_le : t.height ≤ min limit.levels 200
  hasRoles : t.HasRoles
  legible : t.Legible

theorem Ready.children {limit : DepthLimit} {a : NodeAttributes} {cs : List Tree}
    (h : Ready limit (.node a cs)) : ∀ c ∈ cs, Ready limit c := by
  intro c hc
  have hheight := h.height_le
  have := height_le_heightAll hc
  rw [height] at hheight
  exact ⟨by omega, h.hasRoles.children c hc, h.legible.children c hc⟩

theorem fieldValues_visible (a : NodeAttributes) : Outline.fieldValues a.visible = Outline.fieldValues a := by
  have hshown (key : String) (v : Option String) : Outline.shown key (present v) = Outline.shown key v := by
    rw [Outline.shown, present_present, Outline.shown]
  simp only [Outline.fieldValues, Outline.fields, NodeAttributes.visible]
  rw [hshown, hshown, hshown, hshown]

mutual

/-- An empty text does not show in the value of a tree. -/
theorem value_visible : ∀ t : Tree, Outline.value t.visible = Outline.value t
  | .node a cs => by
      rw [visible, Outline.value, Outline.value, fieldValues_visible, values_visibleEach cs]
      cases cs <;> rfl

theorem values_visibleEach : ∀ ts : List Tree, Outline.values (visibleEach ts) = Outline.values ts
  | [] => rfl
  | t :: rest => by
      rw [visibleEach, Outline.values, Outline.values, value_visible t, values_visibleEach rest]

end

-- ── outlines ──────────────────────────────────────────────────────────────

/-- The outline of a node is loaded as a mapping that is accepted as the node's literal pattern. -/
theorem Ready.outline {limit : DepthLimit} {d : Located} (h : Ready limit d.tree) :
    ∃ (saved : String) (entries : List (Value × Value)),
      (Outline.text (access fun _ => none) (.ok limit) d).outcome = .ok saved ∧
        Yaml.load saved.toList = .ok (.mapping entries) ∧
        Pattern.ofValue (.mapping entries) = .ok (.ok d.tree.pattern) := by
  have hheight := h.height_le
  have hdeepest : d.tree.height < Validation.deepest := by
    simp only [Validation.deepest]
    omega
  have htext : (Outline.text (access fun _ => none) (.ok limit) d).outcome =
      .ok (Outline.textOf (Outline.lines 0 d.tree.visible)) := by
    refine Outline.outcome_text limit (unfolds_visible d.path d.tree) ?_
    rw [height_visible]
    omega
  have hload := Yaml.load_outline h.legible.visible
  rw [value_visible] at hload
  have hread : Pattern.ofValue (Outline.value d.tree) = .ok (.ok d.tree.pattern) :=
    Pattern.read_value [] hdeepest h.hasRoles
  obtain ⟨path, a, cs⟩ := d
  rw [Outline.value] at hload hread
  exact ⟨_, _, htext, hload, hread⟩

/-- A literal pattern interrupts no search. -/
theorem not_interrupts_pattern {t : Tree} {met : NodeAttributes → Prop} {e : Failure} :
    ¬ t.pattern.Interrupts met e := by
  intro h
  cases h with
  | tooLong hq hlong =>
      rw [Pattern.hasLongIndex, (plain_of_mem_parts hq).2] at hlong
      exact nomatch hlong
  | noAnswer hq _ hmatch =>
      have hcontains := (plain_of_mem_parts hq).1
      exact absurd hmatch (Criteria.matches?_ne_error (by rw [hcontains]; exact nofun) _ _)

/-- A search for the literal pattern of a child finds something, and the child itself if it has
    no children. -/
theorem Ready.search {limit : DepthLimit} {u d : Located} (hu : Ready limit u.tree)
    (hd : d ∈ u.children) (hroles : d.tree.HasRoles)
    (haccepted : ∃ v, Pattern.ofValue v = .ok (.ok d.tree.pattern)) :
    ∃ found, ((access fun _ => none).search limit d.tree.pattern u).outcome = .ok found ∧
      found ≠ [] ∧ (d.tree.children = [] → d ∈ found) := by
  obtain ⟨v, hv⟩ := haccepted
  have hheight := hu.height_le
  rcases TreeAccess.search_succeeds_or_interrupted (Pattern.compiled_of_ofValue hv) limit
    (n := u) (by omega) with ⟨found, hfound⟩ | ⟨e, -, hinterrupts⟩
  · have hmem {e : Located} (he : e ∈ d.tree.pattern.contribution d) : e ∈ found := by
      rw [TreeAccess.eq_contributions_of_candidates hfound]
      exact List.mem_flatMap.mpr ⟨d, Located.mem_below_of_mem_children hd d.mem_walk_self, he⟩
    refine ⟨found, hfound, ?_, fun hleaf => ?_⟩
    · obtain ⟨e, _, he⟩ := List.exists_cons_of_ne_nil (Located.contribution_ne_nil d.path d.tree hroles)
      exact List.ne_nil_of_mem (hmem (he ▸ List.mem_cons_self))
    · refine hmem ?_
      rw [Located.contribution_leaf hroles hleaf]
      exact List.mem_singleton_self d
  · exact absurd hinterrupts not_interrupts_pattern

/-- **AN OUTLINE IS A WORKING PATTERN**: where every node of a tree has a role, the outline of a
    node is loaded as a mapping, the mapping is accepted as a pattern, and a search for it below
    the node's parent finds something. A node without children is found itself. -/
theorem outline_is_pattern (t : Tree) (limit : DepthLimit) (hheight : t.height ≤ min limit.levels 200)
    (hroles : t.HasRoles) (ht : t.Legible) {u d : Located} (hu : u ∈ (Located.root t).walk)
    (hd : d ∈ u.children) :
    ∃ (saved : String) (entries : List (Value × Value)) (p : Pattern) (found : List Located),
      (Outline.text (access fun _ => none) (.ok limit) d).outcome = .ok saved ∧
        Yaml.load saved.toList = .ok (.mapping entries) ∧
        Pattern.ofValue (.mapping entries) = .ok (.ok p) ∧
        ((access fun _ => none).search limit p u).outcome = .ok found ∧
        found ≠ [] ∧ (d.tree.children = [] → d ∈ found) := by
  have hparent : Ready limit u.tree := by
    refine of_mem_walk Ready.children (t := t) ⟨hheight, hroles, ht⟩ ?_
    have hmem : u.tree ∈ (Located.root t).walk.map (·.tree) := List.mem_map_of_mem hu
    rwa [Located.walk_map_tree] at hmem
  have hchild : Ready limit d.tree := by
    have hmem := (Located.of_mem_childrenFrom hd).2
    obtain ⟨path, a, cs⟩ := u
    exact hparent.children d.tree hmem
  obtain ⟨saved, entries, hsaved, hload, haccepted⟩ := hchild.outline
  obtain ⟨found, hfound, hsome, hself⟩ := hparent.search hd hchild.hasRoles ⟨_, haccepted⟩
  exact ⟨saved, entries, d.tree.pattern, found, hsaved, hload, haccepted, hfound, hsome, hself⟩

/-- A tree of texts that would be something else without their quotes. -/
def toolbar : Tree :=
  .node ⟨some "Toolbar", some "yes", some "", some "a \"quoted\" \\ text"⟩
    [.node ⟨some "Button", some "123", none, some "- role: x"⟩ [],
      .node ⟨some "\x7b\x7d", none, some "# \u00e9", some " ok\n"⟩ []]

/-- A window with the toolbar only. -/
def window : Tree := .node ⟨some "Window", none, none, none⟩ [toolbar]

/-- The outline of the toolbar is a pattern that finds something below the window. -/
theorem outline_of_toolbar :
    ∃ (saved : String) (entries : List (Value × Value)) (p : Pattern) (found : List Located),
      (Outline.text (access fun _ => none) (.ok ⟨2, by decide, by decide⟩) ⟨[0], toolbar⟩).outcome =
          .ok saved ∧
        Yaml.load saved.toList = .ok (.mapping entries) ∧
        Pattern.ofValue (.mapping entries) = .ok (.ok p) ∧
        ((access fun _ => none).search ⟨2, by decide, by decide⟩ p (Located.root window)).outcome =
          .ok found ∧
        found ≠ [] ∧ (toolbar.children = [] → ⟨[0], toolbar⟩ ∈ found) :=
  outline_is_pattern window ⟨2, by decide, by decide⟩ (by decide) (by decide) (by decide)
    (Located.mem_walk_self _) (List.mem_singleton_self _)

end Tree

end ElementLocator
