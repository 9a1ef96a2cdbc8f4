import ElementLocator.Proofs.Fields
import ElementLocator.Proofs.Yaml.OutlineValue
import ElementLocator.Tree.Saved

/-! # Trees saved as outlines

    An outline is also a document from which the tree can be built again. The value that the
    document reader makes of it is read as the tree without its empty texts: every key belongs
    to a field, every text is one, and the children are read in order.

    * `read_value` — the value of a tree is read as that tree, less its empty texts;
    * `ofOutline_lines` — so is the outline of a tree, where its texts are legible;
    * `outline_and_back` — a tree that is saved and read loses its empty texts and nothing
      else, and has the same outline as before. -/

namespace ElementLocator

namespace Tree

open Outline

-- ── fields ────────────────────────────────────────────────────────────────

/-- The entries of a mapping of values under keys that are texts. -/
def textEntries (es : List (String × Value)) : List (Value × Value) := es.map fun e => (.text e.1, e.2)

theorem find?_textEntries (es : List (String × Value)) (name : String) {p : Value × Value → Bool}
    (hp : ∀ e : String × Value, p (.text e.1, e.2) = (e.1 == name)) :
    (textEntries es).find? p = (es.find? fun e => e.1 == name).map fun e => (Value.text e.1, e.2) := by
  simp only [textEntries]
  rw [List.find?_map]
  congr 2
  exact funext hp

/-- A text field is read from the first of its names that has an entry. -/
theorem field?_textEntries (es : List (String × Value)) (names : List String) :
    Validation.field? (textEntries es) names =
      names.findSome? fun name => es.find? fun e => e.1 == name := by
  induction names with
  | nil => rfl
  | cons name names ih =>
      rw [Validation.field?, find?_textEntries es name fun _ => rfl, List.findSome?_cons]
      cases hes : es.find? fun e : String × Value => e.1 == name with
      | none => exact ih
      | some e =>
          rw [Option.map_some, ← fst_eq_of_find? hes]

theorem find?_shown (key name : String) (v : Option String) :
    ((shown key v).map fun f => (f.1, Value.text f.2)).find? (fun e => e.1 == name) =
      if key == name then (present v).map fun s => (key, Value.text s) else none := by
  simp only [shown]
  cases present v with
  | none => simp
  | some s => by_cases h : key = name <;> simp [h]

theorem find?_fieldValues (a : NodeAttributes) (name : String) :
    (fieldValues a).find? (fun e => e.1 == name) =
      ((((if "role" == name then (present a.role).map fun s => ("role", Value.text s) else none).or
        (if "identifier" == name then (present a.identifier).map fun s => ("identifier", Value.text s)
          else none)).or
        (if "className" == name then (present a.className).map fun s => ("className", Value.text s)
          else none)).or
        (if "label" == name then (present a.label).map fun s => ("label", Value.text s) else none)) := by
  simp only [fieldValues, fields]
  simp only [List.map_append, List.find?_append, find?_shown]

/-- What stands after the fields has none of their names. -/
theorem find?_inner {inner : List (String × Value)} (hinner : ∀ e ∈ inner, e.1 = "children")
    {name : String} (hname : name ≠ "children") : inner.find? (fun e => e.1 == name) = none := by
  refine List.find?_eq_none.mpr ?_
  intro e he hsame
  rw [hinner e he, beq_iff_eq] at hsame
  exact hname hsame.symm

theorem readText_of_field? {es : List (String × Value)} {names : List String} {key : String}
    {v : Option String}
    (h : Validation.field? (textEntries es) names = (present v).map fun s => (key, Value.text s)) :
    readText (textEntries es) names = ((present v).map fun _ => key, .ok (present v)) := by
  simp only [readText]
  rw [h]
  cases present v <;> rfl

section Node

variable (a : NodeAttributes) {inner : List (String × Value)} (hinner : ∀ e ∈ inner, e.1 = "children")

include hinner

theorem field?_role : Validation.field? (textEntries (fieldValues a ++ inner)) ["role"] =
    (present a.role).map fun s => ("role", Value.text s) := by
  rw [field?_textEntries, List.findSome?_singleton, List.find?_append, find?_fieldValues,
    find?_inner hinner (by decide)]
  simp

theorem readText_role : readText (textEntries (fieldValues a ++ inner)) ["role"] =
    ((present a.role).map fun _ => "role", .ok (present a.role)) :=
  readText_of_field? (field?_role a hinner)

theorem readText_identifier : readText (textEntries (fieldValues a ++ inner)) ["identifier"] =
    ((present a.identifier).map fun _ => "identifier", .ok (present a.identifier)) := by
  refine readText_of_field? ?_
  rw [field?_textEntries, List.findSome?_singleton, List.find?_append, find?_fieldValues,
    find?_inner hinner (by decide)]
  simp

theorem readText_className : readText (textEntries (fieldValues a ++ inner)) ["className", "class_name"] =
    ((present a.className).map fun _ => "className", .ok (present a.className)) := by
  refine readText_of_field? ?_
  rw [field?_textEntries, List.findSome?_cons, List.findSome?_singleton, List.find?_append, List.find?_append,
    find?_fieldValues, find?_fieldValues, find?_inner hinner (by decide), find?_inner hinner (by decide)]
  cases present a.className <;> simp

theorem readText_label : readText (textEntries (fieldValues a ++ inner)) ["label"] =
    ((present a.label).map fun _ => "label", .ok (present a.label)) := by
  refine readText_of_field? ?_
  rw [field?_textEntries, List.findSome?_singleton, List.find?_append, find?_fieldValues,
    find?_inner hinner (by decide)]
  simp

/-- The names that the reading of a node's entries uses. -/
theorem mem_used {e : String × Value} (he : e ∈ fieldValues a ++ inner) {given : Bool}
    (hgiven : inner ≠ [] → given = true) :
    e.1 ∈ [(present a.role).map fun _ => "role", (present a.identifier).map fun _ => "identifier",
      (present a.className).map fun _ => "className", (present a.label).map fun _ => "label"].filterMap id ++
        (if given then ["children"] else []) := by
  have hshown {key : String} {v : Option String} {f : String × String} (hf : f ∈ shown key v) :
      (present v).map (fun _ => key) = some f.1 := by
    obtain ⟨s, hs, rfl⟩ := List.mem_map.mp hf
    rw [Option.mem_toList] at hs
    rw [hs, Option.map_some]
  rw [List.mem_append]
  rcases List.mem_append.mp he with he | he
  · left
    obtain ⟨f, hf, rfl⟩ := List.mem_map.mp he
    rw [fields] at hf
    simp only [List.mem_append] at hf
    refine List.mem_filterMap.mpr ⟨some f.1, ?_, rfl⟩
    rcases hf with ((hf | hf) | hf) | hf <;> simp [← hshown hf]
  · right
    rw [hgiven (List.ne_nil_of_mem he), if_pos rfl, hinner e he]
    exact List.mem_singleton_self _

/-- The entries of a node put together: its fields, whatever order they are looked for in. -/
theorem assemble_textEntries {children : Option (Checked (List Tree))} {ts : List Tree}
    (hchildren : children.getD (.ok []) = .ok ts) (hgiven : inner ≠ [] → children.isSome = true) :
    assemble (textEntries (fieldValues a ++ inner)) children = .ok (.node a.visible ts) := by
  have hextra : Validation.extraErrors
      ([(present a.role).map fun _ => "role", (present a.identifier).map fun _ => "identifier",
        (present a.className).map fun _ => "className", (present a.label).map fun _ => "label"].filterMap id ++
          (if children.isSome then ["children"] else [])) (textEntries (fieldValues a ++ inner)) = [] := by
    refine List.filterMap_eq_nil_iff.mpr ?_
    intro x hx
    obtain ⟨e, he, rfl⟩ := List.mem_map.mp hx
    exact if_pos (List.contains_iff_mem.mpr (mem_used a hinner he hgiven))
  simp only [assemble]
  rw [readText_role a hinner, readText_identifier a hinner, readText_className a hinner,
    readText_label a hinner]
  dsimp only
  rw [hextra, hchildren]
  rfl

end Node

-- ── nodes ─────────────────────────────────────────────────────────────────

/-- No field of a node is taken for its children. -/
theorem field?_children (a : NodeAttributes) (inner : List (String × Value)) :
    Validation.field? (textEntries (fieldValues a ++ inner)) ["children"] =
      inner.find? fun e => e.1 == "children" := by
  rw [field?_textEntries, List.findSome?_singleton, List.find?_append, find?_fieldValues]
  simp

theorem read_entries (seen : List Nat) {levels : Nat} (a : NodeAttributes) {inner : List (String × Value)}
    (hlevels : levels ≠ 0) :
    read seen levels (mappingOf (fieldValues a ++ inner)) =
      assemble (textEntries (fieldValues a ++ inner))
        ((inner.find? fun e => e.1 == "children").map fun e => readChildList seen (levels - 1) e.2) := by
  rw [← field?_children a inner, ← readChildren_eq_map, mappingOf, read, if_neg hlevels]
  rfl

mutual

/-- **THE VALUE OF A TREE IS READ AS THE TREE**, less its empty texts, where it does not go too
    deep. The recursion is on the tree; the levels exceed its height all the way down. -/
theorem read_value (seen : List Nat) : ∀ {t : Tree} {levels : Nat}, t.height < levels →
    read seen levels (value t) = .ok t.visible
  | .node a cs, levels, h => by
      rw [height] at h
      have hlevels : levels ≠ 0 := by omega
      have hitems : readItems seen (levels - 1) 0 (values cs) = .ok (visibleEach cs) :=
        readItems_values seen 0 (by omega)
      rw [value, read_entries seen a hlevels, visible]
      cases cs with
      | nil =>
          refine assemble_textEntries a (fun e he => ?_) rfl fun h => absurd rfl h
          exact absurd he List.not_mem_nil
      | cons t ts =>
          refine assemble_textEntries a (fun e he => ?_) hitems fun _ => rfl
          rw [List.mem_singleton.mp he]

theorem readItems_values (seen : List Nat) (i : Nat) : ∀ {ts : List Tree} {levels : Nat},
    heightAll ts ≤ levels → readItems seen levels i (values ts) = .ok (visibleEach ts)
  | [], _, _ => rfl
  | t :: ts, levels, h => by
      rw [heightAll] at h
      rw [values, readItems, read_value seen (by omega), readItems_values seen (i + 1) (by omega)]
      rfl

end

-- ── legible trees ─────────────────────────────────────────────────────────

mutual

theorem walk_visible : ∀ t : Tree, t.visible.walk = t.walk.map visible
  | .node a cs => by rw [visible, walk, walk, walkAll_visibleEach cs, List.map_cons, visible]

theorem walkAll_visibleEach : ∀ ts : List Tree, walkAll (visibleEach ts) = (walkAll ts).map visible
  | [] => rfl
  | t :: rest => by
      rw [visibleEach, walkAll, walkAll, walk_visible t, walkAll_visibleEach rest, List.map_append]

end

theorem texts_visible {a : NodeAttributes} {s : String} (h : s ∈ a.visible.texts) : s ∈ a.texts := by
  obtain ⟨v, hv, hs⟩ := List.mem_filterMap.mp h
  have hpresent {w : Option String} (hw : v = present w) : w = some s := by
    rw [id_eq, hw] at hs
    exact (Option.filter_eq_some_iff.mp hs).1
  rw [NodeAttributes.visible] at hv
  simp only [List.mem_cons, List.not_mem_nil, or_false] at hv
  refine List.mem_filterMap.mpr ⟨some s, ?_, rfl⟩
  rcases hv with hv | hv | hv | hv <;> simp [hpresent hv]

/-- A tree without its empty texts is as legible as before. -/
theorem Legible.visible {t : Tree} (h : t.Legible) : t.visible.Legible := by
  intro d hd s hs ch hch
  rw [walk_visible] at hd
  obtain ⟨u, hu, rfl⟩ := List.mem_map.mp hd
  have hattributes : u.visible.attributes = u.attributes.visible := by
    obtain ⟨a, cs⟩ := u
    rfl
  rw [hattributes] at hs
  exact h u hu s (texts_visible hs) ch hch

-- ── saved trees ───────────────────────────────────────────────────────────

variable {ν : Type}

/-- A text that is loaded as the value of a tree is read as the tree, less its empty texts. -/
theorem ofOutline_of_load {t : Tree} {cs : List Char} (hload : Yaml.load cs = .ok (value t))
    (hheight : t.height < Validation.deepest) (source : String) :
    (ofOutline source cs : Task ν Tree) = Report.ok t.visible := by
  have hvalue : ofValue (value t) = .ok t.visible := read_value [] hheight
  obtain ⟨es, hes⟩ : ∃ es, (value t).unmarked = .mapping es := by
    obtain ⟨a, cs⟩ := t
    rw [value]
    exact ⟨_, rfl⟩
  simp only [ofOutline]
  rw [hload]
  dsimp only
  rw [hes]
  dsimp only
  rw [hvalue]

/-- **AN OUTLINE IS READ AS THE TREE** whose lines it has, less its empty texts. -/
theorem ofOutline_lines {t : Tree} (ht : t.Legible) (hheight : t.height < Validation.deepest)
    (source : String) :
    (ofOutline source (textOf (lines 0 t)).toList : Task ν Tree) = Report.ok t.visible :=
  ofOutline_of_load (Yaml.load_outline ht) hheight source

/-- **SAVED AND READ BACK**: a tree within the depth limit, and no higher than the reading of
    nested records can go, has an outline; read back it is the tree less its empty texts, and the
    outline of that is the same text. -/
theorem outline_and_back (t : Tree) (limit : DepthLimit) (hheight : t.height ≤ min limit.levels 200)
    (ht : t.Legible) :
    ∃ saved : String,
      (Outline.text (access fun _ => none) (.ok limit) (Located.root t)).outcome = .ok saved ∧
        (∀ source, (ofOutline source saved.toList : Task ν Tree) = Report.ok t.visible) ∧
        (Outline.text (access fun _ => none) (.ok limit) (Located.root t.visible)).outcome = .ok saved := by
  have hlimit : t.visible.height ≤ limit.levels := by
    rw [height_visible]
    omega
  have hdeepest : t.visible.height < Validation.deepest := by
    rw [height_visible]
    simp only [Validation.deepest]
    omega
  have hagain : Unfolds (access fun _ => none) t.visible (Located.root t.visible) := by
    have h := unfolds_root t.visible
    rwa [visible_idem] at h
  refine ⟨textOf (lines 0 t.visible), outcome_text limit (unfolds_root t) hlimit, fun source => ?_,
    outcome_text limit hagain hlimit⟩
  have hread : (ofOutline source (textOf (lines 0 t.visible)).toList : Task ν Tree) =
      Report.ok t.visible.visible := ofOutline_lines ht.visible hdeepest source
  rw [hread, visible_idem]

/-- A tree of texts that would be something else without their quotes. -/
def awkward : Tree :=
  .node ⟨some "a \"quoted\" \\ text", some "", some " yes ", some "two\nlines\x01"⟩
    [.node .empty [], .node ⟨some "yes", some "123", some "---", some "\x7b\x7d"⟩
      [.node ⟨some "- role: x", none, none, some "# \u00e9\ufeff"⟩ []]]

/-- An awkward tree is saved and read back. -/
theorem awkward_and_back :
    ∃ saved : String,
      (Outline.text (access fun _ => none) (.ok ⟨2, by decide, by decide⟩)
        (Located.root awkward)).outcome = .ok saved ∧
        (∀ source, (ofOutline source saved.toList : Task Located Tree) = Report.ok awkward.visible) ∧
        (Outline.text (access fun _ => none) (.ok ⟨2, by decide, by decide⟩)
          (Located.root awkward.visible)).outcome = .ok saved :=
  outline_and_back awkward ⟨2, by decide, by decide⟩ (by decide) (by decide)

end Tree

end ElementLocator
