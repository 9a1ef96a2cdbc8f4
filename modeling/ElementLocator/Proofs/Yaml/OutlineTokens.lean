import ElementLocator.Proofs.OutlineText
import ElementLocator.Proofs.Yaml.LineStep

/-! # The tokens of an outline

    What the token reader makes of the outline of a tree. The outline is brought into a form
    in which each node is one piece of text, from after its dash to the end of its last line;
    the recursion over the tree then goes from the end of one line to the end of another.

    * `Outline.toList_textOf_lines` — the outline of a tree as such pieces;
    * `Outline.kinds` — the tokens of a tree;
    * `steps_node` — a node's piece is read as the tokens of its subtree;
    * `tokensOf_outline` — an outline is read as the tokens of its tree. -/

namespace ElementLocator

namespace Outline

-- ── the text of a tree ────────────────────────────────────────────────────

/-- What a node's lines are about: keys with texts, and the key before its children. -/
def items (a : NodeAttributes) (hasChildren : Bool) : List (String × Option String) :=
  (fields a).map (fun f => (f.1, some f.2)) ++ if hasChildren then [("children", none)] else []

/-- The line of an item. -/
def itemText (item : String × Option String) : List Char :=
  item.1.toList ++ ':' :: match item.2 with
    | some s => ' ' :: '"' :: (Text.Quoted.body s.toList ++ ['"'])
    | none => []

/-- A line break and the blanks before what stands at a column. -/
def newLine (column : Nat) : List Char := '\n' :: List.replicate column ' '

/-- The lines of items at a column, without the break after the last one. -/
def itemsText (column : Nat) : List (String × Option String) → List Char
  | [] => ['\x7b', '\x7d']
  | first :: rest => itemText first ++ rest.flatMap fun i => newLine column ++ itemText i

mutual

/-- The text of a node from after its dash, without the break at its end. -/
def nodeText (depth : Nat) : Tree → List Char
  | .node a cs => itemsText (4 * depth) (items a (!cs.isEmpty)) ++ nodesText (depth + 1) cs

/-- The texts of nodes on lines of their own, each with the break before it. -/
def nodesText (depth : Nat) : List Tree → List Char
  | [] => []
  | t :: rest => newLine (4 * depth - 2) ++ '-' :: ' ' :: nodeText depth t ++ nodesText depth rest

end

/-- Lines, each ended by a break. -/
def ended (ls : List String) : List Char := ls.flatMap fun l => l.toList ++ ['\n']

theorem ended_append (ls ms : List String) : ended (ls ++ ms) = ended ls ++ ended ms :=
  List.flatMap_append

theorem toList_blanks (n : Nat) : (blanks n).toList = List.replicate n ' ' := String.toList_ofList

theorem toList_fieldText (f : String × String) : (fieldText f).toList = itemText (f.1, some f.2) := by
  simp only [fieldText, itemText, Text.Quoted.quote]
  simp [String.toList_append]

/-- Lines put one under the other behind the same blanks. -/
def stacked (column : Nat) : List (List Char) → List Char
  | [] => []
  | first :: rest => first ++ rest.flatMap fun l => newLine column ++ l

theorem itemsText_eq_stacked (column : Nat) {is : List (String × Option String)} (h : is ≠ []) :
    itemsText column is = stacked column (is.map itemText) := by
  cases is with
  | nil => exact absurd rfl h
  | cons first rest =>
      rw [itemsText, List.map_cons, stacked, List.flatMap_map]

theorem itemsText_eq_ownLines (column : Nat) (a : NodeAttributes) (hasChildren : Bool) :
    itemsText column (items a hasChildren) =
      stacked column ((ownLines a hasChildren).map String.toList) := by
  by_cases h : fields a ≠ [] ∨ hasChildren = true
  · have hitems : items a hasChildren ≠ [] := by
      intro hnil
      obtain ⟨hfields, hchildren⟩ := List.append_eq_nil_iff.mp hnil
      rcases h with h | h
      · exact h (List.map_eq_nil_iff.mp hfields)
      · rw [if_pos h] at hchildren
        exact nomatch hchildren
    rw [itemsText_eq_stacked column hitems, ownLines_fields h]
    congr 1
    simp only [items]
    rw [List.map_append, List.map_append, List.map_map, List.map_map]
    congr 1
    · exact List.map_congr_left fun f _ => (toList_fieldText f).symm
    · cases hasChildren <;> rfl
  · obtain ⟨hfields, hchildren⟩ := not_or.mp h
    have hfields := Classical.not_not.mp hfields
    rw [eq_false_of_ne_true hchildren, ownLines_empty hfields]
    simp only [items]
    rw [hfields]
    rfl

theorem ended_map_append (column : Nat) (x : List Char) (ls : List String) :
    x ++ '\n' :: ended (ls.map (blanks column ++ ·)) =
      x ++ (ls.map String.toList).flatMap (fun l => newLine column ++ l) ++ ['\n'] := by
  induction ls generalizing x with
  | nil => simp [ended]
  | cons l ls ih =>
      have ih := ih (x ++ newLine column ++ l.toList)
      rw [List.map_cons, List.map_cons, List.flatMap_cons, ended, List.flatMap_cons, ← ended,
        String.toList_append, toList_blanks]
      simp only [newLine, List.append_assoc, List.cons_append, List.nil_append] at ih ⊢
      exact ih

theorem ended_placed (depth : Nat) {ls : List String} (h : ls ≠ []) :
    ended (placed depth ls) =
      (lead depth).toList ++ stacked (4 * depth) (ls.map String.toList) ++ ['\n'] := by
  cases ls with
  | nil => exact absurd rfl h
  | cons first rest =>
      have := ended_map_append (4 * depth) ((lead depth).toList ++ first.toList) rest
      rw [placed_cons, ended, List.flatMap_cons, ← ended, List.map_cons, stacked, String.toList_append]
      simp only [pad, List.append_assoc, List.cons_append, List.nil_append] at this ⊢
      exact this

theorem toList_lead_succ (depth : Nat) :
    (lead (depth + 1)).toList = List.replicate (4 * (depth + 1) - 2) ' ' ++ ['-', ' '] := by
  simp only [lead]
  rw [if_neg (Nat.succ_ne_zero depth), String.toList_append, toList_blanks]
  rfl

mutual

theorem ended_lines (depth : Nat) :
    ∀ t : Tree, ended (lines depth t) = (lead depth).toList ++ nodeText depth t ++ ['\n']
  | .node a cs => by
      rw [lines, ended_append, ended_placed depth (ownLines_ne_nil _ _), nodeText,
        itemsText_eq_ownLines]
      simp only [List.append_assoc]
      rw [List.singleton_append, ended_linesEach depth cs]

theorem ended_linesEach (depth : Nat) :
    ∀ ts : List Tree,
      '\n' :: ended (linesEach (depth + 1) ts) = nodesText (depth + 1) ts ++ ['\n']
  | [] => rfl
  | t :: rest => by
      rw [linesEach, ended_append, ended_lines (depth + 1) t, nodesText, toList_lead_succ]
      simp only [newLine, List.append_assoc, List.cons_append, List.nil_append]
      rw [ended_linesEach depth rest]

end

/-- **THE TEXT OF AN OUTLINE** is the piece of the root and a line break. -/
theorem toList_textOf_lines (t : Tree) : (textOf (lines 0 t)).toList = nodeText 0 t ++ ['\n'] := by
  rw [toList_textOf (lines_ne_nil 0 t)]
  exact ended_lines 0 t

-- ── the tokens of a tree ──────────────────────────────────────────────────

/-- The tokens of an item. -/
def itemKinds (item : String × Option String) : List Yaml.TokenKind :=
  [.key, .scalar item.1 true, .value] ++
    match item.2 with
    | some s => [.scalar s false]
    | none => []

mutual

/-- The tokens of a tree. -/
def kinds : Tree → List Yaml.TokenKind
  | .node a cs =>
    match items a (!cs.isEmpty) with
    | [] => [.flowMappingStart, .flowMappingEnd]
    | is => [.blockMappingStart] ++ is.flatMap itemKinds ++ childrenKinds cs ++ [.blockEnd]

/-- The tokens of a node's children. -/
def childrenKinds : List Tree → List Yaml.TokenKind
  | [] => []
  | t :: rest => [.blockSequenceStart] ++ ([.blockEntry] ++ kinds t) ++ entriesKinds rest ++ [.blockEnd]

/-- The tokens of children in an open sequence. -/
def entriesKinds : List Tree → List Yaml.TokenKind
  | [] => []
  | t :: rest => [.blockEntry] ++ kinds t ++ entriesKinds rest

end

end Outline

-- ── trees that can be read back ───────────────────────────────────────────

/-- The texts among a node's attributes. -/
def NodeAttributes.texts (a : NodeAttributes) : List String :=
  [a.role, a.identifier, a.className, a.label].filterMap id

/-- Whether every text of a tree can stand in an outline and be read back. -/
def Tree.Legible (t : Tree) : Prop :=
  ∀ d ∈ t.walk, ∀ s ∈ d.attributes.texts, ∀ ch ∈ s.toList, Yaml.Legible ch

namespace Tree

/-- Legibility can be computed. -/
def isLegible (t : Tree) : Bool :=
  t.walk.all fun d => d.attributes.texts.all fun s => s.toList.all fun ch => decide (Yaml.Legible ch)

theorem isLegible_iff {t : Tree} : t.isLegible = true ↔ t.Legible := by
  simp only [isLegible, Legible]
  simp only [List.all_eq_true, decide_eq_true_eq]

instance (t : Tree) : Decidable t.Legible := decidable_of_iff _ isLegible_iff

theorem mem_walkAll {t d : Tree} (hd : d ∈ t.walk) : ∀ {ts : List Tree}, t ∈ ts → d ∈ walkAll ts
  | u :: rest, ht => by
      rw [walkAll, List.mem_append]
      rcases List.mem_cons.mp ht with rfl | ht
      · exact Or.inl hd
      · exact Or.inr (mem_walkAll hd ht)

theorem Legible.attributes {a : NodeAttributes} {cs : List Tree} (h : (node a cs).Legible) :
    ∀ s ∈ a.texts, ∀ ch ∈ s.toList, Yaml.Legible ch :=
  h (node a cs) (by rw [walk]; exact List.mem_cons_self)

theorem Legible.children {a : NodeAttributes} {cs : List Tree} (h : (node a cs).Legible) :
    ∀ t ∈ cs, t.Legible :=
  fun _ ht d hd => h d (by rw [walk]; exact List.mem_cons_of_mem _ (mem_walkAll hd ht))

end Tree

namespace Outline

/-- What is needed of an item to be read back. -/
def ItemLegible (i : String × Option String) : Prop :=
  Yaml.ReadM.IsKey i.1.toList ∧ i.1.toList.length ≤ 1024 ∧
    ∀ s, i.2 = some s → ∀ ch ∈ s.toList, Yaml.Legible ch

theorem itemLegible_of_mem {a : NodeAttributes} (hasChildren : Bool)
    (h : ∀ s ∈ a.texts, ∀ ch ∈ s.toList, Yaml.Legible ch) :
    ∀ i ∈ items a hasChildren, ItemLegible i := by
  have hshown {key : String} {v : Option String} (hkey : Yaml.ReadM.IsKey key.toList)
      (hshort : key.toList.length ≤ 1024) (hv : v ∈ [a.role, a.identifier, a.className, a.label]) :
      ∀ f ∈ shown key v, ItemLegible (f.1, some f.2) := by
    intro f hf
    obtain ⟨s, hs, rfl⟩ := List.mem_map.mp hf
    refine ⟨hkey, hshort, ?_⟩
    intro s' hs'
    rw [← Option.some.inj hs']
    refine h s (List.mem_filterMap.mpr ⟨v, hv, ?_⟩)
    rw [Option.mem_toList] at hs
    exact (Option.filter_eq_some_iff.mp hs).1
  intro i hi
  rcases List.mem_append.mp hi with hi | hi
  · obtain ⟨f, hf, rfl⟩ := List.mem_map.mp hi
    rw [fields] at hf
    simp only [List.mem_append] at hf
    rcases hf with ((hf | hf) | hf) | hf
    all_goals exact hshown (Yaml.ReadM.isKey_of_all (by decide) (by decide)) (by decide) (by simp) f hf
  · cases hasChildren with
    | false => exact nomatch hi
    | true =>
        rw [List.mem_singleton.mp hi]
        exact ⟨Yaml.ReadM.isKey_of_all (by decide) (by decide), by decide, fun _ hs => nomatch hs⟩

end Outline

namespace Yaml

open ReadM Outline

variable {r : Reading} {kinds : List TokenKind} {columns : List Nat} {rest : List Char}

-- ── the lines of a node ───────────────────────────────────────────────────

/-- The line of an item is read, and with the first one a mapping begins. -/
theorem steps_item {column : Nat} {i : String × Option String} (hi : ItemLegible i)
    (hrest : rest.head? = some '\n') (h : Ready r column kinds columns (itemText i ++ rest)) :
    ∃ r', Steps r r' ∧
      LineEnd r' (kinds ++ startAt .blockMappingStart column columns ++ itemKinds i)
        (openAt column columns) rest := by
  obtain ⟨key, v⟩ := i
  obtain ⟨hkey, hshort, hv⟩ := hi
  rw [itemText] at h
  rw [List.append_assoc, List.cons_append] at h
  cases v with
  | none =>
      obtain ⟨r', hsteps, hcolon⟩ := steps_key hkey hshort (by rw [List.nil_append, hrest]; rfl) h
      rw [String.ofList_toList] at hcolon
      exact ⟨r', hsteps, hcolon.lineEnd⟩
  | some s =>
      obtain ⟨r₁, hsteps, hcolon⟩ := steps_key hkey hshort (by rfl) h
      dsimp only at hcolon
      rw [List.cons_append, List.cons_append, List.append_assoc (Text.Quoted.body s.toList),
        List.singleton_append] at hcolon
      obtain ⟨r', hsteps', hend⟩ := steps_quoted (hv s rfl) hcolon
      rw [String.ofList_toList, String.ofList_toList, List.append_assoc] at hend
      exact ⟨r', hsteps.trans hsteps', hend⟩

theorem starts_itemText {i : String × Option String} (hi : ItemLegible i) (rest : List Char) :
    Starts (itemText i ++ rest) := by
  obtain ⟨key, v⟩ := i
  obtain ⟨⟨hne, halpha⟩, -, -⟩ := hi
  dsimp only at hne halpha
  rw [itemText]
  dsimp only
  intro ch hch
  cases hkey : key.toList with
  | nil => exact absurd hkey hne
  | cons first key' =>
      rw [hkey, List.cons_append, List.cons_append, List.head?_cons, Option.some.injEq] at hch
      have hfirst := halpha first (by rw [hkey]; exact List.mem_cons_self)
      rw [← hch]
      exact ⟨(toNat_of_isAlpha hfirst).1, (toNat_of_isAlpha hfirst).2, ne_of_isAlpha hfirst (by decide)⟩

theorem openAt_self (column : Nat) (columns : List Nat) :
    openAt column (column :: columns) = column :: columns := if_pos rfl

theorem startAt_self (kind : TokenKind) (column : Nat) (columns : List Nat) :
    startAt kind column (column :: columns) = [] := if_pos rfl

/-- The lines of further items are read, with their mapping open. -/
theorem steps_items {column : Nat} {is : List (String × Option String)} (his : ∀ i ∈ is, ItemLegible i)
    (hrest : rest.head? = some '\n')
    (h : LineEnd r kinds (column :: columns)
      (is.flatMap (fun i => newLine column ++ itemText i) ++ rest)) :
    ∃ r', Steps r r' ∧ LineEnd r' (kinds ++ is.flatMap itemKinds) (column :: columns) rest := by
  induction is generalizing r kinds with
  | nil => exact ⟨r, Steps.refl r, by rw [List.flatMap_nil, List.append_nil]; exact h⟩
  | cons i is ih =>
      have hi := his i List.mem_cons_self
      rw [List.flatMap_cons, List.append_assoc, List.append_assoc] at h
      have hready := ready_of_ended (h.ended (column + 1)) (starts_itemText hi _) (Nat.lt_succ_self _)
        (fun k hk => Nat.le_of_eq (Option.some.inj hk).symm)
      have hnext : (is.flatMap (fun i => newLine column ++ itemText i) ++ rest).head? = some '\n' := by
        cases is with
        | nil => exact hrest
        | cons j is => rfl
      obtain ⟨r₁, hsteps, hend⟩ := steps_item hi hnext hready
      rw [openAt_self, startAt_self, List.append_nil] at hend
      obtain ⟨r', hsteps', hend'⟩ := ih (fun j hj => his j (List.mem_cons_of_mem i hj)) hend
      rw [List.append_assoc, ← List.flatMap_cons] at hend'
      exact ⟨r', hsteps.trans hsteps', hend'⟩

/-- The first line of a node begins its mapping, the others belong to it. -/
theorem steps_lines {column : Nat} {is : List (String × Option String)} (hne : is ≠ [])
    (his : ∀ i ∈ is, ItemLegible i) (hrest : rest.head? = some '\n') (hopen : columns.head? ≠ some column)
    (h : Ready r column kinds columns (itemsText column is ++ rest)) :
    ∃ r', Steps r r' ∧
      LineEnd r' (kinds ++ [.blockMappingStart] ++ is.flatMap itemKinds) (column :: columns) rest := by
  cases is with
  | nil => exact absurd rfl hne
  | cons i is =>
      rw [itemsText, List.append_assoc] at h
      have hnext : (is.flatMap (fun i => newLine column ++ itemText i) ++ rest).head? = some '\n' := by
        cases is with
        | nil => exact hrest
        | cons j is => rfl
      obtain ⟨r₁, hsteps, hend⟩ := steps_item (his i List.mem_cons_self) hnext h
      rw [openAt, if_neg hopen, startAt, if_neg hopen] at hend
      obtain ⟨r', hsteps', hend'⟩ := steps_items (fun j hj => his j (List.mem_cons_of_mem i hj)) hrest hend
      rw [List.append_assoc, ← List.flatMap_cons] at hend'
      exact ⟨r', hsteps.trans hsteps', hend'⟩

-- ── nodes ─────────────────────────────────────────────────────────────────

theorem head?_nodesText (depth : Nat) (ts : List Tree) (hrest : rest.head? = some '\n') :
    (nodesText depth ts ++ rest).head? = some '\n' := by
  cases ts with
  | nil => exact hrest
  | cons t ts => rfl

theorem starts_nodeText {t : Tree} (ht : t.Legible) (depth : Nat) (rest : List Char) :
    Starts (nodeText depth t ++ rest) := by
  obtain ⟨a, cs⟩ := t
  have hitems := itemLegible_of_mem (!cs.isEmpty) ht.attributes
  rw [nodeText]
  cases his : items a (!cs.isEmpty) with
  | nil =>
      intro ch hch
      rw [← Option.some.inj hch]
      decide
  | cons i is =>
      rw [itemsText, List.append_assoc, List.append_assoc]
      exact starts_itemText (hitems i (by rw [his]; exact List.mem_cons_self)) _

/-- A dash on a line of its own leads to a node. -/
theorem steps_dash {depth : Nat} {t : Tree} (ht : t.Legible)
    (hcolumns : ∀ k, columns.head? = some k → k ≤ 4 * depth + 2)
    (h : Ended r kinds (4 * depth + 4) columns
      (newLine (4 * (depth + 1) - 2) ++ '-' :: ' ' :: nodeText (depth + 1) t ++ rest)) :
    ∃ r', Steps r r' ∧
      Ready r' (4 * (depth + 1)) (kinds ++ startAt .blockSequenceStart (4 * depth + 2) columns ++ [.blockEntry])
        (openAt (4 * depth + 2) columns) (nodeText (depth + 1) t ++ rest) := by
  have hcolumn : 4 * (depth + 1) - 2 = 4 * depth + 2 := by omega
  rw [hcolumn, newLine, List.append_assoc, List.cons_append, List.cons_append, List.cons_append] at h
  have hready := ready_of_ended h (by
    intro ch hch
    rw [← Option.some.inj hch]
    decide) (by omega) hcolumns
  exact steps_entry (starts_nodeText ht _ _) hready

mutual

/-- **A NODE IS READ AS THE TOKENS OF ITS SUBTREE**, from after its dash to the end of its last
    line. Of the collections that it opened only the one at its own column may then still be
    open without being counted as ended. -/
theorem steps_node : ∀ {t : Tree} {depth : Nat} {r : Reading} {kinds : List TokenKind}
    {columns : List Nat} {rest : List Char}, t.Legible → rest.head? = some '\n' →
    columns.head? ≠ some (4 * depth) →
    Ready r (4 * depth) kinds columns (nodeText depth t ++ rest) →
    ∃ r' kinds' own, Steps r r' ∧ Ended r' kinds' (4 * depth + 1) (own ++ columns) rest ∧
      kinds' ++ List.replicate own.length .blockEnd = kinds ++ Outline.kinds t ∧
      ∀ k ∈ own, k = 4 * depth
  | .node a cs, depth, r, kinds, columns, rest, ht, hrest, hopen, h => by
      have hitems := itemLegible_of_mem (!cs.isEmpty) ht.attributes
      rw [nodeText, List.append_assoc] at h
      rw [Outline.kinds]
      cases his : items a (!cs.isEmpty) with
      | nil =>
          have hnone : cs = [] := by
            cases cs with
            | nil => rfl
            | cons c cs => exact absurd (List.append_eq_nil_iff.mp his).2 (List.cons_ne_nil _ _)
          rw [his, hnone] at h
          obtain ⟨r', hsteps, hend⟩ := steps_empty hopen h
          exact ⟨r', _, [], hsteps, hend.ended _, List.append_nil _, fun _ hk => nomatch hk⟩
      | cons i is =>
          rw [his] at h hitems
          obtain ⟨r₁, hsteps, hend⟩ := steps_lines (List.cons_ne_nil i is) hitems
            (head?_nodesText (depth + 1) cs hrest) hopen h
          obtain ⟨r', hsteps', hend'⟩ := steps_children ht.children hrest hend
          refine ⟨r', _, [4 * depth], hsteps.trans hsteps', hend', ?_, fun k hk => List.mem_singleton.mp hk⟩
          simp only [List.append_assoc]
          rfl

/-- The children of a node are read as the tokens of a sequence. -/
theorem steps_children : ∀ {ts : List Tree} {depth : Nat} {r : Reading} {kinds : List TokenKind}
    {columns : List Nat} {rest : List Char}, (∀ t ∈ ts, t.Legible) → rest.head? = some '\n' →
    LineEnd r kinds (4 * depth :: columns) (nodesText (depth + 1) ts ++ rest) →
    ∃ r', Steps r r' ∧
      Ended r' (kinds ++ childrenKinds ts) (4 * depth + 1) (4 * depth :: columns) rest
  | [], depth, r, kinds, columns, rest, _, _, h => by
      rw [childrenKinds, List.append_nil]
      exact ⟨r, Steps.refl r, h.ended _⟩
  | t :: ts, depth, r, kinds, columns, rest, hts, hrest, h => by
      have ht := hts t List.mem_cons_self
      have hne : (4 * depth :: columns).head? ≠ some (4 * depth + 2) := by
        rw [List.head?_cons, ne_eq, Option.some.injEq]
        omega
      rw [nodesText, List.append_assoc] at h
      obtain ⟨r₁, hsteps₁, hready⟩ := steps_dash ht (by
        intro k hk
        rw [← Option.some.inj hk]
        omega) (h.ended (4 * depth + 4))
      rw [openAt, if_neg hne, startAt, if_neg hne] at hready
      obtain ⟨r₂, hsteps₂, hend⟩ := steps_child ht (head?_nodesText (depth + 1) ts hrest) hready
      obtain ⟨r', hsteps', hend'⟩ := steps_entries (fun u hu => hts u (List.mem_cons_of_mem t hu)) hrest hend
      refine ⟨r', (hsteps₁.trans hsteps₂).trans hsteps', ?_⟩
      have hclosed := Ended.close [4 * depth + 2] (4 * depth + 1) hend' (by omega) (by
        intro k hk
        rw [List.mem_singleton.mp hk]
        omega)
      rw [childrenKinds]
      simp only [List.append_assoc] at hclosed ⊢
      exact hclosed

/-- Further children are read as entries of the sequence that is open. -/
theorem steps_entries : ∀ {ts : List Tree} {depth : Nat} {r : Reading} {kinds : List TokenKind}
    {columns : List Nat} {rest : List Char}, (∀ t ∈ ts, t.Legible) → rest.head? = some '\n' →
    Ended r kinds (4 * (depth + 1)) ((4 * depth + 2) :: columns) (nodesText (depth + 1) ts ++ rest) →
    ∃ r', Steps r r' ∧
      Ended r' (kinds ++ entriesKinds ts) (4 * (depth + 1)) ((4 * depth + 2) :: columns) rest
  | [], depth, r, kinds, columns, rest, _, _, h => by
      rw [entriesKinds, List.append_nil]
      exact ⟨r, Steps.refl r, h⟩
  | t :: ts, depth, r, kinds, columns, rest, hts, hrest, h => by
      have ht := hts t List.mem_cons_self
      rw [nodesText, List.append_assoc] at h
      obtain ⟨r₁, hsteps₁, hready⟩ := steps_dash ht (by
        intro k hk
        exact Nat.le_of_eq (Option.some.inj hk).symm) h
      rw [openAt_self, startAt_self, List.append_nil] at hready
      obtain ⟨r₂, hsteps₂, hend⟩ := steps_child ht (head?_nodesText (depth + 1) ts hrest) hready
      obtain ⟨r', hsteps', hend'⟩ := steps_entries (fun u hu => hts u (List.mem_cons_of_mem t hu)) hrest hend
      refine ⟨r', (hsteps₁.trans hsteps₂).trans hsteps', ?_⟩
      rw [entriesKinds]
      simp only [List.append_assoc] at hend' ⊢
      exact hend'

/-- A child is read with all its collections ended. -/
theorem steps_child : ∀ {t : Tree} {depth : Nat} {r : Reading} {kinds : List TokenKind}
    {columns : List Nat} {rest : List Char}, t.Legible → rest.head? = some '\n' →
    Ready r (4 * (depth + 1)) kinds ((4 * depth + 2) :: columns) (nodeText (depth + 1) t ++ rest) →
    ∃ r', Steps r r' ∧
      Ended r' (kinds ++ Outline.kinds t) (4 * (depth + 1)) ((4 * depth + 2) :: columns) rest
  | t, depth, r, kinds, columns, rest, ht, hrest, h => by
      obtain ⟨r', kinds', own, hsteps, hend, hkinds, hown⟩ := steps_node ht hrest (by
        rw [List.head?_cons, ne_eq, Option.some.injEq]
        omega) h
      rw [← hkinds]
      exact ⟨r', hsteps, hend.close own _ (Nat.le_succ _) fun k hk => Nat.le_of_eq (hown k hk).symm⟩

end

/-- **AN OUTLINE IS READ AS THE TOKENS OF ITS TREE**, and nothing is wrong with it. -/
theorem tokensOf_outline {t : Tree} (ht : t.Legible) :
    ∃ ts : List Token, tokensOf (textOf (lines 0 t)).toList = ⟨ts, none⟩ ∧
      ts.map (·.kind) = Outline.kinds t ++ [.streamEnd] := by
  rw [toList_textOf_lines]
  have hready : Ready (Reading.start (nodeText 0 t ++ ['\n'])) (4 * 0) [] [] (nodeText 0 t ++ ['\n']) :=
    ready_start (starts_nodeText ht 0 _)
  obtain ⟨r, kinds', own, hsteps, hend, hkinds, hown⟩ := steps_node ht rfl (by decide) hready
  have hlast : Ready r 0 kinds' own [] := by
    rw [List.append_nil] at hend
    refine ready_of_ended hend (fun _ hch => by cases hch) (by decide) fun k hk => ?_
    have hk := hown k (List.mem_of_mem_head? hk)
    omega
  obtain ⟨ts, hts, htokens⟩ := readTokens_of_ready hlast
  refine ⟨ts, tokensOf_of_steps hsteps hts, ?_⟩
  rw [htokens, hkinds, List.nil_append]

end Yaml

end ElementLocator
