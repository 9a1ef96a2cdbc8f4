import ElementLocator.Tree.Live

/-! # Nodes of trees that change

    The nodes that are added for a tree take the next numbers, children before their parents. So
    the nodes of every subtree have a range of numbers to themselves (`Fills`), and a number tells
    a node from all others, also from those that look the same.

    * `node?_update`, `node?_add` — what a change and an addition leave alone;
    * `plant_withFailures` — adding nodes has nothing to do with failures;
    * `fills_plant` — the nodes that are added for a tree stand for it;
    * `Fills.place_unique` — each of them stands in one place. -/

namespace ElementLocator.LiveTree

-- ── single nodes ──────────────────────────────────────────────────────────

/-- A change of a node leaves all others alone. -/
theorem node?_update (t : LiveTree) (number : Nat) (f : LiveNode → LiveNode) (x : Nat) :
    (t.update number f).node? x = (t.node? x).map fun n => if number = x then f n else n := by
  have hkeys : ((·.1 == x) ∘ fun e : Nat × LiveNode => if e.1 == number then (e.1, f e.2) else e) =
      (·.1 == x) := by
    funext e
    show ((if e.1 == number then (e.1, f e.2) else e).1 == x) = (e.1 == x)
    split <;> rfl
  rw [node?, node?, update, List.find?_map, hkeys]
  cases hfind : t.nodes.find? (·.1 == x) with
  | none => rfl
  | some e =>
      have hx := List.find?_some hfind
      obtain rfl : e.1 = x := beq_iff_eq.mp hx
      by_cases h : number = e.1
      · simp [h]
      · simp [h, Ne.symm h]

/-- A node that is added takes a number that no node has. -/
theorem node?_add (t : LiveTree) (n : LiveNode) (x : Nat) :
    (t.add n).2.node? x = if t.unused = x then some n else t.node? x := by
  rw [node?, node?, add, List.find?_cons]
  by_cases h : t.unused = x
  · rw [if_pos h, beq_iff_eq.mpr h]
    rfl
  · rw [if_neg h, beq_eq_false_iff_ne.mpr h]

theorem node?_add_of_lt {t : LiveTree} (n : LiveNode) {x : Nat} (h : x < t.unused) :
    (t.add n).2.node? x = t.node? x := by
  rw [node?_add, if_neg (Nat.ne_of_gt h)]

-- ── failures ──────────────────────────────────────────────────────────────

/-- The tree with other failures. -/
def withFailures (t : LiveTree) (failures : List (Nat × Injected)) : LiveTree :=
  { t with failures := failures }

mutual

/-- Adding nodes has nothing to do with failures. -/
theorem plant_withFailures (failures : List (Nat × Injected)) : ∀ (c : Tree) (t : LiveTree),
    (t.withFailures failures).plant c = ((t.plant c).1, (t.plant c).2.withFailures failures)
  | .node a cs, t => by
      rw [plant, plant, plantAll_withFailures failures cs t]
      rfl

theorem plantAll_withFailures (failures : List (Nat × Injected)) : ∀ (cs : List Tree) (t : LiveTree),
    (t.withFailures failures).plantAll cs = ((t.plantAll cs).1, (t.plantAll cs).2.withFailures failures)
  | [], _ => rfl
  | c :: rest, t => by
      rw [plantAll, plantAll, plant_withFailures failures c t]
      dsimp only
      rw [plantAll_withFailures failures rest (t.plant c).2]

end

theorem failures_plant (t : LiveTree) (c : Tree) : (t.plant c).2.failures = t.failures := by
  have h := plant_withFailures t.failures c t
  have hsame : t.withFailures t.failures = t := rfl
  rw [hsame] at h
  exact congrArg (fun planted => planted.2.failures) h

-- ── ranges of numbers ─────────────────────────────────────────────────────

mutual

/-- The nodes of a tree have the numbers from `low` on and below `high`, its root the last of them. -/
def Fills (u : LiveTree) : Tree → (low high number : Nat) → Prop
  | .node a cs, low, high, number =>
    high = number + 1 ∧ ∃ numbers, u.node? number = some ⟨a, numbers⟩ ∧ u.FillsAll cs low number numbers

/-- So do the nodes of several trees, one after the other. -/
def FillsAll (u : LiveTree) : List Tree → (low high : Nat) → List Nat → Prop
  | [], low, high, numbers => low = high ∧ numbers = []
  | c :: rest, low, high, numbers =>
    ∃ number others mid, numbers = number :: others ∧ u.Fills c low mid number ∧
      u.FillsAll rest mid high others

end

section Ranges

variable {u v : LiveTree}

mutual

theorem Fills.bounds : ∀ {c : Tree} {low high number : Nat}, u.Fills c low high number →
    low ≤ number ∧ number < high
  | .node _ _, low, high, number, h => by
      rw [Fills] at h
      obtain ⟨rfl, numbers, -, hall⟩ := h
      exact ⟨hall.bounds, Nat.lt_succ_self number⟩

theorem FillsAll.bounds : ∀ {cs : List Tree} {low high : Nat} {numbers : List Nat},
    u.FillsAll cs low high numbers → low ≤ high
  | [], low, high, numbers, h => by
      rw [FillsAll] at h
      exact Nat.le_of_eq h.1
  | c :: rest, low, high, numbers, h => by
      rw [FillsAll] at h
      obtain ⟨number, others, mid, -, hfirst, hrest⟩ := h
      have hnumber := hfirst.bounds
      have hmid := hrest.bounds
      omega

end

mutual

/-- Nodes outside a range do not matter to it. -/
theorem Fills.of_agree : ∀ {c : Tree} {low high number : Nat}, u.Fills c low high number →
    (∀ x < high, v.node? x = u.node? x) → v.Fills c low high number
  | .node _ _, low, high, number, h, hv => by
      rw [Fills] at h ⊢
      obtain ⟨rfl, numbers, hnode, hall⟩ := h
      refine ⟨rfl, numbers, ?_, hall.of_agree fun x hx => hv x (Nat.lt_succ_of_lt hx)⟩
      rw [hv number (Nat.lt_succ_self number), hnode]

theorem FillsAll.of_agree : ∀ {cs : List Tree} {low high : Nat} {numbers : List Nat},
    u.FillsAll cs low high numbers → (∀ x < high, v.node? x = u.node? x) →
      v.FillsAll cs low high numbers
  | [], low, high, numbers, h, _ => by
      rw [FillsAll] at h ⊢
      exact h
  | c :: rest, low, high, numbers, h, hv => by
      rw [FillsAll] at h ⊢
      obtain ⟨number, others, mid, rfl, hfirst, hrest⟩ := h
      refine ⟨number, others, mid, rfl, hfirst.of_agree fun x hx => ?_, hrest.of_agree hv⟩
      exact hv x (Nat.lt_of_lt_of_le hx hrest.bounds)

end

end Ranges

mutual

/-- **THE NODES ADDED FOR A TREE** have the next numbers and stand for it; all others stay as they
    are. The recursion is on the tree, as in the definition. -/
theorem fills_plant : ∀ (c : Tree) (t : LiveTree),
    (t.plant c).2.Fills c t.unused (t.plant c).2.unused (t.plant c).1 ∧
      ∀ x < t.unused, (t.plant c).2.node? x = t.node? x
  | .node a cs, t => by
      obtain ⟨hall, hkept⟩ := fillsAll_plantAll cs t
      have hle := hall.bounds
      rw [plant, Fills]
      constructor
      · refine ⟨rfl, (t.plantAll cs).1, ?_, hall.of_agree fun x hx => node?_add_of_lt _ hx⟩
        exact (node?_add _ _ _).trans (if_pos rfl)
      · intro x hx
        exact (node?_add_of_lt _ (Nat.lt_of_lt_of_le hx hle)).trans (hkept x hx)

theorem fillsAll_plantAll : ∀ (cs : List Tree) (t : LiveTree),
    (t.plantAll cs).2.FillsAll cs t.unused (t.plantAll cs).2.unused (t.plantAll cs).1 ∧
      ∀ x < t.unused, (t.plantAll cs).2.node? x = t.node? x
  | [], _ => ⟨⟨rfl, rfl⟩, fun _ _ => rfl⟩
  | c :: rest, t => by
      obtain ⟨hfirst, hkept⟩ := fills_plant c t
      obtain ⟨hrest, hkept'⟩ := fillsAll_plantAll rest (t.plant c).2
      have hbounds := hfirst.bounds
      rw [plantAll, FillsAll]
      constructor
      · exact ⟨_, _, _, rfl, hfirst.of_agree hkept', hrest⟩
      · intro x hx
        exact (hkept' x (by omega)).trans (hkept x hx)

end

-- ── places ────────────────────────────────────────────────────────────────

section Places

variable {u : LiveTree} {c : Tree} {low high number x : Nat}

/-- A place among several trees is one among the numbers of their roots. -/
theorem FillsAll.getElem?_cases {cs : List Tree} {numbers : List Nat}
    (h : u.FillsAll cs low high numbers) (i : Nat) :
    (numbers[i]? = none ∧ cs[i]? = none) ∨
      ∃ m d low' high', numbers[i]? = some m ∧ cs[i]? = some d ∧ u.Fills d low' high' m ∧
        low ≤ low' ∧ high' ≤ high := by
  induction cs generalizing low numbers i with
  | nil =>
      rw [FillsAll] at h
      obtain ⟨-, rfl⟩ := h
      exact Or.inl ⟨rfl, rfl⟩
  | cons c rest ih =>
      rw [FillsAll] at h
      obtain ⟨m, others, mid, rfl, hfirst, hrest⟩ := h
      have hlow := hfirst.bounds
      cases i with
      | zero => exact Or.inr ⟨m, c, low, mid, rfl, rfl, hfirst, Nat.le_refl low, hrest.bounds⟩
      | succ i =>
          rw [List.getElem?_cons_succ, List.getElem?_cons_succ]
          rcases ih hrest i with hnone | ⟨m', d, low', high', hm, hd, hfills, hle, hhigh⟩
          · exact Or.inl hnone
          · exact Or.inr ⟨m', d, low', high', hm, hd, hfills, by omega, hhigh⟩

/-- Trees in different places have ranges that do not overlap. -/
theorem FillsAll.exists_between {cs : List Tree} {numbers : List Nat}
    (h : u.FillsAll cs low high numbers) {i j m m' : Nat} (hij : i < j) (hm : numbers[i]? = some m)
    (hm' : numbers[j]? = some m') :
    ∃ d d' low' mid mid' high', u.Fills d low' mid m ∧ u.Fills d' mid' high' m' ∧ mid ≤ mid' := by
  induction cs generalizing low numbers i j with
  | nil =>
      rw [FillsAll] at h
      obtain ⟨-, rfl⟩ := h
      exact nomatch hm
  | cons c rest ih =>
      rw [FillsAll] at h
      obtain ⟨first, others, mid, rfl, hfirst, hrest⟩ := h
      obtain ⟨j, rfl⟩ : ∃ k, j = k + 1 := ⟨j - 1, by omega⟩
      rw [List.getElem?_cons_succ] at hm'
      cases i with
      | zero =>
          cases hm
          rcases hrest.getElem?_cases j with ⟨hnone, -⟩ | ⟨m₂, d', mid', high', hm₂, -, hfills, hle, -⟩
          · rw [hnone] at hm'
            exact nomatch hm'
          · cases hm'.symm.trans hm₂
            exact ⟨c, d', low, mid, mid', high', hfirst, hfills, hle⟩
      | succ i =>
          rw [List.getElem?_cons_succ] at hm
          exact ih hrest (Nat.lt_of_succ_lt_succ hij) hm hm'

/-- The root has the attributes of the tree, and its children come right before it. -/
theorem Fills.root (h : u.Fills c low high number) :
    u.attributesOf number = c.attributes ∧ u.FillsAll c.children low number (u.childrenOf number) := by
  cases c with
  | node a cs =>
      rw [Fills] at h
      obtain ⟨-, numbers, hnode, hall⟩ := h
      rw [attributesOf, childrenOf, hnode]
      exact ⟨rfl, hall⟩

/-- **A PLACE IN A TREE** holds the node that stands for the subtree there. -/
theorem Fills.at?_cases (h : u.Fills c low high number) (place : List Nat) :
    (u.at? number place = none ∧ c.at? place = none) ∨
      ∃ y d low' high', u.at? number place = some y ∧ c.at? place = some d ∧ u.Fills d low' high' y ∧
        low ≤ low' ∧ high' ≤ high := by
  induction place generalizing c low high number with
  | nil => exact Or.inr ⟨number, c, low, high, rfl, by cases c; rfl, h, Nat.le_refl _, Nat.le_refl _⟩
  | cons i rest ih =>
      have hbounds := h.bounds
      have hall := h.root.2
      rw [at?, Tree.at?]
      rcases hall.getElem?_cases i with ⟨hnone, hnone'⟩ | ⟨m, d, low', high', hm, hd, hfills, hle, hhigh⟩
      · rw [hnone, hnone']
        exact Or.inl ⟨rfl, rfl⟩
      · rw [hm, hd]
        dsimp only
        rcases ih hfills with hnone | ⟨y, d', low₂, high₂, hy, hd', hfills', hle', hhigh'⟩
        · exact Or.inl hnone
        · exact Or.inr ⟨y, d', low₂, high₂, hy, hd', hfills', by omega, by omega⟩

theorem Fills.bounds_at? (h : u.Fills c low high number) {place : List Nat}
    (hx : u.at? number place = some x) : low ≤ x ∧ x < high := by
  rcases h.at?_cases place with ⟨hnone, -⟩ | ⟨y, d, low', high', hy, -, hfills, hle, hhigh⟩
  · rw [hnone] at hx
    exact nomatch hx
  · cases hx.symm.trans hy
    have hbounds := hfills.bounds
    omega

/-- The first step to a place leads to a child. -/
theorem exists_child_of_at? {i : Nat} {rest : List Nat} (hx : u.at? number (i :: rest) = some x) :
    ∃ m, (u.childrenOf number)[i]? = some m ∧ u.at? m rest = some x := by
  rw [at?] at hx
  cases hm : (u.childrenOf number)[i]? with
  | none => rw [hm] at hx; exact nomatch hx
  | some m => rw [hm] at hx; exact ⟨m, rfl, hx⟩

theorem Fills.lt_of_at? (h : u.Fills c low high number) {i : Nat} {rest : List Nat}
    (hx : u.at? number (i :: rest) = some x) : x < number := by
  obtain ⟨m, hm, hx⟩ := exists_child_of_at? hx
  have hall := h.root.2
  rcases hall.getElem?_cases i with ⟨hnone, -⟩ | ⟨m', d, low', high', hm', -, hfills, -, hhigh⟩
  · rw [hnone] at hm
    exact nomatch hm
  · cases hm.symm.trans hm'
    have hbounds := hfills.bounds_at? hx
    omega

/-- **EACH NODE STANDS IN ONE PLACE**, however alike the nodes in other places are. -/
theorem Fills.place_unique (h : u.Fills c low high number) {p q : List Nat}
    (hp : u.at? number p = some x) (hq : u.at? number q = some x) : p = q := by
  induction p generalizing c low high number q with
  | nil =>
      cases q with
      | nil => rfl
      | cons j q =>
          cases hp
          exact absurd (h.lt_of_at? hq) (Nat.lt_irrefl _)
  | cons i p ih =>
      cases q with
      | nil =>
          cases hq
          exact absurd (h.lt_of_at? hp) (Nat.lt_irrefl _)
      | cons j q =>
          obtain ⟨m, hm, hp⟩ := exists_child_of_at? hp
          obtain ⟨m', hm', hq⟩ := exists_child_of_at? hq
          have hall := h.root.2
          rcases Nat.lt_trichotomy i j with hij | rfl | hij
          · obtain ⟨d, d', low', mid, mid', high', hd, hd', hmid⟩ := hall.exists_between hij hm hm'
            have hfirst := hd.bounds_at? hp
            have hsecond := hd'.bounds_at? hq
            omega
          · cases hm.symm.trans hm'
            rcases hall.getElem?_cases i with ⟨hnone, -⟩ | ⟨m', d, low', high', hm', -, hfills, -⟩
            · rw [hnone] at hm
              exact nomatch hm
            · cases hm.symm.trans hm'
              rw [ih hfills hp hq]
          · obtain ⟨d, d', low', mid, mid', high', hd, hd', hmid⟩ := hall.exists_between hij hm' hm
            have hfirst := hd.bounds_at? hq
            have hsecond := hd'.bounds_at? hp
            omega

end Places

/-- What adding a tree does. -/
structure Planted (t : LiveTree) (c : Tree) : Prop where
  /-- Nodes that are there already stay as they are. -/
  kept {x : Nat} (h : x < t.unused) : (t.plant c).2.node? x = t.node? x
  /-- In every place of the tree stands a new node, with the attributes and as many children as the tree
      has there. -/
  stands {place : List Nat} {d : Tree} (h : c.at? place = some d) :
    ∃ x, (t.plant c).2.at? (t.plant c).1 place = some x ∧ t.unused ≤ x ∧ x < (t.plant c).2.unused ∧
      (t.plant c).2.attributesOf x = d.attributes ∧
      ((t.plant c).2.childrenOf x).length = d.children.length
  /-- No node stands in two places. -/
  apart {x : Nat} {p q : List Nat} (hp : (t.plant c).2.at? (t.plant c).1 p = some x)
    (hq : (t.plant c).2.at? (t.plant c).1 q = some x) : p = q

theorem FillsAll.length_eq {u : LiveTree} : ∀ {cs : List Tree} {low high : Nat} {numbers : List Nat},
    u.FillsAll cs low high numbers → numbers.length = cs.length
  | [], _, _, _, h => by
      rw [FillsAll] at h
      rw [h.2]
      rfl
  | _ :: _, _, _, _, h => by
      rw [FillsAll] at h
      obtain ⟨number, others, mid, rfl, -, hrest⟩ := h
      rw [List.length_cons, List.length_cons, hrest.length_eq]

theorem planted_plant (t : LiveTree) (c : Tree) : Planted t c := by
  obtain ⟨hfills, hkept⟩ := fills_plant c t
  refine ⟨fun h => hkept _ h, ?_, fun hp hq => hfills.place_unique hp hq⟩
  intro place d hd
  rcases hfills.at?_cases place with ⟨-, hnone⟩ | ⟨x, d', low', high', hx, hd', hfills', hle, hhigh⟩
  · rw [hnone] at hd
    exact nomatch hd
  · cases hd.symm.trans hd'
    obtain ⟨hattributes, hall⟩ := hfills'.root
    have hbounds := hfills'.bounds
    exact ⟨x, hx, by omega, by omega, hattributes, hall.length_eq⟩

end ElementLocator.LiveTree
