import Mathlib.Data.List.Forall2
import Mathlib.Data.List.Pairwise
import ElementLocator.Proofs.Resolution

/-! # Candidates in document order

    A node precedes another one if its place comes first: places are compared step by step, and
    a node comes before everything inside it. Walks list nodes in this order. Candidates of a
    composite pattern need not: each match starts searches of its own, and where matches stand
    inside matches their results overlap.

    * `Located.below_inOrder` — of two nodes below another, the second lies inside the first or after
      all of it;
    * `candidates_in_document_order` — a pattern without inner patterns finds nodes in order, and so
      does one with a single inner pattern if no match lies inside another one. -/

namespace ElementLocator

namespace Located

/-- A node comes before another one in document order. -/
def Precedes (d e : Located) : Prop := d.path < e.path

/-- The second node lies inside the first, or all of it after all of the first. -/
def InOrder (d e : Located) : Prop := e ∈ d.below ∨ ∀ x ∈ d.walk, ∀ y ∈ e.walk, x.Precedes y

-- ── places ────────────────────────────────────────────────────────────────

theorem lt_append_cons (path : List Nat) (i : Nat) (s : List Nat) : path < path ++ i :: s := by
  induction path with
  | nil => exact List.nil_lt_cons i s
  | cons k rest ih => exact List.cons_lt_cons_iff.mpr (Or.inr ⟨rfl, ih⟩)

theorem append_cons_lt (path : List Nat) {i j : Nat} (h : i < j) (s r : List Nat) :
    path ++ i :: s < path ++ j :: r := by
  induction path with
  | nil => exact List.cons_lt_cons_iff.mpr (Or.inl h)
  | cons k rest ih => exact List.cons_lt_cons_iff.mpr (Or.inr ⟨rfl, ih⟩)

theorem precedes_of_mem_below {d e : Located} (h : e ∈ d.below) : d.Precedes e := by
  obtain ⟨i, s, -, hs⟩ := exists_path_of_mem_walkEachFrom h
  rw [Precedes, hs]
  exact lt_append_cons d.path i s

theorem InOrder.precedes {d e : Located} (h : d.InOrder e) : d.Precedes e := by
  rcases h with h | h
  · exact precedes_of_mem_below h
  · exact h d d.mem_walk_self e e.mem_walk_self

theorem nodup_of_pairwise_precedes {found : List Located} (h : found.Pairwise Precedes) :
    (found.map (·.path)).Nodup := by
  refine List.pairwise_map.mpr (h.imp ?_)
  intro d e hlt heq
  rw [Precedes, heq] at hlt
  exact List.lt_irrefl e.path hlt

-- ── walks ─────────────────────────────────────────────────────────────────

mutual

theorem pairwise_walkFrom (path : List Nat) : ∀ t : Tree, (walkFrom path t).Pairwise InOrder
  | .node a cs => by
      rw [walkFrom, List.pairwise_cons]
      exact ⟨fun e he => Or.inl he, pairwise_walkEachFrom path 0 cs⟩

theorem pairwise_walkEachFrom (path : List Nat) (i : Nat) :
    ∀ ts : List Tree, (walkEachFrom path i ts).Pairwise InOrder
  | [] => List.Pairwise.nil
  | t :: rest => by
      rw [walkEachFrom, List.pairwise_append]
      refine ⟨pairwise_walkFrom (path ++ [i]) t, pairwise_walkEachFrom path (i + 1) rest, ?_⟩
      -- nodes of different children part at the positions of these children
      intro d hd e he
      refine Or.inr fun x hx y hy => ?_
      obtain ⟨s, hs⟩ := exists_path_of_mem_walkFrom (mem_walkFrom_of_mem_walk hd hx)
      obtain ⟨j, r, hj, hr⟩ := exists_path_of_mem_walkEachFrom (mem_walkEachFrom_of_mem_walk he hy)
      rw [Precedes, hs, hr, List.append_assoc, List.singleton_append]
      exact append_cons_lt path hj s r

end

/-- **WHAT STANDS BELOW A NODE IS IN DOCUMENT ORDER**, and what lies inside a node comes before what
    comes after it. -/
theorem below_inOrder (n : Located) : n.below.Pairwise InOrder :=
  pairwise_walkEachFrom n.path 0 n.tree.children

end Located

-- ── contributions ─────────────────────────────────────────────────────────

/-- Whether a node meets criteria. -/
def Criteria.meets (c : Criteria) (d : Located) : Bool := c.fits d.tree.attributes.visible

/-- The nodes below a start that meet criteria, in document order. -/
def Criteria.matchesBelow (c : Criteria) (start : Located) : List Located := start.below.filter c.meets

namespace Pattern

/-- What an inner pattern selects inside a match. -/
def chosen (q : Pattern) (d : Located) : Option Located :=
  pick (d.below.flatMap q.contribution) q.criteria.index

theorem mem_below_of_chosen {q : Pattern} {d e : Located} (h : q.chosen d = some e) : e ∈ d.below := by
  obtain ⟨f, hf, he⟩ := List.mem_flatMap.mp (mem_of_pick h)
  exact Located.mem_below_of_mem_walk hf (mem_walk_of_mem_contribution he)

/-- Only matches contribute. -/
theorem flatMap_contribution {c : Criteria} {inner : List Pattern} (own : Located → List Located)
    (hown : ∀ d, c.meets d = true → (node c inner).contribution d = own d) (ds : List Located) :
    ds.flatMap (node c inner).contribution = (ds.filter c.meets).flatMap own := by
  induction ds with
  | nil => rfl
  | cons d rest ih =>
      rw [List.flatMap_cons, ih]
      cases hd : c.meets d with
      | true => rw [hown d hd, List.filter_cons_of_pos hd, List.flatMap_cons]
      | false =>
          rw [contribution_of_not_fits (p := node c inner) hd, List.filter_cons_of_neg (by rw [hd]; nofun),
            List.nil_append]

/-- Without inner patterns the matches themselves are found. -/
theorem flatMap_contribution_leaf (c : Criteria) (ds : List Located) :
    ds.flatMap (node c []).contribution = ds.filter c.meets := by
  rw [flatMap_contribution fun d => [d], List.flatMap_singleton']
  intro d hd
  rw [contribution_of_fits (p := node c []) hd]
  rfl

/-- With one inner pattern at most one node is found inside each match. -/
theorem flatMap_contribution_single (c : Criteria) (q : Pattern) (ds : List Located) :
    ds.flatMap (node c [q]).contribution = (ds.filter c.meets).filterMap q.chosen := by
  rw [flatMap_contribution fun d => (q.chosen d).toList, List.filterMap_eq_flatMap_toList]
  intro d hd
  rw [contribution_of_fits (p := node c [q]) hd]
  show selections [q] d = _
  rw [selections, selections, List.append_nil, chosen]

end Pattern

/-- Each node that is found belongs to an item of its own. -/
theorem exists_forall₂_of_filterMap {α β : Type} (f : α → Option β) (items : List α) :
    ∃ outer, outer.Sublist items ∧ List.Forall₂ (fun a b => f a = some b) outer (items.filterMap f) := by
  induction items with
  | nil => exact ⟨[], List.Sublist.slnil, List.Forall₂.nil⟩
  | cons a rest ih =>
      obtain ⟨outer, hsub, hall⟩ := ih
      cases ha : f a with
      | none =>
          rw [List.filterMap_cons_none ha]
          exact ⟨outer, hsub.cons a, hall⟩
      | some b =>
          rw [List.filterMap_cons_some ha]
          exact ⟨a :: outer, hsub.cons_cons a, List.Forall₂.cons ha hall⟩

-- ── candidates ────────────────────────────────────────────────────────────

/-- Candidates that stand in document order, each at a place of its own. -/
structure Increasing (found : List Located) : Prop where
  ordered : found.Pairwise Located.Precedes
  distinct : (found.map (·.path)).Nodup

/-- Candidates that lie inside different matches, at most one inside each. -/
structure Spread (c : Criteria) (start : Located) (found : List Located) : Prop where
  inside : ∃ outer, Increasing outer ∧ (∀ m ∈ outer, m ∈ c.matchesBelow start) ∧
    List.Forall₂ (fun m d => d ∈ m.below) outer found
  atMost : found.length ≤ (c.matchesBelow start).length

theorem Increasing.of_pairwise {found : List Located} (h : found.Pairwise Located.Precedes) :
    Increasing found := ⟨h, Located.nodup_of_pairwise_precedes h⟩

theorem increasing_matchesBelow (c : Criteria) (start : Located) : Increasing (c.matchesBelow start) :=
  .of_pairwise ((start.below_inOrder.imp Located.InOrder.precedes).filter _)

/-- Where no match lies inside another one, what is chosen inside each is in document order. -/
theorem increasing_chosen {c : Criteria} {start : Located} (q : Pattern)
    (hapart : ∀ d ∈ c.matchesBelow start, ∀ e ∈ c.matchesBelow start, e ∉ d.below) :
    Increasing ((c.matchesBelow start).filterMap q.chosen) := by
  refine .of_pairwise (List.pairwise_filterMap.mpr ?_)
  refine ((start.below_inOrder.filter _).imp_of_mem ?_)
  intro d e hd he horder x hx y hy
  rcases horder with hinside | hafter
  · exact absurd hinside (hapart d hd e he)
  · exact hafter x (Located.mem_walk_of_mem_below (Pattern.mem_below_of_chosen hx)) y
      (Located.mem_walk_of_mem_below (Pattern.mem_below_of_chosen hy))

theorem spread_chosen (c : Criteria) (start : Located) (q : Pattern) :
    Spread c start ((c.matchesBelow start).filterMap q.chosen) where
  inside := by
    obtain ⟨outer, hsub, hall⟩ := exists_forall₂_of_filterMap q.chosen (c.matchesBelow start)
    exact ⟨outer, .of_pairwise ((increasing_matchesBelow c start).ordered.sublist hsub),
      fun m hm => hsub.subset hm, hall.imp fun _ _ => Pattern.mem_below_of_chosen⟩
  atMost := List.length_filterMap_le ..

-- ── inputs of the case below ──────────────────────────────────────────────

namespace Sample

/-- Windows side by side: with two buttons, without any, and with one deeper inside. -/
def panels : Tree :=
  .node .empty [.node ⟨some "Window", none, none, none⟩ [button, button], button,
    .node ⟨some "Window", none, none, none⟩ [],
    .node ⟨some "Window", none, none, none⟩ [.node ⟨some "Group", none, none, none⟩ [button]]]

/-- The criteria of a window. -/
def windowCriteria : Criteria := ⟨"Window", none, none, none, .contains, none⟩

/-- No window of the panels stands inside another one: all are children of the root. -/
theorem panels_apart : ∀ d ∈ windowCriteria.matchesBelow (Located.root panels),
    ∀ e ∈ windowCriteria.matchesBelow (Located.root panels), e ∉ d.below := by
  have hdepth : ((windowCriteria.matchesBelow (Located.root panels)).all fun d => d.path.length == 1) =
      true := by decide +kernel
  rw [List.all_eq_true] at hdepth
  intro d hd e he hinside
  obtain ⟨i, s, -, hs⟩ := Located.exists_path_of_mem_walkEachFrom hinside
  have hd := beq_iff_eq.mp (hdepth d hd)
  have he := beq_iff_eq.mp (hdepth e he)
  rw [hs, List.length_append, hd, List.length_cons] at he
  omega

end Sample

namespace TreeAccess

/-- **CANDIDATES IN DOCUMENT ORDER**: a search for a pattern without inner patterns finds nodes in
    document order, each once. So does one for a pattern with a single inner pattern if no match
    lies inside another one, and then every candidate lies inside a match of its own. -/
theorem candidates_in_document_order (failing : List Nat → Option Injected) (limit : DepthLimit)
    (start : Located) (c : Criteria) :
    (∀ q found, ((Tree.access failing).search limit (.node c [q]) start).outcome = .ok found →
      (∀ d ∈ c.matchesBelow start, ∀ e ∈ c.matchesBelow start, e ∉ d.below) →
        Increasing found ∧ Spread c start found) ∧
    ∀ found, ((Tree.access failing).search limit (.node c []) start).outcome = .ok found →
      Increasing found := by
  constructor
  · intro q found h hapart
    rw [eq_contributions_of_candidates h, Pattern.flatMap_contribution_single]
    exact ⟨increasing_chosen q hapart, spread_chosen c start q⟩
  · intro found h
    rw [eq_contributions_of_candidates h, Pattern.flatMap_contribution_leaf]
    exact increasing_matchesBelow c start

/-- The last button of each window, and the windows themselves. -/
theorem last_buttons_in_order :
    (∃ found, ((Tree.access fun _ => none).search Sample.limit
          (.node Sample.windowCriteria [Sample.lastButton]) (Located.root Sample.panels)).outcome = .ok found ∧
        Increasing found ∧ Spread Sample.windowCriteria (Located.root Sample.panels) found ∧
        found.map (·.path) = [[0, 1], [3, 0, 0]]) ∧
      ∃ found, ((Tree.access fun _ => none).search Sample.limit (.node Sample.windowCriteria [])
          (Located.root Sample.panels)).outcome = .ok found ∧ Increasing found := by
  have h := candidates_in_document_order (fun _ => none) Sample.limit (Located.root Sample.panels)
    Sample.windowCriteria
  constructor
  · obtain ⟨found, hfound, hpaths⟩ : ∃ found, ((Tree.access fun _ => none).search Sample.limit
        (.node Sample.windowCriteria [Sample.lastButton]) (Located.root Sample.panels)).outcome =
          .ok found ∧ found.map (·.path) = [[0, 1], [3, 0, 0]] :=
      exists_eq_ok_of_toOption (by decide +kernel)
    obtain ⟨hincreasing, hspread⟩ := h.1 _ found hfound Sample.panels_apart
    exact ⟨found, hfound, hincreasing, hspread, hpaths⟩
  · obtain ⟨found, hfound⟩ : ∃ found, ((Tree.access fun _ => none).search Sample.limit
        (.node Sample.windowCriteria []) (Located.root Sample.panels)).outcome = .ok found := ⟨_, rfl⟩
    exact ⟨found, hfound, h.2 found hfound⟩

end TreeAccess

end ElementLocator
