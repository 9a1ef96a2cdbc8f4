import ElementLocator.Proofs.CandidateOrder
import Mathlib.Algebra.BigOperators.Ring.List
import Mathlib.Algebra.Order.BigOperators.Group.Finset
import Mathlib.Algebra.Order.BigOperators.Group.List
import Mathlib.Algebra.Ring.GeomSum
import Mathlib.Tactic.Ring

/-! # How often searches visit nodes

    A search visits every node from its start on, and inside each match it walks again for each inner
    pattern, while the outer walk goes on into the same subtree. Nodes below matches are visited more
    than once, but a node lies below no more matches than its depth allows, and each level of nesting
    in the pattern adds one such factor.

    * `Pattern.visits` — the visits of a search, counted by recursion on the pattern;
    * `logged_candidates` — a search that succeeds logs that many events, one for each visit;
    * `sum_sizes_le` — the subtrees below a node together have no more nodes than the whole tree, times
      its height;
    * `visits_le` — the visits are at most a sum of powers of that height, one for each level of
      nesting. -/

namespace ElementLocator

-- ── events of tasks ───────────────────────────────────────────────────────

namespace Task

variable {ν α β : Type}

/-- The number of events of a name that a task logs. -/
def logged (name : String) (x : Task ν α) : Nat :=
  ((loggedEvents x.notes).filter fun e => e.name == name).length

variable {name : String}

theorem logged_bind_of_ok {x : Task ν α} {a : α} (h : x.outcome = .ok a) (f : α → Task ν β) :
    logged name (x >>= f) = logged name x + logged name (f a) := by
  rw [logged, loggedEvents_bind, h, List.filter_append, List.length_append]
  rfl

/-- A run over items that succeeds logs what the items log together. -/
theorem logged_collect {f : α → Task ν (List β)} {g : α → Nat} {items : List α} {found : List β}
    (h : (Report.collect f items).outcome = .ok found)
    (hg : ∀ a ∈ items, ∀ r, (f a).outcome = .ok r → logged name (f a) = g a) :
    logged name (Report.collect f items) = (items.map g).sum := by
  induction items generalizing found with
  | nil => rfl
  | cons a rest ih =>
      rw [Report.collect_cons] at h ⊢
      obtain ⟨first, hfirst, h⟩ := Report.outcome_bind_eq_ok h
      obtain ⟨others, hothers, -⟩ := Report.outcome_bind_eq_ok h
      rw [logged_bind_of_ok hfirst, logged_bind_of_ok hothers, hg a List.mem_cons_self first hfirst,
        ih hothers fun b hb => hg b (List.mem_cons_of_mem a hb), List.map_cons, List.sum_cons]
      rfl

end Task

-- ── visits of patterns ────────────────────────────────────────────────────

/-- The name of the event that a search logs for each node that it visits. -/
def visitEvent : String := "element_search"

namespace Pattern

mutual

/-- How deeply patterns are nested; one for a pattern without inner patterns. -/
def depth : Pattern → Nat
  | .node _ cs => depthEach cs + 1

/-- The greatest depth of several patterns; zero for none. -/
def depthEach : List Pattern → Nat
  | [] => 0
  | p :: rest => max (depth p) (depthEach rest)

end

mutual

/-- The visits of a search: one of each node from its start on, and inside each match those of the
    searches for the inner patterns. -/
def visits : Pattern → Located → Nat
  | .node c cs, n =>
    n.walk.length + (n.below.map fun d => if c.meets d then innerVisits cs d else 0).sum

/-- The visits of searches for several patterns from one start. -/
def innerVisits : List Pattern → Located → Nat
  | [], _ => 0
  | q :: rest, d => visits q d + innerVisits rest d

end

/-- The visits inside a node, if it is a match. -/
def ownVisits (p : Pattern) (d : Located) : Nat :=
  if p.criteria.meets d then innerVisits p.children d else 0

theorem innerVisits_eq_sum (d : Located) : ∀ qs : List Pattern,
    innerVisits qs d = (qs.map fun q => visits q d).sum
  | [] => rfl
  | q :: rest => by rw [innerVisits, innerVisits_eq_sum d rest, List.map_cons, List.sum_cons]

theorem visits_eq_sum (p : Pattern) (n : Located) :
    p.visits n = n.walk.length + (n.below.map p.ownVisits).sum := by
  cases p with
  | node c cs => rw [visits]; rfl

/-- The visits of a search are one of its start, and for each child those inside it and those of the
    same search below it. -/
theorem visits_step (p : Pattern) (n : Located) :
    p.visits n = 1 + (n.children.map fun c => p.ownVisits c + p.visits c).sum := by
  rw [visits_eq_sum, Located.walk_eq_cons, List.length_cons, Located.below_eq_flatMap, Nat.add_comm _ 1,
    Nat.add_assoc]
  congr 1
  generalize n.children = cs
  induction cs with
  | nil => rfl
  | cons c rest ih =>
      have hchild : (c.walk.map p.ownVisits).sum = p.ownVisits c + (c.below.map p.ownVisits).sum := by
        rw [Located.walk_eq_cons, List.map_cons, List.sum_cons]
      rw [List.flatMap_cons, List.map_append, List.sum_append, List.length_append, List.map_cons,
        List.sum_cons, ← ih, hchild, visits_eq_sum p c]
      omega

end Pattern

-- ── events of searches ────────────────────────────────────────────────────

namespace TreeAccess

variable {failing : List Nat → Option Injected} {limit levels : Nat}

theorem logged_attributes (c : Located) :
    Task.logged visitEvent ((Tree.access failing).attributes c) = 0 := by
  simp only [Tree.access]
  cases failing c.path <;> rfl

theorem logged_children (n : Located) :
    Task.logged visitEvent ((Tree.access failing).children n) = 0 := by
  simp only [Tree.access]
  cases failing n.path <;> rfl

theorem logged_announce {ν : Type} {p : Pattern} (h : p.hasLongIndex = false) (children : List ν) :
    Task.logged visitEvent (announce limit levels p children) = 1 := by
  simp only [announce]
  rw [shown_of_short h]
  rfl

theorem logged_selectInner {ν : Type} {q : Pattern} (h : q.hasLongIndex = false) (found : List ν) :
    Task.logged visitEvent (selectInner q found) = 0 := by
  simp only [selectInner]
  rw [shown_of_short h]
  cases selectCandidate found q.criteria.index <;> rfl

/-- What a child logs itself: nothing, or what the searches for the inner patterns log. -/
theorem logged_ownCandidates {p : Pattern} {c : Located} {own : List Located}
    (ih : ∀ {q : Pattern} {found : List Located},
      ((Tree.access failing).candidates limit levels q c).outcome = .ok found →
      Task.logged visitEvent ((Tree.access failing).candidates limit levels q c) = q.visits c)
    (h : (ownCandidates (Tree.access failing) limit levels p c (p.criteria.meets c)).outcome = .ok own) :
    Task.logged visitEvent (ownCandidates (Tree.access failing) limit levels p c (p.criteria.meets c)) =
      p.ownVisits c := by
  rw [Pattern.ownVisits]
  cases hmeets : p.criteria.meets c with
  | false => rfl
  | true =>
      rw [hmeets] at h
      rw [if_pos rfl, Pattern.innerVisits_eq_sum]
      cases hchildren : p.children with
      | nil =>
          simp only [ownCandidates, hchildren]
          rfl
      | cons q rest =>
          rw [ownCandidates_composite _ _ _ _ _ hchildren] at h ⊢
          rw [← hchildren]
          refine Task.logged_collect h fun q _ r hr => ?_
          obtain ⟨found, hfound, -⟩ := Report.outcome_bind_eq_ok hr
          rw [Task.logged_bind_of_ok hfound, logged_selectInner (short_of_candidates hfound), Nat.add_zero]
          exact ih hfound

/-- **A SEARCH THAT SUCCEEDS LOGS ITS VISITS**, one event for each. The induction is on the levels that
    may still be entered, as in the search. -/
theorem logged_candidates {p : Pattern} {n : Located} {found : List Located}
    (h : ((Tree.access failing).candidates limit levels p n).outcome = .ok found) :
    Task.logged visitEvent ((Tree.access failing).candidates limit levels p n) = p.visits n := by
  induction levels generalizing p n found with
  | zero => exact nomatch h
  | succ levels ih =>
      rw [candidates_succ] at h ⊢
      obtain ⟨children, hchildren, h⟩ := Report.outcome_bind_eq_ok h
      obtain ⟨_, hannounced, h⟩ := Report.outcome_bind_eq_ok h
      rw [Task.logged_bind_of_ok hchildren, Task.logged_bind_of_ok hannounced, logged_children,
        logged_announce (short_of_announce hannounced), Nat.zero_add, Pattern.visits_step]
      rw [Tree.children_eq_of_ok hchildren] at h ⊢
      congr 1
      refine Task.logged_collect h fun c _ r hr => ?_
      simp only [searchChild] at hr ⊢
      obtain ⟨a, ha, hr⟩ := Report.outcome_bind_eq_ok hr
      obtain ⟨fits, hfits, hr⟩ := Report.outcome_bind_eq_ok hr
      obtain ⟨own, hown, hr⟩ := Report.outcome_bind_eq_ok hr
      obtain ⟨deeper, hdeeper, -⟩ := Report.outcome_bind_eq_ok hr
      rw [Task.logged_bind_of_ok ha, Task.logged_bind_of_ok hfits, Task.logged_bind_of_ok hown,
        Task.logged_bind_of_ok hdeeper, logged_attributes, ih hdeeper]
      rw [Tree.attributes_eq_of_ok ha] at hfits
      have hmeets : p.criteria.meets c = fits := fits_of_matches? (matches?_of_matchesNode hfits)
      rw [← hmeets] at hown ⊢
      rw [logged_ownCandidates ih hown]
      show 0 + (0 + (p.ownVisits c + (p.visits c + 0))) = _
      rw [Nat.zero_add, Nat.zero_add, Nat.add_zero]

end TreeAccess

-- ── nodes below nodes ─────────────────────────────────────────────────────

namespace Tree

mutual

/-- **THE SUBTREES BELOW A NODE** together have no more nodes than the whole tree, times its height: a
    node belongs to no more of them than its depth. -/
theorem sum_sizes_le : ∀ t : Tree,
    ((walkAll t.children).map fun u => u.walk.length).sum ≤ t.walk.length * t.height
  | .node a cs => by
      rw [walk, height, List.length_cons]
      exact Nat.le_trans (sum_sizesAll_le cs) (Nat.mul_le_mul_right _ (Nat.le_succ _))

theorem sum_sizesAll_le : ∀ ts : List Tree,
    ((walkAll ts).map fun u => u.walk.length).sum ≤ (walkAll ts).length * heightAll ts
  | [] => Nat.zero_le _
  | t :: rest => by
      have hwalk : t.walk = t :: walkAll t.children := by
        cases t with
        | node a cs => exact walk.eq_1 a cs
      have hfirst : (t.walk.map fun u => u.walk.length).sum ≤ t.walk.length * (t.height + 1) := by
        have hbelow := sum_sizes_le t
        rw [Nat.mul_succ, Nat.add_comm]
        nth_rewrite 1 [hwalk]
        rw [List.map_cons, List.sum_cons]
        exact Nat.add_le_add_left hbelow _
      rw [walkAll, heightAll, List.map_append, List.sum_append, List.length_append, Nat.add_mul]
      refine Nat.add_le_add (Nat.le_trans hfirst ?_) (Nat.le_trans (sum_sizesAll_le rest) ?_)
      · exact Nat.mul_le_mul_left _ (Nat.le_max_left _ _)
      · exact Nat.mul_le_mul_left _ (Nat.le_max_right _ _)

end

mutual

/-- A tree has more nodes than levels below its root. -/
theorem height_lt_length_walk : ∀ t : Tree, t.height < t.walk.length
  | .node a cs => by
      rw [walk, height, List.length_cons]
      exact Nat.lt_succ_of_le (heightAll_le_length_walkAll cs)

theorem heightAll_le_length_walkAll : ∀ ts : List Tree, heightAll ts ≤ (walkAll ts).length
  | [] => Nat.le_refl 0
  | t :: rest => by
      have hfirst := height_lt_length_walk t
      have hrest := heightAll_le_length_walkAll rest
      rw [walkAll, heightAll, List.length_append]
      omega

end

end Tree

namespace Located

theorem length_walk (n : Located) : n.walk.length = n.tree.walk.length := by
  rw [← walk_map_tree, List.length_map]

theorem below_map_tree (n : Located) : n.below.map (·.tree) = Tree.walkAll n.tree.children :=
  walkEachFrom_map_tree n.path 0 n.tree.children

theorem sum_walks_le (n : Located) :
    (n.below.map fun d => d.walk.length).sum ≤ n.walk.length * n.tree.height := by
  have h := Tree.sum_sizes_le n.tree
  rw [← below_map_tree, List.map_map] at h
  rw [length_walk]
  refine Nat.le_trans (Nat.le_of_eq ?_) h
  exact congrArg List.sum (List.map_congr_left fun d _ => length_walk d)

/-- A subtree is no higher than the tree. -/
theorem height_le_of_mem_below {n d : Located} {k : Nat} (hn : n.tree.height ≤ k) (hd : d ∈ n.below) :
    d.tree.height ≤ k := by
  have hmem : d.tree ∈ n.tree.walk := by
    rw [← walk_map_tree]
    exact List.mem_map_of_mem (mem_walk_of_mem_below hd)
  refine Tree.of_mem_walk (P := fun t => t.height ≤ k) ?_ hn hmem
  intro a cs h c hc
  rw [Tree.height] at h
  have := Tree.height_le_heightAll hc
  omega

end Located

-- ── bounds on visits ──────────────────────────────────────────────────────

namespace Pattern

/-- The powers of a ratio below an exponent, summed up. -/
def powerSum (ratio k : Nat) : Nat := ∑ i ∈ Finset.range k, ratio ^ i

theorem powerSum_succ (ratio k : Nat) : powerSum ratio (k + 1) = ratio * powerSum ratio k + 1 := geom_sum_succ

theorem powerSum_mono {ratio ratio' k m : Nat} (hratio : ratio ≤ ratio') (hk : k ≤ m) :
    powerSum ratio k ≤ powerSum ratio' m := by
  refine Nat.le_trans (Finset.sum_le_sum fun i _ => Nat.pow_le_pow_left hratio i) ?_
  exact Finset.sum_le_sum_of_subset (Finset.range_mono hk)

mutual

/-- **THE VISITS OF A SEARCH** are at most a sum of powers, one for each level of nesting. The recursion
    is on the pattern: each inner search starts at a match, and matches lie below each other no more
    often than the height of the tree allows. -/
theorem visits_le {b h : Nat} : ∀ {p : Pattern} {n : Located}, (∀ q ∈ p.parts, q.children.length ≤ b) →
    n.tree.height ≤ h → p.visits n ≤ n.walk.length * powerSum (b * h) p.depth
  | .node c cs, n, hb, hn => by
      have hcs : cs.length ≤ b := hb (.node c cs) (mem_parts_self _)
      have hinner : ∀ q ∈ partsEach cs, q.children.length ≤ b := by
        intro q hq
        refine hb q ?_
        rw [parts]
        exact List.mem_cons_of_mem _ hq
      have hown : ∀ d ∈ n.below, (if c.meets d then innerVisits cs d else 0) ≤
          b * powerSum (b * h) (depthEach cs) * d.walk.length := by
        intro d hd
        split
        · refine Nat.le_trans (innerVisits_le hinner (Located.height_le_of_mem_below hn hd)) ?_
          rw [Nat.mul_comm d.walk.length, ← Nat.mul_assoc]
          exact Nat.mul_le_mul_right _ (Nat.mul_le_mul_right _ hcs)
        · exact Nat.zero_le _
      rw [visits, depth, powerSum_succ]
      calc n.walk.length + (n.below.map fun d => if c.meets d then innerVisits cs d else 0).sum
          ≤ n.walk.length +
              (n.below.map fun d => b * powerSum (b * h) (depthEach cs) * d.walk.length).sum :=
            Nat.add_le_add_left (List.sum_le_sum hown) _
        _ = n.walk.length +
              b * powerSum (b * h) (depthEach cs) * (n.below.map fun d => d.walk.length).sum := by
            rw [List.sum_map_mul_left]
        _ ≤ n.walk.length + b * powerSum (b * h) (depthEach cs) * (n.walk.length * h) :=
            Nat.add_le_add_left (Nat.mul_le_mul_left _
              (Nat.le_trans (Located.sum_walks_le n) (Nat.mul_le_mul_left _ hn))) _
        _ = n.walk.length * (b * h * powerSum (b * h) (depthEach cs) + 1) := by ring

theorem innerVisits_le {b h : Nat} : ∀ {qs : List Pattern} {d : Located},
    (∀ q ∈ partsEach qs, q.children.length ≤ b) → d.tree.height ≤ h →
      innerVisits qs d ≤ qs.length * (d.walk.length * powerSum (b * h) (depthEach qs))
  | [], _, _, _ => Nat.zero_le _
  | q :: rest, d, hb, hd => by
      have hfirst := visits_le (p := q) (fun r hr => hb r (mem_partsEach hr List.mem_cons_self)) hd
      have hrest : innerVisits rest d ≤ rest.length * (d.walk.length * powerSum (b * h) (depthEach rest)) :=
        innerVisits_le (fun r hr => hb r (by rw [partsEach]; exact List.mem_append_right _ hr)) hd
      rw [innerVisits, depthEach, List.length_cons, Nat.succ_mul, Nat.add_comm]
      refine Nat.add_le_add (Nat.le_trans hrest ?_) (Nat.le_trans hfirst ?_)
      · exact Nat.mul_le_mul_left _ (Nat.mul_le_mul_left _
          (powerSum_mono (Nat.le_refl _) (Nat.le_max_right _ _)))
      · exact Nat.mul_le_mul_left _ (powerSum_mono (Nat.le_refl _) (Nat.le_max_left _ _))

end

theorem one_le_depth (p : Pattern) : 1 ≤ p.depth := by
  cases p with
  | node c cs => exact Nat.le_add_left 1 _

/-- Patterns of depth one have no inner patterns. -/
theorem depth_eq_one_iff {p : Pattern} : p.depth = 1 ↔ p.children = [] := by
  obtain ⟨c, cs⟩ := p
  show depthEach cs + 1 = 1 ↔ cs = []
  cases cs with
  | nil => exact ⟨fun _ => rfl, fun _ => rfl⟩
  | cons q rest =>
      have hq := one_le_depth q
      rw [depthEach]
      constructor
      · intro h
        omega
      · intro h
        exact nomatch h

/-- Without inner patterns every node is visited once. -/
theorem visits_leaf {p : Pattern} (h : p.children = []) (n : Located) : p.visits n = n.walk.length := by
  rw [visits_eq_sum]
  have hown : p.ownVisits = fun _ => 0 := by
    funext d
    rw [ownVisits, h, innerVisits, ite_self]
  rw [hown, List.map_const', List.sum_replicate]
  rfl

end Pattern

-- ── searches ──────────────────────────────────────────────────────────────

/-- How often a search visits nodes. -/
structure VisitsWithin (p : Pattern) (start : Located) (search : Task Located (List Located)) : Prop where
  /-- One event is logged for each visit. -/
  counted : search.logged visitEvent = p.visits start
  /-- With at most `b` inner patterns at each level, the events are at most as many as the nodes, times
      the sum of powers below the depth of the pattern. -/
  bounded {b : Nat} (hb : ∀ q ∈ p.parts, q.children.length ≤ b) :
    search.logged visitEvent ≤
      start.walk.length * ∑ i ∈ Finset.range p.depth, (b * start.tree.height) ^ i
  /-- That is a polynomial in the number of nodes, whatever the height. -/
  polynomial {b : Nat} (hb : ∀ q ∈ p.parts, q.children.length ≤ b) :
    search.logged visitEvent ≤ start.walk.length * ∑ i ∈ Finset.range p.depth, (b * start.walk.length) ^ i
  /-- A pattern that is not nested has every node visited once. -/
  single (h : p.depth = 1) : search.logged visitEvent = start.walk.length

namespace TreeAccess

/-- **A SEARCH VISITS NODES POLYNOMIALLY OFTEN**, for any pattern, any tree and any start where it
    succeeds. -/
theorem search_visits (failing : List Nat → Option Injected) (limit : DepthLimit) (p : Pattern)
    (start : Located) {found : List Located}
    (h : ((Tree.access failing).search limit p start).outcome = .ok found) :
    VisitsWithin p start ((Tree.access failing).search limit p start) := by
  have hcounted : ((Tree.access failing).search limit p start).logged visitEvent = p.visits start :=
    logged_candidates h
  refine ⟨hcounted, ?_, ?_, ?_⟩
  · intro b hb
    rw [hcounted]
    exact Pattern.visits_le hb (Nat.le_refl _)
  · intro b hb
    have hheight : start.tree.height ≤ start.walk.length := by
      rw [Located.length_walk]
      exact Nat.le_of_lt (Tree.height_lt_length_walk _)
    rw [hcounted]
    refine Nat.le_trans (Pattern.visits_le hb (Nat.le_refl _)) (Nat.mul_le_mul_left _ ?_)
    exact Pattern.powerSum_mono (Nat.mul_le_mul_left b hheight) (Nat.le_refl _)
  · intro hdepth
    rw [hcounted]
    exact Pattern.visits_leaf (Pattern.depth_eq_one_iff.mp hdepth) start

/-- A window inside a window: six nodes are visited twenty times, and could be visited forty-two times
    with two inner patterns and three levels. A single pattern visits each of them once. -/
theorem visits_of_windows :
    (((Tree.access fun _ => none).search Sample.limit Sample.windowPattern
          (Located.root Sample.windows)).logged visitEvent = 20 ∧
        (∀ q ∈ Sample.windowPattern.parts, q.children.length ≤ 2) ∧
        20 ≤ 6 * ∑ i ∈ Finset.range 2, (2 * 3) ^ i) ∧
      ((Tree.access fun _ => none).search Sample.limit Sample.lastButton
          (Located.root Sample.windows)).logged visitEvent = 6 := by
  have hparts : ∀ q ∈ Sample.windowPattern.parts, q.children.length ≤ 2 := by decide
  constructor
  · obtain ⟨found, hfound, -⟩ : ∃ found, ((Tree.access fun _ => none).search Sample.limit
        Sample.windowPattern (Located.root Sample.windows)).outcome = .ok found ∧ found.length = 4 :=
      exists_eq_ok_of_toOption (by decide +kernel)
    have h := search_visits (fun _ => none) Sample.limit Sample.windowPattern
      (Located.root Sample.windows) hfound
    have hvisits : Sample.windowPattern.visits (Located.root Sample.windows) = 20 := by rfl
    have hcounted := h.counted.trans hvisits
    have hbounded := h.bounded hparts
    rw [hcounted] at hbounded
    exact ⟨hcounted, hparts, hbounded⟩
  · obtain ⟨found, hfound, -⟩ : ∃ found, ((Tree.access fun _ => none).search Sample.limit
        Sample.lastButton (Located.root Sample.windows)).outcome = .ok found ∧ found.length = 3 :=
      exists_eq_ok_of_toOption (by decide +kernel)
    exact (search_visits (fun _ => none) Sample.limit Sample.lastButton (Located.root Sample.windows)
      hfound).single rfl

end TreeAccess

end ElementLocator
