import ElementLocator.Proofs.Outcome
import ElementLocator.Tree

/-! # Document order

    The nodes of a subtree in document order, each with its place in the whole tree: a node
    comes before everything inside it, and everything inside it before its next sibling.

    * `walk_map_tree` — forgetting the places gives the walk of the tree;
    * `below_eq_flatMap` — below a node stand its children in order, each with its subtree. -/

namespace ElementLocator

namespace Located

mutual

/-- The nodes of a tree at a place, in document order. -/
def walkFrom {σ : Type} (path : List Nat) : Tree σ → List (Located σ)
  | .node a cs => ⟨path, .node a cs⟩ :: walkEachFrom path 0 cs

/-- The nodes of the trees that are the children of a place from position `i` on. -/
def walkEachFrom {σ : Type} (path : List Nat) (i : Nat) : List (Tree σ) → List (Located σ)
  | [] => []
  | t :: rest => walkFrom (path ++ [i]) t ++ walkEachFrom path (i + 1) rest

end

/-- A node and all nodes below it, in document order. -/
def walk {σ : Type} (n : Located σ) : List (Located σ) := walkFrom n.path n.tree

/-- All nodes below a node, in document order. -/
def below (n : Located) : List Located := walkEachFrom n.path 0 n.tree.children

/-- How many levels a node stands below another one above it. -/
def depthBelow (start n : Located) : Nat := n.path.length - start.path.length

theorem walkEachFrom_eq_flatMap (path : List Nat) (i : Nat) (ts : List Tree) :
    walkEachFrom path i ts = (childrenFrom path i ts).flatMap walk := by
  induction ts generalizing i with
  | nil => rfl
  | cons t rest ih =>
      rw [walkEachFrom, childrenFrom, List.flatMap_cons, ih]
      rfl

theorem walk_eq_cons (n : Located) : n.walk = n :: n.below := by
  obtain ⟨path, a, cs⟩ := n
  show walkFrom path (.node a cs) = _
  rw [walkFrom]
  rfl

theorem below_eq_flatMap (n : Located) : n.below = n.children.flatMap walk :=
  walkEachFrom_eq_flatMap n.path 0 n.tree.children

mutual

theorem walkFrom_map_tree (path : List Nat) : ∀ t : Tree, (walkFrom path t).map (·.tree) = t.walk
  | .node a cs => by
      rw [walkFrom, List.map_cons, walkEachFrom_map_tree path 0 cs, Tree.walk]

theorem walkEachFrom_map_tree (path : List Nat) (i : Nat) :
    ∀ ts : List Tree, (walkEachFrom path i ts).map (·.tree) = Tree.walkAll ts
  | [] => rfl
  | t :: rest => by
      rw [walkEachFrom, List.map_append, walkFrom_map_tree (path ++ [i]) t,
        walkEachFrom_map_tree path (i + 1) rest, Tree.walkAll]

end

/-- **THE WALK OF A NODE IS THE WALK OF ITS TREE**, each node with its place. -/
theorem walk_map_tree (n : Located) : n.walk.map (·.tree) = n.tree.walk :=
  walkFrom_map_tree n.path n.tree

theorem of_mem_childrenFrom {path : List Nat} {i : Nat} {ts : List Tree} {c : Located}
    (h : c ∈ childrenFrom path i ts) : c.path.length = path.length + 1 ∧ c.tree ∈ ts := by
  induction ts generalizing i with
  | nil => exact nomatch h
  | cons t rest ih =>
      rcases List.mem_cons.mp h with rfl | h
      · exact ⟨by rw [List.length_append, List.length_singleton], List.mem_cons_self⟩
      · exact ⟨(ih h).1, List.mem_cons_of_mem t (ih h).2⟩

theorem path_length_of_mem_children {n c : Located} (h : c ∈ n.children) :
    c.path.length = n.path.length + 1 := (of_mem_childrenFrom h).1

mutual

/-- The place of a node of a tree starts with the place of the tree. -/
theorem exists_path_of_mem_walkFrom {path : List Nat} {d : Located} :
    ∀ {t : Tree}, d ∈ walkFrom path t → ∃ s, d.path = path ++ s
  | .node a cs, h => by
      rw [walkFrom] at h
      rcases List.mem_cons.mp h with rfl | h
      · exact ⟨[], (List.append_nil path).symm⟩
      · obtain ⟨i, s, -, hs⟩ := exists_path_of_mem_walkEachFrom h
        exact ⟨i :: s, hs⟩

/-- The place of a node below goes on with the position of a child. -/
theorem exists_path_of_mem_walkEachFrom {path : List Nat} {i : Nat} {d : Located} :
    ∀ {ts : List Tree}, d ∈ walkEachFrom path i ts → ∃ j s, i ≤ j ∧ d.path = path ++ j :: s
  | t :: rest, h => by
      rw [walkEachFrom, List.mem_append] at h
      rcases h with h | h
      · obtain ⟨s, hs⟩ := exists_path_of_mem_walkFrom h
        exact ⟨i, s, Nat.le_refl i, by rw [hs, List.append_assoc, List.singleton_append]⟩
      · obtain ⟨j, s, hj, hs⟩ := exists_path_of_mem_walkEachFrom h
        exact ⟨j, s, Nat.le_of_succ_le hj, hs⟩

end

theorem mem_walk_self (n : Located) : n ∈ n.walk := by
  rw [walk_eq_cons]
  exact List.mem_cons_self

theorem mem_below_of_mem_children {n c d : Located} (hc : c ∈ n.children) (hd : d ∈ c.walk) :
    d ∈ n.below := by
  rw [below_eq_flatMap]
  exact List.mem_flatMap.mpr ⟨c, hc, hd⟩

theorem mem_walk_of_mem_below {n d : Located} (h : d ∈ n.below) : d ∈ n.walk := by
  rw [walk_eq_cons]
  exact List.mem_cons_of_mem n h

mutual

theorem mem_walkFrom_of_mem_walk {path : List Nat} {d e : Located} :
    ∀ {t : Tree}, d ∈ walkFrom path t → e ∈ d.walk → e ∈ walkFrom path t
  | .node a cs, hd, he => by
      rw [walkFrom] at hd
      rcases List.mem_cons.mp hd with rfl | hd
      · exact he
      · rw [walkFrom]
        exact List.mem_cons_of_mem _ (mem_walkEachFrom_of_mem_walk hd he)

theorem mem_walkEachFrom_of_mem_walk {path : List Nat} {i : Nat} {d e : Located} :
    ∀ {ts : List Tree}, d ∈ walkEachFrom path i ts → e ∈ d.walk → e ∈ walkEachFrom path i ts
  | t :: rest, hd, he => by
      rw [walkEachFrom, List.mem_append] at hd ⊢
      rcases hd with hd | hd
      · exact Or.inl (mem_walkFrom_of_mem_walk hd he)
      · exact Or.inr (mem_walkEachFrom_of_mem_walk hd he)

end

/-- The subtree of a node below another one stands below it, too. -/
theorem mem_below_of_mem_walk {n d e : Located} (hd : d ∈ n.below) (he : e ∈ d.walk) : e ∈ n.below :=
  mem_walkEachFrom_of_mem_walk hd he

end Located

namespace Tree

-- ── what children inherit ─────────────────────────────────────────────────

mutual

/-- What children inherit holds of every node. -/
theorem of_mem_walk {P : Tree → Prop} (hP : ∀ {a cs}, P (.node a cs) → ∀ c ∈ cs, P c) :
    ∀ {t u : Tree}, P t → u ∈ t.walk → P u
  | .node a cs, u, ht, hu => by
      rw [walk] at hu
      rcases List.mem_cons.mp hu with rfl | hu
      · exact ht
      · exact of_mem_walkAll hP (hP ht) hu

theorem of_mem_walkAll {P : Tree → Prop} (hP : ∀ {a cs}, P (.node a cs) → ∀ c ∈ cs, P c) :
    ∀ {ts : List Tree} {u : Tree}, (∀ t ∈ ts, P t) → u ∈ walkAll ts → P u
  | t :: rest, u, hts, hu => by
      rw [walkAll, List.mem_append] at hu
      rcases hu with hu | hu
      · exact of_mem_walk hP (hts t List.mem_cons_self) hu
      · exact of_mem_walkAll hP (fun r hr => hts r (List.mem_cons_of_mem t hr)) hu

end

theorem height_le_heightAll {c : Tree} : ∀ {cs : List Tree}, c ∈ cs → c.height + 1 ≤ heightAll cs
  | t :: rest, hc => by
      rw [heightAll]
      rcases List.mem_cons.mp hc with rfl | hc
      · omega
      · have := height_le_heightAll hc
        omega

-- ── reads of the backend over trees in memory ─────────────────────────────

variable {failing : List Nat → Option Injected} {n : Located}

theorem fault?_attributes :
    ((access failing).attributes n).fault? = (failing n.path).map Injected.failure := by
  rw [access, Report.fault?]
  dsimp only
  cases failing n.path <;> rfl

theorem fault?_children :
    ((access failing).children n).fault? = (failing n.path).map Injected.failure := by
  rw [access, Report.fault?]
  dsimp only
  cases failing n.path <;> rfl

theorem attributes_eq_of_ok {a : NodeAttributes}
    (h : ((access failing).attributes n).outcome = .ok a) : a = n.tree.attributes.visible := by
  rw [access] at h
  dsimp only at h
  cases hf : failing n.path with
  | none =>
      rw [hf] at h
      exact (Except.ok.inj h).symm
  | some i =>
      rw [hf] at h
      exact nomatch h

theorem children_eq_of_ok {cs : List Located}
    (h : ((access failing).children n).outcome = .ok cs) : cs = n.children := by
  rw [access] at h
  dsimp only at h
  cases hf : failing n.path with
  | none =>
      rw [hf] at h
      exact (Except.ok.inj h).symm
  | some i =>
      rw [hf] at h
      exact nomatch h

end Tree

end ElementLocator
