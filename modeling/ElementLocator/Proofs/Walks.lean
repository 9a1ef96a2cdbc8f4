import ElementLocator.Proofs.Offences
import Mathlib.Algebra.Ring.GeomSum
import Mathlib.Data.List.Chain
import Mathlib.Tactic.Ring

/-! # Walks of any shape

    What a backend answers need not be a tree: a node may be its own descendant, or stand below
    several others. A walk ends all the same, since each step down takes one of the levels that
    may still be entered, and an inner search starts with those of the outer one.

    * `reads_search_le`, `reads_text_le` — a search and an outline make no more reads than a sum
      over the levels allows, whatever the reads answer;
    * `fault?_candidates_of_answers`, `fault?_write_of_answers` — where every read is answered, a
      walk fails exactly if a chain of child steps goes beyond the limit (`descends`);
    * `descends_of_cycle` — below a cycle there are chains of every length. -/

namespace ElementLocator

variable {ν : Type}

-- ── chains of child steps ─────────────────────────────────────────────────

section Chains

variable (children : ν → List ν)

/-- One node is among the children of another. -/
def Child (parent child : ν) : Prop := child ∈ children parent

/-- Whether a chain of so many child steps leaves a node. -/
def descends : Nat → ν → Bool
  | 0, _ => true
  | k + 1, n => (children n).any (descends k)

variable {children}

theorem descends_succ_iff {k : Nat} {n : ν} :
    descends children (k + 1) n = true ↔ ∃ c, Child children n c ∧ descends children k c = true := by
  rw [descends, List.any_eq_true]
  rfl

theorem descends_of_isChain {n : ν} {path : List ν} (h : List.IsChain (Child children) (n :: path)) :
    descends children path.length n = true := by
  induction path generalizing n with
  | nil => rfl
  | cons c path ih =>
      obtain ⟨hc, hpath⟩ := List.isChain_cons_cons.mp h
      exact descends_succ_iff.mpr ⟨c, hc, ih hpath⟩

theorem exists_isChain_of_descends {k : Nat} {n : ν} (h : descends children k n = true) :
    ∃ path : List ν, path.length = k ∧ List.IsChain (Child children) (n :: path) := by
  induction k generalizing n with
  | zero => exact ⟨[], rfl, List.isChain_singleton n⟩
  | succ k ih =>
      obtain ⟨c, hc, hk⟩ := descends_succ_iff.mp h
      obtain ⟨path, hlength, hpath⟩ := ih hk
      exact ⟨c :: path, by rw [List.length_cons, hlength], List.isChain_cons_cons.mpr ⟨hc, hpath⟩⟩

/-- A chain can be cut short. -/
theorem descends_of_le {k m : Nat} {n : ν} (hkm : k ≤ m) (h : descends children m n = true) :
    descends children k n = true := by
  induction k generalizing m n with
  | zero => rfl
  | succ k ih =>
      cases m with
      | zero => exact absurd hkm (Nat.not_succ_le_zero k)
      | succ m =>
          obtain ⟨c, hc, hm⟩ := descends_succ_iff.mp h
          exact descends_succ_iff.mpr ⟨c, hc, ih (Nat.le_of_succ_le_succ hkm) hm⟩

theorem descends_of_loop {k : Nat} {n : ν} (h : Relation.TransGen (Child children) n n) :
    descends children k n = true := by
  induction k generalizing n with
  | zero => rfl
  | succ k ih =>
      obtain ⟨c, hc, hback⟩ := Relation.TransGen.head'_iff.mp h
      exact descends_succ_iff.mpr ⟨c, hc, ih (Relation.TransGen.tail' hback hc)⟩

/-- **BELOW A CYCLE** there are chains of every length. -/
theorem descends_of_cycle {start n : ν} (hreach : Relation.ReflTransGen (Child children) start n)
    (hloop : Relation.TransGen (Child children) n n) (k : Nat) : descends children k start = true := by
  induction hreach using Relation.ReflTransGen.head_induction_on generalizing k with
  | refl => exact descends_of_loop hloop
  | head hc _ ih =>
      cases k with
      | zero => rfl
      | succ k => exact descends_succ_iff.mpr ⟨_, hc, ih k⟩

end Chains

-- ── backends that answer every read ───────────────────────────────────────

/-- A backend that answers every read: the attributes and the children of each node. -/
structure TreeAccess.Answers (access : TreeAccess ν) (attributes : ν → NodeAttributes)
    (children : ν → List ν) : Prop where
  attributes (node : ν) : (access.attributes node).outcome = .ok (attributes node)
  children (node : ν) : (access.children node).outcome = .ok (children node)

/-- The fault of a walk that cannot fail but by its depth. -/
def depthFault (children : ν → List ν) (limit levels : Nat) (n : ν) : Option Failure :=
  if descends children levels n then some (.error ⟨.tooDeep limit, []⟩) else none

theorem depthFault_succ (children : ν → List ν) (limit levels : Nat) (n : ν) :
    depthFault children limit (levels + 1) n =
      (children n).findSome? (depthFault children limit levels) := by
  rw [depthFault, descends]
  generalize children n = cs
  induction cs with
  | nil => rfl
  | cons c rest ih =>
      rw [List.any_cons, List.findSome?_cons, ← ih, depthFault]
      cases descends children levels c with
      | true => rfl
      | false => rfl

/-- Some node that can be reached below a start has these attributes. -/
def ShownBelow (attributes : ν → NodeAttributes) (children : ν → List ν) (start : ν)
    (a : NodeAttributes) : Prop :=
  ∃ d, Relation.TransGen (Child children) start d ∧ attributes d = a

section Answers

variable {access : TreeAccess ν} {attributes : ν → NodeAttributes} {children : ν → List ν}

theorem ShownBelow.of_child {n c : ν} (hc : Child children n c) {a : NodeAttributes}
    (h : ShownBelow attributes children c a) : ShownBelow attributes children n a := by
  obtain ⟨d, hd, ha⟩ := h
  exact ⟨d, Relation.TransGen.head hc hd, ha⟩

variable (hanswers : access.Answers attributes children)

include hanswers

/-- **THE RUN OF A SEARCH** over nodes of any shape fails exactly if a chain of child steps uses
    up the levels that may still be entered, whatever the pattern. The induction is on these
    levels: inner searches do not get them back. -/
theorem fault?_candidates_of_answers (limit levels : Nat) {p : Pattern} (hp : p.Compiled) (n : ν) :
    (access.candidates limit levels p n).fault? = depthFault children limit levels n ∨
      ∃ e, (access.candidates limit levels p n).fault? = some e ∧
        p.Interrupts (ShownBelow attributes children n) e := by
  induction levels generalizing p n with
  | zero => exact Or.inl rfl
  | succ levels ih =>
      rw [depthFault_succ]
      refine TreeAccess.fault?_candidates_or (hanswers.children n) (.tooLong (Pattern.mem_parts_self p)) ?_
      intro c hc
      have hshown : ShownBelow attributes children n (attributes c) := ⟨c, .single hc, rfl⟩
      refine TreeAccess.fault?_searchChild_or (hanswers.attributes c)
        (fun e he => Pattern.interrupts_of_matchesNode hp hshown he) ?_
      intro q hq
      rcases ih (hp.of_mem hq) c with h | ⟨e, h, he⟩
      · exact Or.inl h
      · exact Or.inr ⟨e, h, he.lift hq fun _ => ShownBelow.of_child hc⟩

/-- **THE RUN OF AN OUTLINE** over nodes of any shape fails exactly if a chain of child steps uses
    up the levels that may still be entered. -/
theorem fault?_write_of_answers (limit levels depth : Nat) (n : ν) :
    (Outline.write access limit levels depth n).fault? = depthFault children limit levels n := by
  induction levels generalizing depth n with
  | zero => rfl
  | succ levels ih =>
      have hread : (Outline.readNode access depth n).outcome =
          .ok (Outline.placed depth (Outline.ownLines (attributes n) (!(children n).isEmpty)),
            children n) := by
        simp only [Outline.readNode]
        rw [Report.outcome_bind_of_ok (hanswers.attributes n),
          Report.outcome_bind_of_ok (hanswers.children n)]
        rfl
      obtain ⟨_, hlines⟩ := Report.fault?_eq_none_iff.mp (Outline.fault?_each_line (ν := ν)
        (Outline.placed depth (Outline.ownLines (attributes n) (!(children n).isEmpty))))
      simp only [Outline.write]
      rw [Report.fault?_bind_of_ok hread, Report.fault?_bind_of_ok hlines, Report.fault?_each,
        depthFault_succ]
      refine findSome?_congr ?_
      intro c _
      exact ih (depth + 1) c

end Answers

-- ── numbers of reads ──────────────────────────────────────────────────────

namespace Task

variable {α β : Type}

/-- The number of reads that a task makes. -/
def reads (x : Task ν α) : Nat := (askedReads x.notes).length

/-- The reads of a sequence are those of its parts; the second one need not run. -/
theorem reads_bind_le {x : Task ν α} {f : α → Task ν β} {k m : Nat} (hx : reads x ≤ k)
    (hf : ∀ a, x.outcome = .ok a → reads (f a) ≤ m) : reads (x >>= f) ≤ k + m := by
  rw [reads, Report.notes_bind, askedReads, List.filterMap_append, List.length_append]
  refine Nat.add_le_add hx ?_
  cases hend : x.outcome with
  | error e => exact Nat.zero_le m
  | ok a => exact hf a hend

theorem reads_collect_le {f : α → Task ν (List β)} {items : List α} {m : Nat}
    (hf : ∀ a ∈ items, reads (f a) ≤ m) : reads (Report.collect f items) ≤ items.length * m := by
  induction items with
  | nil => exact Nat.zero_le _
  | cons a rest ih =>
      rw [Report.collect_cons, List.length_cons, Nat.succ_mul, Nat.add_comm]
      refine reads_bind_le (hf a List.mem_cons_self) fun first _ => ?_
      exact reads_bind_le (m := 0) (ih fun b hb => hf b (List.mem_cons_of_mem a hb))
        fun _ _ => Nat.le_refl 0

theorem reads_each_le {f : α → Task ν Unit} {items : List α} {m : Nat}
    (hf : ∀ a ∈ items, reads (f a) ≤ m) : reads (Report.each f items) ≤ items.length * m := by
  induction items with
  | nil => exact Nat.zero_le _
  | cons a rest ih =>
      rw [Report.each_cons, List.length_cons, Nat.succ_mul, Nat.add_comm]
      exact reads_bind_le (hf a List.mem_cons_self) fun _ _ =>
        ih fun b hb => hf b (List.mem_cons_of_mem a hb)

end Task

/-- The most reads of a walk that makes `own` reads at a place and goes on at `ratio` places. -/
def mostReads (own ratio levels : Nat) : Nat := own * ∑ i ∈ Finset.range levels, ratio ^ i

theorem mostReads_succ (own ratio levels : Nat) :
    mostReads own ratio (levels + 1) = own + ratio * mostReads own ratio levels := by
  simp only [mostReads]
  rw [geom_sum_succ]
  ring

/-- A backend that reads each text and the children of a node once, and never lists more than so
    many children. -/
structure TreeAccess.ReadsWithin (access : TreeAccess ν) (width : Nat) : Prop where
  attributes (node : ν) : Task.reads (access.attributes node) ≤ 4
  children (node : ν) : Task.reads (access.children node) ≤ 1
  width {node : ν} {cs : List ν} : (access.children node).outcome = .ok cs → cs.length ≤ width

namespace Pattern

theorem one_le_length_parts (p : Pattern) : 1 ≤ p.parts.length := by
  cases p with
  | node c cs =>
      rw [parts, List.length_cons]
      exact Nat.le_add_left 1 _

theorem length_le_length_partsEach (ps : List Pattern) : ps.length ≤ (partsEach ps).length := by
  induction ps with
  | nil => exact Nat.le_refl 0
  | cons p rest ih =>
      have := one_le_length_parts p
      rw [partsEach, List.length_append, List.length_cons]
      omega

theorem length_children_lt (p : Pattern) : p.children.length < p.parts.length := by
  cases p with
  | node c cs =>
      rw [parts, List.length_cons]
      exact Nat.lt_succ_of_le (length_le_length_partsEach cs)

theorem length_parts_le_partsEach {q : Pattern} :
    ∀ {ps : List Pattern}, q ∈ ps → q.parts.length ≤ (partsEach ps).length
  | p :: rest, hq => by
      rw [partsEach, List.length_append]
      rcases List.mem_cons.mp hq with rfl | hq
      · exact Nat.le_add_right _ _
      · exact Nat.le_add_left_of_le (length_parts_le_partsEach hq)

theorem length_parts_le_of_mem_children {p q : Pattern} (hq : q ∈ p.children) :
    q.parts.length ≤ p.parts.length := by
  cases p with
  | node c cs =>
      rw [parts, List.length_cons]
      exact Nat.le_succ_of_le (length_parts_le_partsEach hq)

end Pattern

/-- Showing a pattern reads nothing. -/
theorem reads_announce_le {limit levels : Nat} (p : Pattern) (children : List ν) :
    Task.reads (TreeAccess.announce limit levels p children) ≤ 0 := by
  have hline : Task.reads (TreeAccess.shown p : Task ν String) ≤ 0 := Nat.le_refl 0
  exact Task.reads_bind_le (m := 0) hline fun _ _ => Nat.le_refl 0

theorem reads_selectInner_le (q : Pattern) (found : List ν) :
    Task.reads (TreeAccess.selectInner q found) ≤ 0 := by
  have hline : Task.reads (TreeAccess.shown q : Task ν String) ≤ 0 := Nat.le_refl 0
  simp only [TreeAccess.selectInner]
  split
  · exact Nat.le_refl 0
  · exact Task.reads_bind_le (m := 0) hline fun _ _ => Nat.le_refl 0

section Reads

variable {access : TreeAccess ν} {width : Nat} (hreads : access.ReadsWithin width)

include hreads

/-- What a search reads at a child: its texts, and what the searches below it read, one for each
    inner pattern and one that goes on. -/
theorem reads_searchChild_le {limit levels size m : Nat} {p : Pattern} (child : ν)
    (hsize : p.parts.length ≤ size)
    (ih : ∀ q : Pattern, q.parts.length ≤ size → Task.reads (access.candidates limit levels q child) ≤ m) :
    Task.reads (access.searchChild limit levels p child) ≤ 4 + size * m := by
  have hinner : p.children.length * m + m ≤ size * m := by
    have hlength := Pattern.length_children_lt p
    rw [← Nat.succ_mul]
    exact Nat.mul_le_mul_right m (by omega)
  have hown (fits : Bool) :
      Task.reads (access.ownCandidates limit levels p child fits) ≤ p.children.length * m := by
    cases fits with
    | false => exact Nat.zero_le _
    | true =>
        cases hcs : p.children with
        | nil =>
            simp only [TreeAccess.ownCandidates]
            rw [hcs]
            exact Nat.zero_le _
        | cons q rest =>
            rw [TreeAccess.ownCandidates_composite _ _ _ _ _ hcs, ← hcs]
            refine Task.reads_collect_le fun q hq => ?_
            have hq := ih q (Nat.le_trans (Pattern.length_parts_le_of_mem_children hq) hsize)
            refine Task.reads_bind_le (m := 0) hq fun found _ => ?_
            exact reads_selectInner_le q found
  simp only [TreeAccess.searchChild]
  refine Task.reads_bind_le (hreads.attributes child) fun a _ => ?_
  refine Nat.le_trans ?_ hinner
  rw [← Nat.zero_add (p.children.length * m + m)]
  refine Task.reads_bind_le (Nat.le_refl 0) fun fits _ => ?_
  refine Task.reads_bind_le (hown fits) fun own _ => ?_
  exact Task.reads_bind_le (m := 0) (ih p hsize) fun _ _ => Nat.le_refl 0

/-- **THE READS OF A SEARCH** are bounded by the number of patterns inside the pattern, by the
    number of children of a node and by the levels that may be entered. -/
theorem reads_candidates_le {limit levels size : Nat} {p : Pattern} {n : ν} (hsize : p.parts.length ≤ size) :
    Task.reads (access.candidates limit levels p n) ≤ mostReads (1 + 4 * width) (width * size) levels := by
  induction levels generalizing p n with
  | zero => exact Nat.zero_le _
  | succ levels ih =>
      have hstep : mostReads (1 + 4 * width) (width * size) (levels + 1) =
          1 + (0 + width * (4 + size * mostReads (1 + 4 * width) (width * size) levels)) := by
        rw [mostReads_succ]
        ring
      rw [TreeAccess.candidates_succ, hstep]
      refine Task.reads_bind_le (hreads.children n) fun cs hcs => ?_
      refine Task.reads_bind_le (reads_announce_le p cs) fun _ _ => ?_
      refine Nat.le_trans (Task.reads_collect_le fun c _ => ?_)
        (Nat.mul_le_mul_right _ (hreads.width hcs))
      exact reads_searchChild_le hreads c hsize fun q hq => ih hq

theorem reads_search_le (limit : DepthLimit) (p : Pattern) (n : ν) :
    Task.reads (access.search limit p n) ≤
      mostReads (1 + 4 * width) (width * p.parts.length) (limit.levels + 1) :=
  reads_candidates_le hreads (Nat.le_refl _)

theorem reads_write_le {limit levels depth : Nat} {n : ν} :
    Task.reads (Outline.write access limit levels depth n) ≤ mostReads 5 width levels := by
  induction levels generalizing depth n with
  | zero => exact Nat.zero_le _
  | succ levels ih =>
      have hread : Task.reads (Outline.readNode access depth n) ≤ 4 + (1 + 0) := by
        simp only [Outline.readNode]
        refine Task.reads_bind_le (hreads.attributes n) fun a _ => ?_
        exact Task.reads_bind_le (hreads.children n) fun cs _ => Nat.le_refl 0
      have hwidth {lines : List String} {cs : List ν}
          (h : (Outline.readNode access depth n).outcome = .ok (lines, cs)) : cs.length ≤ width := by
        simp only [Outline.readNode] at h
        obtain ⟨a, -, h⟩ := Report.outcome_bind_eq_ok h
        obtain ⟨cs', hcs, h⟩ := Report.outcome_bind_eq_ok h
        cases Except.ok.inj h
        exact hreads.width hcs
      simp only [Outline.write]
      rw [mostReads_succ]
      refine Task.reads_bind_le hread ?_
      rintro ⟨lines, cs⟩ h
      rw [← Nat.zero_add (width * mostReads 5 width levels)]
      refine Task.reads_bind_le ?_ fun _ _ => ?_
      · exact Task.reads_each_le (m := 0) fun _ _ => Nat.le_refl 0
      · exact Nat.le_trans (Task.reads_each_le fun _ _ => ih) (Nat.mul_le_mul_right _ (hwidth h))

/-- **THE READS OF AN OUTLINE** are bounded by the number of children of a node and by the levels
    that may be entered. -/
theorem reads_text_le (limit : DepthLimit) (n : ν) :
    Task.reads (Outline.text access (.ok limit) n) ≤ mostReads 5 width (limit.levels + 1) := by
  have hroot : Task.reads (Outline.ofRoot access (.ok limit) n) ≤
      0 + mostReads 5 width (limit.levels + 1) := by
    refine Task.reads_bind_le (Nat.le_refl 0) fun l hl => ?_
    cases Except.ok.inj hl
    exact reads_write_le hreads
  rw [Nat.zero_add] at hroot
  refine Nat.le_trans ?_ hroot
  exact List.Sublist.length_le (List.Sublist.filterMap _ List.filter_sublist)

end Reads

end ElementLocator
