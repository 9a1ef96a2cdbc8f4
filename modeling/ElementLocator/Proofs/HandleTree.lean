import ElementLocator.Macos
import ElementLocator.Proofs.OutlineText

/-! # Trees of handles

    A handle of the macOS interface tells nothing by itself; its children are found by reading
    it. Where that comes to an end, the handle unfolds to a tree of handles, and the reads show
    a tree as plain data (`HandleTree.shown`).

    * `writes_copy` — a read that succeeds, or of an attribute that the element lacks, comes to a
      value;
    * `unfolds_shown` — a handle unfolds to the tree that its reads show;
    * `HandleTree.holds_unique` — where handles are distinct, each stands at one place. -/

namespace ElementLocator.Macos

/-- A tree of handles. -/
inductive HandleTree
  | node (handle : Json) (children : List HandleTree)

namespace HandleTree

/-- The handle of the root. -/
def handle : HandleTree → Json
  | node h _ => h

/-- The subtrees below the root. -/
def children : HandleTree → List HandleTree
  | node _ cs => cs

mutual

/-- All subtrees in document order, the whole tree first. -/
def walk : HandleTree → List HandleTree
  | node h cs => node h cs :: walkAll cs

/-- All subtrees of several trees. -/
def walkAll : List HandleTree → List HandleTree
  | [] => []
  | t :: rest => walk t ++ walkAll rest

end

/-- The subtree at a place, if there is one. -/
def at? : HandleTree → List Nat → Option HandleTree
  | t, [] => some t
  | t, i :: rest =>
    match t.children[i]? with
    | none => none
    | some c => c.at? rest

/-- Whether a handle stands at a place. -/
def Holds (t : HandleTree) (path : List Nat) (h : Json) : Prop := ∃ s, t.at? path = some s ∧ s.handle = h

-- ── places ────────────────────────────────────────────────────────────────

theorem walkAll_eq_flatMap (ts : List HandleTree) : walkAll ts = ts.flatMap walk := by
  induction ts with
  | nil => rfl
  | cons t rest ih => rw [walkAll, List.flatMap_cons, ih]

theorem walk_eq_cons (t : HandleTree) : t.walk = t :: t.children.flatMap walk := by
  obtain ⟨h, cs⟩ := t
  rw [walk, walkAll_eq_flatMap]
  rfl

theorem at?_cons {t c : HandleTree} {i : Nat} (hc : t.children[i]? = some c) (path : List Nat) :
    t.at? (i :: path) = c.at? path := by
  rw [at?, hc]

theorem of_at?_cons {t s : HandleTree} {i : Nat} {path : List Nat} (h : t.at? (i :: path) = some s) :
    ∃ c, t.children[i]? = some c ∧ c.at? path = some s := by
  rw [at?] at h
  split at h
  · exact nomatch h
  · rename_i c hc
    exact ⟨c, hc, h⟩

/-- One step further down. -/
theorem at?_append {t s : HandleTree} {path : List Nat} (h : t.at? path = some s) (i : Nat) :
    t.at? (path ++ [i]) = s.children[i]? := by
  induction path generalizing t with
  | nil =>
      rw [Option.some.inj h, List.nil_append, at?]
      cases s.children[i]? <;> rfl
  | cons k path ih =>
      obtain ⟨c, hc, hs⟩ := of_at?_cons h
      rw [List.cons_append, at?_cons hc]
      exact ih hs

theorem mem_walk_of_at? {t s : HandleTree} {path : List Nat} (h : t.at? path = some s) : s ∈ t.walk := by
  induction path generalizing t with
  | nil =>
      rw [← Option.some.inj h, walk_eq_cons]
      exact List.mem_cons_self
  | cons i path ih =>
      obtain ⟨c, hc, hs⟩ := of_at?_cons h
      rw [walk_eq_cons]
      exact List.mem_cons_of_mem _ (List.mem_flatMap.mpr ⟨c, List.mem_of_getElem? hc, ih hs⟩)

-- ── distinct handles ──────────────────────────────────────────────────────

/-- All handles of a tree, in document order. -/
def handles (t : HandleTree) : List Json := t.walk.map handle

theorem handles_eq_cons (t : HandleTree) : t.handles = t.handle :: t.children.flatMap handles := by
  show t.walk.map handle = _
  rw [walk_eq_cons, List.map_cons, List.map_flatMap]
  rfl

theorem mem_handles_of_holds {t : HandleTree} {path : List Nat} {h : Json} (hold : t.Holds path h) :
    h ∈ t.handles := by
  obtain ⟨s, hs, rfl⟩ := hold
  exact List.mem_map_of_mem (mem_walk_of_at? hs)

theorem holds_cons {t : HandleTree} {i : Nat} {path : List Nat} {h : Json}
    (hold : t.Holds (i :: path) h) : ∃ c, t.children[i]? = some c ∧ c.Holds path h := by
  obtain ⟨s, hs, hh⟩ := hold
  obtain ⟨c, hc, hs⟩ := of_at?_cons hs
  exact ⟨c, hc, s, hs, hh⟩

/-- A handle further down is not that of the root. -/
theorem handle_ne_of_holds_cons {t : HandleTree} (ht : t.handles.Nodup) {i : Nat} {path : List Nat}
    {h : Json} (hold : t.Holds (i :: path) h) : h ≠ t.handle := by
  rw [handles_eq_cons] at ht
  obtain ⟨c, hc, hold⟩ := holds_cons hold
  rintro rfl
  exact (List.nodup_cons.mp ht).1
    (List.mem_flatMap.mpr ⟨c, List.mem_of_getElem? hc, mem_handles_of_holds hold⟩)

theorem nodup_child {t c : HandleTree} (ht : t.handles.Nodup) (hc : c ∈ t.children) :
    c.handles.Nodup := by
  rw [handles_eq_cons] at ht
  exact (List.pairwise_flatMap.mp (List.nodup_cons.mp ht).2).1 c hc

/-- Different children have no handle in common. -/
theorem ne_of_holds_children {t c d : HandleTree} (ht : t.handles.Nodup) {i j : Nat} (hij : i < j)
    (hc : t.children[i]? = some c) (hd : t.children[j]? = some d) {p q : List Nat} {h h' : Json}
    (hp : c.Holds p h) (hq : d.Holds q h') : h ≠ h' := by
  rw [handles_eq_cons] at ht
  have hpairs := (List.pairwise_flatMap.mp (List.nodup_cons.mp ht).2).2
  obtain ⟨hi, rfl⟩ := List.getElem?_eq_some_iff.mp hc
  obtain ⟨hj, rfl⟩ := List.getElem?_eq_some_iff.mp hd
  exact List.pairwise_iff_getElem.mp hpairs i j hi hj hij h (mem_handles_of_holds hp) h'
    (mem_handles_of_holds hq)

/-- **WHERE HANDLES ARE DISTINCT**, each stands at one place only. The induction is on one of the
    places; the other has to take the same first step. -/
theorem holds_unique {t : HandleTree} (ht : t.handles.Nodup) {p q : List Nat} {h : Json}
    (hp : t.Holds p h) (hq : t.Holds q h) : p = q := by
  induction p generalizing t q with
  | nil =>
      obtain ⟨s, hs, rfl⟩ := hp
      cases Option.some.inj hs
      cases q with
      | nil => rfl
      | cons j q => exact absurd rfl (handle_ne_of_holds_cons ht hq)
  | cons i p ih =>
      cases q with
      | nil =>
          obtain ⟨s, hs, rfl⟩ := hq
          cases Option.some.inj hs
          exact absurd rfl (handle_ne_of_holds_cons ht hp)
      | cons j q =>
          obtain ⟨c, hc, hcp⟩ := holds_cons hp
          obtain ⟨d, hd, hdq⟩ := holds_cons hq
          rcases Nat.lt_trichotomy i j with hij | rfl | hij
          · exact absurd rfl (ne_of_holds_children ht hij hc hd hcp hdq)
          · cases Option.some.inj (hc.symm.trans hd)
            rw [ih (nodup_child ht (List.mem_of_getElem? hc)) hcp hdq]
          · exact absurd rfl (ne_of_holds_children ht hij hd hc hdq hcp)

end HandleTree

-- ── reads ─────────────────────────────────────────────────────────────────

section Reads

variable (read : Json → String → Json × Json)

/-- Whether a read succeeds, or tells that the element has no such attribute. -/
def Readable (element : Json) (field : String) : Prop :=
  ∃ n, codeNumber? (read element field).1 = some n ∧ (n = success ∨ n ∈ absentCodes)

/-- The value that a read comes to: null where the element has no such attribute. -/
def valueOf (element : Json) (field : String) : Json :=
  if codeNumber? (read element field).1 = some success then (read element field).2 else .null

/-- The text that an attribute's value shows. -/
def textOf : Json → Option String
  | .null => none
  | v => present (some v.text)

/-- The attributes that the reads of a handle show. -/
def attributesOf (element : Json) : NodeAttributes where
  role := textOf (valueOf read element "AXRole")
  identifier := textOf (valueOf read element "AXIdentifier")
  className := textOf (valueOf read element "AXClassDescription")
  label := textOf (valueOf read element "AXTitle")

/-- What is read of one handle: every attribute can be read, and the children are a list of
    handles, or there is no such attribute. -/
structure Reads (element : Json) (children : List Json) : Prop where
  readable : ∀ field ∈ ["AXRole", "AXIdentifier", "AXClassDescription", "AXTitle", "AXChildren"],
    Readable read element field
  children : valueOf read element "AXChildren" = .list children ∨
    (valueOf read element "AXChildren" = .null ∧ children = [])

namespace HandleTree

/-- A handle unfolds to a tree of handles: that is what is read of every handle in it. -/
def Unfolding (t : HandleTree) : Prop := ∀ s ∈ t.walk, Reads read s.handle (s.children.map handle)

mutual

/-- The tree that the reads of handles show. -/
def shown : HandleTree → Tree
  | node h cs => .node (attributesOf read h) (shownEach cs)

/-- The trees that the reads of several handles show. -/
def shownEach : List HandleTree → List Tree
  | [] => []
  | t :: rest => shown t :: shownEach rest

end

end HandleTree

variable {read} {p : Platform} (hp : reader p = Report.ok read)

theorem statusForCode_eq {code : Json} {n : Int} (h : codeNumber? code = some n) :
    statusForCode code = .ok (if n = success then .success
      else ((failureCodes.find? (·.1 == n)).map (·.2)).getD .other) := by
  have hcode : isCode code = true := by
    cases code with
    | list items => exact nomatch h
    | object members => exact nomatch h
    | _ => rfl
  simp only [statusForCode]
  rw [hcode, h]
  rfl

/-- No code of a failure says success. -/
theorem failureStatus_ne_success (n : Int) :
    ((failureCodes.find? (·.1 == n)).map (·.2)).getD AccessStatus.other ≠ .success := by
  cases h : failureCodes.find? (·.1 == n) with
  | none => decide
  | some code =>
      have hall : ∀ c ∈ failureCodes, c.2 ≠ .success := by decide
      exact hall code (List.mem_of_find?_eq_some h)

include hp

/-- **A READ** that succeeds, or of an attribute that the element lacks, comes to its value. -/
theorem writes_copy {element : Json} {field : String} (h : Readable read element field) :
    Writes (copy p element field) (valueOf read element field) [] := by
  obtain ⟨n, hn, hcases⟩ := h
  rw [copy, valueOf]
  rw [hp]
  refine Writes.bind (l := []) (a := read) ⟨rfl, rfl⟩ ?_
  refine Writes.bind (l := []) (a := ()) ⟨rfl, rfl⟩ ?_
  dsimp only
  rw [statusForCode_eq hn, hn]
  refine Writes.bind (l := []) ⟨rfl, rfl⟩ ?_
  rcases hcases with rfl | habsent
  · rw [if_pos rfl, if_pos rfl, if_pos rfl]
    exact Writes.pure _
  · have hne : n ≠ success := by
      rcases List.mem_cons.mp habsent with rfl | habsent
      · decide
      · rw [List.mem_singleton.mp habsent]
        decide
    have hstatus := failureStatus_ne_success n
    have hcontains : (some n).any absentCodes.contains = true := List.contains_iff_mem.mpr habsent
    rw [if_neg hne, if_neg hstatus, if_pos hcontains, if_neg fun h => hne (Option.some.inj h)]
    exact Writes.pure _

theorem writes_copyText {element : Json} {field : String} (h : Readable read element field) :
    Writes (copyText p element field) (textOf (valueOf read element field)) [] := by
  simp only [copyText]
  refine (writes_copy hp h).bind (l := []) ?_
  simp only [textOf]
  cases valueOf read element field <;> exact Writes.pure _

theorem writes_attributes {element : Json} {children : List Json} (h : Reads read element children) :
    Writes ((access p).attributes element) (attributesOf read element) [] := by
  have hread := h.readable
  refine (writes_copyText hp (hread _ (by simp))).bind (l := []) ?_
  refine (writes_copyText hp (hread _ (by simp))).bind (l := []) ?_
  refine (writes_copyText hp (hread _ (by simp))).bind (l := []) ?_
  refine (writes_copyText hp (hread _ (by simp))).bind (l := []) ?_
  exact Writes.pure _

theorem writes_children {element : Json} {children : List Json} (h : Reads read element children) :
    Writes ((access p).children element) children [] := by
  refine (writes_copy hp (h.readable _ (by simp))).bind (l := []) ?_
  rcases h.children with hlist | ⟨hnull, rfl⟩
  · rw [hlist]
    cases children with
    | nil => exact Writes.pure _
    | cons c cs => exact Writes.pure _
  · rw [hnull]
    exact Writes.pure _

omit hp

namespace HandleTree

theorem Unfolding.reads {t : HandleTree} (h : t.Unfolding read) :
    Reads read t.handle (t.children.map handle) := by
  refine h t ?_
  rw [walk_eq_cons]
  exact List.mem_cons_self

theorem Unfolding.child {t c : HandleTree} (h : t.Unfolding read) (hc : c ∈ t.children) :
    c.Unfolding read := by
  intro s hs
  refine h s ?_
  rw [walk_eq_cons]
  exact List.mem_cons_of_mem _ (List.mem_flatMap.mpr ⟨c, hc, hs⟩)

mutual

/-- **A HANDLE UNFOLDS TO THE TREE** that its reads show. -/
theorem unfolds_shown (hp : reader p = Report.ok read) : ∀ {t : HandleTree}, t.Unfolding read →
    Unfolds (access p) (t.shown read) t.handle
  | .node h cs, ht => by
      rw [shown]
      exact ⟨writes_attributes hp ht.reads, cs.map handle, writes_children hp ht.reads,
        unfoldsEach_shown hp fun c hc => ht.child hc⟩

theorem unfoldsEach_shown (hp : reader p = Report.ok read) : ∀ {ts : List HandleTree}, (∀ t ∈ ts, t.Unfolding read) →
    UnfoldsEach (access p) (shownEach read ts) (ts.map handle)
  | [], _ => trivial
  | t :: ts, h => by
      rw [shownEach, List.map_cons]
      exact ⟨unfolds_shown hp (h t List.mem_cons_self),
        unfoldsEach_shown hp fun u hu => h u (List.mem_cons_of_mem t hu)⟩

end

end HandleTree

end Reads

end ElementLocator.Macos
