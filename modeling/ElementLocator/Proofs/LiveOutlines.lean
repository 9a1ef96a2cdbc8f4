import ElementLocator.Proofs.OutlineCalls
import ElementLocator.Tree.Live

/-! # Outlines of trees that change

    Several outlines of one tree can be in progress while the tree is changed. Calls for lines and
    changes come in any order.

    * `Session.answers_eq` — an outline answers its calls as it would alone, on the trees that
      they find;
    * `readWithin_of_alike` — what is read for a node depends on its attributes, its children and its
      failure in the tree of the moment;
    * `outlines_read_in_time` — an outline reads a node in the call that gives its first line, and
      nothing before or after that call changes what it tells of the node. -/

namespace ElementLocator.LiveTree

open Outline

-- ── sessions ──────────────────────────────────────────────────────────────

/-- A tree in use, with the outlines of it that were begun. -/
structure Session where
  tree : LiveTree
  outlines : List (Cursor Handle)

/-- What can be done in a session. -/
inductive Action
  /-- The tree is changed: an attribute is set, children are appended or taken away, a failure is
      put on a node, failures are cleared. -/
  | change (edit : LiveTree → LiveTree)
  /-- An outline is begun, which reads nothing yet. -/
  | start (asked : Option Int) (root : Handle)
  /-- The next line of an outline is asked for. -/
  | call (outline : Nat)

/-- A call for an outline: the tree that it finds, and what it answers. -/
structure Call where
  outline : Nat
  tree : LiveTree
  answer : Task Handle Step

namespace Session

/-- Does an action; `standard` is the depth limit for outlines that asked for none. -/
def step (standard : Except Failure DepthLimit) (s : Session) : Action → List Call × Session
  | .change edit => ([], { s with tree := edit s.tree })
  | .start asked root => ([], { s with outlines := s.outlines ++ [.fresh asked root] })
  | .call i =>
    match s.outlines[i]? with
    | none => ([], s)
    | some c =>
      let (answer, later) := c.next s.tree.access standard
      ([⟨i, s.tree, answer⟩], { s with outlines := s.outlines.set i later })

/-- Does actions one after the other; answers the calls among them. -/
def run (standard : Except Failure DepthLimit) (s : Session) : List Action → List Call
  | [] => []
  | a :: rest => (s.step standard a).1 ++ (s.step standard a).2.run standard rest

/-- The calls for one outline. -/
def callsOf (i : Nat) (calls : List Call) : List Call := calls.filter (·.outline == i)

/-- What an outline answers in a run. -/
def answers (standard : Except Failure DepthLimit) (s : Session) (actions : List Action) (i : Nat) :
    List (Task Handle Step) := (callsOf i (s.run standard actions)).map (·.answer)

/-- The trees that the calls for an outline find in a run. -/
def trees (standard : Except Failure DepthLimit) (s : Session) (actions : List Action) (i : Nat) :
    List LiveTree := (callsOf i (s.run standard actions)).map (·.tree)

theorem callsOf_singleton (i : Nat) (call : Call) :
    callsOf i [call] = if call.outline = i then [call] else [] := by
  by_cases h : call.outline = i <;> simp [callsOf, h]

section Steps

variable {standard : Except Failure DepthLimit} {s : Session} {i : Nat} {c : Cursor Handle}

/-- **THE STEP OF A SESSION** leaves an outline alone, or is a call for it. -/
theorem step_cases (standard : Except Failure DepthLimit) (h : s.outlines[i]? = some c) (a : Action) :
    (callsOf i (s.step standard a).1 = [] ∧ (s.step standard a).2.outlines[i]? = some c) ∨
      (callsOf i (s.step standard a).1 = [⟨i, s.tree, (c.next s.tree.access standard).1⟩] ∧
        (s.step standard a).2.outlines[i]? = some (c.next s.tree.access standard).2) := by
  have hi : i < s.outlines.length := (List.getElem?_eq_some_iff.mp h).1
  cases a with
  | change edit => exact Or.inl ⟨rfl, h⟩
  | start asked root =>
      refine Or.inl ⟨rfl, ?_⟩
      show (s.outlines ++ [.fresh asked root])[i]? = some c
      rw [List.getElem?_append_left hi, h]
  | call j =>
      rw [step]
      by_cases hj : j = i
      · subst hj
        refine Or.inr ?_
        rw [h]
        refine ⟨?_, ?_⟩
        · exact (callsOf_singleton j _).trans (if_pos rfl)
        · exact List.getElem?_set_self hi
      · refine Or.inl ?_
        cases hother : s.outlines[j]? with
        | none => exact ⟨rfl, h⟩
        | some other =>
            refine ⟨?_, ?_⟩
            · exact (callsOf_singleton i _).trans (if_neg hj)
            · show (s.outlines.set j _)[i]? = some c
              rw [List.getElem?_set_ne hj, h]

theorem callsOf_run_cons (a : Action) (rest : List Action) :
    callsOf i (s.run standard (a :: rest)) =
      callsOf i (s.step standard a).1 ++ callsOf i ((s.step standard a).2.run standard rest) :=
  List.filter_append _ _

/-- **AN OUTLINE IN A RUN** answers as it would alone, on the trees that its calls find. Whatever else
    is done shows only in these trees. -/
theorem answers_eq (h : s.outlines[i]? = some c) (actions : List Action) :
    s.answers standard actions i = c.answers standard ((s.trees standard actions i).map access) := by
  induction actions generalizing s c with
  | nil => rfl
  | cons a rest ih =>
      rw [answers, trees, callsOf_run_cons, List.map_append, List.map_append]
      rcases step_cases standard h a with ⟨hcalls, hlater⟩ | ⟨hcalls, hlater⟩
      · rw [hcalls]
        exact ih hlater
      · have hrest := ih hlater
        rw [answers, trees] at hrest
        rw [hcalls, List.map_singleton, List.map_singleton, List.singleton_append, List.singleton_append,
          List.map_cons, Cursor.answers, hrest]

end Steps

end Session

-- ── trees that are alike ──────────────────────────────────────────────────

/-- Trees in which a handle stands for nodes with the same attributes, children and failure. -/
structure Alike (h : Handle) (t u : LiveTree) : Prop where
  failure : ∀ number, h = .node number → t.failure? number = u.failure? number
  attributes : ∀ number, h = .node number → t.attributesOf number = u.attributesOf number
  children : ∀ number, h = .node number → t.childrenOf number = u.childrenOf number

/-- **WHAT IS READ FOR A NODE** depends on its depth, and on its attributes, its children and its
    failure. -/
theorem readWithin_of_alike {h : Handle} {t u : LiveTree} (halike : Alike h t u) (limit depth : Nat) :
    readWithin u.access limit depth h = readWithin t.access limit depth h := by
  have hreads : u.access.attributes h = t.access.attributes h ∧ u.access.children h = t.access.children h := by
    cases h with
    | foreign kind => exact ⟨rfl, rfl⟩
    | node number =>
        rw [access, access]
        dsimp only
        rw [readable, readable, halike.failure number rfl]
        cases u.failure? number with
        | some i => exact ⟨rfl, rfl⟩
        | none =>
            refine ⟨?_, ?_⟩
            · show Report.ofExcept (.ok (u.attributesOf number).visible) = _
              rw [← halike.attributes number rfl]
              rfl
            · show Report.ofExcept (.ok ((u.childrenOf number).map Handle.node)) = _
              rw [← halike.children number rfl]
              rfl
  rw [readWithin, readWithin, readNode, readNode, hreads.1, hreads.2]

theorem silent_access (t : LiveTree) : Silent t.access := fun _ => ⟨rfl, rfl⟩

-- ── outlines of a session ─────────────────────────────────────────────────

/-- The tree that a call finds; calls beyond the last one would find `later`. -/
def treeAt (trees : List LiveTree) (later : LiveTree) (call : Nat) : LiveTree := trees[call]?.getD later

/-- The nodes that an outline comes to, each read in the tree that its call finds. -/
def walk (trees : List LiveTree) (later : LiveTree) (limit : DepthLimit) (root : Handle) :
    List (Visit Handle) :=
  visits (fun call => (treeAt trees later call).access) limit.levels (limit.levels + 1) 0 0 root

/-- The answers of an outline to calls that find trees, in order. -/
structure ReadInTime (standard : Except Failure DepthLimit) (limit : DepthLimit) (root : Handle)
    (trees : List LiveTree) (answers : List (Task Handle Step)) : Prop where
  /-- The calls answer for the nodes of the walk one after the other, and then that the outline is at
      its end. -/
  answered (later : LiveTree) {k : Nat} (hk : k < trees.length) :
    answers[k]? = some ((answersOf (walk trees later limit root))[k]?.getD (Report.ok .exhausted))
  /-- The first answer for a node comes in the call that finds the tree in which the node is read; the
      others come right after. What is read is the same in any tree that is alike there. -/
  timely (later : LiveTree) {v : Visit Handle} (hv : v ∈ walk trees later limit root) :
    (∀ t, Alike v.node (treeAt trees later v.call) t →
      v.reading = readWithin t.access limit.levels v.depth v.node) ∧
    ∀ j a, v.answers[j]? = some a → v.call + j < trees.length → answers[v.call + j]? = some a
  /-- An outline of another session, whatever else is changed or read there, gives the same answers if
      it finds each node alike in the call that reads it. -/
  framed (later : LiveTree) {s : Session} {actions : List Action} {i : Nat}
    (h : s.outlines[i]? = some (.fresh (some limit.levels) root))
    (halike : ∀ v ∈ walk trees later limit root, ∀ t u, trees[v.call]? = some t →
      (s.trees standard actions i)[v.call]? = some u → Alike v.node t u)
    {k : Nat} (hk : k < trees.length) (hother : k < (s.trees standard actions i).length) :
    (s.answers standard actions i)[k]? = answers[k]?
  /-- After a failure the calls answer that the outline is at its end. -/
  ended {j k : Nat} {a : Task Handle Step} {f : Failure} (hj : answers[j]? = some a)
    (ha : a.outcome = .error f) (hjk : j < k) (hk : k < trees.length) :
    answers[k]? = some (Report.ok .exhausted)
  /-- If all calls find the same tree and the outline comes to its end, they give the lines of the
      outline as a whole, and its failure if it has one. -/
  drained {t : LiveTree} (hsame : ∀ u ∈ trees, u = t) (hend : Report.ok .exhausted ∈ answers) :
    told answers = finishedLines (ofRoot t.access (.ok limit) root).notes ∧
      (Outline.text t.access (.ok limit) root).outcome =
        ending (answers.findSome? Report.fault?) (told answers)

/-- **OUTLINES READ IN TIME.** However calls for lines, beginnings of other outlines and changes of the
    tree follow each other, an outline reads a node in the call that answers its first line. The
    session may be at any point of a longer one, as long as the outline was not asked for a line. -/
theorem outlines_read_in_time (standard : Except Failure DepthLimit) (limit : DepthLimit) (root : Handle)
    (s : Session) (actions : List Action) (i : Nat)
    (h : s.outlines[i]? = some (.fresh (some limit.levels) root)) :
    ReadInTime standard limit root (s.trees standard actions i) (s.answers standard actions i) := by
  rw [Session.answers_eq h]
  generalize s.trees standard actions i = trees
  have hlength : (trees.map access).length = trees.length := List.length_map _
  have hfinds (later : LiveTree) :
      Cursor.Finds (fun call => (treeAt trees later call).access) 0 (trees.map access) := by
    intro k found hk
    rw [List.getElem?_map] at hk
    obtain ⟨t, ht, rfl⟩ := Option.map_eq_some_iff.mp hk
    show (treeAt trees later (0 + k)).access = t.access
    rw [Nat.zero_add, treeAt, ht, Option.getD_some]
  have hanswered (later : LiveTree) {k : Nat} (hk : k < trees.length) :
      (Cursor.answers standard (trees.map access) (.fresh (some limit.levels) root))[k]? =
        some ((answersOf (walk trees later limit root))[k]?.getD (Report.ok .exhausted)) := by
    rw [Cursor.getElem?_answers standard (hfinds later) _ (by rw [hlength]; exact hk), Cursor.remaining_fresh,
      walk]
  refine ⟨hanswered, ?_, ?_, ?_, ?_⟩
  · intro later v hv
    refine ⟨fun t ht => ?_, fun j a ha hcall => ?_⟩
    · rw [readWithin_of_alike ht, eq_of_mem_visits hv]
      rfl
    · obtain ⟨k, hk, hanswer⟩ := (consecutive_visits _ _ _ _ _ _).getElem?_answersOf hv ha
      rw [hanswered later hcall, hk, Nat.zero_add, walk, hanswer, Option.getD_some]
  · intro later other actions j hother halike k hk hk'
    rw [Session.answers_eq hother]
    refine Cursor.answers_congr standard (hfinds later) ?_ (by rw [hlength]; exact hk)
      (by rw [List.length_map]; exact hk')
    intro v hv found elsewhere hfound helsewhere
    rw [List.getElem?_map] at hfound helsewhere
    obtain ⟨t, ht, rfl⟩ := Option.map_eq_some_iff.mp hfound
    obtain ⟨u, hu, rfl⟩ := Option.map_eq_some_iff.mp helsewhere
    exact readWithin_of_alike (halike v hv t u ht hu) _ _
  · intro j k a f hj ha hjk hk
    exact Cursor.getElem?_answers_of_error hj ha hjk (by rw [hlength]; exact hk)
  · intro t hsame hend
    have hone : ∀ found ∈ trees.map access, found = t.access := by
      intro found hfound
      obtain ⟨u, hu, rfl⟩ := List.mem_map.mp hfound
      rw [hsame u hu]
    exact Cursor.told_answers (silent_access t) limit hone hend

/-- A window with a button and a field, numbered after what stands in them. -/
def window : LiveTree :=
  (ofTree (.node ⟨some "Window", none, none, none⟩
    [.node ⟨some "Button", none, none, none⟩ [], .node ⟨some "Field", none, none, none⟩ []])).2

/-- The window in use, with an outline of it that was not asked for a line yet. -/
def reading : Session := ⟨window, [.fresh (some 3) (.node 2)]⟩

/-- The outline is read while the button is taken away, another outline is begun, and
    the field fails for a while. -/
def meddling : List Action :=
  [.call 0, .change (removeChild · 2 0), .start (some 1) (.node 2), .call 1, .call 0, .call 0,
    .change (failOn · 1 (.cannotComplete, .null)), .call 0, .change clearFailures, .call 0]

/-- The outline still has the button, since the window was read before; it fails at the field, and
    then is at its end. -/
theorem outline_while_meddling :
    reading.outlines[0]? = some (.fresh (some 3) (.node 2)) ∧
      told (reading.answers (.ok ⟨5, by decide, by decide⟩) meddling 0) =
        ["role: \"Window\"", "children:", "  - role: \"Button\""] ∧
      (reading.answers (.ok ⟨5, by decide, by decide⟩) meddling 0)[4]? = some (Report.ok .exhausted) := by
  refine ⟨rfl, ?_, ?_⟩
  · rfl
  · exact (outlines_read_in_time _ ⟨3, by decide, by decide⟩ (.node 2) reading meddling 0 rfl).ended
      (j := 3) rfl rfl (by decide) (by decide)

end ElementLocator.LiveTree
