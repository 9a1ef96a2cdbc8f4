import Mathlib.Data.List.Basic
import ElementLocator.Proofs.OutlineText

/-! # Outlines call by call

    An outline in progress answers one call after the other, and every call may find another
    tree. Here it is told without its stack: as a walk of the nodes (`Outline.visits`), where each
    node is read through the backend of one call, and where the call of a node follows from the
    lines of those before it.

    * `Cursor.remaining_step` — a call answers the first of the answers that remain, and leaves the
      others;
    * `Cursor.getElem?_answers` — a run of calls is answered from the walk, and then with the end;
    * `consecutive_visits` — the answers for a node come in the call that reads it and right after;
    * `visits_congr`, `Cursor.answers_congr` — nothing matters but what is read for each node in its
      call;
    * `Cursor.told_answers` — where the backend stays the same, a run to the end gives the lines of the
      outline as a whole, and ends like it. -/

namespace ElementLocator.Outline

variable {ν α β : Type}

-- ── visits ────────────────────────────────────────────────────────────────

/-- Reads a node unless it is too deep. -/
def readWithin (access : TreeAccess ν) (limit depth : Nat) (node : ν) : Task ν (List String × List ν) :=
  if limit < depth then tooDeep limit else readNode access depth node

/-- A node as an outline in progress comes to it: the call in which it is read, where it stands, and
    what the reading answers. -/
structure Visit (ν : Type) where
  call : Nat
  depth : Nat
  node : ν
  reading : Task ν (List String × List ν)

namespace Visit

/-- The visit of a node in a call that finds a backend. -/
def of (access : TreeAccess ν) (limit depth call : Nat) (node : ν) : Visit ν :=
  ⟨call, depth, node, readWithin access limit depth node⟩

/-- The lines of the node; none if it could not be read. -/
def lines (v : Visit ν) : List String :=
  match v.reading.outcome with
  | .ok (lines, _) => lines
  | .error _ => []

/-- The children that the node had when it was read. -/
def children (v : Visit ν) : List ν :=
  match v.reading.outcome with
  | .ok (_, children) => children
  | .error _ => []

/-- Whether the node could not be read. -/
def fails (v : Visit ν) : Bool := v.reading.fault?.isSome

/-- What calls answer for the node: its first line with all that was noted while the node was read,
    then its other lines without notes; or else the failure. -/
def answers (v : Visit ν) : List (Task ν Step) :=
  match v.reading.outcome with
  | .error f => [⟨v.reading.notes, .error f⟩]
  | .ok ([], _) => [⟨v.reading.notes, .ok .exhausted⟩]
  | .ok (first :: rest, _) => ⟨v.reading.notes, .ok (.line first)⟩ :: rest.map fun s => Report.ok (.line s)

end Visit

/-- What calls answer for several nodes. -/
def answersOf (vs : List (Visit ν)) : List (Task ν Step) := vs.flatMap Visit.answers

/-- Visits, and those that come after them unless one has failed. Later visits start with the call
    after the last answer. -/
def followedBy (call : Nat) (seen : List (Visit ν)) (later : Nat → List (Visit ν)) : List (Visit ν) :=
  seen ++ if seen.any Visit.fails then [] else later (call + (answersOf seen).length)

/-- The visits for several items in order. -/
def visitsEach (visit : Nat → α → List (Visit ν)) : (call : Nat) → List α → List (Visit ν)
  | _, [] => []
  | call, a :: rest => followedBy call (visit call a) fun call => visitsEach visit call rest

/-- The visits of a node and of all below it, where calls find the backends of `moment`. The node is
    read first; then come the children that it had at that moment. `levels` is the number of levels
    that may still be entered. -/
def visits (moment : Nat → TreeAccess ν) (limit : Nat) : (levels depth call : Nat) → ν → List (Visit ν)
  | 0, depth, call, node => [.of (moment call) limit depth call node]
  | levels + 1, depth, call, node =>
    let v := Visit.of (moment call) limit depth call node
    followedBy call [v] fun call => visitsEach (visits moment limit levels (depth + 1)) call v.children

/-- The visits of nodes that wait with their depths. -/
def visitsAgenda (moment : Nat → TreeAccess ν) (limit : Nat) (call : Nat) (agenda : List (Nat × ν)) :
    List (Visit ν) :=
  visitsEach (fun call item => visits moment limit (limit + 1 - item.1) item.1 call item.2) call agenda

namespace Cursor

/-- The answers that are still to come, from a call on. -/
def remaining (moment : Nat → TreeAccess ν) (standard : Except Failure DepthLimit) (call : Nat) :
    Cursor ν → List (Task ν Step)
  | .finished => []
  | .fresh asked root =>
    match DepthLimit.choose asked standard with
    | .error f => [Report.fail f]
    | .ok limit => answersOf (visits moment limit.levels (limit.levels + 1) 0 call root)
  | .running limit lines agenda =>
    lines.map (fun s => Report.ok (.line s)) ++
      answersOf (visitsAgenda moment limit (call + lines.length) agenda)

/-- The answers of an outline in progress to calls that find one backend each. -/
def answers (standard : Except Failure DepthLimit) : List (TreeAccess ν) → Cursor ν → List (Task ν Step)
  | [], _ => []
  | access :: rest, c => (c.next access standard).1 :: answers standard rest (c.next access standard).2

end Cursor

-- ── answers for a node ────────────────────────────────────────────────────

section Reading

variable {access : TreeAccess ν} {limit depth call : Nat} {node : ν}

theorem readWithin_of_le (h : depth ≤ limit) :
    readWithin access limit depth node = readNode access depth node := if_neg (Nat.not_lt.mpr h)

theorem readWithin_of_lt (h : limit < depth) : readWithin access limit depth node = tooDeep limit := if_pos h

theorem placed_ne_nil {ls : List String} (h : ls ≠ []) (depth : Nat) : placed depth ls ≠ [] := by
  cases ls with
  | nil => exact absurd rfl h
  | cons first rest => exact List.cons_ne_nil _ _

/-- A node that can be read has a first line. -/
theorem exists_cons_of_readWithin {lines : List String} {children : List ν}
    (h : (readWithin access limit depth node).outcome = .ok (lines, children)) :
    ∃ first rest, lines = first :: rest := by
  by_cases hdepth : limit < depth
  · rw [readWithin_of_lt hdepth] at h
    cases h
  · rw [readWithin_of_le (Nat.not_lt.mp hdepth), readNode] at h
    obtain ⟨a, -, h⟩ := Report.outcome_bind_eq_ok h
    obtain ⟨cs, -, h⟩ := Report.outcome_bind_eq_ok h
    obtain ⟨rfl, -⟩ := Prod.mk.inj (Except.ok.inj h)
    exact List.exists_cons_of_ne_nil (placed_ne_nil (ownLines_ne_nil _ _) depth)

/-- A visit fails with one answer, or gives its lines one by one. -/
theorem Visit.of_cases (access : TreeAccess ν) (limit depth call : Nat) (node : ν) :
    (∃ f, (Visit.of access limit depth call node).reading.outcome = .error f ∧
      (Visit.of access limit depth call node).answers =
        [⟨(readWithin access limit depth node).notes, .error f⟩]) ∨
    ∃ first rest children,
      (Visit.of access limit depth call node).reading.outcome = .ok (first :: rest, children) ∧
        (Visit.of access limit depth call node).answers =
          ⟨(readWithin access limit depth node).notes, .ok (.line first)⟩ ::
            rest.map fun s => Report.ok (.line s) := by
  cases h : (readWithin access limit depth node).outcome with
  | error f =>
      have hreading : (Visit.of access limit depth call node).reading.outcome = .error f := h
      refine Or.inl ⟨f, hreading, ?_⟩
      rw [Visit.answers, hreading]
      rfl
  | ok r =>
      obtain ⟨lines, children⟩ := r
      obtain ⟨first, rest, rfl⟩ := exists_cons_of_readWithin h
      have hreading : (Visit.of access limit depth call node).reading.outcome =
        .ok (first :: rest, children) := h
      refine Or.inr ⟨first, rest, children, hreading, ?_⟩
      rw [Visit.answers, hreading]
      rfl

end Reading

-- ── visits one after the other ────────────────────────────────────────────

theorem answersOf_cons (v : Visit ν) (vs : List (Visit ν)) : answersOf (v :: vs) = v.answers ++ answersOf vs :=
  List.flatMap_cons

theorem answersOf_append (vs ws : List (Visit ν)) : answersOf (vs ++ ws) = answersOf vs ++ answersOf ws :=
  List.flatMap_append

theorem followedBy_of_fails {call : Nat} {seen : List (Visit ν)} (h : seen.any Visit.fails = true)
    (later : Nat → List (Visit ν)) : followedBy call seen later = seen := by
  rw [followedBy, if_pos h, List.append_nil]

theorem followedBy_of_goes {call : Nat} {seen : List (Visit ν)} (h : seen.any Visit.fails = false)
    (later : Nat → List (Visit ν)) :
    followedBy call seen later = seen ++ later (call + (answersOf seen).length) := by
  rw [followedBy, h, if_neg Bool.false_ne_true]

/-- A node that could not be read is the last one. -/
theorem followedBy_of_error {call : Nat} {v : Visit ν} {f : Failure} (h : v.reading.outcome = .error f)
    (later : Nat → List (Visit ν)) : followedBy call [v] later = [v] := by
  refine followedBy_of_fails ?_ later
  rw [List.any_cons, Visit.fails, Report.fault?_eq_some_iff.mpr h]
  rfl

/-- After a node that could be read come others, from the call after its last line. -/
theorem followedBy_of_ok {call : Nat} {v : Visit ν} {r : List String × List ν} (h : v.reading.outcome = .ok r)
    (later : Nat → List (Visit ν)) : followedBy call [v] later = v :: later (call + v.answers.length) := by
  have hgoes : [v].any Visit.fails = false := by
    rw [List.any_cons, Visit.fails, Report.fault?_of_ok h]
    rfl
  rw [followedBy_of_goes hgoes, answersOf, List.flatMap_singleton]
  rfl

theorem followedBy_nil (call : Nat) (seen : List (Visit ν)) : followedBy call seen (fun _ => []) = seen := by
  rw [followedBy, ite_self, List.append_nil]

theorem followedBy_assoc (call : Nat) (seen : List (Visit ν)) (next last : Nat → List (Visit ν)) :
    followedBy call (followedBy call seen next) last =
      followedBy call seen fun call => followedBy call (next call) last := by
  cases h : seen.any Visit.fails with
  | true => rw [followedBy_of_fails h, followedBy_of_fails h, followedBy_of_fails h]
  | false =>
      rw [followedBy_of_goes h, followedBy_of_goes h]
      simp only [followedBy]
      rw [List.any_append, h, Bool.false_or, answersOf_append, List.length_append, ← Nat.add_assoc,
        List.append_assoc]

theorem visitsEach_append (visit : Nat → α → List (Visit ν)) (call : Nat) (xs ys : List α) :
    visitsEach visit call (xs ++ ys) =
      followedBy call (visitsEach visit call xs) fun call => visitsEach visit call ys := by
  induction xs generalizing call with
  | nil => rfl
  | cons x xs ih =>
      rw [List.cons_append, visitsEach, visitsEach, followedBy_assoc]
      simp only [ih]

theorem visitsEach_map (visit : Nat → β → List (Visit ν)) (f : α → β) (call : Nat) (xs : List α) :
    visitsEach visit call (xs.map f) = visitsEach (fun call a => visit call (f a)) call xs := by
  induction xs generalizing call with
  | nil => rfl
  | cons x xs ih =>
      rw [List.map_cons, visitsEach, visitsEach]
      simp only [ih]

-- ── one call ──────────────────────────────────────────────────────────────

section Calls

variable {moment : Nat → TreeAccess ν} {standard : Except Failure DepthLimit} {limit call depth : Nat}
  {node : ν}

/-- The visits of the nodes that wait: those of the first one, and then of the others. -/
theorem visitsAgenda_cons (moment : Nat → TreeAccess ν) (limit call : Nat) (item : Nat × ν)
    (later : List (Nat × ν)) :
    visitsAgenda moment limit call (item :: later) =
      followedBy call (visits moment limit (limit + 1 - item.1) item.1 call item.2)
        fun call => visitsAgenda moment limit call later := rfl

/-- A node that is read makes way for its children, which go before all that waits. -/
theorem visitsAgenda_node (moment : Nat → TreeAccess ν) (limit call depth : Nat) (node : ν)
    (later : List (Nat × ν)) :
    visitsAgenda moment limit call ((depth, node) :: later) =
      followedBy call [Visit.of (moment call) limit depth call node] fun next =>
        visitsAgenda moment limit next
          ((Visit.of (moment call) limit depth call node).children.map (depth + 1, ·) ++ later) := by
  rw [visitsAgenda_cons]
  by_cases hdepth : limit < depth
  · have hlevels : limit + 1 - depth = 0 := by omega
    have herror : (Visit.of (moment call) limit depth call node).reading.outcome =
        .error (.error ⟨.tooDeep limit, []⟩) := congrArg Report.outcome (readWithin_of_lt hdepth)
    dsimp only
    rw [hlevels, visits, followedBy_of_error herror, followedBy_of_error herror]
  · have hlevels : limit + 1 - depth = limit - depth + 1 := by omega
    dsimp only
    rw [hlevels, visits, followedBy_assoc]
    congr 1
    funext next
    have happend := visitsEach_append
      (fun call (item : Nat × ν) => visits moment limit (limit + 1 - item.1) item.1 call item.2) next
      ((Visit.of (moment call) limit depth call node).children.map (depth + 1, ·)) later
    rw [visitsEach_map] at happend
    simp only [Nat.add_sub_add_right] at happend
    exact happend.symm

/-- The step of an outline that has no lines left reads the next node, if it is not too deep. -/
theorem step_node (access : TreeAccess ν) (limit depth : Nat) (node : ν) (later : List (Nat × ν)) :
    Cursor.step access limit [] ((depth, node) :: later) =
      (readWithin access limit depth node >>= fun r =>
        match r.1 with
        | [] => Report.ok (.exhausted, .finished)
        | s :: rest => Report.ok (.line s, .running limit rest (r.2.map (depth + 1, ·) ++ later))) := by
  rw [Cursor.step, readWithin]
  split
  · rfl
  · rfl

namespace Cursor

theorem remaining_running (moment : Nat → TreeAccess ν) (standard : Except Failure DepthLimit)
    (limit call : Nat) (lines : List String) (agenda : List (Nat × ν)) :
    remaining moment standard call (.running limit lines agenda) =
      lines.map (fun s => Report.ok (.line s)) ++
        answersOf (visitsAgenda moment limit (call + lines.length) agenda) := rfl

theorem conclude_of_error {r : Task ν (Step × Cursor ν)} {f : Failure} (h : r.outcome = .error f) :
    next.conclude r = (⟨r.notes, .error f⟩, .finished) := by
  rw [next.conclude, h]

theorem conclude_of_ok {r : Task ν (Step × Cursor ν)} {s : Step} {c : Cursor ν} (h : r.outcome = .ok (s, c)) :
    next.conclude r = (⟨r.notes, .ok s⟩, c) := by
  rw [next.conclude, h]

/-- **THE STEP OF AN OUTLINE** that reads a node: the answer is the first line of the node or its
    failure, and what remains is the rest of the node, its children and all that waited. -/
theorem remaining_node (moment : Nat → TreeAccess ν) (standard : Except Failure DepthLimit)
    (limit call depth : Nat) (node : ν) (later : List (Nat × ν)) :
    answersOf (visitsAgenda moment limit call ((depth, node) :: later)) =
      (next.conclude (step (moment call) limit [] ((depth, node) :: later))).1 ::
        remaining moment standard (call + 1)
          (next.conclude (step (moment call) limit [] ((depth, node) :: later))).2 := by
  rw [visitsAgenda_node, step_node]
  rcases Visit.of_cases (moment call) limit depth call node with
    ⟨f, hreading, hanswers⟩ | ⟨first, rest, children, hreading, hanswers⟩
  · have herror : (readWithin (moment call) limit depth node).outcome = .error f := hreading
    rw [followedBy_of_error hreading, answersOf_cons, hanswers,
      conclude_of_error (Report.outcome_bind_of_error herror _), Report.notes_bind, herror, List.append_nil]
    rfl
  · have hok : (readWithin (moment call) limit depth node).outcome = .ok (first :: rest, children) := hreading
    have hchildren : (Visit.of (moment call) limit depth call node).children = children := by
      rw [Visit.children, hreading]
    have hnext : call + (Visit.of (moment call) limit depth call node).answers.length =
        call + 1 + rest.length := by
      rw [hanswers, List.length_cons, List.length_map]
      omega
    rw [followedBy_of_ok hreading, hnext, hchildren, answersOf_cons, hanswers, List.cons_append,
      conclude_of_ok (Report.outcome_bind_of_ok hok _), Report.notes_bind, hok]
    dsimp only
    rw [remaining_running]
    exact congrArg (fun notes => (⟨notes, .ok (.line first)⟩ : Task ν Step) :: _) (List.append_nil _).symm

/-- **A CALL TAKES ONE ANSWER** off those that remain; once there are none, it answers that the
    outline is at its end. -/
theorem remaining_step (moment : Nat → TreeAccess ν) (standard : Except Failure DepthLimit) (call : Nat)
    (c : Cursor ν) :
    (remaining moment standard call c = [] ∧
        c.next (moment call) standard = (Report.ok .exhausted, .finished)) ∨
      remaining moment standard call c =
        (c.next (moment call) standard).1 ::
          remaining moment standard (call + 1) (c.next (moment call) standard).2 := by
  cases c with
  | finished => exact Or.inl ⟨rfl, rfl⟩
  | fresh asked root =>
      refine Or.inr ?_
      rw [remaining, next]
      cases DepthLimit.choose asked standard with
      | error f => rfl
      | ok limit =>
          dsimp only
          rw [← remaining_node moment standard, visitsAgenda_cons]
          exact congrArg answersOf (followedBy_nil call _).symm
  | running limit lines agenda =>
      cases lines with
      | cons s rest =>
          refine Or.inr ?_
          rw [remaining_running, List.length_cons, Nat.add_comm rest.length, ← Nat.add_assoc]
          rfl
      | nil =>
          cases agenda with
          | nil => exact Or.inl ⟨rfl, rfl⟩
          | cons item later => exact Or.inr (remaining_node moment standard limit call item.1 item.2 later)

-- ── a run of calls ────────────────────────────────────────────────────────

/-- Calls from one on find these backends. -/
def Finds (moment : Nat → TreeAccess ν) (call : Nat) (accesses : List (TreeAccess ν)) : Prop :=
  ∀ k access, accesses[k]? = some access → moment (call + k) = access

theorem Finds.now {access : TreeAccess ν} {rest : List (TreeAccess ν)}
    (h : Finds moment call (access :: rest)) : moment call = access := h 0 access rfl

theorem Finds.later {access : TreeAccess ν} {rest : List (TreeAccess ν)}
    (h : Finds moment call (access :: rest)) : Finds moment (call + 1) rest := by
  intro k other hk
  rw [Nat.add_assoc, Nat.add_comm 1]
  exact h (k + 1) other hk

theorem answers_finished (standard : Except Failure DepthLimit) (accesses : List (TreeAccess ν)) :
    answers standard accesses .finished = List.replicate accesses.length (Report.ok .exhausted) := by
  induction accesses with
  | nil => rfl
  | cons access rest ih =>
      rw [answers, List.length_cons, List.replicate_succ, ← ih]
      rfl

/-- **A RUN OF CALLS** is answered from what remains, and then with the end. The induction takes the
    calls one by one; what remains after each is what remained before, less its answer. -/
theorem getElem?_answers (standard : Except Failure DepthLimit) {accesses : List (TreeAccess ν)}
    (h : Finds moment call accesses) (c : Cursor ν) {k : Nat} (hk : k < accesses.length) :
    (c.answers standard accesses)[k]? =
      some ((c.remaining moment standard call)[k]?.getD (Report.ok .exhausted)) := by
  induction accesses generalizing call c k with
  | nil => exact nomatch hk
  | cons access rest ih =>
      rw [answers]
      cases k with
      | zero =>
          rcases remaining_step moment standard call c with ⟨hnone, hnext⟩ | hsome
          · rw [← h.now, hnone, hnext]
            rfl
          · rw [← h.now, hsome]
            rfl
      | succ k =>
          rw [List.getElem?_cons_succ, ih h.later _ (Nat.lt_of_succ_lt_succ hk)]
          rcases remaining_step moment standard call c with ⟨hnone, hnext⟩ | hsome
          · rw [← h.now, hnone, hnext]
            rfl
          · rw [← h.now, hsome, List.getElem?_cons_succ]

/-- A run that reaches the end has given all that remained. -/
theorem exists_answers_eq {accesses : List (TreeAccess ν)} (h : Finds moment call accesses) {c : Cursor ν}
    (hend : Report.ok .exhausted ∈ c.answers standard accesses)
    (hremaining : Report.ok .exhausted ∉ c.remaining moment standard call) :
    ∃ n, c.answers standard accesses =
      c.remaining moment standard call ++ List.replicate n (Report.ok .exhausted) := by
  induction accesses generalizing call c with
  | nil => exact nomatch hend
  | cons access rest ih =>
      rw [answers] at hend ⊢
      rcases remaining_step moment standard call c with ⟨hnone, hnext⟩ | hsome
      · rw [h.now] at hnext
        refine ⟨rest.length + 1, ?_⟩
        rw [hnone, hnext, answers_finished]
        rfl
      · rw [h.now] at hsome
        rw [hsome, List.mem_cons, not_or] at hremaining
        rcases List.mem_cons.mp hend with hend | hend
        · exact absurd hend hremaining.1
        · obtain ⟨n, hn⟩ := ih h.later hend hremaining.2
          exact ⟨n, by rw [hsome, hn, List.cons_append]⟩

/-- An outline that answers a failure is at its end. -/
theorem next_of_error {access : TreeAccess ν} {c : Cursor ν} {f : Failure}
    (h : (c.next access standard).1.outcome = .error f) : (c.next access standard).2 = .finished := by
  have hconclude (r : Task ν (Step × Cursor ν)) (hr : (next.conclude r).1.outcome = .error f) :
      (next.conclude r).2 = .finished := by
    cases ho : r.outcome with
    | error g => rw [conclude_of_error ho]
    | ok a =>
        rw [conclude_of_ok ho] at hr
        cases hr
  cases c with
  | finished => rfl
  | running limit lines agenda => exact hconclude _ h
  | fresh asked root =>
      rw [next] at h ⊢
      cases hlimit : DepthLimit.choose asked standard with
      | error g => rfl
      | ok limit =>
          rw [hlimit] at h
          exact hconclude _ h

/-- **AFTER A FAILURE** every call answers that the outline is at its end. -/
theorem getElem?_answers_of_error {accesses : List (TreeAccess ν)} {c : Cursor ν} {j k : Nat}
    {a : Task ν Step} {f : Failure} (hj : (c.answers standard accesses)[j]? = some a)
    (ha : a.outcome = .error f) (hjk : j < k) (hk : k < accesses.length) :
    (c.answers standard accesses)[k]? = some (Report.ok .exhausted) := by
  induction accesses generalizing c j k with
  | nil => exact nomatch hk
  | cons access rest ih =>
      rw [answers] at hj ⊢
      cases k with
      | zero => exact nomatch hjk
      | succ k =>
          rw [List.getElem?_cons_succ]
          have hk := Nat.lt_of_succ_lt_succ hk
          cases j with
          | zero =>
              rw [← Option.some.inj hj] at ha
              rw [next_of_error ha, answers_finished, List.getElem?_replicate, if_pos hk]
          | succ j => exact ih hj (Nat.lt_of_succ_lt_succ hjk) hk

end Cursor

-- ── what visits are like ──────────────────────────────────────────────────

theorem mem_followedBy {seen : List (Visit ν)} {later : Nat → List (Visit ν)} {v : Visit ν}
    (h : v ∈ followedBy call seen later) : v ∈ seen ∨ ∃ call, v ∈ later call := by
  rw [followedBy, List.mem_append] at h
  rcases h with h | h
  · exact Or.inl h
  · split at h
    · cases h
    · exact Or.inr ⟨_, h⟩

theorem exists_of_mem_visitsEach {visit : Nat → α → List (Visit ν)} {items : List α} {v : Visit ν}
    (h : v ∈ visitsEach visit call items) : ∃ a ∈ items, ∃ call, v ∈ visit call a := by
  induction items generalizing call with
  | nil => exact nomatch h
  | cons a rest ih =>
      rw [visitsEach] at h
      rcases mem_followedBy h with h | ⟨next, h⟩
      · exact ⟨a, List.mem_cons_self, call, h⟩
      · obtain ⟨b, hb, hv⟩ := ih h
        exact ⟨b, List.mem_cons_of_mem a hb, hv⟩

/-- **A NODE IS READ IN ITS CALL**: what is read is what that call finds. -/
theorem eq_of_mem_visits {levels : Nat} {v : Visit ν} (h : v ∈ visits moment limit levels depth call node) :
    v = Visit.of (moment v.call) limit v.depth v.call v.node := by
  induction levels generalizing depth call node with
  | zero =>
      obtain rfl := List.mem_singleton.mp h
      rfl
  | succ levels ih =>
      rw [visits] at h
      rcases mem_followedBy h with h | ⟨next, h⟩
      · obtain rfl := List.mem_singleton.mp h
        rfl
      · obtain ⟨child, -, start, hv⟩ := exists_of_mem_visitsEach h
        exact ih hv

/-- Visits whose answers fill the calls from one on: each starts where the one before it ends. -/
def Consecutive : (call : Nat) → List (Visit ν) → Prop
  | _, [] => True
  | call, v :: rest => v.call = call ∧ Consecutive (call + v.answers.length) rest

theorem Consecutive.append {vs ws : List (Visit ν)} (hvs : Consecutive call vs)
    (hws : Consecutive (call + (answersOf vs).length) ws) : Consecutive call (vs ++ ws) := by
  induction vs generalizing call with
  | nil => exact hws
  | cons v rest ih =>
      refine ⟨hvs.1, ih hvs.2 ?_⟩
      rw [answersOf_cons, List.length_append, ← Nat.add_assoc] at hws
      exact hws

theorem Consecutive.followedBy {seen : List (Visit ν)} {later : Nat → List (Visit ν)}
    (hseen : Consecutive call seen) (hlater : ∀ call, Consecutive call (later call)) :
    Consecutive call (followedBy call seen later) := by
  cases h : seen.any Visit.fails with
  | true =>
      rw [followedBy_of_fails h]
      exact hseen
  | false =>
      rw [followedBy_of_goes h]
      exact hseen.append (hlater _)

theorem Consecutive.each {visit : Nat → α → List (Visit ν)} (h : ∀ call a, Consecutive call (visit call a))
    (call : Nat) (items : List α) : Consecutive call (visitsEach visit call items) := by
  induction items generalizing call with
  | nil => trivial
  | cons a rest ih => exact (h call a).followedBy ih

/-- **THE ANSWERS OF A WALK** fill the calls without gaps. -/
theorem consecutive_visits (moment : Nat → TreeAccess ν) (limit levels depth call : Nat) (node : ν) :
    Consecutive call (visits moment limit levels depth call node) := by
  induction levels generalizing depth call node with
  | zero => exact ⟨rfl, trivial⟩
  | succ levels ih =>
      have hnode : Consecutive call [Visit.of (moment call) limit depth call node] := ⟨rfl, trivial⟩
      exact hnode.followedBy fun call => Consecutive.each (fun call => ih (depth + 1) call) call _

/-- The answers for a node come in its call and in those right after. -/
theorem Consecutive.getElem?_answersOf {vs : List (Visit ν)} {v : Visit ν} {j : Nat} {a : Task ν Step}
    (h : Consecutive call vs) (hv : v ∈ vs) (ha : v.answers[j]? = some a) :
    ∃ k, v.call = call + k ∧ (answersOf vs)[k + j]? = some a := by
  induction vs generalizing call with
  | nil => exact nomatch hv
  | cons w rest ih =>
      rw [answersOf_cons]
      rcases List.mem_cons.mp hv with rfl | hv
      · refine ⟨0, h.1, ?_⟩
        rw [Nat.zero_add, List.getElem?_append_left (List.getElem?_eq_some_iff.mp ha).1, ha]
      · obtain ⟨k, hk, hanswer⟩ := ih h.2 hv
        refine ⟨w.answers.length + k, by rw [hk, Nat.add_assoc], ?_⟩
        rw [Nat.add_assoc, List.getElem?_append_right (Nat.le_add_right _ _), Nat.add_sub_cancel_left,
          hanswer]

-- ── walks that read alike ─────────────────────────────────────────────────

theorem followedBy_congr {seen : List (Visit ν)} {later other : Nat → List (Visit ν)}
    (h : ∀ start, followedBy call seen later = seen ++ later start → later start = other start) :
    followedBy call seen later = followedBy call seen other := by
  cases hfails : seen.any Visit.fails with
  | true => rw [followedBy_of_fails hfails, followedBy_of_fails hfails]
  | false =>
      rw [followedBy_of_goes hfails, followedBy_of_goes hfails, h _ (followedBy_of_goes hfails later)]

theorem visitsEach_congr {visit other : Nat → α → List (Visit ν)} {P : Visit ν → Prop} {items : List α}
    (h : ∀ call a, (∀ v ∈ visit call a, P v) → visit call a = other call a)
    (hP : ∀ v ∈ visitsEach visit call items, P v) :
    visitsEach visit call items = visitsEach other call items := by
  induction items generalizing call with
  | nil => rfl
  | cons a rest ih =>
      rw [visitsEach] at hP ⊢
      have hfirst : visit call a = other call a :=
        h call a fun v hv => hP v (by rw [followedBy]; exact List.mem_append_left _ hv)
      rw [visitsEach, ← hfirst]
      refine followedBy_congr fun start hstart => ih fun v hv => hP v ?_
      rw [hstart]
      exact List.mem_append_right _ hv

/-- **WALKS THAT READ ALIKE ARE ALIKE**: a walk depends on nothing but what is read for each of its
    nodes in the call of the node. -/
theorem visits_congr {other : Nat → TreeAccess ν} {levels : Nat}
    (h : ∀ v ∈ visits moment limit levels depth call node,
      readWithin (other v.call) limit v.depth v.node = readWithin (moment v.call) limit v.depth v.node) :
    visits moment limit levels depth call node = visits other limit levels depth call node := by
  induction levels generalizing depth call node with
  | zero =>
      have hnode := h (Visit.of (moment call) limit depth call node) (List.mem_singleton_self _)
      rw [visits, visits]
      exact congrArg (fun reading => [Visit.mk call depth node reading]) hnode.symm
  | succ levels ih =>
      have hnode := h (Visit.of (moment call) limit depth call node)
        (List.mem_append_left _ (List.mem_singleton_self _))
      have hsame : Visit.of (moment call) limit depth call node =
          Visit.of (other call) limit depth call node := congrArg (Visit.mk call depth node) hnode.symm
      rw [visits] at h ⊢
      rw [visits, ← hsame]
      refine followedBy_congr fun start hstart =>
        visitsEach_congr (fun call child hchild => ih hchild) fun v hv => h v ?_
      rw [hstart]
      exact List.mem_append_right _ hv

end Calls

-- ── walks with one backend ────────────────────────────────────────────────

/-- What is noted for a node while an outline is written: what its reading notes, and its lines. -/
def Visit.notes (v : Visit ν) : List (Note ν) := v.reading.notes ++ v.lines.map .line

/-- A task that makes the notes of visits and ends in the first of their faults. -/
structure Runs (x : Task ν Unit) (vs : List (Visit ν)) : Prop where
  notes : x.notes = vs.flatMap Visit.notes
  fault : x.fault? = vs.findSome? fun v => v.reading.fault?

theorem Runs.followedBy {x y : Task ν Unit} {seen : List (Visit ν)} {later : Nat → List (Visit ν)}
    (hx : Runs x seen) (hy : ∀ call, Runs y (later call)) (call : Nat) :
    Runs (x >>= fun _ => y) (followedBy call seen later) := by
  cases hfault : x.fault? with
  | some f =>
      have hfails : seen.any Visit.fails = true := by
        rw [hx.fault] at hfault
        obtain ⟨v, hv, hf⟩ := List.exists_of_findSome?_eq_some hfault
        exact List.any_eq_true.mpr ⟨v, hv, by rw [Visit.fails, hf]; rfl⟩
      rw [followedBy_of_fails hfails]
      refine ⟨?_, ?_⟩
      · rw [Report.notes_bind, Report.fault?_eq_some_iff.mp hfault, ← hx.notes]
        exact List.append_nil _
      · rw [Report.fault?_bind_of_fault hfault, ← hx.fault, hfault]
  | none =>
      obtain ⟨u, hok⟩ := Report.fault?_eq_none_iff.mp hfault
      have hgoes : seen.any Visit.fails = false := by
        rw [hx.fault, List.findSome?_eq_none_iff] at hfault
        refine List.any_eq_false.mpr fun v hv => ?_
        rw [Visit.fails, hfault v hv]
        exact Bool.false_ne_true
      rw [followedBy_of_goes hgoes]
      refine ⟨?_, ?_⟩
      · rw [Report.notes_bind, hok, List.flatMap_append, hx.notes, (hy _).notes]
      · rw [Report.fault?_bind_of_ok hok, List.findSome?_append, ← hx.fault, hfault, (hy _).fault]
        rfl

theorem Runs.each {f : α → Task ν Unit} {visit : Nat → α → List (Visit ν)}
    (h : ∀ call a, Runs (f a) (visit call a)) (call : Nat) (items : List α) :
    Runs (Report.each f items) (visitsEach visit call items) := by
  induction items generalizing call with
  | nil => exact ⟨rfl, rfl⟩
  | cons a rest ih => exact (h call a).followedBy ih call

/-- The task that a visit is by itself. -/
def Visit.task (v : Visit ν) : Task ν Unit := ⟨v.notes, v.reading.outcome.map fun _ => ()⟩

theorem Visit.runs (v : Visit ν) : Runs v.task [v] := by
  refine ⟨(List.flatMap_singleton _ _).symm, ?_⟩
  rw [List.findSome?_cons, Visit.task, Report.fault?, Report.fault?]
  cases v.reading.outcome <;> rfl

section Backend

variable {access : TreeAccess ν} {limit depth call : Nat} {node : ν}

/-- An outline that may enter a node visits it, and writes the outlines of its children. -/
theorem write_succ (h : depth ≤ limit) (levels call : Nat) :
    write access limit (levels + 1) depth node =
      ((Visit.of access limit depth call node).task >>= fun _ =>
        Report.each (write access limit levels (depth + 1)) (Visit.of access limit depth call node).children) := by
  rw [write, ← readWithin_of_le h]
  simp only [Visit.of, Visit.task, Visit.notes, Visit.lines, Visit.children]
  generalize readWithin access limit depth node = reading
  obtain ⟨notes, outcome⟩ := reading
  cases outcome with
  | error f => exact congrArg (fun notes => (⟨notes, .error f⟩ : Task ν Unit)) (List.append_nil notes).symm
  | ok r =>
      obtain ⟨lines, children⟩ := r
      have hlines : (Report.each (fun s => (Report.note (.line s) : Task ν Unit)) lines >>= fun _ =>
            Report.each (write access limit levels (depth + 1)) children) =
          ⟨lines.map .line ++ (Report.each (write access limit levels (depth + 1)) children).notes,
            (Report.each (write access limit levels (depth + 1)) children).outcome⟩ := by
        rw [each_line]
        rfl
      show (⟨notes ++ (_ >>= fun _ => _ : Task ν Unit).notes, (_ >>= fun _ => _ : Task ν Unit).outcome⟩ :
        Task ν Unit) = _
      rw [hlines, ← List.append_assoc]
      rfl

/-- **AN OUTLINE IS A WALK** in which every call finds the same backend. -/
theorem runs_write (access : TreeAccess ν) {levels : Nat} (h : depth + levels = limit + 1) (call : Nat)
    (node : ν) :
    Runs (write access limit levels depth node) (visits (fun _ => access) limit levels depth call node) := by
  induction levels generalizing depth call node with
  | zero =>
      have htask : (Visit.of access limit depth call node).task = tooDeep limit := by
        rw [Visit.task, Visit.notes, Visit.lines, Visit.of, readWithin_of_lt (by omega)]
        rfl
      rw [write, visits, ← htask]
      exact Visit.runs _
  | succ levels ih =>
      rw [write_succ (by omega) levels call, visits]
      exact (Visit.runs _).followedBy (fun call => Runs.each (fun call child => ih (by omega) call child) call _)
        call

end Backend

-- ── what answers tell ─────────────────────────────────────────────────────

/-- The lines that answers give. -/
def told (answers : List (Task ν Step)) : List String :=
  answers.filterMap fun a => match a.outcome with
    | .ok (.line s) => some s
    | _ => none

theorem told_append (as bs : List (Task ν Step)) : told (as ++ bs) = told as ++ told bs :=
  List.filterMap_append

theorem told_lines (ls : List String) : told (ls.map fun s => (Report.ok (.line s) : Task ν Step)) = ls := by
  rw [told, List.filterMap_map]
  exact List.filterMap_some

/-- The answers for a node give its lines, end in its failure, and never say that the outline is at
    its end. -/
theorem answers_of (access : TreeAccess ν) (limit depth call : Nat) (node : ν) :
    told (Visit.of access limit depth call node).answers = (Visit.of access limit depth call node).lines ∧
      (Visit.of access limit depth call node).answers.findSome? Report.fault? =
        (Visit.of access limit depth call node).reading.fault? ∧
      Report.ok .exhausted ∉ (Visit.of access limit depth call node).answers := by
  rcases Visit.of_cases access limit depth call node with
    ⟨f, hreading, hanswers⟩ | ⟨first, rest, children, hreading, hanswers⟩
  · rw [hanswers, Visit.lines, hreading, Report.fault?_eq_some_iff.mpr hreading]
    refine ⟨rfl, rfl, fun h => ?_⟩
    exact nomatch congrArg Report.outcome (List.mem_singleton.mp h)
  · rw [hanswers, Visit.lines, hreading, Report.fault?_of_ok hreading]
    refine ⟨congrArg (first :: ·) (told_lines rest), ?_, fun h => ?_⟩
    · rw [List.findSome?_cons]
      exact List.findSome?_eq_none_iff.mpr fun a ha => by
        obtain ⟨s, -, rfl⟩ := List.mem_map.mp ha
        rfl
    · rcases List.mem_cons.mp h with h | h
      · exact nomatch congrArg Report.outcome h
      · obtain ⟨s, -, hs⟩ := List.mem_map.mp h
        exact nomatch congrArg Report.outcome hs

/-- So do the answers for several nodes. -/
theorem answersOf_of {vs : List (Visit ν)}
    (h : ∀ v ∈ vs, ∃ access limit, v = Visit.of access limit v.depth v.call v.node) :
    told (answersOf vs) = vs.flatMap Visit.lines ∧
      (answersOf vs).findSome? Report.fault? = vs.findSome? (fun v => v.reading.fault?) ∧
      Report.ok .exhausted ∉ answersOf vs := by
  induction vs with
  | nil => exact ⟨rfl, rfl, List.not_mem_nil⟩
  | cons v rest ih =>
      obtain ⟨access, limit, hv⟩ := h v List.mem_cons_self
      obtain ⟨hlines, hfault, hend⟩ := answers_of access limit v.depth v.call v.node
      rw [← hv] at hlines hfault hend
      obtain ⟨hrestLines, hrestFault, hrestEnd⟩ := ih fun w hw => h w (List.mem_cons_of_mem v hw)
      rw [answersOf_cons]
      refine ⟨?_, ?_, ?_⟩
      · rw [told_append, hlines, hrestLines, List.flatMap_cons]
      · rw [List.findSome?_append, hfault, hrestFault, List.findSome?_cons]
        cases v.reading.fault? <;> rfl
      · rw [List.mem_append]
        exact not_or.mpr ⟨hend, hrestEnd⟩

section Drained

variable {access : TreeAccess ν} {limit depth call : Nat} {node : ν}

/-- A backend whose reads finish no lines of their own. -/
def Silent (access : TreeAccess ν) : Prop :=
  ∀ node, finishedLines (access.attributes node).notes = [] ∧ finishedLines (access.children node).notes = []

theorem finishedLines_readWithin (h : Silent access) :
    finishedLines (readWithin access limit depth node).notes = [] := by
  by_cases hdepth : limit < depth
  · rw [readWithin_of_lt hdepth]
    rfl
  · rw [readWithin_of_le (Nat.not_lt.mp hdepth), readNode, Report.notes_bind, finishedLines_append,
      (h node).1, List.nil_append]
    cases (access.attributes node).outcome with
    | error f => rfl
    | ok a =>
        dsimp only
        rw [Report.notes_bind, finishedLines_append, (h node).2, List.nil_append]
        cases (access.children node).outcome <;> rfl

/-- **A WALK WITH ONE BACKEND** tells the lines of the outline and ends in its fault. -/
theorem told_visits (h : Silent access) {levels : Nat} (hlevels : depth + levels = limit + 1) (call : Nat)
    (node : ν) :
    told (answersOf (visits (fun _ => access) limit levels depth call node)) =
        finishedLines (write access limit levels depth node).notes ∧
      (answersOf (visits (fun _ => access) limit levels depth call node)).findSome? Report.fault? =
        (write access limit levels depth node).fault? := by
  have hof (v : Visit ν) (hv : v ∈ visits (fun _ => access) limit levels depth call node) :
      v = Visit.of access limit v.depth v.call v.node := eq_of_mem_visits hv
  obtain ⟨hlines, hfault, -⟩ := answersOf_of fun v hv => ⟨access, limit, hof v hv⟩
  obtain ⟨hnotes, hend⟩ := runs_write access hlevels call node
  refine ⟨?_, by rw [hfault, hend]⟩
  rw [hlines, hnotes, finishedLines, List.filterMap_flatMap]
  refine List.flatMap_congr fun v hv => ?_
  have hreading : finishedLines v.reading.notes = [] := by
    rw [hof v hv]
    exact finishedLines_readWithin h
  rw [Visit.notes, ← finishedLines, finishedLines_append, hreading, finishedLines_map_line, List.nil_append]

/-- How an outline ends that has given lines: in its fault if there was one, or else with the text of
    the lines. -/
def ending (fault : Option Failure) (ls : List String) : Except Failure String :=
  match fault with
  | some f => .error f
  | none => .ok (textOf ls)

theorem outcome_text_eq_ending (access : TreeAccess ν) (limit : DepthLimit) (node : ν) :
    (text access (.ok limit) node).outcome =
      ending (write access limit.levels (limit.levels + 1) 0 node).fault?
        (finishedLines (ofRoot access (.ok limit) node).notes) := by
  show (write access limit.levels (limit.levels + 1) 0 node).outcome.map _ = _
  rw [Report.fault?]
  cases (write access limit.levels (limit.levels + 1) 0 node).outcome <;> rfl

theorem choose_levels (limit : DepthLimit) (standard : Except Failure DepthLimit) :
    DepthLimit.choose (some limit.levels) standard = .ok limit := by
  have hrange : (1 : Int) ≤ limit.levels ∧ (limit.levels : Int) ≤ deepestLimit :=
    ⟨by exact_mod_cast limit.one_le, by exact_mod_cast limit.le_max⟩
  rw [DepthLimit.choose, DepthLimit.ofInt, dif_pos hrange]
  rfl

/-- What remains of an outline that was not asked yet: the answers for all nodes. -/
theorem Cursor.remaining_fresh (moment : Nat → TreeAccess ν) (standard : Except Failure DepthLimit)
    (limit : DepthLimit) (node : ν) :
    Cursor.remaining moment standard call (.fresh (some limit.levels) node) =
      answersOf (visits moment limit.levels (limit.levels + 1) 0 call node) := by
  rw [Cursor.remaining, choose_levels]

/-- **AN OUTLINE DRAINED WITH ONE BACKEND** gives the lines of the outline as a whole, and ends as
    that does. -/
theorem Cursor.told_answers {accesses : List (TreeAccess ν)} (h : Silent access) (limit : DepthLimit)
    (hsame : ∀ other ∈ accesses, other = access) {standard : Except Failure DepthLimit}
    (hend : Report.ok .exhausted ∈ Cursor.answers standard accesses (.fresh (some limit.levels) node)) :
    told (Cursor.answers standard accesses (.fresh (some limit.levels) node)) =
        finishedLines (ofRoot access (.ok limit) node).notes ∧
      (text access (.ok limit) node).outcome =
        ending ((Cursor.answers standard accesses (.fresh (some limit.levels) node)).findSome? Report.fault?)
          (told (Cursor.answers standard accesses (.fresh (some limit.levels) node))) := by
  have hof (v : Visit ν) (hv : v ∈ visits (fun _ => access) limit.levels (limit.levels + 1) 0 0 node) :
      v = Visit.of access limit.levels v.depth v.call v.node := eq_of_mem_visits hv
  obtain ⟨-, -, hnot⟩ := answersOf_of fun v hv => ⟨access, limit.levels, hof v hv⟩
  obtain ⟨hlines, hfault⟩ := told_visits h (Nat.zero_add (limit.levels + 1)) 0 node
  rw [← Cursor.remaining_fresh _ standard] at hnot hlines hfault
  have hfinds : Cursor.Finds (fun _ => access) 0 accesses :=
    fun k other hk => (hsame other (List.mem_of_getElem? hk)).symm
  obtain ⟨n, hn⟩ := Cursor.exists_answers_eq hfinds hend hnot
  have hnone : told (List.replicate n (Report.ok .exhausted : Task ν Step)) = [] :=
    List.filterMap_replicate_of_none rfl
  have hquiet : (List.replicate n (Report.ok .exhausted : Task ν Step)).findSome? Report.fault? = none :=
    List.findSome?_eq_none_iff.mpr fun a ha => by
      rw [List.eq_of_mem_replicate ha]
      rfl
  have htold : told (Cursor.answers standard accesses (.fresh (some limit.levels) node)) =
      finishedLines (ofRoot access (.ok limit) node).notes := by
    rw [hn, told_append, hlines, hnone, List.append_nil]
    rfl
  refine ⟨htold, ?_⟩
  rw [outcome_text_eq_ending, htold, hn, List.findSome?_append, hfault, hquiet, Option.or_none]

end Drained

-- ── runs that read alike ──────────────────────────────────────────────────

theorem Cursor.answers_take (standard : Except Failure DepthLimit) (n : Nat) (accesses : List (TreeAccess ν))
    (c : Cursor ν) : c.answers standard (accesses.take n) = (c.answers standard accesses).take n := by
  induction accesses generalizing n c with
  | nil => rw [List.take_nil, Cursor.answers, List.take_nil]
  | cons access rest ih =>
      cases n with
      | zero => rfl
      | succ n => rw [List.take_succ_cons, Cursor.answers, Cursor.answers, List.take_succ_cons, ih]

/-- **RUNS THAT READ ALIKE ARE ANSWERED ALIKE**: what an outline answers depends on nothing but what is
    read for each of its nodes in the call of the node. -/
theorem Cursor.answers_congr {moment : Nat → TreeAccess ν} {accesses others : List (TreeAccess ν)}
    {limit : DepthLimit} {node : ν} (standard : Except Failure DepthLimit) (hfinds : Finds moment 0 accesses)
    (h : ∀ v ∈ visits moment limit.levels (limit.levels + 1) 0 0 node, ∀ access other,
      accesses[v.call]? = some access → others[v.call]? = some other →
      readWithin other limit.levels v.depth v.node = readWithin access limit.levels v.depth v.node)
    {k : Nat} (hk : k < accesses.length) (hother : k < others.length) :
    (Cursor.answers standard others (.fresh (some limit.levels) node))[k]? =
      (Cursor.answers standard accesses (.fresh (some limit.levels) node))[k]? := by
  -- Beyond the calls that both runs have, the other run may find what the first one would.
  let mixed (call : Nat) : TreeAccess ν := ((others.take accesses.length)[call]?).getD (moment call)
  have hmixed : Finds mixed 0 (others.take accesses.length) := by
    intro call other hcall
    show ((others.take accesses.length)[0 + call]?).getD _ = other
    rw [Nat.zero_add, hcall, Option.getD_some]
  have hvisits : visits moment limit.levels (limit.levels + 1) 0 0 node =
      visits mixed limit.levels (limit.levels + 1) 0 0 node := by
    refine visits_congr fun v hv => ?_
    show readWithin (((others.take accesses.length)[v.call]?).getD _) _ _ _ = _
    rw [List.getElem?_take]
    by_cases hcall : v.call < accesses.length
    · rw [if_pos hcall]
      cases hfound : others[v.call]? with
      | none => rfl
      | some other =>
          have hmoment := hfinds v.call accesses[v.call] (List.getElem?_eq_getElem hcall)
          rw [Nat.zero_add] at hmoment
          rw [Option.getD_some, hmoment]
          exact h v hv _ other (List.getElem?_eq_getElem hcall) hfound
    · rw [if_neg hcall]
      rfl
  have hshort : k < (others.take accesses.length).length := by
    rw [List.length_take]
    exact Nat.lt_min.mpr ⟨hk, hother⟩
  have htake : (Cursor.answers standard others (.fresh (some limit.levels) node))[k]? =
      (Cursor.answers standard (others.take accesses.length) (.fresh (some limit.levels) node))[k]? := by
    rw [Cursor.answers_take, List.getElem?_take, if_pos hk]
  rw [htake, Cursor.getElem?_answers standard hmixed _ hshort, Cursor.getElem?_answers standard hfinds _ hk,
    Cursor.remaining_fresh, Cursor.remaining_fresh, hvisits]

end ElementLocator.Outline
