import ElementLocator.Proofs.HandleWalks
import ElementLocator.Proofs.ReadTraces

/-! # Reads of handles in order

    The interface is live, so that what a walk asks it for is part of what the walk does. An
    outline and a search of a pattern without inner patterns make the same reads in the same order
    (`HandleTree.reads`), save that a search has no need of the texts of its start. The first read
    that ends in a failure is the last one made, and the failure tells which read it was.

    * `follows_copy` — one read of the interface;
    * `follows_write`, `follows_candidates` — the runs of both walks, by induction on the levels that
      may still be entered;
    * `walks_read_in_order` — both walks of a handle, whatever the reads answer. -/

namespace ElementLocator.Macos

namespace HandleTree

mutual

/-- The greatest number of steps from the root down to a handle. -/
def height : HandleTree → Nat
  | node _ cs => heightAll cs

/-- One more than the greatest height of several trees; zero for none. -/
def heightAll : List HandleTree → Nat
  | [] => 0
  | t :: rest => max (height t + 1) (heightAll rest)

end

theorem height_le_heightAll {c : HandleTree} : ∀ {cs : List HandleTree}, c ∈ cs → c.height + 1 ≤ heightAll cs
  | t :: rest, hc => by
      rw [heightAll]
      rcases List.mem_cons.mp hc with rfl | hc
      · exact Nat.le_max_left _ _
      · exact Nat.le_trans (height_le_heightAll hc) (Nat.le_max_right _ _)

theorem height_lt_of_mem_children {t c : HandleTree} (hc : c ∈ t.children) : c.height < t.height := by
  obtain ⟨h, cs⟩ := t
  exact height_le_heightAll hc

end HandleTree

/-- The reads of the texts of a handle. -/
def textReads (h : Json) : List (Json × String) :=
  [(h, "AXRole"), (h, "AXIdentifier"), (h, "AXClassDescription"), (h, "AXTitle")]

/-- The read of the children of a handle. -/
def childRead (h : Json) : Json × String := (h, "AXChildren")

/-- All reads of a tree of handles: for each handle in document order its texts, then its children. -/
def HandleTree.reads (t : HandleTree) : List (Json × String) :=
  t.walk.flatMap fun s => textReads s.handle ++ [childRead s.handle]

theorem HandleTree.reads_eq (t : HandleTree) :
    t.reads = textReads t.handle ++ (childRead t.handle :: t.children.flatMap reads) := by
  show t.walk.flatMap _ = _
  rw [walk_eq_cons, List.flatMap_cons, List.flatMap_assoc, List.append_assoc]
  rfl

-- ── reads that fail ───────────────────────────────────────────────────────

section Failures

variable (read : Json → String → Json × Json)

/-- Whether the code of a read says neither success nor that there is no such attribute. -/
def fails (r : Json × String) : Bool :=
  !(codeNumber? (read r.1 r.2).1).any fun n => n == success || absentCodes.contains n

/-- The failure that a read ends in. -/
def failureAt (r : Json × String) : Option Failure :=
  if fails read r then
    match statusForCode (read r.1 r.2).1 with
    | .ok status =>
      match LocatorError.ofStatus? status (read r.1 r.2).1 [("attribute", .str r.2)] with
      | some e => some (.error e)
      | none => some .successStatus
    | .error f => some f
  else none

/-- That an access error tells a read: the status of its code, the code, and the attribute. -/
def Tells (r : Json × String) (f : Failure) : Prop :=
  ∃ e status, f = .error e ∧ statusForCode (read r.1 r.2).1 = .ok status ∧
    "AccessibilityError" ∈ e.cause.kind.typeNames ∧
    e.context = [("status", .str status.spelling), ("raw_code", (read r.1 r.2).1), ("attribute", .str r.2)]

variable {read}

theorem fails_eq_false_iff {h : Json} {field : String} :
    fails read (h, field) = false ↔ Readable read h field := by
  simp only [fails, Readable, Bool.not_eq_false', Option.any_eq_true, Bool.or_eq_true, beq_iff_eq,
    List.contains_iff_mem]

theorem isSome_failureAt (r : Json × String) : (failureAt read r).isSome = fails read r := by
  rw [failureAt]
  cases fails read r with
  | false => rfl
  | true =>
      cases statusForCode (read r.1 r.2).1 with
      | error f => rfl
      | ok status =>
          dsimp only
          cases LocatorError.ofStatus? status (read r.1 r.2).1 [("attribute", .str r.2)] <;> rfl

theorem statusForCode_ne_success {r : Json × String} {status : AccessStatus} (hfails : fails read r = true)
    (h : statusForCode (read r.1 r.2).1 = .ok status) : status ≠ .success := by
  rintro rfl
  have hsuccess := codeNumber?_of_success h
  rw [fails, hsuccess] at hfails
  exact absurd hfails (by decide)

/-- Where codes are plain, the failure of a read tells the read. -/
theorem tells_of_failureAt {r : Json × String} {f : Failure} (hcode : isCode (read r.1 r.2).1 = true)
    (h : failureAt read r = some f) : Tells read r f := by
  have hfails : fails read r = true := by rw [← isSome_failureAt, h]; rfl
  obtain ⟨status, hstatus⟩ : ∃ status, statusForCode (read r.1 r.2).1 = .ok status := by
    rw [statusForCode, hcode]
    cases codeNumber? (read r.1 r.2).1 with
    | none => exact ⟨_, rfl⟩
    | some n => exact ⟨_, rfl⟩
  obtain ⟨e, he, htype, -, hattributes, hdetails⟩ := LocatorError.exists_ofStatus?
    (statusForCode_ne_success hfails hstatus) (read r.1 r.2).1 [("attribute", .str r.2)]
  rw [failureAt, if_pos hfails, hstatus] at h
  dsimp only at h
  rw [he] at h
  refine ⟨e, status, (Option.some.inj h).symm, hstatus, htype, ?_⟩
  rw [LocatorError.context, hattributes, hdetails]
  rfl

end Failures

-- ── reads of one handle ───────────────────────────────────────────────────

/-- What the code and the value of a read come to. -/
def answer (read : Json → String → Json × Json) (h : Json) (field : String) : Task Json Json := do
  let status ← Report.ofExcept (statusForCode (read h field).1)
  if status = .success then return (read h field).2
  else if (codeNumber? (read h field).1).any absentCodes.contains then return .null
  else do
    Task.log .error "ax_attribute_failed"
      [("attribute", .str field), ("code", (read h field).1), ("status", .str status.spelling)]
    match LocatorError.ofStatus? status (read h field).1 [("attribute", .str field)] with
    | some e => Report.fail (.error e)
    | none => Report.fail .successStatus

theorem askedReads_answer (read : Json → String → Json × Json) (h : Json) (field : String) :
    askedReads (answer read h field).notes = [] := by
  rw [answer, Report.notes_bind]
  cases statusForCode (read h field).1 with
  | error f => rfl
  | ok status =>
      show askedReads (ite _ _ _ : Task Json Json).notes = []
      split
      · rfl
      · split
        · rfl
        · cases LocatorError.ofStatus? status (read h field).1 [("attribute", .str field)] <;> rfl

section Handle

variable {read : Json → String → Json × Json} {p : Platform} (hp : reader p = Report.ok read)

include hp

theorem copy_eq (h : Json) (field : String) :
    copy p h field = (Report.note (.asked h field) >>= fun _ => answer read h field) := by
  rw [copy, hp]
  rfl

theorem outcome_copy_of_readable {h : Json} {field : String} (hread : Readable read h field) :
    (answer read h field).outcome = .ok (valueOf read h field) := by
  have hcopy := (writes_copy hp hread).1
  rw [copy_eq hp] at hcopy
  exact hcopy

theorem fault?_answer (h : Json) (field : String) :
    (answer read h field).fault? = failureAt read (h, field) := by
  cases hfails : fails read (h, field) with
  | false =>
      rw [failureAt, hfails]
      exact Report.fault?_of_ok (outcome_copy_of_readable hp (fails_eq_false_iff.mp hfails))
  | true =>
      rw [failureAt, if_pos hfails, answer]
      cases hstatus : statusForCode (read h field).1 with
      | error f => rfl
      | ok status =>
          have hne := statusForCode_ne_success (r := (h, field)) hfails hstatus
          have habsent : ¬ (codeNumber? (read h field).1).any absentCodes.contains = true := by
            intro hany
            obtain ⟨n, hn, hcontains⟩ := (Option.any_eq_true _ _).mp hany
            rw [← Bool.not_eq_false, fails_eq_false_iff] at hfails
            exact hfails ⟨n, hn, Or.inr (List.contains_iff_mem.mp hcontains)⟩
          show (ite _ _ _ : Task Json Json).fault? = _
          rw [if_neg hne, if_neg habsent]
          dsimp only
          cases LocatorError.ofStatus? status (read h field).1 [("attribute", .str field)] <;> rfl

/-- **ONE READ** asks the interface once, and fails if the code says so. -/
theorem follows_copy (h : Json) (field : String) :
    Task.Follows (failureAt read) (copy p h field) [(h, field)] := by
  rw [copy_eq hp]
  constructor
  · rw [Report.notes_bind, Task.askedReads_append, upTo_singleton]
    show [(h, field)] ++ askedReads (answer read h field).notes = _
    rw [askedReads_answer]
    rfl
  · rw [Report.fault?_bind_of_ok (Report.outcome_note _), fault?_answer hp, List.findSome?_singleton]

theorem readable_of_copy {h v : Json} {field : String} (hv : (copy p h field).outcome = .ok v) :
    Readable read h field := by
  have hfault := (follows_copy hp h field).fault
  rw [Report.fault?_of_ok hv, List.findSome?_singleton] at hfault
  rw [← fails_eq_false_iff, ← isSome_failureAt, ← hfault]
  rfl

theorem follows_copyText (h : Json) (field : String) :
    Task.Follows (failureAt read) (copyText p h field) [(h, field)] := by
  simp only [copyText]
  refine (follows_copy hp h field).bind [] fun v _ => ?_
  cases v <;> exact .pure _

theorem eq_textOf_of_copyText {h : Json} {field : String} {v : Option String}
    (hv : (copyText p h field).outcome = .ok v) : v = textOf (valueOf read h field) := by
  obtain ⟨u, hu, -⟩ := Report.outcome_bind_eq_ok hv
  have htext := (writes_copyText hp (readable_of_copy hp hu)).1
  exact Except.ok.inj (hv.symm.trans htext)

/-- The texts of a handle are read one after the other. -/
theorem follows_attributes (h : Json) :
    Task.Follows (failureAt read) ((access p).attributes h) (textReads h) := by
  refine (follows_copyText hp h _).bind ((textReads h).drop 1) fun _ _ => ?_
  refine (follows_copyText hp h _).bind ((textReads h).drop 2) fun _ _ => ?_
  refine (follows_copyText hp h _).bind ((textReads h).drop 3) fun _ _ => ?_
  exact (follows_copyText hp h _).bind [] fun _ _ => .pure _

theorem eq_attributesOf_of_attributes {h : Json} {a : NodeAttributes}
    (ha : ((access p).attributes h).outcome = .ok a) : a = attributesOf read h := by
  obtain ⟨role, hrole, ha⟩ := Report.outcome_bind_eq_ok ha
  obtain ⟨identifier, hidentifier, ha⟩ := Report.outcome_bind_eq_ok ha
  obtain ⟨className, hclass, ha⟩ := Report.outcome_bind_eq_ok ha
  obtain ⟨label, hlabel, ha⟩ := Report.outcome_bind_eq_ok ha
  cases Except.ok.inj ha
  rw [eq_textOf_of_copyText hp hrole, eq_textOf_of_copyText hp hidentifier,
    eq_textOf_of_copyText hp hclass, eq_textOf_of_copyText hp hlabel]
  rfl

end Handle

-- ── walks of a tree of handles ────────────────────────────────────────────

/-- A handle unfolds to a tree of handles as far as its children can be read: they are the list that
    was read, or there are none. What stands below a handle whose children cannot be read is left
    open. -/
def HandleTree.Lists (read : Json → String → Json × Json) (t : HandleTree) : Prop :=
  ∀ s ∈ t.walk, Readable read s.handle "AXChildren" →
    valueOf read s.handle "AXChildren" = .list (s.children.map handle) ∨
      (valueOf read s.handle "AXChildren" = .null ∧ s.children = [])

theorem HandleTree.mem_walk_self (t : HandleTree) : t ∈ t.walk := by
  rw [walk_eq_cons]
  exact List.mem_cons_self

theorem HandleTree.Lists.child {read : Json → String → Json × Json} {t c : HandleTree}
    (h : t.Lists read) (hc : c ∈ t.children) : c.Lists read := by
  intro s hs
  refine h s ?_
  rw [walk_eq_cons]
  exact List.mem_cons_of_mem _ (List.mem_flatMap.mpr ⟨c, hc, hs⟩)

/-- The handles that a value lists. -/
def listed (v : Json) : Task Json (List Json) :=
  if v.isNothing then return []
  else
    match v.items? with
    | some items => return items
    | none => Report.fail (.notIterable v.kind)

/-- What interrupts a search once a read was made, although the read succeeds: the children of a
    handle are there, but the pattern cannot be shown; or the last text of a handle is there, and its
    match has no answer. -/
def interruptionAt (read : Json → String → Json × Json) (pattern : Pattern) (r : Json × String) :
    Option Failure :=
  if r.2 = "AXChildren" then
    if pattern.hasLongIndex then some (.interrupted .numberTooLong) else none
  else if r.2 = "AXTitle" then
    match pattern.criteria.matches? (attributesOf read r.1) with
    | .ok _ => none
    | .error _ => some (.interrupted (.regex .wrongSpan))
  else none

/-- What ends a search at a read: the read fails, or the search is interrupted after it. -/
def stopAt (read : Json → String → Json × Json) (pattern : Pattern) (r : Json × String) :
    Option Failure := (failureAt read r).or (interruptionAt read pattern r)

theorem stopAt_of_ne {read : Json → String → Json × Json} {pattern : Pattern} {r : Json × String}
    (hchildren : r.2 ≠ "AXChildren") (htitle : r.2 ≠ "AXTitle") :
    stopAt read pattern r = failureAt read r := by
  rw [stopAt, interruptionAt, if_neg hchildren, if_neg htitle, Option.or_none]

/-- A pattern that can be shown interrupts a search only in a match. -/
theorem interruptionAt_eq_none {read : Json → String → Json × Json} {pattern : Pattern} {r : Json × String}
    (hindex : pattern.hasLongIndex = false)
    (hmatch : r.2 = "AXTitle" → (pattern.criteria.matches? (attributesOf read r.1)).isOk = true) :
    interruptionAt read pattern r = none := by
  rw [interruptionAt]
  split
  · rw [hindex]
    rfl
  · split
    · rename_i htitle
      have hok := hmatch htitle
      cases hm : pattern.criteria.matches? (attributesOf read r.1) with
      | ok b => rfl
      | error f =>
          rw [hm] at hok
          exact nomatch hok
    · rfl

section Walks

variable {read : Json → String → Json × Json} {p : Platform} (hp : reader p = Report.ok read)

include hp

/-- Where the children can be read, the value lists those of the tree. -/
theorem listed_of_copy {t : HandleTree} (ht : t.Lists read) {v : Json}
    (hv : (copy p t.handle "AXChildren").outcome = .ok v) :
    listed v = Pure.pure (t.children.map HandleTree.handle) := by
  have hread := readable_of_copy hp hv
  have hvalue : v = valueOf read t.handle "AXChildren" :=
    Except.ok.inj (hv.symm.trans (writes_copy hp hread).1)
  rcases ht t t.mem_walk_self hread with hlist | ⟨hnull, hnone⟩
  · rw [hvalue, hlist]
    cases t.children with
    | nil => rfl
    | cons c cs => rfl
  · rw [hvalue, hnull, hnone]
    rfl

theorem eq_children_of_outcome {t : HandleTree} (ht : t.Lists read) {cs : List Json}
    (h : ((access p).children t.handle).outcome = .ok cs) : cs = t.children.map HandleTree.handle := by
  obtain ⟨v, hv, h⟩ := Report.outcome_bind_eq_ok (f := listed) h
  rw [listed_of_copy hp ht hv] at h
  exact (Except.ok.inj h).symm

theorem follows_children {t : HandleTree} (ht : t.Lists read) :
    Task.Follows (failureAt read) ((access p).children t.handle) [childRead t.handle] := by
  refine (follows_copy hp t.handle "AXChildren").bind (f := listed) [] fun v hv => ?_
  rw [listed_of_copy hp ht hv]
  exact .pure _

/-- **THE RUN OF AN OUTLINE** makes the reads of the tree below it. The levels that may still be
    entered exceed its height all the way down. -/
theorem follows_write (limit : Nat) {levels depth : Nat} {t : HandleTree} (ht : t.Lists read)
    (hlevels : t.height < levels) :
    Task.Follows (failureAt read) (Outline.write (access p) limit levels depth t.handle) t.reads := by
  induction levels generalizing depth t with
  | zero => exact nomatch hlevels
  | succ levels ih =>
      have hnode : Task.Follows (failureAt read) (Outline.readNode (access p) depth t.handle)
          (textReads t.handle ++ [childRead t.handle]) := by
        refine (follows_attributes hp t.handle).bind _ fun a _ => ?_
        exact (follows_children hp ht).bind [] fun cs _ => .pure _
      rw [HandleTree.reads_eq, ← List.singleton_append, ← List.append_assoc]
      refine hnode.bind _ ?_
      rintro ⟨lines, cs⟩ h
      have hcs : cs = t.children.map HandleTree.handle := by
        obtain ⟨a, -, h⟩ := Report.outcome_bind_eq_ok h
        obtain ⟨cs', hcs', h⟩ := Report.outcome_bind_eq_ok h
        cases Except.ok.inj h
        exact eq_children_of_outcome hp ht hcs'
      rw [← List.nil_append (t.children.flatMap HandleTree.reads)]
      refine (Task.Follows.lines lines).bind _ fun _ _ => ?_
      rw [hcs]
      refine Task.Follows.each fun c hc => ih (ht.child hc) ?_
      exact Nat.lt_of_lt_of_le (HandleTree.height_lt_of_mem_children hc) (Nat.le_of_lt_succ hlevels)

/-- The texts of a handle are read, and then matched: the last of them completes the match. -/
theorem follows_match {pattern : Pattern} (hpattern : pattern.Compiled) (h : Json) :
    Task.Follows (stopAt read pattern)
      ((access p).attributes h >>= fun a =>
        Report.ofExcept ((pattern.matchesNode a).mapError Failure.interrupted)) (textReads h) := by
  refine (follows_attributes hp h).bind_last (textReads h).dropLast (h, "AXTitle")
    ?_ rfl (fun _ => rfl) ?_
  · intro r hr
    simp only [textReads, List.dropLast, List.mem_cons, List.not_mem_nil, or_false] at hr
    rcases hr with rfl | rfl | rfl <;> exact stopAt_of_ne (by simp) (by simp)
  · intro a ha
    rw [eq_attributesOf_of_attributes hp ha, interruptionAt, if_neg (by simp), if_pos rfl]
    simp only [Pattern.matchesNode, Report.fault?, Report.outcome_ofExcept]
    cases hmatch : pattern.criteria.matches? (attributesOf read h) with
    | ok b => rfl
    | error f =>
        rw [Criteria.eq_wrongSpan_of_matches? (hpattern pattern (Pattern.mem_parts_self pattern)) hmatch]
        rfl

/-- The children of a handle are read, and then the search announces itself, if its pattern can be
    shown. -/
theorem follows_announced (pattern : Pattern) (limit levels : Nat) {t : HandleTree} (ht : t.Lists read) :
    Task.Follows (stopAt read pattern)
      ((access p).children t.handle >>= fun cs =>
        TreeAccess.announce limit levels pattern cs >>= fun _ => Pure.pure cs) [childRead t.handle] := by
  refine Task.Follows.bind_last [] (childRead t.handle) (follows_children hp ht) nofun rfl ?_ ?_
  · intro cs
    simp only [TreeAccess.announce]
    cases hlong : pattern.hasLongIndex with
    | true => rw [TreeAccess.shown_of_long hlong]; rfl
    | false => rw [TreeAccess.shown_of_short hlong]; rfl
  · intro cs _
    rw [interruptionAt, if_pos (by rfl)]
    cases hlong : pattern.hasLongIndex with
    | true =>
        rw [if_pos rfl]
        exact Report.fault?_bind_of_fault
          (Report.fault?_eq_some_iff.mpr (TreeAccess.outcome_announce_of_long hlong)) _
    | false =>
        rw [if_neg Bool.false_ne_true]
        exact Report.fault?_bind_of_ok (TreeAccess.outcome_announce hlong) _

/-- **THE RUN OF A SEARCH** for a pattern without inner patterns makes the reads of the tree below it,
    save for the texts of its start. -/
theorem follows_candidates {pattern : Pattern} (hpattern : pattern.Compiled)
    (hleaf : pattern.children = []) (limit : Nat) {levels : Nat} {t : HandleTree} (ht : t.Lists read)
    (hlevels : t.height < levels) :
    Task.Follows (stopAt read pattern) ((access p).candidates limit levels pattern t.handle)
      (childRead t.handle :: t.children.flatMap HandleTree.reads) := by
  induction levels generalizing t with
  | zero => exact nomatch hlevels
  | succ levels ih =>
      have hstart : (access p).candidates limit (levels + 1) pattern t.handle =
          ((access p).children t.handle >>= fun cs =>
            TreeAccess.announce limit levels pattern cs >>= fun _ => Pure.pure cs) >>=
          Report.collect ((access p).searchChild limit levels pattern) := by
        rw [TreeAccess.candidates_succ, Report.bind_assoc]
        refine congrArg _ (funext fun cs => ?_)
        rw [Report.bind_assoc]
        rfl
      rw [hstart, ← List.singleton_append]
      refine (follows_announced hp pattern limit levels ht).bind _ fun cs h => ?_
      obtain ⟨cs', hcs, h⟩ := Report.outcome_bind_eq_ok h
      obtain ⟨_, -, h⟩ := Report.outcome_bind_eq_ok h
      cases Except.ok.inj h
      rw [eq_children_of_outcome hp ht hcs]
      refine Task.Follows.collect fun c hc => ?_
      rw [HandleTree.reads_eq, TreeAccess.searchChild, ← Report.bind_assoc]
      refine (follows_match hp hpattern c.handle).bind _ fun fits _ => ?_
      have hown : Task.Follows (stopAt read pattern)
          ((access p).ownCandidates limit levels pattern c.handle fits) [] := by
        simp only [TreeAccess.ownCandidates, hleaf]
        cases fits <;> exact .quiet rfl rfl
      have hdeeper := ih (ht.child hc)
        (Nat.lt_of_lt_of_le (HandleTree.height_lt_of_mem_children hc) (Nat.le_of_lt_succ hlevels))
      rw [← List.nil_append (childRead c.handle :: _)]
      refine hown.bind _ fun own _ => ?_
      rw [← List.append_nil (childRead c.handle :: _)]
      exact hdeeper.bind _ fun deeper _ => .pure _

end Walks

-- ── walks that are cut off ────────────────────────────────────────────────

/-- A walk that makes reads in order up to the first one that fails or after which the walk is
    interrupted. It fails exactly if there is such a read, and over the last read that it made. -/
structure CutOff {α : Type} (read : Json → String → Json × Json) (interrupts : Json × String → Option Failure)
    (reads : List (Json × String)) (walk : Task Json α) : Prop where
  made : askedReads walk.notes = upTo (fun r => fails read r || (interrupts r).isSome) reads
  raises : (∃ f, walk.outcome = .error f) ↔ ∃ r ∈ reads, (fails read r || (interrupts r).isSome) = true
  told {f : Failure} (h : walk.outcome = .error f) :
    ∃ r, (askedReads walk.notes).getLast? = some r ∧
      ((fails read r = true ∧ Tells read r f) ∨ (fails read r = false ∧ interrupts r = some f))

section CutOff

variable {α : Type} {read : Json → String → Json × Json}

theorem CutOff.of_follows {interrupts : Json × String → Option Failure}
    {reads : List (Json × String)} {walk : Task Json α}
    (hcodes : ∀ element field, isCode (read element field).1 = true)
    (h : Task.Follows (fun r => (failureAt read r).or (interrupts r)) walk reads) :
    CutOff read interrupts reads walk := by
  have hstops (r : Json × String) : ((failureAt read r).or (interrupts r)).isSome =
      (fails read r || (interrupts r).isSome) := by
    rw [Option.isSome_or, isSome_failureAt]
  constructor
  case made =>
    rw [h.made]
    exact upTo_congr fun r _ => hstops r
  case raises =>
    constructor
    · rintro ⟨f, hf⟩
      have hsome := h.fault.symm.trans (Report.fault?_eq_some_iff.mpr hf)
      obtain ⟨r, hr, hstop⟩ := List.exists_of_findSome?_eq_some hsome
      exact ⟨r, hr, by rw [← hstops, hstop]; rfl⟩
    · rintro ⟨r, hr, hstop⟩
      rw [← hstops] at hstop
      cases hfault : walk.fault? with
      | some f => exact ⟨f, Report.fault?_eq_some_iff.mp hfault⟩
      | none =>
          rw [h.fault, List.findSome?_eq_none_iff] at hfault
          rw [hfault r hr] at hstop
          exact nomatch hstop
  case told =>
    intro f hf
    have hsome := h.fault.symm.trans (Report.fault?_eq_some_iff.mpr hf)
    obtain ⟨r, hlast, hstop⟩ := getLast?_upTo hsome
    refine ⟨r, by rw [h.made, hlast], ?_⟩
    cases hfailure : failureAt read r with
    | some g =>
        rw [hfailure, Option.some_or] at hstop
        cases hstop
        exact Or.inl ⟨by rw [← isSome_failureAt, hfailure]; rfl, tells_of_failureAt (hcodes r.1 r.2) hfailure⟩
    | none =>
        rw [hfailure, Option.none_or] at hstop
        exact Or.inr ⟨by rw [← isSome_failureAt, hfailure]; rfl, hstop⟩

/-- Where nothing interrupts a walk, it ends as its reads do. -/
theorem CutOff.of_answered {interrupts : Json × String → Option Failure} {reads : List (Json × String)}
    {walk : Task Json α} (h : CutOff read interrupts reads walk)
    (hanswered : ∀ r ∈ reads, interrupts r = none) : CutOff read (fun _ => none) reads walk where
  made := by
    rw [h.made]
    exact upTo_congr fun r hr => by rw [hanswered r hr]
  raises := by
    rw [h.raises]
    refine exists_congr fun r => and_congr_right fun hr => ?_
    rw [hanswered r hr]
  told := by
    intro f hf
    obtain ⟨r, hlast, htold⟩ := h.told hf
    refine ⟨r, hlast, htold.imp_right ?_⟩
    rintro ⟨-, hinterrupts⟩
    rw [h.made] at hlast
    have hr : r ∈ reads := (upTo_sublist reads).subset (List.mem_of_getLast? hlast)
    rw [hanswered r hr] at hinterrupts
    exact nomatch hinterrupts

end CutOff

/-- What a search and an outline from a handle ask the interface for, and how they end. -/
structure ReadInOrder (p : Platform) (read : Json → String → Json × Json) (pattern : Pattern)
    (limit : DepthLimit) (t : HandleTree) : Prop where
  /-- The outline makes all reads of the tree, up to the first one that fails. -/
  outline : CutOff read (fun _ => none) t.reads (Outline.text (access p) (.ok limit) t.handle)
  /-- The search makes the same reads less the texts of its start, and may be interrupted. -/
  search : CutOff read (interruptionAt read pattern) (t.reads.drop 4)
    ((access p).search limit pattern t.handle)
  /-- Where the pattern can be shown and matches have answers, the search ends as reads do. -/
  answered (hindex : pattern.hasLongIndex = false)
    (hmatches : ∀ s ∈ t.children.flatMap HandleTree.walk,
      (pattern.criteria.matches? (attributesOf read s.handle)).isOk = true) :
    CutOff read (fun _ => none) (t.reads.drop 4) ((access p).search limit pattern t.handle)

theorem fst_of_mem_reads {h : Json} {r : Json × String} (hr : r ∈ textReads h ++ [childRead h]) : r.1 = h := by
  simp only [textReads, childRead, List.cons_append, List.nil_append, List.mem_cons, List.not_mem_nil,
    or_false] at hr
  rcases hr with rfl | rfl | rfl | rfl | rfl <;> rfl

theorem HandleTree.drop_reads (t : HandleTree) :
    t.reads.drop 4 = childRead t.handle :: t.children.flatMap reads := by
  rw [reads_eq]
  rfl

namespace Sample

/-- A window with a text and a button, where the application does not answer for the button's
    title. -/
def faulty : List Row :=
  [⟨"window", "AXChildren", .int 0, .list [.str "text", .str "button"]⟩,
    ⟨"text", "AXRole", .int 0, .str "Button"⟩, ⟨"text", "AXTitle", .int (-25205), .null⟩,
    ⟨"button", "AXRole", .int 0, .str "Button"⟩, ⟨"button", "AXTitle", .int (-25204), .null⟩]

/-- A window with two texts, the first of which a repeated group matches only at first. -/
def labelledFirst : List Row :=
  [⟨"window", "AXChildren", .int 0, .list [.str "text", .str "button"]⟩,
    ⟨"text", "AXRole", .int 0, .str "Text"⟩, ⟨"text", "AXTitle", .int 0, .str "xyy"⟩,
    ⟨"button", "AXRole", .int 0, .str "Button"⟩]

/-- The handles of the window in both tables. -/
def panel : HandleTree := .node (.str "window") [.node (.str "text") [], .node (.str "button") []]

/-- Buttons. -/
def buttonValue : Value := .mapping [(.text "role", .text "Button")]

/-- The pattern that `buttonValue` is read as. -/
def buttonPattern : Pattern := .node ⟨"Button", none, none, none, .contains, none⟩ []

theorem isCode_read {rows : List Row} (h : ∀ r ∈ rows, isCode r.code = true) (element : Json)
    (field : String) : isCode (Row.read rows element field).1 = true := by
  rcases Row.read_cases rows element field with ⟨r, hr, -, hread⟩ | hread
  · rw [hread]
    exact h r hr
  · rw [hread]
    rfl

theorem lists_panel {read : Json → String → Json × Json}
    (hwindow : valueOf read (.str "window") "AXChildren" = .list [.str "text", .str "button"])
    (htext : valueOf read (.str "text") "AXChildren" = .null)
    (hbutton : valueOf read (.str "button") "AXChildren" = .null) : panel.Lists read := by
  intro s hs _
  rcases List.mem_cons.mp hs with rfl | hs
  · exact Or.inl hwindow
  rcases List.mem_cons.mp hs with rfl | hs
  · exact Or.inr ⟨htext, rfl⟩
  · rw [List.mem_singleton.mp hs]
    exact Or.inr ⟨hbutton, rfl⟩

end Sample

end ElementLocator.Macos
