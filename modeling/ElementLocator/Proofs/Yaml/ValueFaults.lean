import ElementLocator.Proofs.Yaml.NodeFaults
import ElementLocator.Yaml.Document

/-! # Faults of scalars among values

    A text that is composed is checked from its root on, and every node that is met belongs to the
    composition. What blames a scalar there is a scalar with one of four tags whose text stands
    for no value of the tag.

    * `NoValue` — a text stands for no truth value, number or moment;
    * `Composition.Blames` — a node of a composition is to blame;
    * `loadFault_of_valueOf` — a text has no value, with a scalar to blame, only where a part of it has
      the fault or one of its nodes is to blame. -/

namespace ElementLocator.Yaml

/-- A text stands for no value of a tag. -/
inductive NoValue : (tag text : String) → ScalarFault → Prop
  | truth {s : String} {f : ScalarFault} (h : truth s = .error f) : NoValue Tag.bool s f
  | whole {s : String} {f : ScalarFault} (h : wholeNumber s = .error f) : NoValue Tag.int s f
  | fraction {s : String} {f : ScalarFault} (h : fractionNumber s = .error f) : NoValue Tag.float s f
  | moment {s : String} {f : ScalarFault} (h : Timestamp.read s.toList = .error f) :
    NoValue Tag.timestamp s f

-- ── values without halves ─────────────────────────────────────────────────

/-- An outcome that does not blame half of a character. -/
def SparesHalves {α : Type} (x : Except ScalarFault α) : Prop := ∀ f, x = .error f → f ≠ .halfCharacter

namespace SparesHalves

variable {α β : Type}

theorem ok (a : α) : SparesHalves (.ok a) := nofun

theorem error {f : ScalarFault} (h : f ≠ .halfCharacter) : SparesHalves (.error f : Except ScalarFault α) :=
  fun _ hf => Except.error.inj hf ▸ h

theorem map {x : Except ScalarFault α} (h : SparesHalves x) (f : α → β) : SparesHalves (x.map f) := by
  cases x with
  | ok a => exact ok (f a)
  | error e => exact error (h e rfl)

theorem bind {x : Except ScalarFault α} {f : α → Except ScalarFault β} (hx : SparesHalves x)
    (hf : ∀ a, SparesHalves (f a)) : SparesHalves (x >>= f) := by
  cases x with
  | ok a => exact hf a
  | error e => exact error (hx e rfl)

theorem mapM {f : α → Except ScalarFault β} (hf : ∀ a, SparesHalves (f a)) (items : List α) :
    SparesHalves (items.mapM f) := by
  induction items with
  | nil => exact ok []
  | cons a rest ih =>
      rw [List.mapM_cons]
      exact (hf a).bind fun b => ih.bind fun bs => ok (b :: bs)

theorem wholeIn (base : Nat) (cs : List Char) : SparesHalves (wholeIn base cs) := by
  rw [Yaml.wholeIn]
  cases Text.Whole.read base (String.ofList cs) with
  | ok n => exact ok n
  | error f => exact error nofun

theorem wholeNumber (s : String) : SparesHalves (wholeNumber s) := by
  have hplain (signed : Int → Int) (body : List Char) : SparesHalves
      (if body.contains ':' then
        ((splitColons body).mapM (Yaml.wholeIn 10)).map fun ps => signed (sexagesimal ps.reverse)
      else (Yaml.wholeIn 10 body).map signed) := by
    split
    · exact (mapM (wholeIn 10) _).map _
    · exact (wholeIn _ _).map _
  rw [Yaml.wholeNumber]
  split
  · exact error nofun
  · dsimp only
    split
    · exact error nofun
    · exact ok 0
    · exact (wholeIn _ _).map _
    · exact (wholeIn _ _).map _
    · exact (wholeIn _ _).map _
    all_goals exact hplain _ _

theorem fractionPart (cs : List Char) : SparesHalves (fractionPart cs) := by
  rw [Yaml.fractionPart]
  split
  · exact ok _
  · exact error nofun

theorem addPlaces (sum : Binary64) (worth : Nat) (places : List Binary64) :
    SparesHalves (addPlaces sum worth places) := by
  induction places generalizing sum worth with
  | nil => exact ok sum
  | cons d rest ih =>
      rw [Yaml.addPlaces]
      split
      · exact ih _ _
      · exact error nofun

theorem fractionNumber (s : String) : SparesHalves (fractionNumber s) := by
  rw [Yaml.fractionNumber]
  split
  · exact error nofun
  · dsimp only
    split
    · exact ok _
    · split
      · exact ok _
      · split
        · exact (mapM fractionPart _).bind fun places => (addPlaces _ _ _).bind fun x => ok _
        · exact (fractionPart _).map _

theorem truth (s : String) : SparesHalves (truth s) := by
  rw [Yaml.truth]
  split
  · exact ok true
  · split
    · exact ok false
    · exact error nofun

theorem date (year month day : Nat) : SparesHalves (Timestamp.date year month day) := by
  rw [Timestamp.date]
  split
  · exact error nofun
  · split
    · exact error nofun
    · split
      · exact error nofun
      · exact ok _

theorem moment (year month day hour minute second micro : Nat) (zone : Option Int) :
    SparesHalves (Timestamp.moment year month day hour minute second micro zone) := by
  rw [Timestamp.moment]
  split
  · exact error nofun
  · split
    · rename_i f hdate
      exact error (date _ _ _ f hdate)
    · split
      · exact error nofun
      · split
        · exact error nofun
        · split
          · exact error nofun
          · exact ok _

theorem timestamp (cs : List Char) : SparesHalves (Timestamp.read cs) := by
  rw [Timestamp.read]
  split
  · exact error nofun
  · exact (date _ _ _).map _
  · split
    · exact error nofun
    · exact (moment _ _ _ _ _ _ _ _).map _

end SparesHalves

/-- No text of a scalar is refused for half of a character: such a text is not read at all. -/
theorem NoValue.ne_halfCharacter {tag s : String} {f : ScalarFault} (h : NoValue tag s f) :
    f ≠ .halfCharacter := by
  cases h with
  | truth h => exact SparesHalves.truth s f h
  | whole h => exact SparesHalves.wholeNumber s f h
  | fraction h => exact SparesHalves.fractionNumber s f h
  | moment h => exact SparesHalves.timestamp s.toList f h

-- ── scalars ───────────────────────────────────────────────────────────────

theorem yields_binaryValue {C : ScalarFault → Prop} (s : String) (m : Mark) :
    Yields C (fun _ => True) (binaryValue s m) := by
  refine .ite (fun _ => trivial) ?_
  cases Text.Base64.decode s.toList with
  | ok bytes => exact trivial
  | error f => exact trivial

theorem not_noValue_str (s : String) (f : ScalarFault) : ¬ NoValue Tag.str s f := by
  generalize htag : Tag.str = tag
  intro h
  cases h <;> exact absurd htag (by decide)

/-- The value of a scalar fails, with the scalar to blame, only where it has none. -/
theorem yields_scalarValue (tag s : String) (m : Mark) :
    Yields (NoValue tag s) (fun _ => True) (scalarValue tag s m) := by
  have htag {t : String} {x : Except Fault Value} (hx : Yields (NoValue t s) (fun _ => True) x)
      (h : (tag == t) = true) : Yields (NoValue tag s) (fun _ => True) x := by
    rw [beq_iff_eq.mp h]
    exact hx
  refine .ite (fun _ => trivial) <| .ite (htag ?_) <| .ite (htag ?_) <| .ite (htag ?_) <|
    .ite (htag ?_) <| .ite (htag ?_) <| .ite (fun _ => trivial) trivial
  · exact (Yields.mapError_scalar fun _ => .truth).map fun _ _ => trivial
  · exact (Yields.mapError_scalar fun _ => .whole).map fun _ _ => trivial
  · exact (Yields.mapError_scalar fun _ => .fraction).map fun _ _ => trivial
  · exact (yields_binaryValue s m).map fun _ _ => trivial
  · exact Yields.mapError_scalar fun _ => .moment

namespace Composition

/-- The nodes of a composition: its root, its containers, and what stands inside one of them. -/
inductive Holds (c : Composition) : Node → Prop
  | root {node : Node} (h : c.root = some node) : Holds c node
  | container {entry : Nat × Node} (h : entry ∈ c.containers) : Holds c entry.2
  | item {n : Nat} {tag : String} {items : List Node} {m : Mark} {node : Node}
    (h : Holds c (.sequence n tag items m)) (hitem : node ∈ items) : Holds c node
  | key {n : Nat} {tag : String} {es : List (Node × Node)} {m : Mark} {e : Node × Node}
    (h : Holds c (.mapping n tag es m)) (he : e ∈ es) : Holds c e.1
  | value {n : Nat} {tag : String} {es : List (Node × Node)} {m : Mark} {e : Node × Node}
    (h : Holds c (.mapping n tag es m)) (he : e ∈ es) : Holds c e.2

/-- A node of a composition is to blame for a fault. -/
inductive Blames (c : Composition) : ScalarFault → Prop
  /-- A scalar has a text that stands for no value of its tag. -/
  | scalar {tag s : String} {m : Mark} {f : ScalarFault} (h : c.Holds (.scalar tag s m))
    (hf : NoValue tag s f) : Blames c f
  /-- A container has the tag of a scalar, and takes its text from a scalar of the composition. -/
  | container {node : Node} {tag s : String} {m : Mark} {f : ScalarFault} (h : c.Holds node)
    (htext : c.Holds (.scalar tag s m)) (hf : NoValue node.tag s f) : Blames c f
  /-- A container has the tag of a moment, which is read from scalars only. -/
  | shape {node : Node} (h : c.Holds node) (htag : node.tag = Tag.timestamp)
    (hshape : ∀ tag s m, node ≠ .scalar tag s m) : Blames c .dateShape

variable {c : Composition}

theorem Holds.resolve {node : Node} (h : c.Holds node) : c.Holds (c.resolve node) := by
  rw [Composition.resolve.eq_def]
  split
  · split
    · rename_i hfind
      exact .container (List.mem_of_find?_eq_some hfind)
    · exact h
  · exact h

/-- Entries whose keys and values belong to the composition. -/
def HoldsEntries (c : Composition) (es : List (Node × Node)) : Prop :=
  ∀ e ∈ es, c.Holds e.1 ∧ c.Holds e.2

theorem Holds.entries {n : Nat} {tag : String} {es : List (Node × Node)} {m : Mark}
    (h : c.Holds (.mapping n tag es m)) : c.HoldsEntries es := fun _ he => ⟨.key h he, .value h he⟩

theorem HoldsEntries.append {es others : List (Node × Node)} (h : c.HoldsEntries es)
    (hothers : c.HoldsEntries others) : c.HoldsEntries (es ++ others) := by
  intro e he
  rcases List.mem_append.mp he with he | he
  · exact h e he
  · exact hothers e he

theorem HoldsEntries.own {es : List (Node × Node)} (h : c.HoldsEntries es) :
    c.HoldsEntries (c.ownEntries es) := fun e he => h e (List.mem_filter.mp he).1

-- ── merged entries ────────────────────────────────────────────────────────

/-- Merging brings in entries of the composition, as long as the fuel lasts. -/
structure Merging (c : Composition) (C : ScalarFault → Prop) (fuel : Nat) : Prop where
  flatten (start : Mark) (active : List Nat) {es : List (Node × Node)} (h : c.HoldsEntries es) :
    Yields C c.HoldsEntries (c.flatten start active fuel es)
  mapping (active : List Nat) (n : Nat) (start : Mark) {es : List (Node × Node)}
    (h : c.HoldsEntries es) : Yields C c.HoldsEntries (c.mergedMapping active fuel n start es)
  entries (start : Mark) (active : List Nat) {es : List (Node × Node)} (h : c.HoldsEntries es) :
    Yields C c.HoldsEntries (c.mergedEntries start active fuel es)
  items (start : Mark) (active : List Nat) {items : List Node} (h : ∀ node ∈ items, c.Holds node) :
    Yields C (fun parts => ∀ es ∈ parts, c.HoldsEntries es) (c.mergedItems start active fuel items)

variable {C : ScalarFault → Prop}

theorem yields_mergedEntries {fuel : Nat} (ih : Merging c C fuel) (start : Mark) (active : List Nat)
    {es : List (Node × Node)} (h : c.HoldsEntries es) :
    Yields C c.HoldsEntries (c.mergedEntries start active (fuel + 1) es) := by
  cases es with
  | nil => exact fun _ he => nomatch he
  | cons e rest =>
      obtain ⟨k, v⟩ := e
      have hv : c.Holds (c.resolve v) := (h (k, v) List.mem_cons_self).2.resolve
      have hrest : c.HoldsEntries rest := fun e he => h e (List.mem_cons_of_mem _ he)
      have hothers {first : List (Node × Node)} (hfirst : c.HoldsEntries first) :
          Yields C c.HoldsEntries (c.mergedEntries start active fuel rest >>= fun others =>
            pure (first ++ others)) :=
        (ih.entries start active hrest).bind fun _ hothers => hfirst.append hothers
      rw [mergedEntries]
      refine .ite (fun _ => ih.entries start active hrest) ?_
      cases hnode : c.resolve v with
      | mapping n tag es m =>
          rw [hnode] at hv
          exact (ih.mapping active n m hv.entries).bind fun _ hfirst => hothers hfirst
      | sequence n tag items m =>
          rw [hnode] at hv
          refine (ih.items start active fun _ hitem => .item hv hitem).bind fun parts hparts => ?_
          have hjoined : c.HoldsEntries parts.reverse.flatten := by
            intro e he
            obtain ⟨es, hes, he⟩ := List.mem_flatten.mp he
            exact hparts es (List.mem_reverse.mp hes) e he
          exact hothers hjoined
      | scalar tag s m => exact trivial
      | reference n => exact trivial

theorem yields_mergedItems {fuel : Nat} (ih : Merging c C fuel) (start : Mark) (active : List Nat)
    {items : List Node} (h : ∀ node ∈ items, c.Holds node) :
    Yields C (fun parts => ∀ es ∈ parts, c.HoldsEntries es)
      (c.mergedItems start active (fuel + 1) items) := by
  cases items with
  | nil => exact fun _ he => nomatch he
  | cons item rest =>
      have hitem : c.Holds (c.resolve item) := (h item List.mem_cons_self).resolve
      rw [mergedItems]
      cases hnode : c.resolve item with
      | mapping n tag es m =>
          rw [hnode] at hitem
          refine (ih.mapping active n m hitem.entries).bind fun first hfirst => ?_
          refine (ih.items start active fun node hmem => h node (List.mem_cons_of_mem _ hmem)).bind ?_
          intro others hothers es hes
          rcases List.mem_cons.mp hes with rfl | hes
          · exact hfirst
          · exact hothers es hes
      | sequence n tag items m => exact trivial
      | scalar tag s m => exact trivial
      | reference n => exact trivial

/-- **MERGING** brings in entries of the composition, and blames no scalar. -/
theorem merging (c : Composition) (C : ScalarFault → Prop) (fuel : Nat) : Merging c C fuel := by
  induction fuel with
  | zero =>
      exact {
        flatten := fun _ _ _ h => h.own
        mapping := fun _ _ _ _ h => h.own
        entries := fun _ _ _ _ _ he => nomatch he
        items := fun _ _ _ _ _ he => nomatch he }
  | succ fuel ih =>
      exact {
        flatten := fun start active _ h => (ih.entries start active h).bind fun _ hmerged => hmerged.append h.own
        mapping := fun active n start _ h => .ite (fun _ => h.own) (ih.flatten start (n :: active) h)
        entries := yields_mergedEntries ih
        items := yields_mergedItems ih }

-- ── checks ────────────────────────────────────────────────────────────────

/-- A check of nodes blames only nodes of the composition, and answers such nodes. -/
def Checks (c : Composition) (x : Checking (List Node)) : Prop :=
  Keeps c.Blames (fun _ => True) (fun ns => ∀ node ∈ ns, c.Holds node) x

theorem Checks.nil : c.Checks (pure []) := Keeps.pure fun _ h => nomatch h

theorem Checks.append {x y : Checking (List Node)} (hx : c.Checks x) (hy : c.Checks y) :
    c.Checks (do
      let first ← x
      let others ← y
      return first ++ others) := by
  refine Keeps.bind hx fun first hfirst => Keeps.bind hy fun others hothers => Keeps.pure ?_
  intro node hnode
  rcases List.mem_append.mp hnode with hnode | hnode
  · exact hfirst node hnode
  · exact hothers node hnode

/-- The text of a node that stands for a scalar is that of a scalar. -/
theorem yields_scalarText (d : Settled) (fuel : Nat) {node : Node} (h : c.Holds node) :
    Yields C (fun s => ∃ tag m, c.Holds (.scalar tag s m)) (c.scalarText d fuel node) := by
  induction fuel generalizing node with
  | zero =>
      cases node with
      | scalar tag s m => exact ⟨tag, m, h⟩
      | sequence n tag items m => exact trivial
      | mapping n tag es m => exact trivial
      | reference n => exact trivial
  | succ fuel ih =>
      cases node with
      | scalar tag s m => exact ⟨tag, m, h⟩
      | sequence n tag items m => exact trivial
      | reference n => exact trivial
      | mapping n tag es m =>
          rw [scalarText]
          split
          · rename_i hfind
            exact ih (Holds.value h (List.mem_of_find?_eq_some hfind)).resolve
          · exact trivial

/-- The tag that a node has by now is its own, or that of texts, which all have a value. -/
theorem tag_eq_or (d : Settled) (node : Node) : d.tag node = node.tag ∨ d.tag node = Tag.str := by
  rw [Settled.tag]
  split
  · exact Or.inr rfl
  · exact Or.inl rfl

theorem noValue_of_settled {d : Settled} {node : Node} {s : String} {f : ScalarFault}
    (h : NoValue (d.tag node) s f) : NoValue node.tag s f := by
  rcases tag_eq_or d node with htag | htag
  · rw [← htag]
    exact h
  · rw [htag] at h
    exact absurd h (not_noValue_str s f)

/-- A container that stands for a scalar is to blame if its text has no value. -/
theorem keeps_checkText (d : Settled) {node : Node} (h : c.Holds node)
    (hshape : ∀ tag s m, node ≠ .scalar tag s m) :
    Keeps c.Blames (fun _ => True) (fun _ => True) (c.checkText (d.tag node) node) := by
  refine Keeps.bind Keeps.get fun d' _ => ?_
  split
  · refine Keeps.bind (Keeps.lift (yields_scalarText d' c.size h)) ?_
    rintro s ⟨tag, m, htext⟩
    have hvalue : Yields c.Blames (fun _ => True) (scalarValue (d.tag node) s node.start) :=
      (yields_scalarValue _ s node.start).mono
        (fun _ hf => .container h htext (noValue_of_settled hf)) fun _ _ => trivial
    have hrest : Keeps c.Blames (fun _ => True) (fun _ => True) (do
        let _ ← (scalarValue (d.tag node) s node.start : Checking Value)
        set { d' with texts := (number node, s) :: d'.texts }) :=
      Keeps.bind (Keeps.lift hvalue) fun _ _ => Keeps.set trivial
    refine Keeps.ite (fun htag => Keeps.bind (P := fun _ => True) (Keeps.blame ?_) fun _ _ => hrest) hrest
    refine .shape h ?_ hshape
    rcases tag_eq_or d node with hown | hstr
    · rw [← hown]
      exact beq_iff_eq.mp htag
    · rw [hstr] at htag
      exact absurd htag (by decide)
  · exact Keeps.pure trivial

/-- **THE CHECK OF A NODE** blames the node, and answers it if it is a container. -/
theorem checks_checkNode {node : Node} (h : c.Holds node) : c.Checks (c.checkNode node) := by
  have hnode := h.resolve
  rw [checkNode]
  refine Keeps.bind Keeps.get fun d _ => ?_
  refine Keeps.ite (fun _ => ?_) (Keeps.ite (fun _ => ?_) (Keeps.refuse _))
  · split
    · rename_i tag s m hscalar
      rw [hscalar] at hnode ⊢
      have hvalue : Yields c.Blames (fun _ => True) (scalarValue (d.tag (.scalar tag s m)) s m) :=
        (yields_scalarValue _ s m).mono (fun _ hf => .scalar hnode (noValue_of_settled hf)) fun _ _ => trivial
      exact Keeps.bind (Keeps.lift hvalue) fun _ _ => Checks.nil
    · rename_i hshape
      exact Keeps.bind (keeps_checkText d hnode hshape) fun _ _ => Checks.nil
  · refine Keeps.pure ?_
    intro other hother
    rw [List.mem_singleton.mp hother]
    exact hnode

theorem checks_checkNodes {nodes : List Node} (h : ∀ node ∈ nodes, c.Holds node) :
    c.Checks (c.checkNodes nodes) := by
  induction nodes with
  | nil => exact Checks.nil
  | cons node rest ih =>
      exact (checks_checkNode (h node List.mem_cons_self)).append
        (ih fun other hother => h other (List.mem_cons_of_mem node hother))

theorem checks_checkEntries (start : Mark) {es : List (Node × Node)} (h : c.HoldsEntries es) :
    c.Checks (c.checkEntries start es) := by
  induction es with
  | nil => exact Checks.nil
  | cons e rest ih =>
      obtain ⟨k, v⟩ := e
      have hboth := h (k, v) List.mem_cons_self
      have hrest := (checks_checkNode hboth.2).append
        (ih fun other hother => h other (List.mem_cons_of_mem _ hother))
      rw [checkEntries]
      refine Keeps.bind (checks_checkNode hboth.1) fun keys _ => ?_
      exact Keeps.ite (fun _ => Keeps.bind (P := fun _ => True) (Keeps.refuse _) fun _ _ => hrest) hrest

theorem checks_checkPairs (what : String) (start : Mark) {items : List Node}
    (h : ∀ node ∈ items, c.Holds node) : c.Checks (c.checkPairs what start items) := by
  induction items with
  | nil => exact Checks.nil
  | cons item rest ih =>
      have hitem : c.Holds (c.resolve item) := (h item List.mem_cons_self).resolve
      have hrest := ih fun other hother => h other (List.mem_cons_of_mem _ hother)
      have hrefused (p : Problem) : c.Checks (do
          let first ← (throw (.problem p) : Checking (List Node))
          let others ← c.checkPairs what start rest
          return first ++ others) := Checks.append (Keeps.refuse p) hrest
      rw [checkPairs]
      split
      · rename_i hpair
        rw [hpair] at hitem
        refine (checks_checkNodes ?_).append hrest
        intro node hnode
        have hboth := hitem.entries _ List.mem_cons_self
        rcases List.mem_cons.mp hnode with rfl | hnode
        · exact hboth.1
        · rw [List.mem_singleton.mp hnode]
          exact hboth.2
      · exact hrefused _
      · exact hrefused _

theorem keeps_settleKeys (es : List (Node × Node)) :
    Keeps c.Blames (fun _ => True) (fun _ => True) (c.settleKeys es) := Keeps.modify fun _ _ => trivial

/-- **THE CHECK OF A CONTAINER** blames and answers what stands inside it. -/
theorem checks_checkParts {node : Node} (h : c.Holds node) : c.Checks (c.checkParts node) := by
  unfold checkParts
  refine Keeps.ite (fun _ => ?_) (Keeps.ite (fun _ => ?_) ?_)
  · split
    · exact checks_checkNodes fun _ hitem => .item h hitem
    · exact Keeps.refuse _
  · split
    · refine Keeps.bind (Keeps.lift ((merging c c.Blames _).flatten _ _ h.entries)) fun es hes => ?_
      exact Keeps.bind (keeps_settleKeys es) fun _ _ => checks_checkEntries _ hes
    · exact Keeps.refuse _
  · dsimp only
    split
    · exact checks_checkPairs _ _ fun _ hitem => .item h hitem
    · exact Keeps.refuse _

theorem mem_of_mem_enqueue {known : List Nat} {nodes : List Node} {node : Node}
    (h : node ∈ (enqueue known nodes).1) : node ∈ nodes := by
  induction nodes generalizing known with
  | nil => exact h
  | cons n rest ih =>
      rw [enqueue] at h
      split at h
      · exact List.mem_cons_of_mem n (ih h)
      · rcases List.mem_cons.mp h with rfl | h
        · exact List.mem_cons_self
        · exact List.mem_cons_of_mem n (ih h)

/-- **THE RUN OF THE CHECKS** blames only nodes of the composition. -/
theorem keeps_checkQueue {fuel : Nat} {queue : List Node} {known : List Nat}
    (h : ∀ node ∈ queue, c.Holds node) :
    Keeps c.Blames (fun _ => True) (fun _ => True) (c.checkQueue fuel queue known) := by
  induction fuel generalizing queue known with
  | zero => exact Keeps.pure trivial
  | succ fuel ih =>
      cases queue with
      | nil => exact Keeps.pure trivial
      | cons node rest =>
          rw [checkQueue]
          refine Keeps.bind (checks_checkParts (h node List.mem_cons_self)) fun inner hinner => ih ?_
          intro other hother
          rcases List.mem_append.mp hother with hother | hother
          · exact h other (List.mem_cons_of_mem node hother)
          · exact hinner other (mem_of_mem_enqueue hother)

theorem yields_check {root : Node} (h : c.root = some root) :
    Yields c.Blames (fun _ => True) (c.check root) := by
  have hall : Keeps c.Blames (fun _ => True) (fun _ => True) (c.checkAll root) :=
    Keeps.bind (checks_checkNode (.root h)) fun first hfirst =>
      keeps_checkQueue fun node hnode => hfirst node (mem_of_mem_enqueue hnode)
  exact (hall ⟨[], []⟩ trivial).map fun _ _ => trivial

end Composition

theorem Composition.Blames.ne_halfCharacter {c : Composition} {f : ScalarFault} (h : c.Blames f) :
    f ≠ .halfCharacter := by
  cases h with
  | scalar _ hf => exact hf.ne_halfCharacter
  | container _ _ hf => exact hf.ne_halfCharacter
  | shape _ _ _ => exact nofun

/-- Why what there is of a text has no value although it is well written. -/
inductive LoadFault (a : Available) (f : ScalarFault) : Prop
  /-- It is not read as tokens. -/
  | scan (h : ScanFault a.text f)
  /-- A node of it is to blame. -/
  | node {c : Composition} (hc : compose a.text a.beyond = .ok c) (h : c.Blames f)

/-- Half of a character is only blamed where it is written. -/
theorem LoadFault.scan_of_halfCharacter {a : Available} (h : LoadFault a .halfCharacter) :
    ScanFault a.text .halfCharacter := by
  cases h with
  | scan h => exact h
  | node _ h => exact absurd rfl h.ne_halfCharacter

/-- **A TEXT HAS NO VALUE**, with a scalar to blame, only where a part of it has the fault or one of
    its nodes is to blame. -/
theorem loadFault_of_valueOf {a : Available} {f : ScalarFault}
    (h : valueOf a.text a.beyond = .error (.scalar f)) : LoadFault a f := by
  rw [valueOf] at h
  split at h
  · rename_i e he
    rw [Except.error.inj h] at he
    exact .scan (scanFault_of_compose he)
  · rename_i c hc
    split at h
    · exact nomatch h
    · rename_i root hroot
      have hcheck := Composition.yields_check hroot
      split at h
      · rename_i e he
        rw [he, Except.error.inj h] at hcheck
        exact .node hc hcheck
      · exact nomatch h

theorem loadFault_of_load {cs : List Char} {f : ScalarFault} (h : load cs = .error (.scalar f)) :
    LoadFault ⟨cs, none⟩ f := by
  rw [load] at h
  split at h
  · exact nomatch h
  · exact loadFault_of_valueOf (a := ⟨cs, none⟩) h

end ElementLocator.Yaml
