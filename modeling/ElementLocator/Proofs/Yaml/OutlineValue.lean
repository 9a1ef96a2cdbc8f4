import ElementLocator.Proofs.Yaml.OutlineNodes
import ElementLocator.Proofs.Yaml.ValueFaults

/-! # The value of an outline

    What the nodes of a text come to as document values, where they depict a tree. Every check
    passes, since all keys are texts and all containers have the tags of their kind; no
    container stands inside itself, since numbers grow inwards; and so the value is a mapping
    with the fields of the root and a list of the values of its children (`Outline.value`).

    * `check_of_depicts`, `hasCycle_of_depicts`, `value_of_depicts` — the three passes over a
      node that depicts a tree;
    * `load_of_kinds` — a text with the tokens of a tree is loaded as the value of the tree;
    * `load_outline` — an outline is loaded as the value of its tree. -/

namespace ElementLocator

namespace Outline

/-- What a node shows, as values under keys. -/
def fieldValues (a : NodeAttributes) : List (String × Value) := (fields a).map fun f => (f.1, .text f.2)

/-- The mapping of values under keys that are texts. -/
def mappingOf (es : List (String × Value)) : Value := .mapping (es.map fun e => (.text e.1, e.2))

mutual

/-- The document value of a tree. -/
def value : Tree → Value
  | .node a cs =>
    mappingOf (fieldValues a ++ if cs.isEmpty then [] else [("children", .list (values cs))])

/-- The document values of several trees. -/
def values : List Tree → List Value
  | [] => []
  | t :: rest => value t :: values rest

end

end Outline

namespace Yaml.Composition

open Outline

variable (c : Composition)

-- ── entries ───────────────────────────────────────────────────────────────

/-- Whether the keys of entries are plain texts. -/
def TextKeys (es : List (Node × Node)) : Prop := ∀ e ∈ es, ∃ s m, e.1 = .scalar Tag.str s m

theorem ownEntries_of_textKeys {es : List (Node × Node)} (h : TextKeys es) : c.ownEntries es = es := by
  refine List.filter_eq_self.mpr ?_
  intro e he
  obtain ⟨s, m, hkey⟩ := h e he
  rw [hkey]
  show (Tag.str != Tag.merge) = true
  decide

theorem mergedEntries_of_textKeys (start : Mark) (active : List Nat) {es : List (Node × Node)}
    (h : TextKeys es) (fuel : Nat) : c.mergedEntries start active fuel es = .ok [] := by
  induction fuel generalizing es with
  | zero => rw [mergedEntries]
  | succ fuel ih =>
      cases es with
      | nil => rw [mergedEntries]
      | cons e es =>
          obtain ⟨k, v⟩ := e
          obtain ⟨s, m, hkey⟩ := h (k, v) List.mem_cons_self
          dsimp only at hkey
          have htag : ((c.resolve (.scalar Tag.str s m)).tag != Tag.merge) = true := by
            show (Tag.str != Tag.merge) = true
            decide
          rw [mergedEntries, hkey, if_pos htag]
          exact ih fun f hf => h f (List.mem_cons_of_mem _ hf)

/-- Entries with plain keys are the entries of their mapping. -/
theorem entries_of_textKeys (n : Nat) (start : Mark) {es : List (Node × Node)} (h : TextKeys es) :
    c.entries n start es = .ok es := by
  simp only [entries]
  cases hfuel : 3 * c.size with
  | zero => rw [flatten, ownEntries_of_textKeys c h]
  | succ fuel =>
      rw [flatten, mergedEntries_of_textKeys c start [n] h fuel, ownEntries_of_textKeys c h]
      rfl

variable {c}

theorem textKeys_of_fields {fs : List (String × String)} {own : List (Node × Node)}
    (h : List.Forall₂ DepictsField fs own) : TextKeys own := by
  induction h with
  | nil => exact fun _ he => nomatch he
  | cons hfield _ ih =>
      obtain ⟨k, m, rfl⟩ := hfield
      intro e he
      rcases List.mem_cons.mp he with rfl | he
      · exact ⟨_, k, rfl⟩
      · exact ih e he

theorem textKeys_append {es fs : List (Node × Node)} (h : TextKeys es) (h' : TextKeys fs) :
    TextKeys (es ++ fs) := fun e he =>
  (List.mem_append.mp he).elim (h e) (h' e)

/-- What a node that depicts a tree holds, all at once. -/
theorem depicts_parts {a : NodeAttributes} {cs : List Tree} {least : Nat} {node : Node}
    (h : Depicts (.node a cs) least node) :
    ∃ n own inner m, node = .mapping n Tag.map (own ++ inner) m ∧ least ≤ n ∧
      List.Forall₂ DepictsField (fields a) own ∧ TextKeys (own ++ inner) ∧
      ((cs = [] ∧ inner = []) ∨
        ∃ n' nodes k m', inner = [(.scalar Tag.str "children" k, .sequence n' Tag.seq nodes m')] ∧
          n < n' ∧ cs ≠ [] ∧ DepictsEach cs (n' + 1) nodes) := by
  obtain ⟨n, own, inner, m, hnode, hn, hown, hinner⟩ := h
  refine ⟨n, own, inner, m, hnode, hn, hown, textKeys_append (textKeys_of_fields hown) ?_, hinner⟩
  rcases hinner with ⟨-, rfl⟩ | ⟨n', nodes, k, m', rfl, -⟩
  · exact fun _ he => nomatch he
  · intro e he
    rw [List.mem_singleton.mp he]
    exact ⟨_, k, rfl⟩

-- ── checks ────────────────────────────────────────────────────────────────

/-- Nothing settled. -/
def unsettled : Settled := ⟨[], []⟩

/-- A container whose parts pass every check, and theirs. -/
def Sound (node : Node) : Prop :=
  (∃ t least, Depicts t least node) ∨
    ∃ ts least n nodes m, node = .sequence n Tag.seq nodes m ∧ DepictsEach ts least nodes

theorem run_checkNode_text (s : String) (m : Mark) :
    (c.checkNode (.scalar Tag.str s m)).run unsettled = .ok ([], unsettled) := rfl

theorem run_checkNode_mapping (n : Nat) (es : List (Node × Node)) (m : Mark) :
    (c.checkNode (.mapping n Tag.map es m)).run unsettled = .ok ([.mapping n Tag.map es m], unsettled) := rfl

theorem run_checkNode_sequence (n : Nat) (nodes : List Node) (m : Mark) :
    (c.checkNode (.sequence n Tag.seq nodes m)).run unsettled =
      .ok ([.sequence n Tag.seq nodes m], unsettled) := rfl

theorem run_checkNode_depicts {t : Tree} {least : Nat} {node : Node} (h : Depicts t least node) :
    (c.checkNode node).run unsettled = .ok ([node], unsettled) := by
  obtain ⟨a, cs⟩ := t
  obtain ⟨n, own, inner, m, rfl, -⟩ := h
  exact run_checkNode_mapping n _ m

theorem run_checkNodes : ∀ {ts : List Tree} {least : Nat} {nodes : List Node},
    DepictsEach ts least nodes →
      (c.checkNodes nodes).run unsettled = .ok (nodes, unsettled) ∧ ∀ node ∈ nodes, Sound node
  | [], least, nodes, h => by
      rw [show nodes = [] from h]
      exact ⟨rfl, fun _ hn => nomatch hn⟩
  | t :: ts, least, nodes, h => by
      obtain ⟨node, rest, rfl, hnode, hrest⟩ := h
      obtain ⟨hrun, hsound⟩ := run_checkNodes hrest
      refine ⟨?_, fun x hx => ?_⟩
      · rw [checkNodes, run_bind_of_ok (run_checkNode_depicts hnode), run_bind_of_ok hrun]
        rfl
      · rcases List.mem_cons.mp hx with rfl | hx
        · exact Or.inl ⟨t, least, hnode⟩
        · exact hsound x hx

/-- The check of an entry with a plain key hands on what the check of its value does. -/
theorem run_checkEntries_cons {s : String} {k start : Mark} {v : Node} {es : List (Node × Node)}
    {first others : List Node} (hv : (c.checkNode v).run unsettled = .ok (first, unsettled))
    (hes : (c.checkEntries start es).run unsettled = .ok (others, unsettled)) :
    (c.checkEntries start ((.scalar Tag.str s k, v) :: es)).run unsettled =
      .ok (first ++ others, unsettled) := by
  rw [checkEntries, run_bind_of_ok (run_checkNode_text s k), List.isEmpty_nil, Bool.not_true,
    if_neg Bool.false_ne_true, run_bind_of_ok hv, run_bind_of_ok hes]
  rfl

theorem run_checkEntries_fields {fs : List (String × String)} {own es : List (Node × Node)}
    {start : Mark} {others : List Node} (h : List.Forall₂ DepictsField fs own)
    (hes : (c.checkEntries start es).run unsettled = .ok (others, unsettled)) :
    (c.checkEntries start (own ++ es)).run unsettled = .ok (others, unsettled) := by
  induction h with
  | nil => exact hes
  | cons hfield _ ih =>
      obtain ⟨k, m, rfl⟩ := hfield
      exact run_checkEntries_cons (run_checkNode_text _ m) ih

/-- No key of plain text is settled as anything else. -/
theorem run_settleKeys {es : List (Node × Node)} (h : TextKeys es) :
    (c.settleKeys es).run unsettled = .ok ((), unsettled) := by
  have hnone : ((es.map fun e => c.resolve e.1).filter fun k => k.tag == Tag.value) = [] := by
    refine List.filter_eq_nil_iff.mpr ?_
    intro k hk
    obtain ⟨e, he, rfl⟩ := List.mem_map.mp hk
    obtain ⟨s, m, hkey⟩ := h e he
    rw [hkey]
    show ¬ (Tag.str == Tag.value) = true
    decide
  show Except.ok ((), (⟨_ ++ [], []⟩ : Settled)) = _
  rw [hnone]
  rfl

/-- **THE PARTS OF A SOUND CONTAINER** pass, and the containers among them are sound. -/
theorem run_checkParts {node : Node} (h : Sound node) :
    ∃ inner, (c.checkParts node).run unsettled = .ok (inner, unsettled) ∧ ∀ x ∈ inner, Sound x := by
  rcases h with ⟨t, least, h⟩ | ⟨ts, least, n, nodes, m, rfl, h⟩
  · obtain ⟨a, cs⟩ := t
    obtain ⟨n, own, inner, m, rfl, -, hown, hkeys, hinner⟩ := depicts_parts h
    have hrun {others : List Node}
        (hothers : (c.checkEntries m inner).run unsettled = .ok (others, unsettled)) :
        (c.checkParts (.mapping n Tag.map (own ++ inner) m)).run unsettled = .ok (others, unsettled) := by
      unfold checkParts
      dsimp only [Node.tag]
      rw [if_neg (by decide), if_pos (by decide), entries_of_textKeys c n m hkeys]
      show (c.settleKeys (own ++ inner) >>= fun _ => c.checkEntries m (own ++ inner)).run unsettled = _
      rw [run_bind_of_ok (run_settleKeys hkeys), run_checkEntries_fields hown hothers]
    rcases hinner with ⟨-, rfl⟩ | ⟨n', nodes, k, m', rfl, -, -, hnodes⟩
    · exact ⟨[], hrun rfl, fun _ hx => nomatch hx⟩
    · refine ⟨[.sequence n' Tag.seq nodes m'],
        hrun (run_checkEntries_cons (run_checkNode_sequence n' nodes m') rfl), fun x hx => ?_⟩
      rw [List.mem_singleton.mp hx]
      exact Or.inr ⟨cs, n' + 1, n', nodes, m', rfl, hnodes⟩
  · obtain ⟨hrun, hsound⟩ := run_checkNodes (c := c) h
    exact ⟨nodes, hrun, hsound⟩

/-- **A QUEUE OF SOUND CONTAINERS** passes, whatever the fuel. -/
theorem run_checkQueue (fuel : Nat) {queue : List Node} (known : List Nat) (h : ∀ x ∈ queue, Sound x) :
    (c.checkQueue fuel queue known).run unsettled = .ok ((), unsettled) := by
  induction fuel generalizing queue known with
  | zero => rw [checkQueue]; rfl
  | succ fuel ih =>
      cases queue with
      | nil =>
          simp only [checkQueue]
          rfl
      | cons node queue =>
          obtain ⟨inner, hrun, hinner⟩ := run_checkParts (c := c) (h node List.mem_cons_self)
          rw [checkQueue, run_bind_of_ok hrun]
          refine ih _ ?_
          intro x hx
          rcases List.mem_append.mp hx with hx | hx
          · exact h x (List.mem_cons_of_mem node hx)
          · exact hinner x (mem_of_mem_enqueue hx)

/-- **A NODE THAT DEPICTS A TREE PASSES EVERY CHECK**, and nothing is settled on the way. -/
theorem check_of_depicts {t : Tree} {least : Nat} {root : Node} (h : Depicts t least root) :
    c.check root = .ok unsettled := by
  have hall : (c.checkAll root).run unsettled = .ok ((), unsettled) := by
    rw [checkAll, run_bind_of_ok (run_checkNode_depicts h)]
    refine run_checkQueue _ _ fun x hx => Or.inl ⟨t, least, ?_⟩
    rw [List.mem_singleton.mp hx]
    exact h
  show ((c.checkAll root).run unsettled).map (·.2) = _
  rw [hall]
  rfl

-- ── cycles ────────────────────────────────────────────────────────────────

variable (c)

/-- Plain texts hold no cycle; one unit of fuel goes with each. -/
theorem anyCycle_texts {fields : List (String × String)} {own : List (Node × Node)} {fuel : Nat}
    {path : List Nat} {nodes : List Node} (hown : List.Forall₂ DepictsField fields own)
    (h : c.anyCycle fuel path nodes = false) :
    c.anyCycle (fields.length + fuel) path (own.map (·.2) ++ nodes) = false := by
  induction hown with
  | nil => rw [List.length_nil, Nat.zero_add]; exact h
  | @cons f e fields own hfield _ ih =>
      obtain ⟨k, m, rfl⟩ := hfield
      cases hfuel : fields.length + fuel with
      | zero =>
          rw [(Nat.add_eq_zero_iff.mp hfuel).2, anyCycle] at h
          exact nomatch h
      | succ n =>
          have hstep : (f :: fields).length + fuel = n + 1 + 1 := by
            rw [List.length_cons]
            omega
          rw [hfuel] at ih
          rw [hstep, List.map_cons, List.cons_append, anyCycle, ih, Bool.or_false]
          rfl

theorem anyCycle_nil (fuel : Nat) (path : List Nat) : c.anyCycle (fuel + 1) path [] = false := by
  rw [anyCycle]

theorem hasCycle_sequence (fuel : Nat) (path : List Nat) (n : Nat) (nodes : List Node) (m : Mark) :
    c.hasCycle (fuel + 1) path (.sequence n Tag.seq nodes m) =
      (path.contains n || c.anyCycle fuel (n :: path) nodes) := by
  rw [hasCycle]
  rfl

theorem hasCycle_mapping (fuel : Nat) (path : List Nat) (n : Nat) (m : Mark)
    {es : List (Node × Node)} (hkeys : TextKeys es) :
    c.hasCycle (fuel + 1) path (.mapping n Tag.map es m) =
      (path.contains n || c.anyCycle fuel (n :: path) (es.map (·.2))) := by
  have hresolve : c.resolve (.mapping n Tag.map es m) = .mapping n Tag.map es m := rfl
  rw [hasCycle, hresolve]
  dsimp only
  rw [entries_of_textKeys c n m hkeys]

/-- Containers further out have smaller numbers. -/
theorem not_mem_path {path : List Nat} {least n : Nat} (hpath : ∀ p ∈ path, p < least)
    (hn : least ≤ n) : n ∉ path := by
  intro hmem
  have hlt := hpath n hmem
  omega

theorem contains_eq_false {path : List Nat} {least n : Nat} (hpath : ∀ p ∈ path, p < least)
    (hn : least ≤ n) : path.contains n = false := by
  rw [List.contains_eq_mem, decide_eq_false_iff_not]
  exact not_mem_path hpath hn

theorem lt_of_mem_cons {path : List Nat} {least n : Nat} (hpath : ∀ p ∈ path, p < least)
    (hn : least ≤ n) : ∀ p ∈ n :: path, p < n + 1 := by
  intro p hp
  rcases List.mem_cons.mp hp with rfl | hp
  · exact Nat.lt_succ_self p
  · exact Nat.lt_succ_of_lt (Nat.lt_of_lt_of_le (hpath p hp) hn)

mutual

/-- **NO CONTAINER STANDS INSIDE ITSELF** below a node that depicts a tree: the containers around
    a container have smaller numbers. The recursion is on the tree. -/
theorem hasCycle_of_depicts : ∀ {t : Tree} {least fuel : Nat} {path : List Nat} {node : Node},
    Depicts t least node → (∀ p ∈ path, p < least) → extent t ≤ fuel →
      c.hasCycle fuel path node = false
  | .node a cs, least, fuel, path, node, h, hpath, hfuel => by
      obtain ⟨n, own, inner, m, rfl, hn, hown, hkeys, hinner⟩ := depicts_parts h
      have hpath' := lt_of_mem_cons hpath hn
      rcases hinner with ⟨rfl, rfl⟩ | ⟨n', nodes, k, m', rfl, hn', hne, hnodes⟩
      · rw [extent_leaf] at hfuel
        obtain ⟨rest, rfl⟩ := Nat.exists_eq_add_of_le hfuel
        rw [show (fields a).length + 2 + rest = (fields a).length + (rest + 1) + 1 by omega,
          hasCycle_mapping c _ path n m hkeys, contains_eq_false hpath hn, Bool.false_or,
          List.map_append]
        exact anyCycle_texts c hown (anyCycle_nil c rest _)
      · obtain ⟨t, ts, rfl⟩ := List.exists_cons_of_ne_nil hne
        rw [extent_parent] at hfuel
        obtain ⟨rest, rfl⟩ := Nat.exists_eq_add_of_le hfuel
        -- what is left for the children, after the fields, the sequence and its place in the list
        obtain ⟨left, hleft⟩ : ∃ left, left = (t :: ts).length + 2 + extentEach (t :: ts) + rest := ⟨_, rfl⟩
        have hchildren : c.anyCycle left (n' :: n :: path) nodes = false :=
          anyCycle_of_depicts hnodes (lt_of_mem_cons hpath' hn') (by omega)
        rw [show (fields a).length + 1 + 2 + ((t :: ts).length + 2) + extentEach (t :: ts) + rest =
            (fields a).length + (left + 1 + 1) + 1 by omega,
          hasCycle_mapping c _ path n m hkeys, contains_eq_false hpath hn, Bool.false_or,
          List.map_append]
        refine anyCycle_texts c hown ?_
        rw [List.map_cons, List.map_nil, anyCycle, hasCycle_sequence, contains_eq_false hpath' hn',
          hchildren, anyCycle_nil]
        rfl

theorem anyCycle_of_depicts : ∀ {ts : List Tree} {least fuel : Nat} {path : List Nat} {nodes : List Node},
    DepictsEach ts least nodes → (∀ p ∈ path, p < least) → ts.length + 1 + extentEach ts ≤ fuel →
      c.anyCycle fuel path nodes = false
  | [], least, fuel, path, nodes, h, hpath, hfuel => by
      rw [show nodes = [] from h]
      cases fuel with
      | zero => exact absurd hfuel (by omega)
      | succ fuel => exact anyCycle_nil c fuel path
  | t :: ts, least, fuel, path, nodes, h, hpath, hfuel => by
      obtain ⟨node, rest, rfl, hnode, hrest⟩ := h
      rw [List.length_cons, extentEach] at hfuel
      cases fuel with
      | zero => exact absurd hfuel (by omega)
      | succ fuel =>
          rw [anyCycle, hasCycle_of_depicts hnode hpath (by omega),
            anyCycle_of_depicts hrest hpath (by omega)]
          rfl

end

-- ── values ────────────────────────────────────────────────────────────────

/-- The keys of a node, with the one before its children, differ. -/
theorem nodup_keys (a : NodeAttributes) : ((fields a).map (·.1) ++ ["children"]).Nodup := by
  have hshown (key : String) (v : Option String) : ((shown key v).map (·.1)).Sublist [key] := by
    simp only [shown]
    cases present v with
    | none => exact List.nil_sublist _
    | some s => exact List.Sublist.refl _
  have hall : ((fields a).map (·.1) ++ ["children"]).Sublist
      (["role"] ++ ["identifier"] ++ ["className"] ++ ["label"] ++ ["children"]) := by
    simp only [fields]
    simp only [List.map_append]
    exact ((((hshown "role" a.role).append (hshown "identifier" a.identifier)).append
      (hshown "className" a.className)).append (hshown "label" a.label)).append (List.Sublist.refl _)
  exact hall.nodup (by decide)

/-- Keys of different texts are not the same. -/
theorem pairwise_of_texts {es : List (Value.Key × Value)} {ks : List String}
    (h : es.map (·.1.value) = ks.map Value.text) (hks : ks.Nodup) :
    es.Pairwise fun e f => e.1.isSame f.1 = false := by
  induction es generalizing ks with
  | nil => exact List.Pairwise.nil
  | cons e es ih =>
      cases ks with
      | nil => exact nomatch h
      | cons k ks =>
          obtain ⟨he, hes⟩ := List.cons.inj h
          obtain ⟨hk, hks⟩ := List.nodup_cons.mp hks
          refine List.pairwise_cons.mpr ⟨fun f hf => ?_, ih hes hks⟩
          have hmem : f.1.value ∈ ks.map Value.text := hes ▸ List.mem_map_of_mem hf
          obtain ⟨k', hk', hvalue⟩ := List.mem_map.mp hmem
          simp only [Value.Key.isSame]
          dsimp only at he
          rw [he, ← hvalue]
          show (k == k') = false
          rw [beq_eq_false_iff_ne]
          rintro rfl
          exact hk hk'

/-- A list of entries as it stands, where no two of its keys are the same. -/
theorem foldl_putEntry {es done : List (Value.Key × Value)}
    (h : (done ++ es).Pairwise fun e f => e.1.isSame f.1 = false) :
    es.foldl (fun done e => Value.putEntry done e.1 e.2) done = done ++ es := by
  induction es generalizing done with
  | nil => rw [List.append_nil]; rfl
  | cons e es ih =>
      have hnew : done.any (·.1.isSame e.1) = false := by
        rw [List.any_eq_false]
        intro d hd hsame
        have := (List.pairwise_append.mp h).2.2 d hd e List.mem_cons_self
        rw [this] at hsame
        exact nomatch hsame
      rw [List.foldl_cons, Value.putEntry, hnew, if_neg Bool.false_ne_true,
        ih (by rw [List.append_assoc]; exact h), List.append_assoc]
      rfl

theorem value_text (fuel : Nat) (path : List Nat) (s : String) (m : Mark) :
    c.value unsettled false (fuel + 1) path (.scalar Tag.str s m) = .text s := by
  rw [value]
  rfl

theorem value_sequence (fuel : Nat) {path : List Nat} {n : Nat} (nodes : List Node) (m : Mark)
    (hn : n ∉ path) :
    c.value unsettled false (fuel + 1) path (.sequence n Tag.seq nodes m) =
      .list (c.values unsettled false fuel (n :: path) nodes) := by
  have hfold : ¬ unfoldings ≤ path.count n := by
    rw [List.count_eq_zero.mpr hn]
    decide
  rw [value]
  show (if unfoldings ≤ path.count n then _ else _) = _
  rw [if_neg hfold]
  rfl

/-- The value of a mapping with different plain keys. -/
theorem value_mapping (fuel : Nat) {path : List Nat} {n : Nat} (m : Mark) {es : List (Node × Node)}
    {vs : List (Value.Key × Value)} {fs : List (String × Value)} (hn : n ∉ path)
    (hkeys : TextKeys es) (hrun : c.entryValues unsettled false fuel (n :: path) es = vs)
    (hvs : vs.map (fun e => (e.1.value, e.2)) = fs.map fun f => (.text f.1, f.2))
    (hnodup : (fs.map (·.1)).Nodup) :
    c.value unsettled false (fuel + 1) path (.mapping n Tag.map es m) = mappingOf fs := by
  have hfold : ¬ unfoldings ≤ path.count n := by
    rw [List.count_eq_zero.mpr hn]
    decide
  have hks : vs.map (·.1.value) = (fs.map (·.1)).map Value.text := by
    have hfst := congrArg (List.map Prod.fst) hvs
    rw [List.map_map, List.map_map] at hfst
    rw [List.map_map]
    exact hfst
  have hput : vs.foldl (fun done e => Value.putEntry done e.1 e.2) [] = vs :=
    foldl_putEntry (pairwise_of_texts hks hnodup)
  rw [value]
  show (if unfoldings ≤ path.count n then _ else _) = _
  rw [if_neg hfold]
  show Value.mapping (((c.entryValues unsettled false fuel (n :: path)
    ((c.entries n m es).toOption.getD [])).foldl
      (fun done e => Value.putEntry done e.1 e.2) []).map fun e => (e.1.value, e.2)) = _
  rw [entries_of_textKeys c n m hkeys]
  show Value.mapping (((c.entryValues unsettled false fuel (n :: path) es).foldl
    (fun done e => Value.putEntry done e.1 e.2) []).map fun e => (e.1.value, e.2)) = _
  rw [hrun, hput, hvs]
  rfl

/-- Fields come to their texts; one unit of fuel goes with each. -/
theorem entryValues_fields {fs : List (String × String)} {own : List (Node × Node)} (fuel : Nat)
    (path : List Nat) (inner : List (Node × Node)) (hown : List.Forall₂ DepictsField fs own) :
    ∃ vs, vs.map (fun e => (e.1.value, e.2)) = (fs.map fun f => (f.1, Value.text f.2)).map (fun f => (.text f.1, f.2)) ∧
      c.entryValues unsettled false (fs.length + (fuel + 1)) path (own ++ inner) =
        vs ++ c.entryValues unsettled false (fuel + 1) path inner := by
  induction hown with
  | nil => exact ⟨[], rfl, by rw [List.length_nil, Nat.zero_add]; rfl⟩
  | @cons f e fs own hfield _ ih =>
      obtain ⟨k, m, rfl⟩ := hfield
      obtain ⟨vs, hvs, hrun⟩ := ih
      refine ⟨(⟨.text f.1, c.keyPlace unsettled (.scalar Tag.str f.1 k)⟩, .text f.2) :: vs, ?_, ?_⟩
      · rw [List.map_cons, List.map_cons, List.map_cons, hvs]
      · rw [show (f :: fs).length + (fuel + 1) = fs.length + fuel + 1 + 1 by
            rw [List.length_cons]
            omega,
          List.cons_append, entryValues, value_text, value_text,
          show fs.length + fuel + 1 = fs.length + (fuel + 1) from rfl, hrun]
        rfl

mutual

/-- **THE VALUE OF A NODE THAT DEPICTS A TREE** is the value of the tree. The recursion is on
    the tree; the fuel exceeds the size of its containers all the way down. -/
theorem value_of_depicts : ∀ {t : Tree} {least fuel : Nat} {path : List Nat} {node : Node},
    Depicts t least node → (∀ p ∈ path, p < least) → extent t ≤ fuel →
      c.value unsettled false fuel path node = Outline.value t
  | .node a cs, least, fuel, path, node, h, hpath, hfuel => by
      obtain ⟨n, own, inner, m, rfl, hn, hown, hkeys, hinner⟩ := depicts_parts h
      have hpath' := lt_of_mem_cons hpath hn
      have hnodup : ((fieldValues a).map (·.1) ++ ["children"]).Nodup := by
        simp only [fieldValues]
        rw [List.map_map]
        exact nodup_keys a
      rcases hinner with ⟨rfl, rfl⟩ | ⟨n', nodes, k, m', rfl, hn', hne, hnodes⟩
      · rw [extent_leaf] at hfuel
        obtain ⟨rest, rfl⟩ := Nat.exists_eq_add_of_le hfuel
        obtain ⟨vs, hvs, hrun⟩ := entryValues_fields c rest (n :: path) [] hown
        have hnil : c.entryValues unsettled false (rest + 1) (n :: path) [] = [] := by
          rw [entryValues]
        rw [hnil, List.append_nil vs] at hrun
        rw [show (fields a).length + 2 + rest = (fields a).length + (rest + 1) + 1 by omega, Outline.value,
          value_mapping c _ m (not_mem_path hpath hn) hkeys hrun hvs (List.nodup_append.mp hnodup).1]
        exact congrArg mappingOf (List.append_nil _).symm
      · obtain ⟨t, ts, rfl⟩ := List.exists_cons_of_ne_nil hne
        rw [extent_parent] at hfuel
        obtain ⟨rest, rfl⟩ := Nat.exists_eq_add_of_le hfuel
        obtain ⟨left, hleft⟩ : ∃ left, left = (t :: ts).length + 2 + extentEach (t :: ts) + rest := ⟨_, rfl⟩
        have hchildren : c.values unsettled false left (n' :: n :: path) nodes = Outline.values (t :: ts) :=
          values_of_depicts hnodes (lt_of_mem_cons hpath' hn') (by omega)
        obtain ⟨vs, hvs, hrun⟩ := entryValues_fields c (left + 1) (n :: path)
          [(.scalar Tag.str "children" k, .sequence n' Tag.seq nodes m')] hown
        rw [entryValues, value_text, value_sequence c left nodes m' (not_mem_path hpath' hn'), hchildren,
          entryValues] at hrun
        rw [show (fields a).length + 1 + 2 + ((t :: ts).length + 2) + extentEach (t :: ts) + rest =
            (fields a).length + (left + 1 + 1) + 1 by omega, Outline.value]
        refine value_mapping c _ m (not_mem_path hpath hn) hkeys hrun ?_ ?_
        · rw [List.map_append, hvs, List.map_append]
          rfl
        · rw [List.map_append]
          exact hnodup

theorem values_of_depicts : ∀ {ts : List Tree} {least fuel : Nat} {path : List Nat} {nodes : List Node},
    DepictsEach ts least nodes → (∀ p ∈ path, p < least) → ts.length + 1 + extentEach ts ≤ fuel →
      c.values unsettled false fuel path nodes = Outline.values ts
  | [], least, fuel, path, nodes, h, hpath, hfuel => by
      rw [show nodes = [] from h]
      cases fuel with
      | zero => exact absurd hfuel (by omega)
      | succ fuel =>
          simp only [values]
          rfl
  | t :: ts, least, fuel, path, nodes, h, hpath, hfuel => by
      obtain ⟨node, rest, rfl, hnode, hrest⟩ := h
      rw [List.length_cons, extentEach] at hfuel
      cases fuel with
      | zero => exact absurd hfuel (by omega)
      | succ fuel =>
          rw [values, value_of_depicts hnode hpath (by omega),
            values_of_depicts hrest hpath (by omega), Outline.values]

end

end Yaml.Composition

-- ── characters ────────────────────────────────────────────────────────────

namespace Yaml

open Outline

/-- A text of characters that a text may hold. -/
def AllAllowed (cs : List Char) : Prop := ∀ ch ∈ cs, isAllowed ch = true

theorem AllAllowed.nil : AllAllowed [] := fun _ h => absurd h List.not_mem_nil

theorem AllAllowed.append {cs ds : List Char} (hcs : AllAllowed cs) (hds : AllAllowed ds) :
    AllAllowed (cs ++ ds) := fun ch hch =>
  (List.mem_append.mp hch).elim (hcs ch) (hds ch)

theorem AllAllowed.cons {ch : Char} {cs : List Char} (hch : isAllowed ch = true) (hcs : AllAllowed cs) :
    AllAllowed (ch :: cs) := by
  intro x hx
  rcases List.mem_cons.mp hx with rfl | hx
  · exact hch
  · exact hcs x hx

theorem allAllowed_flatMap {α : Type} {f : α → List Char} {xs : List α} (h : ∀ x ∈ xs, AllAllowed (f x)) :
    AllAllowed (xs.flatMap f) := by
  intro ch hch
  obtain ⟨x, hx, hch⟩ := List.mem_flatMap.mp hch
  exact h x hx ch hch

theorem firstUnprintable_eq_none_iff {cs : List Char} (n : Nat) :
    firstUnprintable n cs = none ↔ AllAllowed cs := by
  induction cs generalizing n with
  | nil => exact iff_of_true rfl .nil
  | cons ch cs ih =>
      rw [firstUnprintable]
      by_cases hch : isAllowed ch = true
      · rw [if_pos hch, ih]
        exact ⟨.cons hch, fun hall x hx => hall x (List.mem_cons_of_mem ch hx)⟩
      · rw [if_neg hch]
        exact iff_of_false (Option.some_ne_none _) fun hall => hch (hall ch List.mem_cons_self)

/-- A legible character that is no control character. -/
theorem isAllowed_of_legible {ch : Char} (h : Legible ch) (hlow : 0x20 ≤ ch.toNat) :
    isAllowed ch = true := by
  obtain ⟨hcontrol, -, -, hfffe, hffff⟩ := h
  have hvalid : ch.toNat < 0xD800 ∨ (0xDFFF < ch.toNat ∧ ch.toNat < 0x110000) := ch.valid
  simp only [isAllowed]
  simp only [Bool.or_eq_true, Bool.and_eq_true, beq_iff_eq, decide_eq_true_eq]
  omega

theorem allAllowed_hex4 (n : Nat) : AllAllowed (Text.Quoted.hex4 n) := by
  have hdigit (d : Nat) : isAllowed (Nat.digitChar (d % 16)) = true := by
    have hall : ∀ d < 16, isAllowed (Nat.digitChar d) = true := by decide
    exact hall _ (Nat.mod_lt d (by decide))
  rw [Text.Quoted.hex4]
  exact .cons (hdigit _) (.cons (hdigit _) (.cons (hdigit _) (.cons (hdigit n) .nil)))

/-- What is written for a character may stand in a text just if the character may, or is escaped. -/
theorem allAllowed_escape_iff {ch : Char} :
    AllAllowed (Text.Quoted.escape ch) ↔ ch.toNat < 0x20 ∨ isAllowed ch = true := by
  have hsimple {e : Char} (he : isAllowed e = true) (hch : ch.toNat < 0x20 ∨ isAllowed ch = true) :
      AllAllowed ['\\', e] ↔ ch.toNat < 0x20 ∨ isAllowed ch = true :=
    iff_of_true (.cons (by decide) (.cons he .nil)) hch
  simp only [Text.Quoted.escape]
  split_ifs with hquote hslash hn hr ht hb hf hlow
  · exact hsimple (by decide) (Or.inr (by rw [hquote]; decide))
  · exact hsimple (by decide) (Or.inr (by rw [hslash]; decide))
  · exact hsimple (by decide) (Or.inl (by rw [hn]; decide))
  · exact hsimple (by decide) (Or.inl (by rw [hr]; decide))
  · exact hsimple (by decide) (Or.inl (by rw [ht]; decide))
  · exact hsimple (by decide) (Or.inl (by rw [hb]; decide))
  · exact hsimple (by decide) (Or.inl (by rw [hf]; decide))
  · exact iff_of_true (.cons (by decide) (.cons (by decide) (allAllowed_hex4 _))) (Or.inl hlow)
  · constructor
    · exact fun hall => Or.inr (hall ch List.mem_cons_self)
    · exact fun hch => .cons (hch.resolve_left hlow) .nil

theorem allAllowed_escape {ch : Char} (h : Legible ch) : AllAllowed (Text.Quoted.escape ch) := by
  refine allAllowed_escape_iff.mpr ?_
  by_cases hlow : ch.toNat < 0x20
  · exact Or.inl hlow
  · exact Or.inr (isAllowed_of_legible h (Nat.le_of_not_lt hlow))

theorem allAllowed_itemText {i : String × Option String} (hi : ItemLegible i) :
    AllAllowed (itemText i) := by
  obtain ⟨⟨-, hkey⟩, -, hv⟩ := hi
  have hletters : AllAllowed i.1.toList := by
    intro ch hch
    obtain ⟨hlow, hhigh⟩ := ReadM.toNat_of_isAlpha (hkey ch hch)
    refine isAllowed_of_legible ⟨by omega, by omega, by omega, by omega, by omega⟩ (by omega)
  simp only [itemText]
  refine hletters.append (.cons (by decide) ?_)
  cases hvalue : i.2 with
  | none => exact .nil
  | some s =>
      refine .cons (by decide) (.cons (by decide) (.append ?_ (.cons (by decide) .nil)))
      exact allAllowed_flatMap fun ch hch => allAllowed_escape (hv s hvalue ch hch)

theorem allAllowed_newLine (column : Nat) : AllAllowed (newLine column) := by
  refine .cons (by decide) ?_
  intro ch hch
  rw [List.eq_of_mem_replicate hch]
  decide

theorem allAllowed_itemsText (column : Nat) {is : List (String × Option String)}
    (h : ∀ i ∈ is, ItemLegible i) : AllAllowed (itemsText column is) := by
  cases is with
  | nil => exact .cons (by decide) (.cons (by decide) .nil)
  | cons first rest =>
      rw [itemsText]
      refine (allAllowed_itemText (h first List.mem_cons_self)).append (allAllowed_flatMap fun i hi => ?_)
      exact (allAllowed_newLine column).append (allAllowed_itemText (h i (List.mem_cons_of_mem first hi)))

mutual

/-- The text of a legible tree holds no character that a text may not. -/
theorem allAllowed_nodeText : ∀ {t : Tree} (depth : Nat), t.Legible → AllAllowed (nodeText depth t)
  | .node a cs, depth, h => by
      rw [nodeText]
      exact (allAllowed_itemsText _ (itemLegible_of_mem _ h.attributes)).append
        (allAllowed_nodesText (depth + 1) h.children)

theorem allAllowed_nodesText : ∀ {ts : List Tree} (depth : Nat), (∀ t ∈ ts, t.Legible) →
    AllAllowed (nodesText depth ts)
  | [], _, _ => .nil
  | t :: ts, depth, h => by
      rw [nodesText]
      refine ((allAllowed_newLine _).append (.cons (by decide) (.cons (by decide) ?_))).append ?_
      · exact allAllowed_nodeText depth (h t List.mem_cons_self)
      · exact allAllowed_nodesText depth fun u hu => h u (List.mem_cons_of_mem t hu)

end

/-- A text with the tokens of a tree is loaded as the value of the tree. -/
theorem load_of_kinds {t : Tree} {cs : List Char} {ts : List Token} (hall : AllAllowed cs)
    (htokens : tokensOf cs = ⟨ts, none⟩) (hkinds : ts.map (·.kind) = Outline.kinds t ++ [.streamEnd]) :
    load cs = .ok (Outline.value t) := by
  obtain ⟨root, c, hcompose, hroot, hdepicts, hsize⟩ := compose_of_kinds htokens hkinds
  have hfuel : extent t ≤ (Composition.unfoldings + 1) * c.size := by
    simp only [Composition.unfoldings]
    omega
  have hinside : ∀ p ∈ ([] : List Nat), p < 0 := fun _ hp => absurd hp List.not_mem_nil
  simp only [load]
  rw [(firstUnprintable_eq_none_iff 0).mpr hall]
  dsimp only
  rw [valueOf, hcompose]
  dsimp only
  rw [hroot]
  dsimp only
  rw [Composition.check_of_depicts hdepicts]
  dsimp only
  rw [Composition.hasCycle_of_depicts c hdepicts hinside hfuel,
    Composition.value_of_depicts c hdepicts hinside hfuel]

/-- **AN OUTLINE IS LOADED AS THE VALUE OF ITS TREE**. -/
theorem load_outline {t : Tree} (ht : t.Legible) :
    load (textOf (lines 0 t)).toList = .ok (Outline.value t) := by
  obtain ⟨ts, htokens, hkinds⟩ := tokensOf_outline ht
  refine load_of_kinds ?_ htokens hkinds
  rw [toList_textOf_lines]
  exact (allAllowed_nodeText 0 ht).append (.cons (by decide) .nil)

end Yaml

end ElementLocator
