import ElementLocator.Proofs.Yaml.OutlineTokens
import ElementLocator.Yaml.Node.Reader
import Mathlib.Data.List.Forall2

/-! # The nodes of an outline

    What the node reader makes of the tokens of a tree. A node of the text depicts a tree if it
    is a mapping from keys to texts, with the children, if there are any, in a sequence under
    the last key (`Depicts`). Containers are numbered as they begin, so that one inside
    another always has the greater number.

    * `readsNode` — the tokens of a tree are read as a node that depicts it;
    * `compose_of_kinds` — a text with the tokens of a tree is composed to such a root. -/

namespace ElementLocator.Yaml

open Outline

-- ── nodes that depict trees ───────────────────────────────────────────────

/-- An entry with a key and a text. -/
def DepictsField (f : String × String) (e : Node × Node) : Prop :=
  ∃ k m, e = (.scalar Tag.str f.1 k, .scalar Tag.str f.2 m)

mutual

/-- A node depicts a tree, and its containers have numbers from `least` on. -/
def Depicts : Tree → (least : Nat) → Node → Prop
  | .node a cs, least, node =>
    ∃ n own inner m, node = .mapping n Tag.map (own ++ inner) m ∧ least ≤ n ∧
      List.Forall₂ DepictsField (fields a) own ∧
      ((cs = [] ∧ inner = []) ∨
        ∃ n' nodes k m', inner = [(.scalar Tag.str "children" k, .sequence n' Tag.seq nodes m')] ∧
          n < n' ∧ cs ≠ [] ∧ DepictsEach cs (n' + 1) nodes)

/-- Nodes depict trees one by one. -/
def DepictsEach : List Tree → (least : Nat) → List Node → Prop
  | [], _, nodes => nodes = []
  | t :: ts, least, nodes =>
    ∃ node rest, nodes = node :: rest ∧ Depicts t least node ∧ DepictsEach ts least rest

end

mutual

theorem Depicts.mono {least least' : Nat} (h : least' ≤ least) :
    ∀ {t : Tree} {node : Node}, Depicts t least node → Depicts t least' node
  | .node _ _, _, hd => by
      obtain ⟨n, own, inner, m, hnode, hn, hrest⟩ := hd
      exact ⟨n, own, inner, m, hnode, Nat.le_trans h hn, hrest⟩

theorem DepictsEach.mono {least least' : Nat} (h : least' ≤ least) :
    ∀ {ts : List Tree} {nodes : List Node}, DepictsEach ts least nodes → DepictsEach ts least' nodes
  | [], _, hd => hd
  | _ :: _, _, hd => by
      obtain ⟨node, rest, hnodes, hnode, hrest⟩ := hd
      exact ⟨node, rest, hnodes, hnode.mono h, hrest.mono h⟩

end

-- ── sizes ─────────────────────────────────────────────────────────────────

mutual

/-- The size of all containers that depict a tree. -/
def extent : Tree → Nat
  | .node a cs =>
    (items a (!cs.isEmpty)).length + 2 + (if cs.isEmpty then 0 else cs.length + 2) + extentEach cs

/-- The size of all containers that depict several trees. -/
def extentEach : List Tree → Nat
  | [] => 0
  | t :: rest => extent t + extentEach rest

end

theorem totalSize_cons (c : Nat × Node) (containers : List (Nat × Node)) :
    totalSize (c :: containers) = totalSize containers + c.2.size := by
  have hshift (cs : List (Nat × Node)) (a b : Nat) :
      cs.foldl (fun n c => n + c.2.size) (a + b) = cs.foldl (fun n c => n + c.2.size) a + b := by
    induction cs generalizing a with
    | nil => rfl
    | cons c cs ih =>
        rw [List.foldl_cons, List.foldl_cons, ← ih]
        congr 1
        omega
  simp only [totalSize]
  rw [List.foldl_cons, hshift]

-- ── the tokens of a node ──────────────────────────────────────────────────

/-- The tokens of a key and its text. -/
def fieldKinds (f : String × String) : List TokenKind :=
  [.key, .scalar f.1 true, .value, .scalar f.2 false]

theorem length_fieldKinds (fs : List (String × String)) : (fs.flatMap fieldKinds).length = 4 * fs.length := by
  induction fs with
  | nil => rfl
  | cons f fs ih =>
      rw [List.flatMap_cons, List.length_append, ih, List.length_cons]
      show 4 + 4 * fs.length = _
      omega

theorem flatMap_itemKinds (fs : List (String × String)) :
    (fs.map fun f => (f.1, some f.2)).flatMap itemKinds = fs.flatMap fieldKinds := by
  rw [List.flatMap_map]
  rfl

variable {a : NodeAttributes}

theorem kinds_empty (h : fields a = []) :
    Outline.kinds (.node a []) = [.flowMappingStart, .flowMappingEnd] := by
  rw [Outline.kinds, items, h]
  rfl

theorem kinds_leaf (h : fields a ≠ []) :
    Outline.kinds (.node a []) = .blockMappingStart :: ((fields a).flatMap fieldKinds ++ [.blockEnd]) := by
  have hitems : items a (!([] : List Tree).isEmpty) = (fields a).map fun f => (f.1, some f.2) :=
    List.append_nil _
  have hne : items a (!([] : List Tree).isEmpty) ≠ [] := by
    rw [hitems, ne_eq, List.map_eq_nil_iff]
    exact h
  rw [Outline.kinds]
  cases his : items a (!([] : List Tree).isEmpty) with
  | nil => exact absurd his hne
  | cons i is =>
      dsimp only
      rw [← his, hitems, flatMap_itemKinds, childrenKinds, List.append_nil]
      rfl

theorem kinds_parent (t : Tree) (ts : List Tree) :
    Outline.kinds (.node a (t :: ts)) =
      .blockMappingStart :: ((fields a).flatMap fieldKinds ++
        .key :: .scalar "children" true :: .value :: .blockSequenceStart ::
          (entriesKinds (t :: ts) ++ .blockEnd :: [.blockEnd])) := by
  have hitems : items a (!(t :: ts).isEmpty) =
      ((fields a).map fun f => (f.1, some f.2)) ++ [("children", none)] := rfl
  have hkinds : (items a (!(t :: ts).isEmpty)).flatMap itemKinds =
      (fields a).flatMap fieldKinds ++ [.key, .scalar "children" true, .value] := by
    rw [hitems, List.flatMap_append, flatMap_itemKinds]
    rfl
  have hne : items a (!(t :: ts).isEmpty) ≠ [] := by
    rw [hitems]
    exact List.append_ne_nil_of_right_ne_nil _ (List.cons_ne_nil _ _)
  rw [Outline.kinds]
  cases his : items a (!(t :: ts).isEmpty) with
  | nil => exact absurd his hne
  | cons i is =>
      dsimp only
      rw [← his, hkinds, childrenKinds, entriesKinds]
      simp only [List.append_assoc, List.cons_append, List.nil_append]

theorem extent_leaf : extent (.node a []) = (fields a).length + 2 := by
  rw [extent, extentEach, items]
  simp

theorem extent_parent (t : Tree) (ts : List Tree) :
    extent (.node a (t :: ts)) =
      (fields a).length + 1 + 2 + ((t :: ts).length + 2) + extentEach (t :: ts) := by
  rw [extent, items]
  simp

theorem DepictsEach.length_eq {least : Nat} : ∀ {ts : List Tree} {nodes : List Node},
    DepictsEach ts least nodes → nodes.length = ts.length
  | [], _, h => by
      rw [show _ = [] from h]
      rfl
  | _ :: _, _, h => by
      obtain ⟨node, rest, rfl, -, hrest⟩ := h
      rw [List.length_cons, List.length_cons, hrest.length_eq]

namespace NodeM

-- ── single steps ──────────────────────────────────────────────────────────

/-- The node reader, seen through the kinds of tokens to come, the number for the next container
    and the size of the containers so far. -/
structure At (s : Composing) (kinds : List TokenKind) (next size : Nat) : Prop where
  kinds : s.tokens.map (·.kind) = kinds
  next : s.next = next
  size : totalSize s.containers = size

variable {s : Composing} {kind : TokenKind} {kinds : List TokenKind} {next size : Nat}

theorem run_peek (h : At s (kind :: kinds) next size) :
    ∃ t, peek.run s = .ok (t, s) ∧ t.kind = kind := by
  obtain ⟨tokens, fault, handles, anchors, n, containers⟩ := s
  obtain ⟨hkinds, -, -⟩ := h
  cases tokens with
  | nil => exact nomatch hkinds
  | cons t ts => exact ⟨t, rfl, (List.cons.inj hkinds).1⟩

theorem run_take (h : At s (kind :: kinds) next size) :
    ∃ t s', take.run s = .ok (t, s') ∧ At s' kinds next size := by
  obtain ⟨tokens, fault, handles, anchors, n, containers⟩ := s
  obtain ⟨hkinds, hnext, hsize⟩ := h
  cases tokens with
  | nil => exact nomatch hkinds
  | cons t ts => exact ⟨t, _, rfl, (List.cons.inj hkinds).2, hnext, hsize⟩

theorem run_comes (h : At s (kind :: kinds) next size) (expected : List TokenKind) :
    (comes expected).run s = .ok (expected.contains kind, s) := by
  obtain ⟨t, hpeek, rfl⟩ := run_peek h
  rw [comes, run_bind_of_ok hpeek]
  rfl

/-- No outline uses properties. -/
theorem run_readProperties (h : At s (kind :: kinds) next size) (hanchor : ∀ a, kind ≠ .anchor a)
    (htag : ∀ h s, kind ≠ .tag h s) : readProperties.run s = .ok (⟨none, none, none⟩, s) := by
  obtain ⟨t, hpeek, rfl⟩ := run_peek h
  rw [readProperties, run_bind_of_ok hpeek]
  cases hkind : t.kind with
  | anchor a => exact absurd hkind (hanchor a)
  | tag handle suffix => exact absurd hkind (htag handle suffix)
  | _ => rfl

theorem run_beginContainer (h : At s kinds next size) (start : Mark) :
    ∃ s', (beginContainer ⟨none, none, none⟩ start).run s = .ok (next, s') ∧
      At s' kinds (next + 1) size := by
  obtain ⟨hkinds, hnext, hsize⟩ := h
  refine ⟨{ s with next := s.next + 1 }, ?_, hkinds, congrArg (· + 1) hnext, hsize⟩
  rw [← hnext]
  rfl

theorem run_finishContainer (h : At s kinds next size) (n : Nat) (node : Node) :
    ∃ s', (finishContainer n node).run s = .ok (node, s') ∧ At s' kinds next (size + node.size) := by
  obtain ⟨hkinds, hnext, hsize⟩ := h
  refine ⟨{ s with containers := (n, node) :: s.containers }, rfl, hkinds, hnext, ?_⟩
  rw [totalSize_cons, hsize]

/-- A scalar token is read as a node. -/
theorem run_readNode_scalar {text : String} {plain : Bool} (h : At s (.scalar text plain :: kinds) next size)
    (fuel : Nat) (block indentless : Bool) :
    ∃ m s', (readNode (fuel + 1) block indentless).run s =
        .ok (.scalar (scalarTag none text plain) text m, s') ∧ At s' kinds next size := by
  obtain ⟨t, hpeek, hkind⟩ := run_peek h
  obtain ⟨t', s', htake, h'⟩ := run_take h
  refine ⟨t.start, s', ?_, h'⟩
  rw [readNode, run_bind_of_ok hpeek, hkind]
  dsimp only
  rw [run_bind_of_ok (run_readProperties h (fun _ => nofun) (fun _ _ => nofun)), run_bind_of_ok hpeek, hkind]
  dsimp only
  rw [run_bind_of_ok htake]
  rfl

/-- A block mapping is read as its entries are. -/
theorem run_readNode_mapping (h : At s (.blockMappingStart :: kinds) next size) (fuel : Nat)
    (indentless : Bool) :
    ∃ m s₁, At s₁ kinds (next + 1) size ∧ ∀ {es s₂ kinds' next' size'},
      (readBlockEntries fuel m).run s₁ = .ok (es, s₂) → At s₂ kinds' next' size' →
        ∃ s', (readNode (fuel + 1) true indentless).run s = .ok (.mapping next Tag.map es m, s') ∧
          At s' kinds' next' (size' + (es.length + 2)) := by
  obtain ⟨t, hpeek, hkind⟩ := run_peek h
  obtain ⟨s₀, hbegin, h₀⟩ := run_beginContainer h t.start
  obtain ⟨t', s₁, htake, h₁⟩ := run_take h₀
  refine ⟨t.start, s₁, h₁, ?_⟩
  intro es s₂ kinds' next' size' hread h₂
  obtain ⟨s', hfinish, h'⟩ := run_finishContainer h₂ next (.mapping next Tag.map es t.start)
  refine ⟨s', ?_, h'⟩
  have hentries : (take >>= fun _ => readBlockEntries fuel t.start).run s₀ = .ok (es, s₂) := by
    rw [run_bind_of_ok htake, hread]
  rw [readNode, run_bind_of_ok hpeek, hkind]
  dsimp only
  rw [run_bind_of_ok (run_readProperties h (fun _ => nofun) (fun _ _ => nofun)), run_bind_of_ok hpeek, hkind]
  dsimp only
  rw [decide_eq_false (by decide), Bool.and_false, if_neg Bool.false_ne_true,
    decide_eq_false (by decide), Bool.and_false, if_neg Bool.false_ne_true,
    decide_eq_true rfl, Bool.and_true, if_pos rfl]
  rw [Option.getD_none, run_bind_of_ok hbegin, run_bind_of_ok hentries]
  exact hfinish

/-- A block sequence is read as its items are. -/
theorem run_readNode_sequence (h : At s (.blockSequenceStart :: kinds) next size) (fuel : Nat)
    (indentless : Bool) :
    ∃ m s₁, At s₁ kinds (next + 1) size ∧ ∀ {nodes s₂ kinds' next' size'},
      (readBlockItems fuel m).run s₁ = .ok (nodes, s₂) → At s₂ kinds' next' size' →
        ∃ s', (readNode (fuel + 1) true indentless).run s = .ok (.sequence next Tag.seq nodes m, s') ∧
          At s' kinds' next' (size' + (nodes.length + 2)) := by
  obtain ⟨t, hpeek, hkind⟩ := run_peek h
  obtain ⟨s₀, hbegin, h₀⟩ := run_beginContainer h t.start
  obtain ⟨t', s₁, htake, h₁⟩ := run_take h₀
  refine ⟨t.start, s₁, h₁, ?_⟩
  intro nodes s₂ kinds' next' size' hread h₂
  obtain ⟨s', hfinish, h'⟩ := run_finishContainer h₂ next (.sequence next Tag.seq nodes t.start)
  refine ⟨s', ?_, h'⟩
  have hitems : (take >>= fun _ => readBlockItems fuel t.start).run s₀ = .ok (nodes, s₂) := by
    rw [run_bind_of_ok htake, hread]
  rw [readNode, run_bind_of_ok hpeek, hkind]
  dsimp only
  rw [run_bind_of_ok (run_readProperties h (fun _ => nofun) (fun _ _ => nofun)), run_bind_of_ok hpeek, hkind]
  dsimp only
  rw [decide_eq_false (by decide), Bool.and_false, if_neg Bool.false_ne_true,
    decide_eq_true rfl, Bool.and_true, if_pos rfl]
  rw [Option.getD_none, run_bind_of_ok hbegin, run_bind_of_ok hitems]
  exact hfinish

/-- An empty mapping is read as one without entries. -/
theorem run_readNode_empty (h : At s (.flowMappingStart :: .flowMappingEnd :: kinds) next size)
    (fuel : Nat) (block indentless : Bool) :
    ∃ m s', (readNode (fuel + 2) block indentless).run s = .ok (.mapping next Tag.map [] m, s') ∧
      At s' kinds (next + 1) (size + 2) := by
  obtain ⟨t, hpeek, hkind⟩ := run_peek h
  obtain ⟨s₀, hbegin, h₀⟩ := run_beginContainer h t.start
  obtain ⟨t', s₁, htake, h₁⟩ := run_take h₀
  obtain ⟨t₁, hpeek₁, hkind₁⟩ := run_peek h₁
  obtain ⟨t₂, s₂, htake₂, h₂⟩ := run_take h₁
  obtain ⟨s', hfinish, h'⟩ := run_finishContainer h₂ next (.mapping next Tag.map [] t.start)
  refine ⟨t.start, s', ?_, h'⟩
  have haccept : (accept .flowMappingEnd).run s₁ = .ok (true, s₂) := by
    rw [accept, run_bind_of_ok hpeek₁, if_pos hkind₁, run_bind_of_ok htake₂]
    rfl
  have hentries : (take >>= fun _ => readFlowEntries (fuel + 1) t.start true).run s₀ = .ok ([], s₂) := by
    rw [run_bind_of_ok htake, readFlowEntries, run_bind_of_ok haccept]
    rfl
  rw [readNode, run_bind_of_ok hpeek, hkind]
  dsimp only
  rw [run_bind_of_ok (run_readProperties h (fun _ => nofun) (fun _ _ => nofun)), run_bind_of_ok hpeek, hkind]
  dsimp only
  rw [Option.getD_none, run_bind_of_ok hbegin, run_bind_of_ok hentries]
  exact hfinish

-- ── entries ───────────────────────────────────────────────────────────────

/-- What ends a mapping. -/
theorem run_readBlockEntries_end (h : At s (.blockEnd :: kinds) next size) (fuel : Nat) (m : Mark) :
    ∃ s', (readBlockEntries (fuel + 1) m).run s = .ok ([], s') ∧ At s' kinds next size := by
  obtain ⟨t, hpeek, hkind⟩ := run_peek h
  obtain ⟨t', s', htake, h'⟩ := run_take h
  refine ⟨s', ?_, h'⟩
  rw [readBlockEntries, run_bind_of_ok hpeek, hkind]
  dsimp only
  rw [run_bind_of_ok htake]
  rfl

/-- What ends a sequence. -/
theorem run_readBlockItems_end (h : At s (.blockEnd :: kinds) next size) (fuel : Nat) (m : Mark) :
    ∃ s', (readBlockItems (fuel + 1) m).run s = .ok ([], s') ∧ At s' kinds next size := by
  obtain ⟨t, hpeek, hkind⟩ := run_peek h
  obtain ⟨t', s', htake, h'⟩ := run_take h
  refine ⟨s', ?_, h'⟩
  rw [readBlockItems, run_bind_of_ok hpeek, hkind]
  dsimp only
  rw [run_bind_of_ok htake]
  rfl

/-- An entry of a mapping with a plain key: the key, the value, and then the other entries. -/
theorem run_readBlockEntries_entry {key : String} {first : TokenKind} (hkey : Tag.ofPlain key.toList = Tag.str)
    (hfirst : [TokenKind.key, .value, .blockEnd].contains first = false)
    (h : At s (.key :: .scalar key true :: .value :: first :: kinds) next size) (fuel : Nat) (m : Mark) :
    ∃ k s₁, At s₁ (first :: kinds) next size ∧ ∀ {v s₂ es s₃},
      (readNode (fuel + 1) true true).run s₁ = .ok (v, s₂) →
      (readBlockEntries (fuel + 2) m).run s₂ = .ok (es, s₃) →
        (readBlockEntries (fuel + 3) m).run s = .ok ((.scalar Tag.str key k, v) :: es, s₃) := by
  obtain ⟨t, hpeek, hkind⟩ := run_peek h
  obtain ⟨t', s₁, htake, h₁⟩ := run_take h
  obtain ⟨k, s₂, hscalar, h₂⟩ := run_readNode_scalar h₁ (fuel + 1) true true
  obtain ⟨t₂, hpeek₂, hkind₂⟩ := run_peek h₂
  obtain ⟨t₃, s₃, htake₃, h₃⟩ := run_take h₂
  refine ⟨k, s₃, h₃, ?_⟩
  intro v s₄ es s₅ hvalue hothers
  have hblock : (readBlockValue (fuel + 2)).run s₂ = .ok (v, s₄) := by
    rw [readBlockValue, run_bind_of_ok hpeek₂, if_pos hkind₂, run_bind_of_ok htake₃,
      run_bind_of_ok (run_comes h₃ _), hfirst]
    exact hvalue
  rw [readBlockEntries, run_bind_of_ok hpeek, hkind]
  dsimp only
  rw [run_bind_of_ok htake, run_bind_of_ok (run_comes h₁ _)]
  rw [show [TokenKind.key, .value, .blockEnd].contains (.scalar key true) = false from rfl,
    if_neg Bool.false_ne_true]
  rw [run_bind_of_ok hscalar, run_bind_of_ok hblock, run_bind_of_ok hothers]
  rw [scalarTag]
  rw [if_pos rfl, hkey]
  rfl

/-- The entries of texts are read one by one before the others. -/
theorem run_readBlockEntries_fields {fs : List (String × String)}
    (hkeys : ∀ f ∈ fs, Tag.ofPlain f.1.toList = Tag.str)
    (h : At s (fs.flatMap fieldKinds ++ kinds) next size) (fuel : Nat) (m : Mark) :
    ∃ own s₁, List.Forall₂ DepictsField fs own ∧ At s₁ kinds next size ∧ ∀ {es s₂},
      (readBlockEntries (fuel + 2) m).run s₁ = .ok (es, s₂) →
        (readBlockEntries (fuel + 2 + fs.length) m).run s = .ok (own ++ es, s₂) := by
  induction fs generalizing s with
  | nil => exact ⟨[], s, .nil, h, fun hread => hread⟩
  | cons f fs ih =>
      rw [List.flatMap_cons, List.append_assoc] at h
      obtain ⟨k, s₁, h₁, hentry⟩ := run_readBlockEntries_entry (hkeys f List.mem_cons_self) rfl h
        (fuel + fs.length) m
      obtain ⟨k', s₂, hvalue, h₂⟩ := run_readNode_scalar h₁ (fuel + fs.length) true true
      obtain ⟨own, s₃, hown, h₃, hothers⟩ := ih (fun g hg => hkeys g (List.mem_cons_of_mem f hg)) h₂
      refine ⟨(.scalar Tag.str f.1 k, .scalar Tag.str f.2 k') :: own, s₃, .cons ⟨k, k', rfl⟩ hown, h₃,
        fun {es s₄} hread => ?_⟩
      have hothers := hothers hread
      rw [show fuel + 2 + fs.length = fuel + fs.length + 2 from by omega] at hothers
      have hall := hentry hvalue hothers
      rw [show fuel + 2 + (f :: fs).length = fuel + fs.length + 3 from by
        rw [List.length_cons]
        omega]
      exact hall

theorem head_kinds (t : Tree) :
    ∃ kind ks, Outline.kinds t = kind :: ks ∧ (kind = .flowMappingStart ∨ kind = .blockMappingStart) := by
  obtain ⟨a, cs⟩ := t
  rw [Outline.kinds]
  cases items a (!cs.isEmpty) with
  | nil => exact ⟨_, _, rfl, Or.inl rfl⟩
  | cons i is => exact ⟨_, _, rfl, Or.inr rfl⟩

/-- An item of a sequence, and then the others. -/
theorem run_readBlockItems_entry {first : TokenKind}
    (hfirst : first = .flowMappingStart ∨ first = .blockMappingStart)
    (h : At s (.blockEntry :: first :: kinds) next size) (fuel : Nat) (m : Mark) :
    ∃ s₁, At s₁ (first :: kinds) next size ∧ ∀ {node s₂ nodes s₃},
      (readNode fuel true false).run s₁ = .ok (node, s₂) →
      (readBlockItems fuel m).run s₂ = .ok (nodes, s₃) →
        (readBlockItems (fuel + 1) m).run s = .ok (node :: nodes, s₃) := by
  obtain ⟨t, hpeek, hkind⟩ := run_peek h
  obtain ⟨t', s₁, htake, h₁⟩ := run_take h
  have hcomes : [TokenKind.blockEntry, .blockEnd].contains first = false := by
    rcases hfirst with rfl | rfl <;> rfl
  refine ⟨s₁, h₁, ?_⟩
  intro node s₂ nodes s₃ hnode hothers
  rw [readBlockItems, run_bind_of_ok hpeek, hkind]
  dsimp only
  rw [run_bind_of_ok htake, run_bind_of_ok (run_comes h₁ _), hcomes, if_neg Bool.false_ne_true,
    run_bind_of_ok hnode, run_bind_of_ok hothers]
  rfl

-- ── trees ─────────────────────────────────────────────────────────────────

/-- A plain text whose first character begins no other form is a string. -/
theorem ofPlain_of_first {ch : Char} {cs : List Char}
    (h : (Tag.forms.all fun f => !f.firsts.contains ch) = true) : Tag.ofPlain (ch :: cs) = Tag.str := by
  have hnone : Tag.compiledForms.find? (fun f => f.1.firsts.contains ch &&
      f.2.any (·.isIn (ch :: cs).toArray)) = none := by
    refine List.find?_eq_none.mpr ?_
    intro f hf
    obtain ⟨g, hg, rfl⟩ := List.mem_map.mp hf
    have := List.all_eq_true.mp h g hg
    rw [Bool.not_eq_true'] at this
    rw [this, Bool.false_and]
    exact Bool.false_ne_true
  rw [Tag.ofPlain, hnone]

theorem ofPlain_children : Tag.ofPlain "children".toList = Tag.str :=
  ofPlain_of_first (by decide)

theorem ofPlain_key {a : NodeAttributes} : ∀ f ∈ fields a, Tag.ofPlain f.1.toList = Tag.str := by
  have hshown (key : String) {v : Option String} (h : Tag.ofPlain key.toList = Tag.str) :
      ∀ f ∈ shown key v, Tag.ofPlain f.1.toList = Tag.str := by
    intro f hf
    obtain ⟨s, -, rfl⟩ := List.mem_map.mp hf
    exact h
  intro f hf
  rw [fields] at hf
  simp only [List.mem_append] at hf
  rcases hf with ((hf | hf) | hf) | hf
  · exact hshown "role" (ofPlain_of_first (by decide)) f hf
  · exact hshown "identifier" (ofPlain_of_first (by decide)) f hf
  · exact hshown "className" (ofPlain_of_first (by decide)) f hf
  · exact hshown "label" (ofPlain_of_first (by decide)) f hf

/-- A tree whose tokens are read as a node that depicts it. Each token costs at most one step down
    in fuel. -/
def ReadsNode (t : Tree) : Prop :=
  ∀ {fuel : Nat} {s : Composing} {kinds : List TokenKind} {next size : Nat} (indentless : Bool),
    (Outline.kinds t).length < fuel → At s (Outline.kinds t ++ kinds) next size →
    ∃ node s' next', (readNode fuel true indentless).run s = .ok (node, s') ∧ Depicts t next node ∧
      next ≤ next' ∧ At s' kinds next' (size + extent t)

/-- Trees whose tokens, in an open sequence, are read as nodes that depict them. -/
def ReadsItems (ts : List Tree) : Prop :=
  ∀ {fuel : Nat} {s : Composing} {kinds : List TokenKind} {next size : Nat} (m : Mark),
    (entriesKinds ts).length < fuel → At s (entriesKinds ts ++ .blockEnd :: kinds) next size →
    ∃ nodes s' next', (readBlockItems fuel m).run s = .ok (nodes, s') ∧ DepictsEach ts next nodes ∧
      next ≤ next' ∧ At s' kinds next' (size + extentEach ts)

theorem readsNode_empty {a : NodeAttributes} (hfields : fields a = []) : ReadsNode (.node a []) := by
  intro fuel s kinds next size indentless hfuel h
  rw [kinds_empty hfields] at h hfuel
  obtain ⟨f, rfl⟩ : ∃ f, fuel = f + 2 := ⟨fuel - 2, by
    simp only [List.length_cons, List.length_nil] at hfuel
    omega⟩
  obtain ⟨m, s', hread, h'⟩ := run_readNode_empty h f true indentless
  refine ⟨_, s', next + 1, hread, ?_, Nat.le_succ _, ?_⟩
  · exact ⟨next, [], [], m, rfl, Nat.le_refl _, hfields ▸ .nil, Or.inl ⟨rfl, rfl⟩⟩
  · rw [extent_leaf, hfields]
    exact h'

/-- The fields of a leaf are the entries of one mapping. -/
theorem readsNode_leaf {a : NodeAttributes} (hfields : fields a ≠ []) : ReadsNode (.node a []) := by
  intro fuel s kinds next size indentless hfuel h
  rw [kinds_leaf hfields] at h hfuel
  rw [List.cons_append, List.append_assoc] at h
  obtain ⟨f, rfl⟩ : ∃ f, fuel = f + 2 + (fields a).length + 1 := ⟨fuel - 3 - (fields a).length, by
    rw [List.length_cons, List.length_append, length_fieldKinds, List.length_singleton] at hfuel
    omega⟩
  obtain ⟨m, s₁, h₁, hmapping⟩ := run_readNode_mapping h (f + 2 + (fields a).length) indentless
  obtain ⟨own, s₂, hown, h₂, hothers⟩ := run_readBlockEntries_fields ofPlain_key h₁ f m
  obtain ⟨s₃, hend, h₃⟩ := run_readBlockEntries_end h₂ (f + 1) m
  obtain ⟨s', hread, h'⟩ := hmapping (hothers hend) h₃
  refine ⟨_, s', next + 1, hread, ?_, Nat.le_succ _, ?_⟩
  · exact ⟨next, own, [], m, rfl, Nat.le_refl _, hown, Or.inl ⟨rfl, rfl⟩⟩
  · rw [extent_leaf, hown.length_eq]
    rw [List.append_nil] at h'
    exact h'

/-- Below a node with children the last entry of its mapping is the sequence of them. -/
theorem readsNode_parent {a : NodeAttributes} {t : Tree} {ts : List Tree}
    (hchildren : ReadsItems (t :: ts)) : ReadsNode (.node a (t :: ts)) := by
  intro fuel s kinds next size indentless hfuel h
  rw [kinds_parent] at h hfuel
  simp only [List.cons_append, List.append_assoc] at h
  have hlong : (entriesKinds (t :: ts)).length + 4 * (fields a).length + 7 < fuel := by
    simp only [List.length_cons, List.length_append, length_fieldKinds, List.length_nil] at hfuel ⊢
    omega
  obtain ⟨f, rfl⟩ : ∃ f, fuel = f + 1 + 2 + (fields a).length + 1 :=
    ⟨fuel - 4 - (fields a).length, by omega⟩
  have hitems : (entriesKinds (t :: ts)).length < f := by omega
  obtain ⟨m, s₁, h₁, hmapping⟩ := run_readNode_mapping h (f + 1 + 2 + (fields a).length) indentless
  obtain ⟨own, s₂, hown, h₂, hothers⟩ := run_readBlockEntries_fields ofPlain_key h₁ (f + 1) m
  obtain ⟨k, s₃, h₃, hentry⟩ := run_readBlockEntries_entry ofPlain_children rfl h₂ f m
  obtain ⟨m', s₄, h₄, hsequence⟩ := run_readNode_sequence h₃ f true
  obtain ⟨nodes, s₅, next₅, hnodes, hdepicts, hle, h₅⟩ := hchildren m' hitems h₄
  obtain ⟨s₆, hvalue, h₆⟩ := hsequence hnodes h₅
  obtain ⟨s₇, hend, h₇⟩ := run_readBlockEntries_end h₆ (f + 1) m
  obtain ⟨s', hread, h'⟩ := hmapping (hothers (hentry hvalue hend)) h₇
  refine ⟨_, s', next₅, hread, ?_, by omega, ?_⟩
  · exact ⟨next, own, _, m, rfl, Nat.le_refl _, hown,
      Or.inr ⟨next + 1, nodes, k, m', rfl, Nat.lt_succ_self _, List.cons_ne_nil t ts, hdepicts⟩⟩
  · rw [List.length_append, List.length_singleton, hown.length_eq.symm, hdepicts.length_eq] at h'
    rw [extent_parent]
    rw [show size + ((fields a).length + 1 + 2 + ((t :: ts).length + 2) + extentEach (t :: ts)) =
      size + extentEach (t :: ts) + ((t :: ts).length + 2) + ((fields a).length + 1 + 2) from by omega]
    exact h'

theorem readsItems_nil : ReadsItems [] := by
  intro fuel s kinds next size m hfuel h
  cases fuel with
  | zero => exact nomatch hfuel
  | succ fuel =>
      obtain ⟨s', hread, h'⟩ := run_readBlockItems_end h fuel m
      exact ⟨[], s', next, hread, rfl, Nat.le_refl _, h'⟩

theorem readsItems_cons {t : Tree} {ts : List Tree} (ht : ReadsNode t) (hts : ReadsItems ts) :
    ReadsItems (t :: ts) := by
  intro fuel s kinds next size m hfuel h
  cases fuel with
  | zero => exact nomatch hfuel
  | succ fuel =>
      obtain ⟨first, ks, hkinds, hfirst⟩ := head_kinds t
      rw [entriesKinds, List.length_append, List.length_append, List.length_singleton] at hfuel
      rw [entriesKinds, List.append_assoc, List.append_assoc, hkinds, List.singleton_append,
        List.cons_append] at h
      obtain ⟨s₁, h₁, hentry⟩ := run_readBlockItems_entry hfirst h fuel m
      rw [← List.cons_append, ← hkinds] at h₁
      have hfirst : (Outline.kinds t).length < fuel := by omega
      have hrest : (entriesKinds ts).length < fuel := by omega
      obtain ⟨node, s₂, next₂, hnode, hdepicts, hle, h₂⟩ := ht false hfirst h₁
      obtain ⟨nodes, s', next', hnodes, hdepicts', hle', h'⟩ := hts m hrest h₂
      refine ⟨node :: nodes, s', next', hentry hnode hnodes, ⟨node, nodes, rfl, hdepicts, ?_⟩,
        Nat.le_trans hle hle', ?_⟩
      · exact hdepicts'.mono hle
      · rw [extentEach, ← Nat.add_assoc]
        exact h'

mutual

/-- **THE TOKENS OF A TREE ARE READ AS A NODE THAT DEPICTS IT**. -/
theorem readsNode : ∀ t : Tree, ReadsNode t
  | .node a [] => by
      by_cases hfields : fields a = []
      · exact readsNode_empty hfields
      · exact readsNode_leaf hfields
  | .node _ (t :: ts) => readsNode_parent (readsItems (t :: ts))

/-- The tokens of several trees in an open sequence are read as nodes that depict them. -/
theorem readsItems : ∀ ts : List Tree, ReadsItems ts
  | [] => readsItems_nil
  | t :: ts => readsItems_cons (readsNode t) (readsItems ts)

end

-- ── the document ──────────────────────────────────────────────────────────

theorem run_accept_false (h : At s (kind :: kinds) next size) {expected : TokenKind}
    (hne : kind ≠ expected) : (accept expected).run s = .ok (false, s) := by
  obtain ⟨t, hpeek, rfl⟩ := run_peek h
  rw [accept, run_bind_of_ok hpeek, if_neg hne]
  rfl

/-- After the last token no other document starts. -/
theorem run_readDocumentStart_end (h : At s [.streamEnd] next size) :
    readDocumentStart.run s = .ok (none, s) := by
  obtain ⟨t, hpeek, hkind⟩ := run_peek h
  have hskip : (skipDocumentEnds (s.tokens.length + 1)).run s = .ok ((), s) := by
    rw [skipDocumentEnds, run_bind_of_ok (run_accept_false h (by decide))]
    rfl
  rw [readDocumentStart, run_bind_of_ok (StateT.run_get s), run_bind_of_ok hskip, run_bind_of_ok hpeek,
    if_pos hkind]
  rfl

/-- The tokens of a tree are the only document of a text. -/
theorem run_readDocument {t : Tree} (h : At s (Outline.kinds t ++ [.streamEnd]) 0 2) :
    ∃ root s', readDocument.run s = .ok (some root, s') ∧ Depicts t 0 root ∧
      totalSize s'.containers = 2 + extent t := by
  obtain ⟨first, ks, hkinds, hfirst⟩ := head_kinds t
  have hpeek : ∃ token, peek.run s = .ok (token, s) ∧ token.kind = first := by
    rw [hkinds] at h
    exact run_peek h
  obtain ⟨token, hpeek, hkind⟩ := hpeek
  have hlong : (Outline.kinds t).length < 3 * s.tokens.length + 4 := by
    have hlength := congrArg List.length h.kinds
    rw [List.length_map, List.length_append] at hlength
    omega
  obtain ⟨root, s', next', hread, hdepicts, -, h'⟩ := readsNode t false hlong h
  refine ⟨root, s', ?_, hdepicts, h'.size⟩
  have hroot : (some <$> readNode (3 * s.tokens.length + 4) true false).run s = .ok (some root, s') := by
    rw [StateT.run_map, hread]
    rfl
  rw [readDocument, run_bind_of_ok (StateT.run_get s), run_bind_of_ok hpeek, hkind]
  rcases hfirst with rfl | rfl
  all_goals
    dsimp only
    rw [if_neg Bool.false_ne_true, run_bind_of_ok hroot]
    dsimp only
    rw [run_bind_of_ok (run_accept_false h' (by decide)), run_bind_of_ok (run_readDocumentStart_end h')]
    rfl

end NodeM

/-- **THE TOKENS OF A TREE ARE COMPOSED** to a root that depicts it. -/
theorem compose_of_kinds {t : Tree} {cs : List Char} {ts : List Token} (htokens : tokensOf cs = ⟨ts, none⟩)
    (hkinds : ts.map (·.kind) = Outline.kinds t ++ [.streamEnd]) :
    ∃ root c, compose cs = .ok c ∧ c.root = some root ∧ Depicts t 0 root ∧ c.size = 2 + extent t := by
  have hstart : NodeM.At ⟨ts, none, NodeM.defaultHandles, [], 0, []⟩
      (Outline.kinds t ++ [.streamEnd]) 0 2 := ⟨hkinds, rfl, rfl⟩
  obtain ⟨root, s', hread, hdepicts, hsize⟩ := NodeM.run_readDocument hstart
  refine ⟨root, .of (some root) s'.containers, ?_, rfl, hdepicts, hsize⟩
  simp only [compose]
  rw [htokens]
  dsimp only
  rw [hread]

end ElementLocator.Yaml
