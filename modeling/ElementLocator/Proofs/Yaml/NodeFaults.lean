import ElementLocator.Proofs.Yaml.TokenFaults
import ElementLocator.Yaml.Node.Reader

/-! # Faults of scalars among nodes

    The reader of nodes takes tokens and, when they run out, passes on the fault that comes after
    them. Its own faults are about the structure of the text and blame no scalar.

    * `passes_readDocument` — the reader blames a scalar only with the fault after the tokens;
    * `scanFault_of_compose` — so a text that is not composed, where a scalar is to blame, has a
      part with the fault. -/

namespace ElementLocator.Yaml

namespace NodeM

variable {α β : Type}

/-- A step of the reader of nodes blames a scalar only by passing on the fault after the tokens,
    and leaves that fault as it is. -/
def Passes (x : NodeM α) : Prop :=
  ∀ after, Keeps (fun f => after = some (.scalar f)) (fun s => s.fault = after) (fun _ => True) x

namespace Passes

theorem pure (a : α) : Passes (Pure.pure a) := fun _ => Keeps.pure trivial

theorem bind {x : NodeM α} {f : α → NodeM β} (hx : Passes x) (hf : ∀ a, Passes (f a)) :
    Passes (x >>= f) := fun after => (hx after).bind fun a _ => hf a after

theorem map {x : NodeM α} (hx : Passes x) (f : α → β) : Passes (f <$> x) :=
  fun after => (hx after).map fun _ _ => trivial

/-- What the reader knows is looked at. -/
theorem get {f : Composing → NodeM α} (hf : ∀ s, Passes (f s)) : Passes (MonadState.get >>= f) :=
  fun after => Keeps.get.bind fun s _ => hf s after

/-- A change of the reader that leaves the fault after the tokens alone. -/
theorem modify {f : Composing → Composing} (hf : ∀ s, (f s).fault = s.fault) : Passes (modify f) :=
  fun _ => Keeps.modify fun s hs => (hf s).trans hs

theorem change {f : Composing → Composing} {x : PUnit → NodeM α} (hf : ∀ s, (f s).fault = s.fault)
    (hx : ∀ a, Passes (x a)) : Passes (MonadState.modifyGet (fun s => (PUnit.unit, f s)) >>= x) :=
  (modify hf).bind hx

theorem ite {b : Prop} [Decidable b] {x y : NodeM α} (hx : Passes x) (hy : Passes y) :
    Passes (if b then x else y) := by
  split
  · exact hx
  · exact hy

end Passes

-- ── single steps ──────────────────────────────────────────────────────────

theorem passes_refuse (problem : String) (m : Mark) : Passes (refuse problem m : NodeM α) :=
  fun _ => Keeps.refuse _

theorem passes_refuseIn (context : String) (start : Mark) (problem : String) (m : Mark) :
    Passes (refuseIn context start problem m : NodeM α) := fun _ => Keeps.refuse _

/-- The next token, or the fault after the last one. -/
theorem passes_peek : Passes peek := by
  intro after s hs
  have hs : s.fault = after := hs
  subst hs
  obtain ⟨tokens, fault, handles, anchors, next, containers⟩ := s
  cases tokens with
  | cons t rest => exact ⟨trivial, rfl⟩
  | nil =>
      cases fault with
      | none => exact ⟨trivial, rfl⟩
      | some e =>
          cases e with
          | scalar f => exact rfl
          | problem p => exact trivial
          | unreadable o => exact trivial

theorem passes_take : Passes take := passes_peek.bind fun _ => .change (fun _ => rfl) fun _ => .pure _

theorem passes_accept (kind : TokenKind) : Passes (accept kind) :=
  passes_peek.bind fun _ => .ite (passes_take.bind fun _ => .pure _) (.pure _)

theorem passes_comes (kinds : List TokenKind) : Passes (comes kinds) := passes_peek.bind fun _ => .pure _

/-- With the anchor and the tag known, the properties are put together. -/
theorem passes_properties (first : Token) (anchor : Option String)
    (tag : Option (Option String × String × Mark)) : Passes (do
      let start := if anchor.isSome || tag.isSome then some first.start else none
      match tag with
      | none => return (⟨anchor, none, start⟩ : Properties)
      | some (none, suffix, _) => return ⟨anchor, some suffix, start⟩
      | some (some handle, suffix, m) =>
        match (← MonadState.get).handles.find? (·.1 == handle) with
        | some (_, meaning) => return ⟨anchor, some (meaning ++ suffix), start⟩
        | none =>
          refuseIn "while parsing a node" first.start
            ("found undefined tag handle " ++ Text.Literal.ofString handle) m) := by
  dsimp only
  split
  · exact .pure _
  · exact .pure _
  · refine .get fun s => ?_
    split
    · exact .pure _
    · exact passes_refuseIn _ _ _ _

theorem passes_readProperties : Passes readProperties := by
  refine passes_peek.bind fun first => ?_
  dsimp only
  split
  · refine passes_take.bind fun _ => passes_peek.bind fun t => ?_
    split
    · exact passes_take.bind fun _ => (Passes.pure _).bind fun _ => passes_properties _ _ _
    · exact (Passes.pure _).bind fun _ => passes_properties _ _ _
  · refine passes_take.bind fun _ => passes_peek.bind fun t => ?_
    split
    · exact passes_take.bind fun _ => (Passes.pure _).bind fun _ => passes_properties _ _ _
    · exact (Passes.pure _).bind fun _ => passes_properties _ _ _
  · exact (Passes.pure _).bind fun _ => passes_properties _ _ _

theorem passes_checkAnchor (p : Properties) (start : Mark) : Passes (checkAnchor p start) := by
  rw [checkAnchor]
  split
  · exact .pure _
  · refine .get fun s => ?_
    split
    · exact .pure _
    · exact passes_refuseIn _ _ _ _

theorem passes_setAnchor (p : Properties) (start : Mark) (what : Anchored) :
    Passes (setAnchor p start what) := by
  rw [setAnchor]
  split
  · exact .pure _
  · exact .modify fun _ => rfl

theorem passes_finishScalar (p : Properties) (start : Mark) (text : String) (plain : Bool) :
    Passes (finishScalar p start text plain) :=
  (passes_checkAnchor p start).bind fun _ => (passes_setAnchor p start _).bind fun _ => .pure _

theorem passes_beginContainer (p : Properties) (start : Mark) : Passes (beginContainer p start) :=
  (passes_checkAnchor p start).bind fun _ => .get fun _ => .change (fun _ => rfl) fun _ =>
    (passes_setAnchor p start _).bind fun _ => .pure _

theorem passes_finishContainer (n : Nat) (node : Node) : Passes (finishContainer n node) :=
  .change (fun _ => rfl) fun _ => .pure _

theorem passes_resolveAlias (name : String) (m : Mark) : Passes (resolveAlias name m) := by
  refine .get fun s => ?_
  split
  · exact .pure _
  · exact .pure _
  · exact passes_refuse _ _

-- ── nodes ─────────────────────────────────────────────────────────────────

/-- The readers of nodes and of their parts pass faults on, as long as the fuel lasts. -/
structure Passing (fuel : Nat) : Prop where
  node (block indentless : Bool) : Passes (readNode fuel block indentless)
  blockItems (start : Mark) : Passes (readBlockItems fuel start)
  indentless : Passes (readIndentless fuel)
  blockEntries (start : Mark) : Passes (readBlockEntries fuel start)
  blockValue : Passes (readBlockValue fuel)
  flowItems (start : Mark) (first : Bool) : Passes (readFlowItems fuel start first)
  flowValue (closing : TokenKind) : Passes (readFlowValue fuel closing)
  flowEntries (start : Mark) (first : Bool) : Passes (readFlowEntries fuel start first)

/-- A node stands here, or nothing does where it may be left out. -/
theorem passes_optional {fuel : Nat} (h : Passing fuel) (kinds : List TokenKind) (m : Mark)
    (block indentless : Bool) {f : Node → NodeM α} (hf : ∀ node, Passes (f node)) :
    Passes (do
      let node ← if ← comes kinds then Pure.pure (emptyScalar m) else readNode fuel block indentless
      f node) :=
  (passes_comes kinds).bind fun _ => .ite ((Passes.pure _).bind hf) ((h.node _ _).bind hf)

/-- Between the entries of a flow collection stands a comma. -/
theorem passes_separated (first : Bool) (context : String) (start : Mark) (problem : Token → String)
    {x : NodeM α} (hx : Passes x) : Passes (do
      if !first then
        let t ← peek
        if !(← accept .flowEntry) then refuseIn context start (problem t) t.start
      x) :=
  .ite (passes_peek.bind fun _ => (passes_accept _).bind fun _ =>
    .ite ((passes_refuseIn _ _ _ _).bind fun _ => hx) hx) hx

/-- A container is numbered, then its parts are read. -/
theorem passes_container (p : Properties) (start : Mark) (node : Nat → α → Node) {parts : NodeM α}
    (hparts : Passes parts) : Passes (do
      let n ← beginContainer p start
      let xs ← parts
      finishContainer n (node n xs)) :=
  (passes_beginContainer _ _).bind fun _ => hparts.bind fun _ => passes_finishContainer _ _

theorem passes_readNode {fuel : Nat} (h : Passing fuel) (block indentless : Bool) :
    Passes (readNode (fuel + 1) block indentless) := by
  rw [readNode]
  refine passes_peek.bind fun first => ?_
  split
  · exact passes_take.bind fun _ => passes_resolveAlias _ _
  · refine passes_readProperties.bind fun p => passes_peek.bind fun t => ?_
    dsimp only
    split
    · exact passes_take.bind fun _ => passes_finishScalar _ _ _ _
    · exact passes_container _ _ _ (passes_take.bind fun _ => h.flowItems _ _)
    · exact passes_container _ _ _ (passes_take.bind fun _ => h.flowEntries _ _)
    · refine .ite (passes_container _ _ _ h.indentless) ?_
      refine .ite (passes_container _ _ _ (passes_take.bind fun _ => h.blockItems _)) ?_
      refine .ite (passes_container _ _ _ (passes_take.bind fun _ => h.blockEntries _)) ?_
      exact .ite (passes_finishScalar _ _ _ _) (passes_refuseIn _ _ _ _)

theorem passes_readBlockItems {fuel : Nat} (h : Passing fuel) (start : Mark) :
    Passes (readBlockItems (fuel + 1) start) := by
  rw [readBlockItems]
  refine passes_peek.bind fun t => ?_
  split
  · exact passes_take.bind fun _ => passes_optional h _ _ _ _ fun _ =>
      (h.blockItems start).bind fun _ => .pure _
  · exact passes_take.bind fun _ => .pure _
  · exact passes_refuseIn _ _ _ _

theorem passes_readIndentless {fuel : Nat} (h : Passing fuel) : Passes (readIndentless (fuel + 1)) := by
  rw [readIndentless]
  refine passes_peek.bind fun t => .ite ?_ (.pure _)
  exact passes_take.bind fun _ => passes_optional h _ _ _ _ fun _ =>
    h.indentless.bind fun _ => .pure _

theorem passes_readBlockEntries {fuel : Nat} (h : Passing fuel) (start : Mark) :
    Passes (readBlockEntries (fuel + 1) start) := by
  rw [readBlockEntries]
  refine passes_peek.bind fun t => ?_
  split
  · exact passes_take.bind fun _ => passes_optional h _ _ _ _ fun _ =>
      h.blockValue.bind fun _ => (h.blockEntries start).bind fun _ => .pure _
  · exact passes_refuseIn _ _ _ _
  · exact passes_take.bind fun _ => .pure _
  · exact passes_refuseIn _ _ _ _

theorem passes_readBlockValue {fuel : Nat} (h : Passing fuel) : Passes (readBlockValue (fuel + 1)) := by
  rw [readBlockValue]
  refine passes_peek.bind fun t => .ite ?_ (.pure _)
  exact passes_take.bind fun _ => (passes_comes _).bind fun _ => .ite (.pure _) (h.node _ _)

theorem passes_readFlowValue {fuel : Nat} (h : Passing fuel) (closing : TokenKind) :
    Passes (readFlowValue (fuel + 1) closing) := by
  rw [readFlowValue]
  refine passes_peek.bind fun t => .ite ?_ (.pure _)
  exact passes_take.bind fun _ => (passes_comes _).bind fun _ => .ite (.pure _) (h.node _ _)

theorem passes_readFlowItems {fuel : Nat} (h : Passing fuel) (start : Mark) (first : Bool) :
    Passes (readFlowItems (fuel + 1) start first) := by
  rw [readFlowItems]
  refine (passes_accept _).bind fun _ => .ite (.pure _) ?_
  refine passes_separated first _ start (fun t => "expected ',' or ']', but got " ++ t.kind.shown) ?_
  refine passes_peek.bind fun t => .ite ?_ ?_
  · exact (passes_beginContainer _ _).bind fun _ => passes_take.bind fun _ =>
      passes_optional h _ _ _ _ fun _ => (h.flowValue _).bind fun _ =>
      (passes_finishContainer _ _).bind fun _ => (h.flowItems start false).bind fun _ => .pure _
  · exact (passes_accept _).bind fun _ => .ite (.pure _) ((h.node _ _).bind fun _ =>
      (h.flowItems start false).bind fun _ => .pure _)

theorem passes_readFlowEntries {fuel : Nat} (h : Passing fuel) (start : Mark) (first : Bool) :
    Passes (readFlowEntries (fuel + 1) start first) := by
  rw [readFlowEntries]
  refine (passes_accept _).bind fun _ => .ite (.pure _) ?_
  refine passes_separated first _ start (fun t => "expected ',' or '\x7d', but got " ++ t.kind.shown) ?_
  refine passes_peek.bind fun t => .ite ?_ ?_
  · exact passes_take.bind fun _ => passes_optional h _ _ _ _ fun _ => (h.flowValue _).bind fun _ =>
      (h.flowEntries start false).bind fun _ => .pure _
  · exact (passes_accept _).bind fun _ => .ite (.pure _) ((h.node _ _).bind fun _ =>
      passes_peek.bind fun _ => (h.flowEntries start false).bind fun _ => .pure _)

/-- **THE READERS OF NODES** pass faults on: each by one step, with fuel left for those that it
    calls. -/
theorem passing (fuel : Nat) : Passing fuel := by
  induction fuel with
  | zero =>
      constructor <;> intros <;> exact .pure _
  | succ fuel ih =>
      exact {
        node := passes_readNode ih
        blockItems := passes_readBlockItems ih
        indentless := passes_readIndentless ih
        blockEntries := passes_readBlockEntries ih
        blockValue := passes_readBlockValue ih
        flowItems := passes_readFlowItems ih
        flowValue := passes_readFlowValue ih
        flowEntries := passes_readFlowEntries ih }

-- ── documents ─────────────────────────────────────────────────────────────

theorem passes_readDirectives (fuel : Nat) (version : Bool) (handles : List (String × String)) :
    Passes (readDirectives fuel version handles) := by
  induction fuel generalizing version handles with
  | zero => exact .pure _
  | succ fuel ih =>
      rw [readDirectives]
      refine passes_peek.bind fun t => ?_
      split
      · refine passes_take.bind fun _ => ?_
        split
        · have hmajor (major : Nat) : Passes (do
              if major ≠ 1 then refuse "found incompatible YAML document (version 1.* is required)" t.start
              readDirectives fuel true handles) :=
            .ite ((passes_refuse _ _).bind fun _ => ih _ _) (ih _ _)
          exact .ite ((passes_refuse _ _).bind fun _ => hmajor _) (hmajor _)
        · exact .ite ((passes_refuse _ _).bind fun _ => ih _ _) (ih _ _)
        · exact ih _ _
      · exact .modify fun _ => rfl

theorem passes_skipDocumentEnds (fuel : Nat) : Passes (skipDocumentEnds fuel) := by
  induction fuel with
  | zero => exact .pure _
  | succ fuel ih => exact (passes_accept _).bind fun _ => .ite ih (.pure _)

theorem passes_readDocumentStart : Passes readDocumentStart :=
  .get fun _ => (passes_skipDocumentEnds _).bind fun _ => passes_peek.bind fun _ =>
    .ite (.pure _) ((passes_readDirectives _ _ _).bind fun _ => passes_peek.bind fun _ =>
      .ite (passes_take.bind fun _ => .pure _) (passes_refuse _ _))

/-- After the node of a document, no other document may start. -/
theorem passes_documentEnd (root : Option Node) : Passes (do
    match root with
    | none => return none
    | some node =>
      let _ ← accept .documentEnd
      match ← readDocumentStart with
      | none => return some node
      | some m =>
        refuseIn "expected a single document in the stream" node.start "but found another document" m) := by
  cases root with
  | none => exact .pure _
  | some node =>
      refine (passes_accept _).bind fun _ => passes_readDocumentStart.bind fun next => ?_
      cases next with
      | none => exact .pure _
      | some m => exact passes_refuseIn _ _ _ _

/-- **THE READER OF NODES** passes faults on. -/
theorem passes_readDocument : Passes readDocument := by
  refine .get fun s => passes_peek.bind fun t => ?_
  have hnode := ((passing (3 * s.tokens.length + 4)).node true false).map some
  refine .ite (passes_readDocumentStart.bind fun started => ?_) (hnode.bind passes_documentEnd)
  cases started with
  | none => exact (Passes.pure none).bind passes_documentEnd
  | some m =>
      exact passes_peek.bind fun t =>
        .ite ((Passes.pure _).bind passes_documentEnd) (hnode.bind passes_documentEnd)

end NodeM

/-- **A TEXT IS NOT COMPOSED**, with a scalar to blame, only where a part of it has the fault. -/
theorem scanFault_of_compose {cs : List Char} {beyond : Option Obstacle} {f : ScalarFault}
    (h : compose cs beyond = .error (.scalar f)) : ScanFault cs f := by
  rw [compose] at h
  have hdocument := NodeM.passes_readDocument (tokensOf cs beyond).fault
    { tokens := (tokensOf cs beyond).list, fault := (tokensOf cs beyond).fault,
      handles := NodeM.defaultHandles, anchors := [], next := 0, containers := [] } rfl
  split at h
  · exact nomatch h
  · rename_i e he
    rw [he, Except.error.inj h] at hdocument
    exact scanFault_of_tokensOf hdocument

end ElementLocator.Yaml
