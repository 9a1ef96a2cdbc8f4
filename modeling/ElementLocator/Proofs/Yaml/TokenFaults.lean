import ElementLocator.Proofs.Yaml.TagFaults
import ElementLocator.Yaml.Token.Reader

/-! # Faults of scalars among tokens

    The reader of tokens moves through its text and adds no blame of its own.

    * `moves_readToken` — one step of the reader stays in the text;
    * `scanFault_of_tokensOf` — the fault that ends the tokens of a text, if it blames a scalar, does so
      for a part of the text. -/

namespace ElementLocator.Yaml

namespace ReadM

variable {α β : Type} {cs : List Char}

/-- A step of the reader stays in a text: so does the place where it goes on, and what it blames
    stands there. -/
def Moves (cs : List Char) (x : ReadM α) : Prop :=
  Keeps (ScanFault cs) (fun r => r.cursor.Within cs) (fun _ => True) x

namespace Moves

theorem pure (a : α) : Moves cs (Pure.pure a) := Keeps.pure trivial

theorem bind {x : ReadM α} {f : α → ReadM β} (hx : Moves cs x) (hf : ∀ a, Moves cs (f a)) :
    Moves cs (x >>= f) := Keeps.bind hx fun a _ => hf a

/-- What the reader knows is looked at. -/
theorem get {f : Reading → ReadM α} (hf : ∀ r, r.cursor.Within cs → Moves cs (f r)) :
    Moves cs (MonadState.get >>= f) := Keeps.bind Keeps.get hf

/-- The place of the reader is looked at. -/
theorem here {f : Cursor → ReadM α} (hf : ∀ c, c.Within cs → Moves cs (f c)) :
    Moves cs (ReadM.here >>= f) := Keeps.bind (Keeps.bind Keeps.get fun _ hr => Keeps.pure hr) hf

/-- Something is read, and the reader knows what it yields. -/
theorem lift {x : Except Fault α} {P : α → Prop} {f : α → ReadM β} (hx : Yields (ScanFault cs) P x)
    (hf : ∀ a, P a → Moves cs (f a)) : Moves cs (ReadM.lift x >>= f) := by
  refine Keeps.bind ?_ hf
  cases x with
  | ok a => exact Keeps.pure hx
  | error e => exact fun _ _ => Yields.of_error hx

/-- A change of the reader that leaves its place alone. -/
theorem modify {f : Reading → Reading} (hf : ∀ r, (f r).cursor = r.cursor) :
    Moves cs (modify f) := by
  refine Keeps.modify fun r hr => ?_
  rw [hf r]
  exact hr

theorem change {f : Reading → Reading} {x : PUnit → ReadM α} (hf : ∀ r, (f r).cursor = r.cursor)
    (hx : ∀ a, Moves cs (x a)) : Moves cs (MonadState.modifyGet (fun r => (PUnit.unit, f r)) >>= x) :=
  (modify hf).bind hx

theorem refuse (p : Problem) : Moves cs (throw (.problem p) : ReadM α) := Keeps.refuse p

/-- A step that is only taken under a condition. -/
theorem ite {b : Prop} [Decidable b] {x y : ReadM α} (hx : Moves cs x) (hy : Moves cs y) :
    Moves cs (if b then x else y) := by
  split
  · exact hx
  · exact hy

end Moves

-- ── single steps ──────────────────────────────────────────────────────────

theorem moves_look (c : Cursor) (k : Nat) {f : Unit → ReadM α} (hf : Moves cs (f ())) :
    Moves cs (ReadM.lift (c.look k) >>= f) := .lift (Yields.look c k) fun _ _ => hf

theorem moves_moveTo {c : Cursor} (h : c.Within cs) : Moves cs (moveTo c) :=
  moves_look c 0 (Keeps.modify fun _ _ => h)

theorem moves_add (t : Token) : Moves cs (add t) := .modify fun _ => rfl

theorem moves_mark (kind : TokenKind) : Moves cs (mark kind) := .here fun _ _ => moves_add _

theorem moves_take (kind : TokenKind) (n : Nat) : Moves cs (take kind n) :=
  .here fun _ hc => (moves_add _).bind fun _ => moves_moveTo (hc.forwardBy n)

theorem moves_insertAt (n : Nat) (kind : TokenKind) (m : Mark) : Moves cs (insertAt n kind m) :=
  .modify fun _ => rfl

theorem moves_allowKey (b : Bool) : Moves cs (allowKey b) := .modify fun _ => rfl

theorem moves_missingColon (k : PossibleKey) : Moves cs (missingColon k : ReadM α) :=
  .here fun _ _ => .refuse _

theorem moves_refuse (problem : String) : Moves cs (ReadM.refuse problem : ReadM α) :=
  .here fun _ _ => .refuse _

theorem moves_forgetKey : Moves cs forgetKey := by
  refine .get fun r _ => ?_
  dsimp only
  split
  · exact .ite ((moves_missingColon _).bind fun _ => .modify fun _ => rfl) (.modify fun _ => rfl)
  · exact .modify fun _ => rfl

theorem moves_saveKey : Moves cs saveKey :=
  .get fun _ _ => .ite (moves_forgetKey.bind fun _ => .modify fun _ => rfl) (.pure _)

theorem moves_checkKeys (m : Mark) (keys : List (Nat × PossibleKey)) : Moves cs (checkKeys m keys) := by
  induction keys with
  | nil => exact .pure _
  | cons key rest ih =>
      rw [checkKeys]
      refine .ite (.ite ?_ ih) (ih.bind fun _ => .pure _)
      exact (moves_missingColon _).bind fun _ => ih

theorem moves_dropStaleKeys : Moves cs dropStaleKeys :=
  .get fun _ _ => (moves_checkKeys _ _).bind fun _ => .modify fun _ => rfl

theorem moves_unwind (column : Int) (fuel : Nat) : Moves cs (unwind column fuel) := by
  induction fuel with
  | zero => exact .pure _
  | succ fuel ih =>
      refine .get fun r _ => .ite ?_ (.pure _)
      dsimp only
      split
      · exact .change (fun _ => rfl) fun _ => (moves_mark _).bind fun _ => ih
      · exact .change (fun _ => rfl) fun _ => (moves_mark _).bind fun _ => ih

theorem moves_unwindTo (column : Int) : Moves cs (unwindTo column) :=
  .get fun _ _ => .ite (moves_unwind _ _) (.pure _)

theorem moves_indentTo (column : Nat) : Moves cs (indentTo column) :=
  .get fun _ hr => .ite (Keeps.bind (P := fun _ => True) (Keeps.set hr) fun _ _ => .pure trivial) (.pure _)

theorem moves_skipToToken (fuel : Nat) : Moves cs (skipToToken fuel) := by
  induction fuel with
  | zero => exact .pure _
  | succ fuel ih =>
      refine .here fun c hc => ?_
      have hcomment := (hc.skipWhile (· == ' ')).skipComment
      refine .ite ((moves_moveTo hcomment.takeBreak).bind fun _ => .get fun _ _ => ?_)
        (moves_moveTo hcomment)
      exact .ite ((moves_allowKey true).bind fun _ => ih) ih

-- ── one reader for each kind of token ─────────────────────────────────────

theorem moves_readStreamEnd : Moves cs readStreamEnd :=
  (moves_unwindTo _).bind fun _ => moves_forgetKey.bind fun _ => (moves_allowKey _).bind fun _ =>
    .change (fun _ => rfl) fun _ => moves_mark _

theorem moves_readDirectiveLine : Moves cs readDirectiveLine := by
  refine (moves_unwindTo _).bind fun _ => moves_forgetKey.bind fun _ => (moves_allowKey _).bind fun _ =>
    .here fun c hc => .lift (yields_readDirective hc) ?_
  rintro ⟨d, stop, after⟩ hafter
  exact (moves_add _).bind fun _ => moves_moveTo hafter

theorem moves_readDocumentMarker (kind : TokenKind) : Moves cs (readDocumentMarker kind) :=
  (moves_unwindTo _).bind fun _ => moves_forgetKey.bind fun _ => (moves_allowKey _).bind fun _ =>
    moves_take _ _

theorem moves_readFlowStart (kind : TokenKind) : Moves cs (readFlowStart kind) :=
  moves_saveKey.bind fun _ => .change (fun _ => rfl) fun _ => moves_take _ _

theorem moves_readFlowEnd (kind : TokenKind) : Moves cs (readFlowEnd kind) :=
  moves_forgetKey.bind fun _ => .change (fun _ => rfl) fun _ => moves_take _ _

theorem moves_readFlowEntry : Moves cs readFlowEntry :=
  (moves_allowKey _).bind fun _ => moves_forgetKey.bind fun _ => moves_take _ _

/-- A block collection may start where the reader stands, unless no key may begin there. -/
theorem moves_begin {kind : TokenKind} {problem : String} (r : Reading) {x : ReadM Unit} (hx : Moves cs x) :
    Moves cs (do
      if !r.keyAllowed then ReadM.refuse problem
      if ← indentTo r.cursor.mark.column then mark kind
      x) := by
  have hindent : Moves cs (do
      if ← indentTo r.cursor.mark.column then mark kind
      x) := (moves_indentTo _).bind fun _ => .ite ((moves_mark _).bind fun _ => hx) hx
  exact .ite ((moves_refuse _).bind fun _ => hindent) hindent

theorem moves_readBlockEntry : Moves cs readBlockEntry := by
  have hrest : Moves cs (do
      allowKey true
      forgetKey
      take .blockEntry 1) :=
    (moves_allowKey _).bind fun _ => moves_forgetKey.bind fun _ => moves_take _ _
  exact .get fun r _ => .ite (moves_begin r hrest) hrest

theorem moves_readKey : Moves cs readKey := by
  have hrest (b : Bool) : Moves cs (do
      allowKey b
      forgetKey
      take .key 1) :=
    (moves_allowKey _).bind fun _ => moves_forgetKey.bind fun _ => moves_take _ _
  exact .get fun r _ => .ite (moves_begin r (hrest _)) (hrest _)

theorem moves_readValue : Moves cs readValue := by
  have htake : Moves cs (take .value 1) := moves_take _ _
  refine .get fun r _ => ?_
  dsimp only
  split
  · refine .change (fun _ => rfl) fun _ => (moves_insertAt _ _ _).bind fun _ => ?_
    have hrest : Moves cs (do
        allowKey false
        take .value 1) := (moves_allowKey _).bind fun _ => htake
    exact .ite ((moves_indentTo _).bind fun _ =>
      .ite ((moves_insertAt _ _ _).bind fun _ => hrest) hrest) hrest
  · have hrest : Moves cs (do
        allowKey (r.flow == 0)
        forgetKey
        take .value 1) := (moves_allowKey _).bind fun _ => moves_forgetKey.bind fun _ => htake
    exact .ite (moves_begin r hrest) hrest

theorem moves_readName (what : String) (kind : String → TokenKind) : Moves cs (readName what kind) := by
  refine moves_saveKey.bind fun _ => (moves_allowKey _).bind fun _ =>
    .here fun c hc => .lift (scans_readAnchor what hc) ?_
  rintro ⟨name, after⟩ hafter
  exact (moves_add _).bind fun _ => moves_moveTo hafter

theorem moves_readTagToken : Moves cs readTagToken := by
  refine moves_saveKey.bind fun _ => (moves_allowKey _).bind fun _ =>
    .here fun c hc => .lift (yields_readTag hc) ?_
  rintro ⟨handle, suffix, after⟩ hafter
  exact (moves_add _).bind fun _ => moves_moveTo hafter

theorem moves_readBlockScalar (folded : Bool) : Moves cs (readBlockScalar folded) := by
  refine (moves_allowKey _).bind fun _ => moves_forgetKey.bind fun _ =>
    .get fun r hr => .lift (scans_blockScalar folded r.indent hr) ?_
  rintro ⟨text, after⟩ hafter
  exact (moves_add _).bind fun _ => moves_moveTo hafter

theorem moves_readQuoted (double : Bool) : Moves cs (readQuoted double) := by
  refine moves_saveKey.bind fun _ => (moves_allowKey _).bind fun _ =>
    .here fun c hc => .lift (scans_quotedScalar double hc) ?_
  rintro ⟨text, after⟩ hafter
  exact (moves_add _).bind fun _ => moves_moveTo hafter

theorem moves_readPlain : Moves cs readPlain :=
  moves_saveKey.bind fun _ => .get fun _ hr => .lift (yields_plainScalar _ _ hr) fun _ hp =>
    (moves_allowKey _).bind fun _ => (moves_add _).bind fun _ => moves_moveTo hp

-- ── tokens ────────────────────────────────────────────────────────────────

theorem moves_approach : Moves cs approach := by
  refine .get fun r hr => ?_
  have hrest : Moves cs (do
      skipToToken (r.cursor.left + 1)
      dropStaleKeys
      let c ← ReadM.here
      unwindTo c.mark.column) :=
    (moves_skipToToken _).bind fun _ => moves_dropStaleKeys.bind fun _ => .here fun _ _ => moves_unwindTo _
  exact .ite ((moves_moveTo hr.forward).bind fun _ => hrest) hrest

theorem moves_readAt (flow : Bool) (c : Cursor) : Moves cs (readAt flow c) := by
  rw [readAt]
  split
  · exact moves_readStreamEnd
  · exact .ite moves_readDirectiveLine <|
      .ite (moves_readDocumentMarker _) <| .ite (moves_readDocumentMarker _) <|
      .ite (moves_readFlowStart _) <| .ite (moves_readFlowStart _) <|
      .ite (moves_readFlowEnd _) <| .ite (moves_readFlowEnd _) <|
      .ite moves_readFlowEntry <| .ite moves_readBlockEntry <| .ite moves_readKey <|
      .ite moves_readValue <| .ite (moves_readName _ _) <| .ite (moves_readName _ _) <|
      .ite moves_readTagToken <| .ite (moves_readBlockScalar _) <| .ite (moves_readBlockScalar _) <|
      .ite (moves_readQuoted _) <| .ite (moves_readQuoted _) <| .ite moves_readPlain <| .refuse _

theorem moves_readHere : Moves cs readHere := .get fun _ _ => moves_look _ _ (moves_readAt _ _)

/-- **THE STEP OF THE READER** stays in the text. -/
theorem moves_readToken : Moves cs readToken := moves_approach.bind fun _ => moves_readHere

end ReadM

/-- **THE RUN OF THE READER**: the fault that ends the tokens, if it blames a scalar, blames a part
    of the text. -/
theorem scanFault_of_readTokens {cs : List Char} {fuel : Nat} {r : Reading} (h : r.cursor.Within cs)
    {f : ScalarFault} (hf : (readTokens fuel r).fault = some (.scalar f)) : ScanFault cs f := by
  induction fuel generalizing r with
  | zero => exact nomatch hf
  | succ fuel ih =>
      have hdrop := ReadM.moves_dropStaleKeys r h
      rw [readTokens] at hf
      split at hf
      · rename_i e he
        rw [he] at hdrop
        cases Option.some.inj hf
        exact hdrop
      · rename_i r' hr'
        rw [hr'] at hdrop
        have hread := ReadM.moves_readToken r' hdrop.2
        split at hf
        · exact nomatch hf
        · split at hf
          · rename_i e he
            rw [he] at hread
            cases Option.some.inj hf
            exact hread
          · rename_i hr
            rw [hr] at hread
            exact ih hread.2 hf

theorem scanFault_of_tokensOf {cs : List Char} {beyond : Option Obstacle} {f : ScalarFault}
    (h : (tokensOf cs beyond).fault = some (.scalar f)) : ScanFault cs f :=
  scanFault_of_readTokens (Cursor.Within.start beyond) h

end ElementLocator.Yaml
