import ElementLocator.Proofs.SavedTree

/-! # Labels saved and read back

    A node with a label and nothing else is one line of an outline: the key and the quoted label.
    Whether the label comes back from that line depends on more than its quotes and backslashes,
    since not every quoted text is a scalar that stands for the same text.

    * `Yaml.comesBack` — the texts that do come back: no character that a text may not hold is left
      unescaped, and nothing is folded;
    * `tokensOf_onlyLabel` — the line is read as the tokens of a node with some label, or refused;
    * `label_and_back` — what reading the saved label ends in, for every label. -/

namespace ElementLocator

/-- A node with a label and no other attribute. -/
def Tree.onlyLabel (v : String) : Tree := .node ⟨none, none, none, some v⟩ []

namespace Yaml

open Outline ElementLocator.Tree ReadM

/-- Whether a text comes back when it is quoted and read as a scalar: a text may hold every character
    of it that is not escaped, and nothing in it is folded. -/
def comesBack (cs : List Char) : Bool :=
  cs.all (fun ch => ch.toNat < 0x20 || isAllowed ch) && isUnfolded cs

-- ── the line of a label ───────────────────────────────────────────────────

section Line

variable {v : String} (hv : v ≠ "")

include hv

theorem fields_onlyLabel : fields ⟨none, none, none, some v⟩ = [("label", v)] := by
  have hpresent : present (some v) = some v := by
    simp only [present]
    rw [Option.filter_some, if_pos]
    simp [hv]
  simp only [fields, shown]
  rw [hpresent]
  rfl

theorem kinds_onlyLabel :
    Outline.kinds (onlyLabel v) =
      [.blockMappingStart, .key, .scalar "label" true, .value, .scalar v false, .blockEnd] := by
  have hfields := fields_onlyLabel hv
  rw [onlyLabel, kinds_leaf (by rw [hfields]; exact List.cons_ne_nil _ _), hfields]
  rfl

/-- The outline of a label is its key, the quoted label and a line break. -/
theorem toList_onlyLabel :
    (textOf (lines 0 (onlyLabel v))).toList =
      "label".toList ++ ':' :: ' ' :: '"' :: (Text.Quoted.body v.toList ++ '"' :: ['\n']) := by
  have hitems : items ⟨none, none, none, some v⟩ false = [("label", some v)] := by
    simp only [items]
    rw [fields_onlyLabel hv]
    rfl
  rw [toList_textOf_lines, onlyLabel, nodeText, nodesText, List.append_nil]
  show itemsText 0 (items ⟨none, none, none, some v⟩ false) ++ ['\n'] = _
  rw [hitems, itemsText, List.flatMap_nil, List.append_nil, itemText]
  simp only [List.append_assoc, List.cons_append, List.nil_append]

/-- A text may hold the outline of a label just if it may hold what is not escaped. -/
theorem allAllowed_onlyLabel :
    AllAllowed (textOf (lines 0 (onlyLabel v))).toList ↔
      v.toList.all (fun ch => ch.toNat < 0x20 || isAllowed ch) = true := by
  have hkey : AllAllowed "label".toList := List.all_eq_true.mp (by decide +kernel)
  rw [toList_onlyLabel hv, List.all_eq_true]
  constructor
  · intro hall ch hch
    rw [Bool.or_eq_true, decide_eq_true_eq]
    refine allAllowed_escape_iff.mp fun x hx => hall x ?_
    simp only [List.mem_append, List.mem_cons]
    exact Or.inr (Or.inr (Or.inr (Or.inr (Or.inl (List.mem_flatMap.mpr ⟨ch, hch, hx⟩)))))
  · intro hall
    have hbody : AllAllowed (Text.Quoted.body v.toList) := by
      refine allAllowed_flatMap fun ch hch => allAllowed_escape_iff.mpr ?_
      have := hall ch hch
      rwa [Bool.or_eq_true, decide_eq_true_eq] at this
    refine hkey.append (.cons (by decide) (.cons (by decide) (.cons (by decide) ?_)))
    exact hbody.append (.cons (by decide) (.cons (by decide) .nil))

/-- **THE LINE OF A LABEL** is read as the tokens of a node with a label that is not longer, and
    with the same label just if nothing is folded; or it is refused at the label. -/
theorem tokensOf_onlyLabel :
    (∃ p ts, tokensOf (textOf (lines 0 (onlyLabel v))).toList = ⟨ts, some (.problem p)⟩ ∧
      ts.map (·.kind) = [.blockMappingStart, .key, .scalar "label" true, .value] ∧
      isUnfolded v.toList = false) ∨
    ∃ w ts, tokensOf (textOf (lines 0 (onlyLabel v))).toList = ⟨ts, none⟩ ∧
      ts.map (·.kind) = Outline.kinds (onlyLabel w) ++ [.streamEnd] ∧ w ≠ "" ∧
      w.length ≤ v.length ∧ (w = v ↔ isUnfolded v.toList = true) := by
  have hready : Ready (Reading.start (textOf (lines 0 (onlyLabel v))).toList) 0 [] []
      (textOf (lines 0 (onlyLabel v))).toList := by
    refine ready_start ?_
    intro ch hch
    rw [toList_onlyLabel hv] at hch
    rw [← Option.some.inj hch]
    decide
  rw [toList_onlyLabel hv] at hready ⊢
  obtain ⟨r₁, hsteps, hcolon⟩ := steps_key (isKey_of_all (by decide) (by decide)) (by decide) (by rfl) hready
  obtain ⟨m, hread, hrefused⟩ := steps_quotedScalar hcolon
  rcases quotedScalar_body v.toList ['\n'] m with ⟨p, herror, hfolded⟩ | ⟨read, m', hquote, hlength, hnil, hiff⟩
  · obtain ⟨ts, hts, hkinds⟩ := hrefused herror
    exact Or.inl ⟨p, ts, tokensOf_of_steps hsteps fun fuel => hts (fuel + 1), hkinds, hfolded⟩
  · have hshort : ['\n'].length ≤ (Text.Quoted.body v.toList ++ '"' :: ['\n']).length := by
      rw [List.length_append]
      exact Nat.le_add_left_of_le (by decide)
    obtain ⟨r₂, hsteps', hend⟩ := hread hshort hquote
    have hlast : Ready r₂ 0 _ [0] [] :=
      ready_of_ended (hend.ended 1) (fun _ hch => by cases hch) (by decide)
        fun k hk => Nat.le_of_eq (Option.some.inj hk).symm
    obtain ⟨ts, hts, hkinds⟩ := readTokens_of_ready hlast
    have hne : String.ofList read ≠ "" := by
      intro hempty
      rw [← String.toList_eq_nil_iff, String.toList_ofList] at hempty
      exact hv (String.toList_eq_nil_iff.mp (hnil hempty))
    refine Or.inr ⟨String.ofList read, ts, tokensOf_of_steps (hsteps.trans hsteps') hts, ?_, hne, ?_, ?_⟩
    · rw [hkinds, kinds_onlyLabel hne]
      rfl
    · rw [← String.length_toList, ← String.length_toList, String.toList_ofList]
      exact hlength
    · rw [← String.toList_inj, String.toList_ofList]
      exact hiff

end Line

/-- A text that is refused at the value of its first key is not composed. -/
theorem compose_of_fault {key : String} {cs : List Char} {ts : List Token} {f : Fault}
    (htokens : tokensOf cs = ⟨ts, some f⟩)
    (hkinds : ts.map (·.kind) = [.blockMappingStart, .key, .scalar key true, .value]) :
    compose cs = .error f := by
  obtain ⟨⟨_, _, _⟩, ts₁, rfl, rfl, h₁⟩ := List.map_eq_cons_iff.mp hkinds
  obtain ⟨⟨_, _, _⟩, ts₂, rfl, rfl, h₂⟩ := List.map_eq_cons_iff.mp h₁
  obtain ⟨⟨_, _, _⟩, ts₃, rfl, rfl, h₃⟩ := List.map_eq_cons_iff.mp h₂
  obtain ⟨⟨_, _, _⟩, ts₄, rfl, rfl, h₄⟩ := List.map_eq_cons_iff.mp h₃
  obtain rfl := List.map_eq_nil_iff.mp h₄
  simp only [compose]
  rw [htokens]
  rfl

end Yaml

namespace Tree

open Outline

variable {ν : Type}

/-- A text with a fault that is no scalar's is refused as an outline. -/
theorem ofOutline_of_fault {cs : List Char} {f : Yaml.Fault} (hload : Yaml.load cs = .error f)
    (hf : ∀ g, f ≠ .scalar g) (source : String) :
    ∃ reason, (ofOutline source cs : Task ν Tree) = Task.malformed source reason [] := by
  simp only [ofOutline]
  rw [hload]
  cases f with
  | scalar g => exact absurd rfl (hf g)
  | problem p => exact ⟨_, rfl⟩
  | unreadable o => exact ⟨_, rfl⟩

theorem visible_onlyLabel {v : String} (hv : v ≠ "") : (onlyLabel v).visible = onlyLabel v := by
  simp only [onlyLabel, visible, NodeAttributes.visible, visibleEach, present]
  simp [hv]

theorem height_onlyLabel_lt (v : String) : (onlyLabel v).height < Validation.deepest := by
  rw [onlyLabel, height, heightAll]
  decide

/-- **A LABEL SAVED AND READ BACK**: a node with any label that is not empty has an outline. Read
    back, the outline is the same node if and only if the label comes back; otherwise it is a node
    with another label that is not longer, or it is refused as no outline. -/
theorem label_and_back (v : String) (hv : v ≠ "") (limit : DepthLimit) :
    ∃ saved : String,
      (Outline.text (access fun _ => none) (.ok limit) (Located.root (onlyLabel v))).outcome = .ok saved ∧
      ∀ source,
        if Yaml.comesBack v.toList then (ofOutline source saved.toList : Task ν Tree) = Report.ok (onlyLabel v)
        else
          (∃ w, w ≠ v ∧ w.length ≤ v.length ∧
            (ofOutline source saved.toList : Task ν Tree) = Report.ok (onlyLabel w)) ∨
          ∃ reason, (ofOutline source saved.toList : Task ν Tree) = Task.malformed source reason [] := by
  have hvisible := visible_onlyLabel hv
  refine ⟨textOf (lines 0 (onlyLabel v)), ?_, fun source => ?_⟩
  · have hunfolds := unfolds_root (onlyLabel v)
    rw [hvisible] at hunfolds
    exact outcome_text limit hunfolds (Nat.zero_le _)
  have hallowed := Yaml.allAllowed_onlyLabel hv
  by_cases hall : Yaml.AllAllowed (textOf (lines 0 (onlyLabel v))).toList
  · rcases Yaml.tokensOf_onlyLabel hv with
      ⟨p, ts, htokens, hkinds, hfolded⟩ | ⟨w, ts, htokens, hkinds, hw, hlength, hiff⟩
    · have hload : Yaml.load (textOf (lines 0 (onlyLabel v))).toList = .error (.problem p) := by
        simp only [Yaml.load]
        rw [(Yaml.firstUnprintable_eq_none_iff 0).mpr hall]
        dsimp only
        rw [Yaml.valueOf, Yaml.compose_of_fault htokens hkinds]
      have hlost : Yaml.comesBack v.toList = false := by
        simp only [Yaml.comesBack]
        rw [hfolded, Bool.and_false]
      rw [if_neg (by rw [hlost]; exact Bool.false_ne_true)]
      exact Or.inr (ofOutline_of_fault hload (fun g hg => by cases hg) source)
    · have hread : (ofOutline source (textOf (lines 0 (onlyLabel v))).toList : Task ν Tree) =
          Report.ok (onlyLabel w) := by
        rw [ofOutline_of_load (Yaml.load_of_kinds hall htokens hkinds) (height_onlyLabel_lt w) source,
          visible_onlyLabel hw]
      have hback : Yaml.comesBack v.toList = Yaml.isUnfolded v.toList := by
        simp only [Yaml.comesBack]
        rw [hallowed.mp hall, Bool.true_and]
      rw [hread, hback]
      by_cases hsame : w = v
      · rw [if_pos (hiff.mp hsame), hsame]
      · rw [if_neg fun hunfolded => hsame (hiff.mpr hunfolded)]
        exact Or.inl ⟨w, hsame, hlength, rfl⟩
  · have hlost : Yaml.comesBack v.toList = false := by
      simp only [Yaml.comesBack]
      rw [eq_false_of_ne_true (fun h => hall (hallowed.mpr h)), Bool.false_and]
    have hload : ∃ o, Yaml.load (textOf (lines 0 (onlyLabel v))).toList = .error (.unreadable o) := by
      simp only [Yaml.load]
      cases hfirst : Yaml.firstUnprintable 0 (textOf (lines 0 (onlyLabel v))).toList with
      | none => exact absurd ((Yaml.firstUnprintable_eq_none_iff 0).mp hfirst) hall
      | some found => exact ⟨_, rfl⟩
    obtain ⟨o, hload⟩ := hload
    rw [if_neg (by rw [hlost]; exact Bool.false_ne_true)]
    exact Or.inr (ofOutline_of_fault hload (fun g hg => by cases hg) source)

/-- Two lines come back as they are. -/
theorem lines_and_back :
    ∃ saved : String,
      (Outline.text (access fun _ => none) (.ok ⟨1, by decide, by decide⟩)
        (Located.root (onlyLabel "one\u2028two"))).outcome = .ok saved ∧
      ∀ source, (ofOutline source saved.toList : Task Located Tree) = Report.ok (onlyLabel "one\u2028two") := by
  obtain ⟨saved, hsaved, hback⟩ :=
    label_and_back "one\u2028two" (by decide) ⟨1, by decide, by decide⟩
  refine ⟨saved, hsaved, fun source => ?_⟩
  have h := hback source
  rwa [if_pos (by decide)] at h

/-- A delete character does not come back: a text may not hold it, and quoting leaves it as it is. -/
theorem delete_lost :
    ¬ ∀ v : String, v ≠ "" → ∀ limit : DepthLimit, ∃ saved : String,
      (Outline.text (access fun _ => none) (.ok limit) (Located.root (onlyLabel v))).outcome = .ok saved ∧
      ∀ source, (ofOutline source saved.toList : Task Located Tree) = Report.ok (onlyLabel v) := by
  intro h
  obtain ⟨saved, hsaved, hback⟩ := h "\x7f" (by decide) ⟨1, by decide, by decide⟩
  have htext : (Outline.text (access fun _ => none) (.ok ⟨1, by decide, by decide⟩)
      (Located.root (onlyLabel "\x7f"))).outcome = .ok "label: \"\x7f\"\n" := by rfl
  have hlost : (ofOutline unnamedOutline "label: \"\x7f\"\n".toList : Task Located Tree).outcome.isOk = false := by
    decide +kernel
  rw [htext] at hsaved
  cases hsaved
  rw [hback unnamedOutline] at hlost
  exact absurd hlost.symm Bool.false_ne_true

end Tree

end ElementLocator
