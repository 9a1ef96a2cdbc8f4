import ElementLocator.Proofs.PatternReading

/-! # Regular expressions in patterns

    Which texts of a pattern are compared by regular expression can be told from its value,
    without reading it (`Pattern.regexTexts`). A pattern that is read settles all of them: if
    it is accepted they all compile, and if the reading is interrupted one of them is the cause
    (`Pattern.settles_read`).

    A text that does not compile is refused with its pattern or interrupts the reading
    (`Regex.Fault.interrupts`). -/

namespace ElementLocator

-- ── texts ─────────────────────────────────────────────────────────────────

/-- The texts that criteria compare by regular expression. -/
def Criteria.regexTexts (c : Criteria) : List String :=
  if c.matchType = .regex then c.constraints.map (·.2) else []

namespace Pattern

mutual

/-- The texts that the pattern of a value compares by regular expression, itself or inside. -/
def regexTexts : Value → List String
  | .marked _ v => regexTexts v
  | .mapping entries => (Criteria.ofEntries entries).regexTexts ++ regexTextsInside entries
  | _ => []

/-- The texts of the children among the entries of a pattern. -/
def regexTextsInside : List (Value × Value) → List String
  | [] => []
  | (k, v) :: rest =>
    match k with
    | .text "children" => regexTextsOfList v
    | _ => regexTextsInside rest

/-- The texts of a list of patterns. -/
def regexTextsOfList : Value → List String
  | .list items => regexTextsOfEach items
  | .tuple items => regexTextsOfEach items
  | .set items => regexTextsOfEach items
  | .marked _ v => regexTextsOfList v
  | _ => []

/-- The texts of several patterns. -/
def regexTextsOfEach : List Value → List String
  | [] => []
  | v :: rest => regexTexts v ++ regexTextsOfEach rest

end

end Pattern

-- ── readings that settle texts ────────────────────────────────────────────

/-- A text compiles. -/
def Regex.Compiles (s : String) : Prop := ∃ program, Regex.compile s = .ok program

/-- One of several texts is the cause of an interruption. -/
def Regex.Interrupts (texts : List String) (i : Interruption) : Prop :=
  ∃ s ∈ texts, ∃ f, Regex.compile s = .error f ∧ f.interrupts = true ∧ i = .regex f

theorem Regex.Interrupts.mono {texts others : List String} {i : Interruption} (h : Interrupts texts i)
    (hsub : ∀ s ∈ texts, s ∈ others) : Interrupts others i := by
  obtain ⟨s, hs, f, hf, hinterrupts, rfl⟩ := h
  exact ⟨s, hsub s hs, f, hf, hinterrupts, rfl⟩

/-- A reading settles texts: if it accepts they all compile, and if it is interrupted one of them
    is the cause. -/
def Settles {α : Type} (texts : List String) : Reading α → Prop
  | .ok (.ok _) => ∀ s ∈ texts, Regex.Compiles s
  | .ok (.error _) => True
  | .error i => Regex.Interrupts texts i

namespace Pattern

theorem compiles_of_regexTexts {c : Criteria} (h : c.regexFault? = none) :
    ∀ s ∈ c.regexTexts, Regex.Compiles s := by
  intro s hs
  rw [Criteria.regexTexts] at hs
  split at hs
  · rename_i hregex
    obtain ⟨k, hk, rfl⟩ := List.mem_map.mp hs
    exact Criteria.compiles_of_regexFault? h hregex hk
  · exact nomatch hs

/-- A fault is that of one of the texts. -/
theorem mem_regexTexts_of_fault {c : Criteria} {field : TextField} {s : String} {f : Regex.Fault}
    (h : c.regexFault? = some (field, s, f)) : s ∈ c.regexTexts ∧ Regex.compile s = .error f := by
  rw [Criteria.regexFault?] at h
  rw [Criteria.regexTexts]
  split at h
  · rename_i hregex
    obtain ⟨⟨name, source⟩, hk, hfault⟩ := List.exists_of_findSome?_eq_some h
    rw [if_pos hregex]
    dsimp only at hfault
    split at hfault
    · cases hfault
    · rename_i g hg
      cases hfault
      exact ⟨List.mem_map_of_mem hk, hg⟩
  · cases h

theorem settles_checkRegex {α : Type} (c : Criteria) (a : α) :
    Settles c.regexTexts (c.checkRegex.map fun checked => checked.map fun _ => a) := by
  cases hf : c.regexFault? with
  | none =>
      rw [Criteria.checkRegex_of_none hf]
      exact compiles_of_regexTexts hf
  | some fault =>
      obtain ⟨field, s, f⟩ := fault
      obtain ⟨hmem, hcompile⟩ := mem_regexTexts_of_fault hf
      rcases Criteria.checkRegex_of_fault hf with ⟨hinterrupts, heq⟩ | ⟨-, message, heq⟩
      · rw [heq]
        exact ⟨s, hmem, f, hcompile, hinterrupts, rfl⟩
      · rw [heq]
        exact trivial

/-- What is put together settles the texts of its own and those inside. -/
theorem settles_assemble {entries : List (Value × Value)} {children : Option (Checked (List Pattern))}
    {inside : List String} (hexplains : ∀ c, children = some c → c.Explains)
    (hinside : Settles inside (.ok (children.getD (.ok [])))) :
    Settles ((Criteria.ofEntries entries).regexTexts ++ inside) (assemble entries children) := by
  rcases assemble_cases entries children with ⟨es, -, heq⟩ | ⟨hnone, heq⟩
  · rw [heq]
    exact trivial
  · have hown := settles_checkRegex (Criteria.ofEntries entries)
      (node (Criteria.ofEntries entries) (((children.getD (.ok [])).below "children").getD []))
    rw [← heq] at hown
    cases hread : assemble entries children with
    | error i =>
        rw [hread] at hown
        exact hown.mono fun s hs => List.mem_append_left _ hs
    | ok checked =>
        cases checked with
        | error es => exact trivial
        | ok p =>
            rw [hread] at hown
            have hinside : ∀ s ∈ inside, Regex.Compiles s := by
              rcases children_of_assemble hexplains hread with rfl | ⟨ps, rfl⟩
              · exact hinside
              · exact hinside
            intro s hs
            rcases List.mem_append.mp hs with hs | hs
            · exact hown s hs
            · exact hinside s hs

theorem Settles.nonempty {texts : List String} {r : Reading (List Pattern)} (h : Settles texts r) :
    Settles texts (r.map readChildList.nonempty) := by
  cases r with
  | error i => exact h
  | ok checked =>
      show Settles texts (.ok (readChildList.nonempty checked))
      cases hc : readChildList.nonempty checked with
      | error es => exact trivial
      | ok ps =>
          rw [eq_ok_of_nonempty hc] at h
          exact h

mutual

/-- **A PATTERN THAT IS READ SETTLES ITS TEXTS**. The recursion is the reader's own. -/
theorem settles_read (seen : List Nat) (levels : Nat) : ∀ v : Value,
    Settles (regexTexts v) (read seen levels v)
  | .marked id v => by
      rw [regexTexts, read]
      split
      · exact trivial
      · exact settles_read (id :: seen) levels v
  | .mapping entries => by
      have hinside := settles_readChildren seen (levels - 1) entries
      rw [regexTexts, read]
      split
      · exact trivial
      · cases hread : readChildren seen (levels - 1) entries with
        | error i =>
            rw [hread] at hinside
            exact Regex.Interrupts.mono hinside fun s hs => List.mem_append_right _ hs
        | ok children =>
            rw [hread] at hinside
            exact settles_assemble (fun c hc => explains_of_readChildren (hc ▸ hread)) hinside
  | .null | .bool _ | .int _ | .float _ | .text _ | .bytes _ | .date _ | .moment _ | .list _
  | .tuple _ | .set _ => by
      rw [read]
      · exact trivial
      all_goals exact fun _ => nofun

theorem settles_readChildren (seen : List Nat) (levels : Nat) : ∀ entries : List (Value × Value),
    Settles (regexTextsInside entries) ((readChildren seen levels entries).map fun c => c.getD (.ok []))
  | [] => fun _ hs => nomatch hs
  | (k, v) :: rest => by
      by_cases hk : k = .text "children"
      · have h := settles_readChildList seen levels v
        rw [hk, regexTextsInside, readChildren]
        cases hread : readChildList seen levels v with
        | error i =>
            rw [hread] at h
            exact h
        | ok checked =>
            rw [hread] at h
            exact h
      · rw [regexTextsInside, readChildren, if_neg (Validation.not_isNamed hk)]
        · exact settles_readChildren seen levels rest
        · exact hk

theorem settles_readChildList (seen : List Nat) (levels : Nat) : ∀ v : Value,
    Settles (regexTextsOfList v) (readChildList seen levels v)
  | .null => by
      rw [readChildList, regexTextsOfList]
      · exact fun _ hs => nomatch hs
      all_goals exact nofun
  | .list items | .tuple items | .set items => by
      rw [readChildList, regexTextsOfList]
      exact Settles.nonempty (settles_readItems seen levels 0 items)
  | .marked _ v => by
      rw [readChildList, regexTextsOfList]
      exact settles_readChildList seen levels v
  | .bool _ | .int _ | .float _ | .text _ | .bytes _ | .date _ | .moment _ | .mapping _ => by
      rw [readChildList]
      · exact trivial
      all_goals exact nofun

theorem settles_readItems (seen : List Nat) (levels i : Nat) : ∀ items : List Value,
    Settles (regexTextsOfEach items) (readItems seen levels i items)
  | [] => fun _ hs => nomatch hs
  | v :: rest => by
      have hfirst := settles_read seen levels v
      have hothers := settles_readItems seen levels (i + 1) rest
      rw [regexTextsOfEach, readItems]
      cases hv : read seen levels v with
      | error e =>
          rw [hv] at hfirst
          exact Regex.Interrupts.mono hfirst fun s hs => List.mem_append_left _ hs
      | ok first =>
          rw [hv] at hfirst
          dsimp only
          cases hr : readItems seen levels (i + 1) rest with
          | error e =>
              rw [hr] at hothers
              exact Regex.Interrupts.mono hothers fun s hs => List.mem_append_right _ hs
          | ok others =>
              rw [hr] at hothers
              cases first with
              | error es => exact trivial
              | ok p =>
                  cases others with
                  | error es => exact trivial
                  | ok ps =>
                      intro s hs
                      rcases List.mem_append.mp hs with hs | hs
                      · exact hfirst s hs
                      · exact hothers s hs

end

end Pattern

end ElementLocator
