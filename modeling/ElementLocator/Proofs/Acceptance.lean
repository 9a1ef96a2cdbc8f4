import ElementLocator.Pattern.Matching
import ElementLocator.Proofs.Fields

/-! # What acceptance of a pattern promises

    A pattern that was read is searched for in trees without being looked at again. What the
    reader has checked must therefore hold of the pattern and of every pattern inside it: the
    texts that are compared by regular expression compile (`compiled_of_ofValue`). A match
    against such a pattern is answered, save for one fault that only shows while matching
    (`Criteria.eq_wrongSpan_of_matches?`); by any other comparison it is always answered
    (`Criteria.matches?_ne_error`). -/

namespace ElementLocator

namespace Pattern

mutual

/-- A pattern and all patterns inside it. -/
def parts : Pattern → List Pattern
  | .node c cs => .node c cs :: partsEach cs

/-- Several patterns and all patterns inside them. -/
def partsEach : List Pattern → List Pattern
  | [] => []
  | p :: rest => p.parts ++ partsEach rest

end

theorem mem_parts_self (p : Pattern) : p ∈ p.parts := by
  cases p with
  | node c cs =>
      rw [parts]
      exact List.mem_cons_self

theorem mem_partsEach {p q : Pattern} (hq : q ∈ p.parts) : ∀ {ps : List Pattern}, p ∈ ps → q ∈ partsEach ps
  | r :: rest, hp => by
      rw [partsEach, List.mem_append]
      rcases List.mem_cons.mp hp with rfl | hp
      · exact Or.inl hq
      · exact Or.inr (mem_partsEach hq hp)

theorem mem_parts_of_mem_children {p q : Pattern} (hp : p ∈ q.children) {r : Pattern}
    (hr : r ∈ p.parts) : r ∈ q.parts := by
  cases q with
  | node c cs =>
      rw [parts]
      exact List.mem_cons_of_mem _ (mem_partsEach hr hp)

/-- The regular expressions of a pattern and of all patterns inside it compile. -/
def Compiled (p : Pattern) : Prop := ∀ q ∈ p.parts, q.criteria.regexFault? = none

theorem forall_mem_partsEach {P : Pattern → Prop} :
    ∀ {ps : List Pattern}, (∀ p ∈ ps, ∀ q ∈ p.parts, P q) → ∀ q ∈ partsEach ps, P q
  | p :: rest, h, q, hq => by
      rw [partsEach, List.mem_append] at hq
      rcases hq with hq | hq
      · exact h p List.mem_cons_self q hq
      · exact forall_mem_partsEach (fun r hr => h r (List.mem_cons_of_mem p hr)) q hq

theorem compiled_node {c : Criteria} {cs : List Pattern} (hc : c.regexFault? = none)
    (hcs : ∀ p ∈ cs, p.Compiled) : (node c cs).Compiled := by
  intro q hq
  rw [parts] at hq
  rcases List.mem_cons.mp hq with rfl | hq
  · exact hc
  · exact forall_mem_partsEach (P := fun q => q.criteria.regexFault? = none) hcs q hq

-- ── the reader ────────────────────────────────────────────────────────────

theorem regexFault?_of_checkRegex {c : Criteria} {u : Unit} (h : c.checkRegex = .ok (.ok u)) :
    c.regexFault? = none := by
  cases hf : c.regexFault? with
  | none => rfl
  | some fault =>
      obtain ⟨field, source, f⟩ := fault
      rcases Criteria.checkRegex_of_fault hf with ⟨-, heq⟩ | ⟨-, message, heq⟩
      · exact nomatch heq.symm.trans h
      · exact nomatch Except.ok.inj (heq.symm.trans h)

/-- What passes the check of its regular expressions is the record that was checked. -/
theorem eq_node_of_checkRegex {c : Criteria} {cs : List Pattern} {p : Pattern}
    (h : (c.checkRegex.map fun checked => checked.map fun _ => node c cs) = .ok (.ok p)) :
    p = node c cs ∧ c.regexFault? = none := by
  cases hc : c.checkRegex with
  | error i =>
      rw [hc] at h
      exact nomatch h
  | ok checked =>
      rw [hc] at h
      cases checked with
      | error es => exact nomatch (Except.ok.inj h)
      | ok u => exact ⟨(Except.ok.inj (Except.ok.inj h)).symm, regexFault?_of_checkRegex hc⟩

theorem compiled_of_assemble {entries : List (Value × Value)}
    {children : Option (Checked (List Pattern))} {p : Pattern}
    (h : assemble entries children = .ok (.ok p))
    (hcs : ∀ ps, children = some (.ok ps) → ∀ q ∈ ps, q.Compiled) : p.Compiled := by
  rcases assemble_cases entries children with ⟨es, -, heq⟩ | ⟨-, heq⟩
  · exact nomatch Except.ok.inj (heq.symm.trans h)
  · obtain ⟨rfl, hc⟩ := eq_node_of_checkRegex (heq.symm.trans h)
    refine compiled_node hc ?_
    intro q hq
    match children, hq with
    | none, hq => exact nomatch hq
    | some (.error es), hq => exact nomatch hq
    | some (.ok ps), hq => exact hcs ps rfl q hq

theorem eq_ok_of_nonempty {checked : Checked (List Pattern)} {ps : List Pattern}
    (h : readChildList.nonempty checked = .ok ps) : checked = .ok ps := by
  simp only [readChildList.nonempty] at h
  split at h
  · exact nomatch h
  · exact h

mutual

theorem compiled_of_read {seen : List Nat} {levels : Nat} :
    ∀ {v : Value} {p : Pattern}, read seen levels v = .ok (.ok p) → p.Compiled
  | .marked id v, p, h => by
      rw [read] at h
      split at h
      · exact nomatch (Except.ok.inj h)
      · exact compiled_of_read h
  | .mapping entries, p, h => by
      rw [read] at h
      split at h
      · exact nomatch (Except.ok.inj h)
      · cases hc : readChildren seen (levels - 1) entries with
        | error i =>
            rw [hc] at h
            exact nomatch h
        | ok children =>
            rw [hc] at h
            exact compiled_of_assemble h fun ps hps => compiled_of_readChildren (hps ▸ hc)
  | .null, p, h | .bool _, p, h | .int _, p, h | .float _, p, h | .text _, p, h | .bytes _, p, h
  | .date _, p, h | .moment _, p, h | .list _, p, h | .tuple _, p, h | .set _, p, h => by
      rw [read] at h
      · exact nomatch (Except.ok.inj h)
      all_goals exact fun _ => nofun

theorem compiled_of_readChildren {seen : List Nat} {levels : Nat} :
    ∀ {entries : List (Value × Value)} {ps : List Pattern},
      readChildren seen levels entries = .ok (some (.ok ps)) → ∀ q ∈ ps, q.Compiled
  | [], ps, h => nomatch (Except.ok.inj h)
  | (k, v) :: rest, ps, h => by
      simp only [readChildren] at h
      split at h
      · cases hl : readChildList seen levels v with
        | error i =>
            rw [hl] at h
            exact nomatch h
        | ok checked =>
            rw [hl] at h
            exact compiled_of_readChildList (Option.some.inj (Except.ok.inj h) ▸ hl)
      · exact compiled_of_readChildren h

theorem compiled_of_readChildList {seen : List Nat} {levels : Nat} :
    ∀ {v : Value} {ps : List Pattern},
      readChildList seen levels v = .ok (.ok ps) → ∀ q ∈ ps, q.Compiled
  | .null, ps, h => by
      rw [readChildList] at h
      cases Except.ok.inj (Except.ok.inj h)
      exact fun q hq => nomatch hq
  | .list items, ps, h | .tuple items, ps, h | .set items, ps, h => by
      rw [readChildList] at h
      cases hi : readItems seen levels 0 items with
      | error i =>
          rw [hi] at h
          exact nomatch h
      | ok checked =>
          rw [hi] at h
          exact compiled_of_readItems (eq_ok_of_nonempty (Except.ok.inj h) ▸ hi)
  | .marked _ v, ps, h => by
      rw [readChildList] at h
      exact compiled_of_readChildList h
  | .bool _, ps, h | .int _, ps, h | .float _, ps, h | .text _, ps, h | .bytes _, ps, h
  | .date _, ps, h | .moment _, ps, h | .mapping _, ps, h => by
      rw [readChildList] at h
      · exact nomatch (Except.ok.inj h)
      all_goals exact nofun

theorem compiled_of_readItems {seen : List Nat} {levels i : Nat} :
    ∀ {items : List Value} {ps : List Pattern},
      readItems seen levels i items = .ok (.ok ps) → ∀ q ∈ ps, q.Compiled
  | [], ps, h => by
      rw [readItems] at h
      cases Except.ok.inj (Except.ok.inj h)
      exact fun q hq => nomatch hq
  | v :: rest, ps, h => by
      rw [readItems] at h
      cases hv : read seen levels v with
      | error i =>
          rw [hv] at h
          exact nomatch h
      | ok first =>
          rw [hv] at h
          dsimp only at h
          cases hr : readItems seen levels (i + 1) rest with
          | error i =>
              rw [hr] at h
              exact nomatch h
          | ok others =>
              rw [hr] at h
              cases first with
              | error es => exact nomatch (Except.ok.inj h)
              | ok p =>
                  cases others with
                  | error es => exact nomatch (Except.ok.inj h)
                  | ok qs =>
                      cases Except.ok.inj (Except.ok.inj h)
                      intro q hq
                      rcases List.mem_cons.mp hq with rfl | hq
                      · exact compiled_of_read hv
                      · exact compiled_of_readItems hr q hq

end

/-- **ACCEPTED PATTERNS COMPILE**, themselves and everything inside them. -/
theorem compiled_of_ofValue {v : Value} {p : Pattern} (h : ofValue v = .ok (.ok p)) : p.Compiled :=
  compiled_of_read h

end Pattern

-- ── matches against patterns that compile ─────────────────────────────────

theorem Regex.eq_wrongSpan_of_search {p : Regex.Program} {text : Array Char} {f : Regex.Fault}
    (h : p.search text = .error f) : f = .wrongSpan := by
  rw [Regex.Program.search] at h
  split at h
  · exact nomatch h
  · split at h
    · exact nomatch h
    · exact (Except.error.inj h).symm

theorem Criteria.compiles_of_regexFault? {c : Criteria} (h : c.regexFault? = none)
    (hr : c.matchType = .regex) {k : TextField × String} (hk : k ∈ c.constraints) :
    ∃ program, Regex.compile k.2 = .ok program := by
  rw [Criteria.regexFault?] at h
  rw [if_pos hr, List.findSome?_eq_none_iff] at h
  have hk := h k hk
  obtain ⟨field, source⟩ := k
  dsimp only at hk
  cases hc : Regex.compile source with
  | ok program => exact ⟨program, rfl⟩
  | error f =>
      rw [hc] at hk
      exact nomatch hk

theorem MatchType.eq_wrongSpan_of_compare {t : MatchType} {value expected : String}
    {f : Regex.Fault} (hc : t = .regex → ∃ program, Regex.compile expected = .ok program)
    (h : t.compare value expected = .error f) : f = .wrongSpan := by
  cases t with
  | regex =>
      obtain ⟨program, hp⟩ := hc rfl
      have hs : Regex.search expected value = .error f := h
      rw [Regex.search] at hs
      rw [hp] at hs
      exact Regex.eq_wrongSpan_of_search hs
  | exact => exact nomatch h
  | contains => exact nomatch h
  | startsWith => exact nomatch h
  | endsWith => exact nomatch h

theorem eq_wrongSpan_of_matchesAll {a : NodeAttributes} {t : MatchType} {f : Regex.Fault} :
    ∀ {ks : List (TextField × String)},
      (∀ k ∈ ks, t = .regex → ∃ program, Regex.compile k.2 = .ok program) →
      matchesAll a t ks = .error f → f = .wrongSpan
  | (field, expected) :: rest, hc, h => by
      rw [matchesAll] at h
      cases hm : matchesText (a.text field) expected t with
      | error g =>
          rw [hm] at h
          cases h
          simp only [matchesText] at hm
          split at hm
          · exact nomatch hm
          · split at hm
            · exact nomatch hm
            · exact MatchType.eq_wrongSpan_of_compare (hc _ List.mem_cons_self) hm
      | ok b =>
          rw [hm] at h
          cases b with
          | false => exact nomatch h
          | true =>
              exact eq_wrongSpan_of_matchesAll (fun k hk => hc k (List.mem_cons_of_mem _ hk)) h

/-- A match against criteria that compile is answered, or its groups cannot be reported. -/
theorem Criteria.eq_wrongSpan_of_matches? {c : Criteria} (hc : c.regexFault? = none)
    {a : NodeAttributes} {f : Regex.Fault} (h : c.matches? a = .error f) : f = .wrongSpan := by
  rw [Criteria.matches?] at h
  split at h
  · exact eq_wrongSpan_of_matchesAll (fun _ hk hr => Criteria.compiles_of_regexFault? hc hr hk) h
  · exact nomatch h

-- ── matches by other comparisons ──────────────────────────────────────────

theorem MatchType.compare_ne_error {t : MatchType} (ht : t ≠ .regex) (value expected : String)
    (f : Regex.Fault) : t.compare value expected ≠ .error f := by
  cases t with
  | regex => exact absurd rfl ht
  | exact => exact nofun
  | contains => exact nofun
  | startsWith => exact nofun
  | endsWith => exact nofun

theorem matchesAll_ne_error {t : MatchType} (ht : t ≠ .regex) (a : NodeAttributes) (f : Regex.Fault)
    (ks : List (TextField × String)) : matchesAll a t ks ≠ .error f := by
  induction ks with
  | nil => exact nofun
  | cons k rest ih =>
      intro h
      rw [matchesAll] at h
      cases hm : matchesText (a.text k.1) k.2 t with
      | error g =>
          simp only [matchesText] at hm
          split at hm
          · exact nomatch hm
          · split at hm
            · exact nomatch hm
            · exact MatchType.compare_ne_error ht _ _ g hm
      | ok b =>
          rw [hm] at h
          cases b with
          | false => exact nomatch h
          | true => exact ih h

/-- A match that is not by regular expression is answered. -/
theorem Criteria.matches?_ne_error {c : Criteria} (hc : c.matchType ≠ .regex) (a : NodeAttributes)
    (f : Regex.Fault) : c.matches? a ≠ .error f := by
  intro h
  rw [Criteria.matches?] at h
  split at h
  · exact matchesAll_ne_error hc a f _ h
  · exact nomatch h

end ElementLocator
