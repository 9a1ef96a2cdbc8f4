import ElementLocator.Proofs.Comparisons
import ElementLocator.Proofs.SearchAnswers

/-! # Tighter patterns

    A pattern is made tighter in its own criteria by a stricter comparison, or by one more text
    that it asks for; its inner patterns stay as they are. In every tree the tighter pattern
    finds some of the candidates of the other one, in the same order.

    * `Criteria.Tighter` — criteria that are always answered, and met by fewer nodes;
    * `exists_sublist_of_candidates` — a search by tighter criteria succeeds where the other one
      does, and leaves candidates out;
    * `tighter_patterns_find_fewer` — stricter comparisons and further texts make patterns
      tighter. -/

namespace ElementLocator

-- ── criteria ──────────────────────────────────────────────────────────────

theorem satisfies_iff {value : Option String} {expected : String} {t : MatchType} :
    satisfies value expected t = true ↔ matchesText value expected t = .ok true := by
  rw [satisfies]
  cases matchesText value expected t with
  | ok b => exact ⟨congrArg Except.ok, Except.ok.inj⟩
  | error f =>
      refine iff_of_false Bool.false_ne_true fun h => ?_
      cases h

/-- An attribute that satisfies a constraint satisfies it by every comparison less strict. -/
theorem satisfies_of_stricter {s t : MatchType} (h : s.Stricter t) {value : Option String}
    {expected : String} (hs : satisfies value expected s = true) : satisfies value expected t = true := by
  rw [satisfies_iff] at hs ⊢
  cases value with
  | none => exact nomatch Except.ok.inj hs
  | some v =>
      rw [matchesText] at hs ⊢
      split at hs
      · exact nomatch Except.ok.inj hs
      · rename_i hv
        rw [if_neg hv]
        rw [MatchType.compare_eq_true_iff h.ne_regex.1] at hs
        exact (MatchType.compare_eq_true_iff h.ne_regex.2 v expected).mpr (hs.of_stricter h)

namespace Criteria

/-- Criteria with the index of others that never leave a match unanswered, and are met only by nodes
    that meet the others. -/
structure Tighter (c d : Criteria) : Prop where
  index : c.index = d.index
  answers : c.matchType ≠ .regex
  fits : ∀ a, c.fits a = true → d.fits a = true

theorem Tighter.hasLongIndex_eq {c d : Criteria} (h : c.Tighter d) (inner : List Pattern) :
    (Pattern.node c inner).hasLongIndex = (Pattern.node d inner).hasLongIndex := by
  show c.index.any _ = d.index.any _
  rw [h.index]

/-- The criteria with another comparison. -/
def comparing (c : Criteria) (t : MatchType) : Criteria := { c with matchType := t }

/-- The text that is asked for in a field. -/
def text (c : Criteria) : TextField → Option String
  | .identifier => c.identifier
  | .className => c.className
  | .label => c.label

/-- The criteria with a text asked for in a field. -/
def requiring (c : Criteria) : TextField → String → Criteria
  | .identifier, s => { c with identifier := some s }
  | .className, s => { c with className := some s }
  | .label, s => { c with label := some s }

theorem matchType_requiring (c : Criteria) (field : TextField) (s : String) :
    (c.requiring field s).matchType = c.matchType := by
  cases field <;> rfl

theorem role_requiring (c : Criteria) (field : TextField) (s : String) :
    (c.requiring field s).role = c.role := by
  cases field <;> rfl

theorem mem_constraints_iff {c : Criteria} {k : TextField × String} :
    k ∈ c.constraints ↔ c.text k.1 = some k.2 := by
  obtain ⟨field, s⟩ := k
  cases field <;> simp [constraints, text]

theorem text_requiring (c : Criteria) (field : TextField) (s : String) (other : TextField) :
    (c.requiring field s).text other = if other = field then some s else c.text other := by
  cases field <;> cases other <;> rfl

/-- A further text leaves the other constraints as they are. -/
theorem mem_constraints_requiring {c : Criteria} {field : TextField} (s : String)
    (hfree : c.text field = none) {k : TextField × String} (hk : k ∈ c.constraints) :
    k ∈ (c.requiring field s).constraints := by
  rw [mem_constraints_iff] at hk ⊢
  rw [text_requiring]
  split
  · rename_i hfield
    rw [hfield, hfree] at hk
    cases hk
  · exact hk

theorem fits_iff {c : Criteria} {a : NodeAttributes} :
    c.fits a = true ↔ a.role = some c.role ∧
      ∀ k ∈ c.constraints, satisfies (a.text k.1) k.2 c.matchType = true := by
  rw [fits, Bool.and_eq_true, beq_iff_eq, List.all_eq_true]

/-- A stricter comparison makes criteria tighter. -/
theorem tighter_comparing (c : Criteria) {s t : MatchType} (h : s.Stricter t) :
    (c.comparing s).Tighter (c.comparing t) where
  index := rfl
  answers := h.ne_regex.1
  fits := by
    intro a ha
    rw [fits_iff] at ha ⊢
    exact ⟨ha.1, fun k hk => satisfies_of_stricter h (ha.2 k hk)⟩

/-- A further text makes criteria tighter. -/
theorem tighter_requiring {c : Criteria} (hc : c.matchType ≠ .regex) {field : TextField}
    (hfree : c.text field = none) (s : String) : (c.requiring field s).Tighter c where
  index := by cases field <;> rfl
  answers := by
    rw [matchType_requiring]
    exact hc
  fits := by
    intro a ha
    rw [fits_iff, matchType_requiring, role_requiring] at ha
    rw [fits_iff]
    exact ⟨ha.1, fun k hk => ha.2 k (mem_constraints_requiring s hfree hk)⟩

theorem regexFault?_of_ne_regex {c : Criteria} (hc : c.matchType ≠ .regex) : c.regexFault? = none := by
  rw [regexFault?, if_neg hc]

end Criteria

-- ── runs over items ───────────────────────────────────────────────────────

/-- A run over items leaves answers out where it does so at each item. -/
theorem Report.exists_sublist_of_collect {τ ε α β : Type} {f g : α → Report τ ε (List β)}
    {items : List α} {found : List β} (h : (collect f items).outcome = .ok found)
    (hfg : ∀ a ∈ items, ∀ r, (f a).outcome = .ok r → ∃ kept, (g a).outcome = .ok kept ∧ kept.Sublist r) :
    ∃ kept, (collect g items).outcome = .ok kept ∧ kept.Sublist found := by
  induction items generalizing found with
  | nil => exact ⟨[], rfl, List.nil_sublist found⟩
  | cons a rest ih =>
      rw [collect_cons] at h ⊢
      obtain ⟨first, hfirst, h⟩ := outcome_bind_eq_ok h
      obtain ⟨others, hothers, h⟩ := outcome_bind_eq_ok h
      obtain rfl : first ++ others = found := Except.ok.inj h
      obtain ⟨kept, hkept, hsub⟩ := hfg a List.mem_cons_self first hfirst
      obtain ⟨more, hmore, hsubs⟩ := ih hothers fun b hb => hfg b (List.mem_cons_of_mem a hb)
      rw [outcome_bind_of_ok hkept, outcome_bind_of_ok hmore]
      exact ⟨kept ++ more, rfl, hsub.append hsubs⟩

-- ── searches ──────────────────────────────────────────────────────────────

namespace TreeAccess

section Search

variable {ν : Type} {access : TreeAccess ν} {limit levels : Nat} {c d : Criteria} {inner : List Pattern}

/-- What a child gives itself depends on its criteria only in whether it fits. -/
theorem ownCandidates_congr (child : ν) (fits : Bool) :
    ownCandidates access limit levels (.node c inner) child fits =
      ownCandidates access limit levels (.node d inner) child fits := by
  cases fits <;> cases inner <;> rfl

/-- **TIGHTER CRITERIA LEAVE CANDIDATES OUT**: where a search succeeds, the search by tighter
    criteria succeeds as well, and finds some of the same candidates in the same order. The
    induction is on the levels that may still be entered. -/
theorem exists_sublist_of_candidates (h : c.Tighter d) {n : ν} {found : List ν}
    (hd : (candidates access limit levels (.node d inner) n).outcome = .ok found) :
    ∃ kept, (candidates access limit levels (.node c inner) n).outcome = .ok kept ∧
      kept.Sublist found := by
  induction levels generalizing n found with
  | zero => exact nomatch hd
  | succ levels ih =>
      rw [candidates_succ] at hd ⊢
      obtain ⟨children, hchildren, hd⟩ := Report.outcome_bind_eq_ok hd
      obtain ⟨_, hannounced, hd⟩ := Report.outcome_bind_eq_ok hd
      have hshort : (Pattern.node c inner).hasLongIndex = false := by
        rw [h.hasLongIndex_eq inner]
        exact short_of_announce hannounced
      rw [Report.outcome_bind_of_ok hchildren, Report.outcome_bind_of_ok (outcome_announce hshort)]
      refine Report.exists_sublist_of_collect hd ?_
      intro child _ r hr
      obtain ⟨a, ha, hr⟩ := Report.outcome_bind_eq_ok hr
      obtain ⟨loose, hloose, hr⟩ := Report.outcome_bind_eq_ok hr
      obtain ⟨own, hown, hr⟩ := Report.outcome_bind_eq_ok hr
      obtain ⟨deeper, hdeeper, hr⟩ := Report.outcome_bind_eq_ok hr
      obtain rfl : own ++ deeper = r := Except.ok.inj hr
      obtain ⟨kept, hkept, hsub⟩ := ih hdeeper
      have hloose : d.fits a = loose := fits_of_matches? (matches?_of_matchesNode hloose)
      simp only [searchChild]
      rw [Report.outcome_bind_of_ok ha]
      -- the tighter criteria are answered, too
      cases hc : c.matches? a with
      | error f => exact absurd hc (Criteria.matches?_ne_error h.answers a f)
      | ok tight =>
          have htight : ((Pattern.node c inner).matchesNode a).mapError Failure.interrupted =
              .ok tight := by
            show ((c.matches? a).mapError _).mapError _ = _
            rw [hc]
            rfl
          rw [Report.outcome_bind_of_ok htight]
          cases tight with
          | false =>
              rw [Report.outcome_bind_of_ok (a := []) rfl, Report.outcome_bind_of_ok hkept]
              exact ⟨kept, rfl, hsub.trans (List.sublist_append_right own deeper)⟩
          | true =>
              rw [h.fits a (fits_of_matches? hc)] at hloose
              rw [← hloose, ownCandidates_congr (d := c)] at hown
              rw [Report.outcome_bind_of_ok hown, Report.outcome_bind_of_ok hkept]
              exact ⟨own ++ kept, rfl, hsub.append_left own⟩

end Search

end TreeAccess

namespace Pattern

/-- The pattern with another comparison of its own texts. -/
def comparing : Pattern → MatchType → Pattern
  | .node c inner, t => .node (c.comparing t) inner

/-- The pattern with a text of its own asked for in a field. -/
def requiring : Pattern → TextField → String → Pattern
  | .node c inner, field, s => .node (c.requiring field s) inner

end Pattern

-- ── inputs of the case below ──────────────────────────────────────────────

namespace Sample

/-- A row with a button inside. -/
def row (identifier label : String) : Tree := .node ⟨some "Row", some identifier, none, some label⟩ [button]

/-- Rows whose labels lie in different ways with regard to one text. -/
def rows : Tree :=
  .node .empty [row "first" "Play", row "second" "Play all", row "third" "Autoplay", row "first" "Play"]

/-- The buttons of the rows whose label starts with a text. -/
def rowValue : Value :=
  .mapping [(.text "role", .text "Row"), (.text "label", .text "Play"),
    (.text "matchType", .text "startsWith"),
    (.text "children", .list [.mapping [(.text "role", .text "Button")]])]

/-- The pattern that `rowValue` is read as. -/
def rowPattern : Pattern :=
  .node ⟨"Row", none, none, some "Play", .startsWith, none⟩
    [.node ⟨"Button", none, none, none, .contains, none⟩ []]

end Sample

namespace TreeAccess

/-- How searches for two patterns compare, the first of them tighter. -/
structure Narrows (failing : List Nat → Option Injected) (limit : DepthLimit) (start : Located)
    (tight loose : Pattern) : Prop where
  /-- Where the looser one succeeds, the tighter one does, and leaves candidates out. -/
  fewer : ∀ found, ((Tree.access failing).search limit loose start).outcome = .ok found →
    ∃ kept, ((Tree.access failing).search limit tight start).outcome = .ok kept ∧ kept.Sublist found
  /-- Where the tighter one succeeds, the looser one does, or is interrupted. -/
  reached : ∀ kept, ((Tree.access failing).search limit tight start).outcome = .ok kept →
    (∃ found, ((Tree.access failing).search limit loose start).outcome = .ok found) ∨
      Interrupted loose start ((Tree.access failing).search limit loose start).outcome

/-- Whether a search for a pattern that compiles succeeds is a matter of the tree, save for
    interruptions. -/
theorem search_succeeds_or_interrupted_of {failing : List Nat → Option Injected} {limit : DepthLimit}
    {start : Located} {p q : Pattern} (hp : p.Compiled) (hq : q.Compiled) {found : List Located}
    (h : ((Tree.access failing).search limit p start).outcome = .ok found) :
    (∃ found, ((Tree.access failing).search limit q start).outcome = .ok found) ∨
      Interrupted q start ((Tree.access failing).search limit q start).outcome := by
  refine (fault?_search_or_interrupted hq failing limit start).imp_left fun hfault => ?_
  rcases fault?_search_or_interrupted hp failing limit start with hwalk | ⟨e, hend, -⟩
  · rw [← hwalk, Report.fault?_of_ok h] at hfault
    exact Report.fault?_eq_none_iff.mp hfault
  · exact nomatch h.symm.trans hend

theorem narrows_of_tighter (failing : List Nat → Option Injected) (limit : DepthLimit) (start : Located)
    {c d : Criteria} {inner : List Pattern} (h : c.Tighter d) (hd : d.matchType ≠ .regex)
    (hinner : ∀ q ∈ inner, q.Compiled) :
    Narrows failing limit start (.node c inner) (.node d inner) where
  fewer _ hfound := exists_sublist_of_candidates h hfound
  reached _ hkept := by
    have hc := Pattern.compiled_node (Criteria.regexFault?_of_ne_regex h.answers) hinner
    have hd := Pattern.compiled_node (Criteria.regexFault?_of_ne_regex hd) hinner
    exact search_succeeds_or_interrupted_of hc hd hkept

/-- **TIGHTER PATTERNS FIND FEWER CANDIDATES**: for an accepted pattern that does not compare by
    regular expression, every stricter comparison and every further text leaves out candidates
    of a search, and changes nothing else. -/
theorem tighter_patterns_find_fewer {v : Value} {p : Pattern} (hp : Pattern.ofValue v = .ok (.ok p))
    (hplain : p.criteria.matchType ≠ .regex) (failing : List Nat → Option Injected)
    (limit : DepthLimit) (start : Located) :
    (∀ s t, MatchType.Stricter s t → Narrows failing limit start (p.comparing s) (p.comparing t)) ∧
      ∀ field, p.criteria.text field = none → ∀ s,
        Narrows failing limit start (p.requiring field s) p := by
  obtain ⟨c, inner⟩ := p
  have hinner : ∀ q ∈ inner, q.Compiled := fun q hq r hr =>
    Pattern.compiled_of_ofValue hp r (Pattern.mem_parts_of_mem_children hq hr)
  constructor
  · intro s t h
    exact narrows_of_tighter failing limit start (c.tighter_comparing h) h.ne_regex.2 hinner
  · intro field hfree s
    exact narrows_of_tighter failing limit start (Criteria.tighter_requiring hplain hfree s) hplain hinner

/-- Of three rows whose label starts with a text, two have just this label, and one of the three has
    the identifier that is asked for in addition. -/
theorem buttons_of_fewer_rows :
    (∃ kept found, ((Tree.access fun _ => none).search Sample.limit (Sample.rowPattern.comparing .exact)
          (Located.root Sample.rows)).outcome = .ok kept ∧
        ((Tree.access fun _ => none).search Sample.limit (Sample.rowPattern.comparing .startsWith)
          (Located.root Sample.rows)).outcome = .ok found ∧
        kept.Sublist found ∧ found.map (·.path) = [[0, 0], [1, 0], [3, 0]]) ∧
      ∃ kept, ((Tree.access fun _ => none).search Sample.limit
          (Sample.rowPattern.requiring .identifier "second") (Located.root Sample.rows)).outcome = .ok kept ∧
        kept.map (·.path) = [[1, 0]] := by
  have haccepted : Pattern.ofValue Sample.rowValue = .ok (.ok Sample.rowPattern) := by rfl
  have h := tighter_patterns_find_fewer haccepted (by decide) (fun _ => none) Sample.limit
    (Located.root Sample.rows)
  obtain ⟨found, hfound⟩ : ∃ found, ((Tree.access fun _ => none).search Sample.limit Sample.rowPattern
      (Located.root Sample.rows)).outcome = .ok found := ⟨_, rfl⟩
  constructor
  · obtain ⟨kept, hkept, hsub⟩ := (h.1 _ _ .exact_startsWith).fewer found hfound
    refine ⟨kept, found, hkept, hfound, hsub, ?_⟩
    cases hfound
    decide +kernel
  · obtain ⟨kept, hkept, -⟩ := (h.2 .identifier rfl "second").fewer found hfound
    refine ⟨kept, hkept, ?_⟩
    cases hkept
    decide +kernel

end TreeAccess

end ElementLocator
