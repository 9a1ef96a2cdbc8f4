import Mathlib.Data.List.Infix
import ElementLocator.Pattern.Matching

/-! # What comparisons ask of a text

    A comparison that is not by regular expression asks where an expected text lies in a value
    (`MatchType.Asks`), and is answered accordingly (`MatchType.compare_eq_true_iff`). Some of
    them are stricter than others: a value that is equal to a text starts and ends with it, and
    a value that starts or ends with a text contains it (`MatchType.Asks.of_stricter`). -/

namespace ElementLocator

/-- The search for a part of a text finds it wherever it lies. -/
theorem occursIn_iff {part whole : List Char} : occursIn part whole = true ↔ part <:+: whole := by
  induction whole with
  | nil => rw [occursIn, List.isEmpty_iff, List.infix_nil]
  | cons c rest ih =>
      rw [occursIn, Bool.or_eq_true, List.isPrefixOf_iff_prefix, ih, List.infix_cons_iff]

namespace MatchType

/-- Where an expected text must lie in a value. Comparing by regular expression asks nothing of
    the kind. -/
def Asks (expected value : String) : MatchType → Prop
  | .exact => value = expected
  | .contains => expected.toList <:+: value.toList
  | .startsWith => expected.toList <+: value.toList
  | .endsWith => expected.toList <:+ value.toList
  | .regex => False

/-- **A COMPARISON ANSWERS WHAT IT ASKS**. -/
theorem compare_eq_true_iff {t : MatchType} (ht : t ≠ .regex) (value expected : String) :
    t.compare value expected = .ok true ↔ t.Asks expected value := by
  cases t with
  | exact => rw [compare, Except.ok.injEq, beq_iff_eq, Asks]
  | contains => rw [compare, Except.ok.injEq, occursIn_iff, Asks]
  | startsWith => rw [compare, Except.ok.injEq, List.isPrefixOf_iff_prefix, Asks]
  | endsWith => rw [compare, Except.ok.injEq, List.isSuffixOf_iff_suffix, Asks]
  | regex => exact absurd rfl ht

/-- One comparison is the next stricter one to another. -/
inductive Stricter : MatchType → MatchType → Prop
  | exact_startsWith : Stricter .exact .startsWith
  | exact_endsWith : Stricter .exact .endsWith
  | startsWith_contains : Stricter .startsWith .contains
  | endsWith_contains : Stricter .endsWith .contains

variable {s t : MatchType}

theorem Stricter.ne_regex (h : Stricter s t) : s ≠ .regex ∧ t ≠ .regex := by
  cases h <;> exact ⟨nofun, nofun⟩

/-- What a stricter comparison asks includes what the other one asks. -/
theorem Asks.of_stricter (h : Stricter s t) {expected value : String} (hs : s.Asks expected value) :
    t.Asks expected value := by
  cases h with
  | exact_startsWith =>
      obtain rfl : value = expected := hs
      exact List.prefix_refl value.toList
  | exact_endsWith =>
      obtain rfl : value = expected := hs
      exact List.suffix_refl value.toList
  | startsWith_contains => exact List.IsPrefix.isInfix hs
  | endsWith_contains => exact List.IsSuffix.isInfix hs

end MatchType

end ElementLocator
