import ElementLocator.Yaml.Cursor

/-! # Moves of a cursor

    A cursor is settled by its mark and by what follows it (`Cursor.before`). Over characters
    that neither break the line nor are byte order marks it moves on by columns.

    * `look_before` — a text that is there as a whole can be looked at anywhere;
    * `forwardBy_before` — a cursor moved past a text stands before the rest;
    * `takeWhile_before` — a run of characters is taken as a whole. -/

namespace ElementLocator.Yaml

/-- The place some characters further on, on the same line. -/
def Mark.advance (m : Mark) (n : Nat) : Mark := ⟨m.index + n, m.line, m.column + n⟩

@[simp] theorem Mark.advance_index (m : Mark) (n : Nat) : (m.advance n).index = m.index + n := rfl

@[simp] theorem Mark.advance_line (m : Mark) (n : Nat) : (m.advance n).line = m.line := rfl

@[simp] theorem Mark.advance_column (m : Mark) (n : Nat) : (m.advance n).column = m.column + n := rfl

theorem Mark.advance_zero (m : Mark) : m.advance 0 = m := rfl

theorem Mark.advance_advance (m : Mark) (k n : Nat) : (m.advance k).advance n = m.advance (k + n) := by
  simp only [advance]
  simp only [Nat.add_assoc]

/-- Whether a character takes one column of its line. -/
def takesColumn (ch : Char) : Bool := !isBreak ch && ch != '\uFEFF'

theorem takesColumn_of_lt {ch : Char} (hlow : 0x20 ≤ ch.toNat) (hhigh : ch.toNat < 0x7F) :
    takesColumn ch = true := by
  have hne (d : Char) (hd : d.toNat < 0x20 ∨ 0x7F ≤ d.toNat) : ch ≠ d := by
    rintro rfl
    omega
  simp only [takesColumn, isBreak]
  simp [hne '\n' (by decide), hne '\r' (by decide), hne '\x85' (by decide),
    hne '\u2028' (by decide), hne '\u2029' (by decide), hne '\uFEFF' (by decide)]

namespace Cursor

/-- The cursor at a mark before a text that is there as a whole. -/
def before (m : Mark) (cs : List Char) : Cursor := { start cs with mark := m }

theorem eq_before {c : Cursor} (h : c.beyond = none) : c = before c.mark c.rest := by
  obtain ⟨m, cs, n, rfl, o⟩ := c
  obtain rfl : o = none := h
  rfl

@[simp] theorem beyond_forward (c : Cursor) : c.forward.beyond = c.beyond := by
  obtain ⟨m, cs, n, rfl, o⟩ := c
  cases cs <;> rfl

@[simp] theorem beyond_forwardBy (c : Cursor) (n : Nat) : (c.forwardBy n).beyond = c.beyond := by
  induction n generalizing c with
  | zero => rfl
  | succ n ih => rw [forwardBy, ih, beyond_forward]

@[simp] theorem mark_before (m : Mark) (cs : List Char) : (before m cs).mark = m := rfl

@[simp] theorem rest_before (m : Mark) (cs : List Char) : (before m cs).rest = cs := rfl

@[simp] theorem left_before (m : Mark) (cs : List Char) : (before m cs).left = cs.length := rfl

@[simp] theorem peek_before (m : Mark) (cs : List Char) : (before m cs).peek = cs.head? := rfl

/-- Nothing keeps the reader from what is there. -/
theorem look_of_beyond_eq_none {c : Cursor} (h : c.beyond = none) (k : Nat) : c.look k = .ok () := by
  rw [look, h]

@[simp] theorem look_before (m : Mark) (cs : List Char) (k : Nat) : (before m cs).look k = .ok () := rfl

@[simp] theorem forward_before (m : Mark) (ch : Char) (cs : List Char) :
    (before m (ch :: cs)).forward = before (markAfter m ch cs.head?) cs := rfl

theorem markAfter_of_takesColumn {ch : Char} (h : takesColumn ch = true) (m : Mark)
    (next : Option Char) : markAfter m ch next = m.advance 1 := by
  rw [takesColumn, isBreak] at h
  simp only [markAfter]
  simp only [Bool.and_eq_true, Bool.not_eq_true', Bool.or_eq_false_iff, bne_iff_ne, ne_eq] at h
  obtain ⟨⟨⟨⟨⟨hn, hr⟩, hx⟩, hl⟩, hp⟩, hbom⟩ := h
  simp [hn, hr, hx, hl, hp, hbom, Mark.advance]

/-- A cursor moved past a text on its line stands before the rest. -/
theorem forwardBy_before {cs : List Char} (h : ∀ ch ∈ cs, takesColumn ch = true) (m : Mark)
    (rest : List Char) :
    (before m (cs ++ rest)).forwardBy cs.length = before (m.advance cs.length) rest := by
  induction cs generalizing m with
  | nil => rfl
  | cons ch cs ih =>
      show ((before m (ch :: (cs ++ rest))).forward).forwardBy cs.length = _
      rw [forward_before, markAfter_of_takesColumn (h ch List.mem_cons_self),
        ih (fun d hd => h d (List.mem_cons_of_mem ch hd)), Mark.advance_advance,
        List.length_cons, Nat.add_comm]

theorem takeWhile_append {p : Char → Bool} {cs rest : List Char} (hcs : ∀ ch ∈ cs, p ch = true)
    (hrest : ∀ ch, rest.head? = some ch → p ch = false) : (cs ++ rest).takeWhile p = cs := by
  induction cs with
  | nil =>
      cases rest with
      | nil => rfl
      | cons ch rest =>
          rw [List.nil_append, List.takeWhile_cons, hrest ch rfl]
          rfl
  | cons ch cs ih =>
      rw [List.cons_append, List.takeWhile_cons, if_pos (hcs ch List.mem_cons_self),
        ih fun d hd => hcs d (List.mem_cons_of_mem ch hd)]

/-- A run of characters before something else is taken as a whole. -/
theorem takeWhile_before {p : Char → Bool} {cs rest : List Char} (m : Mark)
    (hcs : ∀ ch ∈ cs, p ch = true) (hrest : ∀ ch, rest.head? = some ch → p ch = false) :
    (before m (cs ++ rest)).takeWhile p = (cs, (before m (cs ++ rest)).forwardBy cs.length) := by
  simp only [Cursor.takeWhile]
  rw [rest_before, takeWhile_append hcs hrest]

theorem takeWhile_before_nil {p : Char → Bool} {rest : List Char} (m : Mark)
    (hrest : ∀ ch, rest.head? = some ch → p ch = false) :
    (before m rest).takeWhile p = ([], before m rest) := by
  have hall : ∀ ch ∈ ([] : List Char), p ch = true := fun _ h => nomatch h
  exact takeWhile_before m hall hrest

end Cursor

end ElementLocator.Yaml
