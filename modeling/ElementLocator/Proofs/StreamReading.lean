import ElementLocator.Proofs.Yaml.OutlineValue

/-! # Texts in files, as a whole

    The text in a file comes chunk by chunk and piece by piece. None of this shows in a file whose
    bytes are UTF-8: characters and line breaks that lie across the end of a chunk are put together
    again, and the pieces one after the other are the text.

    * `Utf8.decodePart_of_decode` — a part of a text is decoded up to a character that is cut off,
      and that character comes with the next part;
    * `Stream.Holds` — the text that a stream holds, of which a part may be ready;
    * `Stream.pieces_of_holds` — the pieces of a stream are that text;
    * `Yaml.loadFile_of_decode` — a file is loaded like its text. -/

namespace ElementLocator

namespace Text

-- ── characters across chunks ──────────────────────────────────────────────

namespace Utf8

/-- Continuation bytes are told by as many bytes as there should be. -/
theorem takeFollowing_congr {n : Nat} {lo hi : UInt8} {bs cs : List UInt8} (h : bs.take n = cs.take n) :
    takeFollowing n lo hi bs = takeFollowing n lo hi cs := by
  induction n generalizing lo hi bs cs with
  | zero => rfl
  | succ n ih =>
      cases bs with
      | nil =>
          cases cs with
          | nil => rfl
          | cons c cs => exact nomatch h
      | cons b bs =>
          cases cs with
          | nil => exact nomatch h
          | cons c cs =>
              rw [List.take_succ_cons, List.take_succ_cons] at h
              obtain ⟨rfl, hrest⟩ := List.cons.inj h
              rw [takeFollowing, takeFollowing, ih hrest]

theorem le_length_of_takeFollowing {n : Nat} {lo hi : UInt8} {bs taken : List UInt8}
    (h : takeFollowing n lo hi bs = .ok taken) : n ≤ bs.length := by
  induction n generalizing lo hi bs taken with
  | zero => exact Nat.zero_le _
  | succ n ih =>
      cases bs with
      | nil => exact nomatch h
      | cons b bs =>
          rw [takeFollowing] at h
          split at h
          · split at h
            · rename_i hrest
              exact Nat.succ_le_succ (ih hrest)
            · exact nomatch h
          · exact nomatch h

/-- A fault among continuation bytes takes all bytes there are, or more bytes do not mend it. -/
theorem takeFollowing_error {n : Nat} {lo hi : UInt8} {bs taken : List UInt8} {d : Defect}
    (h : takeFollowing n lo hi bs = .error (taken, d)) :
    (d = .truncated ∧ taken = bs) ∨
      (d ≠ .truncated ∧ ∀ more, takeFollowing n lo hi (bs ++ more) = .error (taken, d)) := by
  induction n generalizing lo hi bs taken with
  | zero => exact nomatch h
  | succ n ih =>
      cases bs with
      | nil =>
          obtain ⟨rfl, rfl⟩ := Prod.mk.inj (Except.error.inj h)
          exact Or.inl ⟨rfl, rfl⟩
      | cons b bs =>
          rw [takeFollowing] at h
          split at h
          · rename_i hb
            split at h
            · exact nomatch h
            · rename_i rest d' hrest
              obtain ⟨rfl, rfl⟩ := Prod.mk.inj (Except.error.inj h)
              rcases ih hrest with ⟨hd, rfl⟩ | ⟨hd, hmore⟩
              · exact Or.inl ⟨hd, rfl⟩
              · refine Or.inr ⟨hd, fun more => ?_⟩
                rw [List.cons_append, takeFollowing, if_pos hb, hmore]
          · rename_i hb
            obtain ⟨rfl, rfl⟩ := Prod.mk.inj (Except.error.inj h)
            refine Or.inr ⟨nofun, fun more => ?_⟩
            rw [List.cons_append, takeFollowing, if_neg hb]

/-- A character is told by its own bytes, wherever it stands. -/
theorem decodeOne_congr {i j n : Nat} {b : UInt8} {bs cs : List UInt8} {c : Char}
    (h : decodeOne i b bs = .ok (c, n)) (hbytes : bs.take n = cs.take n) : decodeOne j b cs = .ok (c, n) := by
  rw [decodeOne] at h ⊢
  split at h
  · exact nomatch h
  · split at h
    · rename_i taken htaken
      obtain ⟨rfl, rfl⟩ := Prod.mk.inj (Except.ok.inj h)
      rw [takeFollowing_congr hbytes] at htaken
      rw [htaken]
    · exact nomatch h

theorem le_length_of_decodeOne {i n : Nat} {b : UInt8} {bs : List UInt8} {c : Char}
    (h : decodeOne i b bs = .ok (c, n)) : n ≤ bs.length := by
  rw [decodeOne] at h
  split at h
  · exact nomatch h
  · split at h
    · rename_i htaken
      obtain ⟨-, rfl⟩ := Prod.mk.inj (Except.ok.inj h)
      exact le_length_of_takeFollowing htaken
    · exact nomatch h

theorem decodeOne_append {i j n : Nat} {b : UInt8} {bs : List UInt8} {c : Char}
    (h : decodeOne i b bs = .ok (c, n)) (more : List UInt8) : decodeOne j b (bs ++ more) = .ok (c, n) :=
  decodeOne_congr h (List.take_append_of_le_length (le_length_of_decodeOne h)).symm

/-- A character that is not complete takes all bytes there are, or more bytes do not mend it. -/
theorem decodeOne_error {i : Nat} {b : UInt8} {bs : List UInt8} {f : Fault}
    (h : decodeOne i b bs = .error f) :
    f = ⟨i, b :: bs, .truncated⟩ ∨
      (f.defect ≠ .truncated ∧ ∀ more, decodeOne i b (bs ++ more) = .error f) := by
  simp only [decodeOne] at h ⊢
  split at h
  · rw [← Except.error.inj h]
    exact Or.inr ⟨nofun, fun _ => rfl⟩
  · split at h
    · exact nomatch h
    · rename_i htaken
      rw [← Except.error.inj h]
      rcases takeFollowing_error htaken with ⟨rfl, rfl⟩ | ⟨hd, hmore⟩
      · exact Or.inl rfl
      · refine Or.inr ⟨hd, fun more => ?_⟩
        rw [hmore]

theorem decodeFrom_cons_ok {i n : Nat} {b : UInt8} {bs : List UInt8} {c : Char}
    (h : decodeOne i b bs = .ok (c, n)) :
    decodeFrom i 0 (b :: bs) = (decodeFrom (i + 1) n bs).map (c :: ·) := by
  rw [decodeFrom, h]
  dsimp only
  cases decodeFrom (i + 1) n bs <;> rfl

theorem decodeFrom_cons_error {i : Nat} {b : UInt8} {bs : List UInt8} {f : Fault}
    (h : decodeOne i b bs = .error f) : decodeFrom i 0 (b :: bs) = .error f := by
  rw [decodeFrom, h]

/-- A text is decoded alike wherever it stands. -/
theorem decodeFrom_moved {i j skip : Nat} {bs : List UInt8} {cs : List Char}
    (h : decodeFrom i skip bs = .ok cs) : decodeFrom j skip bs = .ok cs := by
  induction bs generalizing i j skip cs with
  | nil => cases skip <;> exact h
  | cons b bs ih =>
      cases skip with
      | succ skip => exact ih h
      | zero =>
          cases hone : decodeOne i b bs with
          | error f =>
              rw [decodeFrom_cons_error hone] at h
              exact nomatch h
          | ok r =>
              obtain ⟨c, n⟩ := r
              rw [decodeFrom_cons_ok hone] at h
              rw [decodeFrom_cons_ok (decodeOne_congr hone rfl)]
              cases hrest : decodeFrom (i + 1) n bs with
              | error f =>
                  rw [hrest] at h
                  exact nomatch h
              | ok rest =>
                  rw [hrest] at h
                  rw [ih hrest]
                  exact h

/-- **PARTS OF A TEXT**: what is decoded of its first part is the beginning of the text, and the bytes
    after it are the rest. What is not decoded is one character that the part does not hold as a
    whole. -/
theorem decodeFrom_part {i skip : Nat} {a b : List UInt8} {cs : List Char}
    (h : decodeFrom i skip (a ++ b) = .ok cs) (hskip : skip ≤ a.length) :
    (∃ ds es, decodeFrom i skip a = .ok ds ∧ decode b = .ok es ∧ cs = ds ++ es) ∨
      ∃ k ds es, skip ≤ k ∧ decodeFrom i skip a = .error ⟨i + k, a.drop k, .truncated⟩ ∧
        decodeFrom i skip (a.take k) = .ok ds ∧ decode (a.drop k ++ b) = .ok es ∧ cs = ds ++ es := by
  induction a generalizing i skip cs with
  | nil =>
      obtain rfl := Nat.le_zero.mp hskip
      exact Or.inl ⟨[], cs, rfl, decodeFrom_moved h, rfl⟩
  | cons x a ih =>
      cases skip with
      | succ skip =>
          rcases ih h (Nat.le_of_succ_le_succ hskip) with
            ⟨ds, es, ha, hb, hcs⟩ | ⟨k, ds, es, hk, ha, htake, hb, hcs⟩
          · exact Or.inl ⟨ds, es, ha, hb, hcs⟩
          · refine Or.inr ⟨k + 1, ds, es, Nat.succ_le_succ hk, ?_, htake, hb, hcs⟩
            rw [decodeFrom, ha, Nat.add_assoc, Nat.add_comm 1 k, List.drop_succ_cons]
      | zero =>
          cases hone : decodeOne i x a with
          | error f =>
              rcases decodeOne_error hone with rfl | ⟨-, hmore⟩
              · refine Or.inr ⟨0, [], cs, Nat.le_refl 0, ?_, rfl, decodeFrom_moved h, rfl⟩
                exact decodeFrom_cons_error hone
              · rw [List.cons_append, decodeFrom_cons_error (hmore b)] at h
                exact nomatch h
          | ok r =>
              obtain ⟨c, n⟩ := r
              rw [List.cons_append, decodeFrom_cons_ok (decodeOne_append hone b)] at h
              obtain ⟨rest, hrest, rfl⟩ : ∃ rest, decodeFrom (i + 1) n (a ++ b) = .ok rest ∧ c :: rest = cs := by
                cases hrest : decodeFrom (i + 1) n (a ++ b) with
                | error f =>
                    rw [hrest] at h
                    exact nomatch h
                | ok rest =>
                    rw [hrest] at h
                    exact ⟨rest, rfl, Except.ok.inj h⟩
              rcases ih hrest (le_length_of_decodeOne hone) with
                ⟨ds, es, ha, hb, rfl⟩ | ⟨k, ds, es, hk, ha, htake, hb, rfl⟩
              · refine Or.inl ⟨c :: ds, es, ?_, hb, rfl⟩
                rw [decodeFrom_cons_ok hone, ha]
                rfl
              · refine Or.inr ⟨k + 1, c :: ds, es, Nat.zero_le _, ?_, ?_, hb, rfl⟩
                · rw [decodeFrom_cons_ok hone, ha, Nat.add_assoc, Nat.add_comm 1 k]
                  rfl
                · have htaken : decodeOne i x (a.take k) = .ok (c, n) :=
                    decodeOne_congr hone (by rw [List.take_take, Nat.min_eq_left hk])
                  rw [List.take_succ_cons, decodeFrom_cons_ok htaken, htake]
                  rfl

/-- A part of a text is decoded up to a character that is cut off; its bytes come with the next part.
    The last part is decoded as a whole. -/
theorem decodePart_of_decode {a b : List UInt8} {cs : List Char} (h : decode (a ++ b) = .ok cs) {ends : Bool}
    (hends : ends = true → b = []) :
    ∃ ds pending es, decodePart ends a = .ok (ds, pending) ∧ decode (pending ++ b) = .ok es ∧ cs = ds ++ es ∧
      (ends = true → pending = []) := by
  rcases decodeFrom_part h (Nat.zero_le _) with
    ⟨ds, es, ha, hb, hcs⟩ | ⟨k, ds, es, -, ha, htake, hb, hcs⟩
  · refine ⟨ds, [], es, ?_, hb, hcs, fun _ => rfl⟩
    rw [decodePart, decode, ha]
  · have hmore : ends = false := by
      rw [← Bool.not_eq_true]
      intro hlast
      rw [decode, hends hlast, List.append_nil, ha] at h
      exact nomatch h
    refine ⟨ds, a.drop k, es, ?_, hb, hcs, fun hlast => absurd hlast (by rw [hmore]; exact Bool.false_ne_true)⟩
    rw [decodePart, decode, ha]
    dsimp only
    rw [Nat.zero_add, decode, htake, hmore]
    rfl

theorem length_le_of_decodeFrom {i skip : Nat} {bs : List UInt8} {cs : List Char}
    (h : decodeFrom i skip bs = .ok cs) : cs.length ≤ bs.length := by
  induction bs generalizing i skip cs with
  | nil =>
      have hnil : decodeFrom i skip [] = .ok [] := by cases skip <;> rfl
      rw [← Except.ok.inj (hnil.symm.trans h)]
      exact Nat.le_refl 0
  | cons b bs ih =>
      cases skip with
      | succ skip => exact Nat.le_succ_of_le (ih h)
      | zero =>
          cases hone : decodeOne i b bs with
          | error f =>
              rw [decodeFrom_cons_error hone] at h
              exact nomatch h
          | ok r =>
              rw [decodeFrom_cons_ok hone] at h
              cases hrest : decodeFrom (i + 1) r.2 bs with
              | error f =>
                  rw [hrest] at h
                  exact nomatch h
              | ok rest =>
                  rw [hrest] at h
                  rw [← Except.ok.inj h, List.length_cons, List.length_cons]
                  exact Nat.succ_le_succ (ih hrest)

end Utf8

end Text

-- ── line breaks across chunks ─────────────────────────────────────────────

/-- Breaks on both sides of a place are read apart, unless the place is inside of one. -/
theorem plainBreaks_append {x y : List Char} (h : x.getLast? = some '\r' → y.head? ≠ some '\n') :
    plainBreaks (x ++ y) = plainBreaks x ++ plainBreaks y := by
  fun_induction plainBreaks x with
  | case1 rest ih =>
      rw [List.cons_append, List.cons_append, plainBreaks, ih, List.cons_append]
      intro hlast
      refine h ?_
      cases rest with
      | nil => exact nomatch hlast
      | cons c rest => exact hlast
  | case2 rest hrest ih =>
      cases rest with
      | nil =>
          have hy : ∀ more, y ≠ '\n' :: more := fun more hmore => h rfl (by rw [hmore]; rfl)
          rw [List.cons_append, List.nil_append, plainBreaks]
          · rfl
          · exact hy
      | cons c rest =>
          rw [List.cons_append, plainBreaks, ih h, List.cons_append]
          intro more hmore
          exact hrest rest (by rw [(List.cons.inj hmore).1])
  | case3 c rest hbroken hbare ih =>
      rw [List.cons_append, plainBreaks, ih, List.cons_append]
      · intro hlast
        refine h ?_
        cases rest with
        | nil => exact nomatch hlast
        | cons d rest => exact hlast
      · exact fun _ hc _ => hbare hc
      · exact hbare
  | case4 => rfl

theorem length_plainBreaks_le (cs : List Char) : (plainBreaks cs).length ≤ cs.length := by
  fun_induction plainBreaks cs with
  | case1 rest ih => exact Nat.succ_le_succ (Nat.le_succ_of_le ih)
  | case2 rest hrest ih => exact Nat.succ_le_succ ih
  | case3 c rest hbroken hbare ih => exact Nat.succ_le_succ ih
  | case4 => exact Nat.le_refl 0

namespace Text.Stream

/-- The carriage return that a stream keeps back, if it does. -/
def held (kept : Bool) : List Char := if kept then ['\r'] else []

/-- What is settled of the breaks in a chunk stands in front of what is to come. -/
theorem settleBreaks_append (kept : Bool) {ends : Bool} (cs : List Char) {es : List Char}
    (hends : ends = true → es = []) :
    plainBreaks (held kept ++ cs ++ es) =
      (settleBreaks kept ends cs).1 ++ plainBreaks (held (settleBreaks kept ends cs).2 ++ es) ∧
    (ends = true → (settleBreaks kept ends cs).2 = false) := by
  have hheld : (if kept then '\r' :: cs else cs) = held kept ++ cs := by cases kept <;> rfl
  simp only [settleBreaks]
  rw [hheld]
  split
  · rename_i hnone
    obtain ⟨hcs, hmore⟩ := Bool.and_eq_true_iff.mp hnone
    rw [List.isEmpty_iff.mp hcs, List.append_nil]
    exact ⟨rfl, fun hlast => absurd hmore (by rw [hlast]; exact Bool.false_ne_true)⟩
  · split
    · rename_i hlast
      obtain ⟨hmore, hlast⟩ := Bool.and_eq_true_iff.mp hlast
      obtain ⟨front, hfront⟩ := List.getLast?_eq_some_iff.mp (beq_iff_eq.mp hlast)
      rw [hfront, List.dropLast_concat, List.append_assoc]
      refine ⟨plainBreaks_append fun _ => ?_, fun hend => absurd hmore (by rw [hend]; exact Bool.false_ne_true)⟩
      exact fun hline => nomatch hline
    · rename_i hlast
      refine ⟨plainBreaks_append fun hreturn => ?_, fun _ => rfl⟩
      rw [hreturn, beq_self_eq_true, Bool.and_true, Bool.not_eq_true, Bool.not_eq_false'] at hlast
      rw [hends hlast]
      exact nofun

/-- The text that a stream holds: what is ready, and what its bytes are decoded as. -/
def Holds (s : Stream) (text : List Char) : Prop :=
  ∃ cs, Utf8.decode (s.pending ++ s.rest) = .ok cs ∧ text = s.ready ++ plainBreaks (held s.kept ++ cs)

/-- Nothing is to come behind what is ready. -/
structure Exhausted (s : Stream) : Prop where
  rest : s.rest = []
  pending : s.pending = []
  kept : s.kept = false

variable {s : Stream} {text : List Char}

theorem Exhausted.ready_eq (h : s.Exhausted) (htext : s.Holds text) : s.ready = text := by
  obtain ⟨cs, hdecode, rfl⟩ := htext
  rw [h.rest, h.pending] at hdecode
  rw [h.kept, ← Except.ok.inj hdecode]
  exact (List.append_nil _).symm

/-- **A CHUNK MORE** leaves the text as it is. As long as there are bytes some are used up, and after
    that nothing is to come. -/
theorem decodeChunk_of_holds (h : s.Holds text) (wanted : Nat) :
    ∃ later, s.decodeChunk wanted = .ok later ∧ later.Holds text ∧
      (s.rest = [] → later.Exhausted) ∧ (s.rest ≠ [] → later.rest.length < s.rest.length) := by
  obtain ⟨cs, hdecode, rfl⟩ := h
  simp only [decodeChunk]
  generalize hchunk : s.rest.take (max chunkSize (estimate s.density wanted)) = chunk
  have hsplit : chunk ++ s.rest.drop chunk.length = s.rest := by
    rw [← hchunk, List.length_take, List.take_eq_take_min, List.take_append_drop]
  have hnone : chunk.isEmpty = true ↔ s.rest = [] := by
    rw [← hchunk, List.isEmpty_iff, List.take_eq_nil_iff]
    refine ⟨fun h => h.resolve_left fun hzero => ?_, Or.inr⟩
    have : 8192 ≤ 0 := hzero ▸ Nat.le_max_left _ _
    omega
  rw [← hsplit, ← List.append_assoc] at hdecode
  have hends (hend : chunk.isEmpty = true) : s.rest.drop chunk.length = [] := by
    rw [hnone.mp hend, List.drop_nil]
  obtain ⟨ds, pending, es, hpart, hrest, rfl, hpending⟩ := Utf8.decodePart_of_decode hdecode hends
  rw [hpart]
  dsimp only
  have hes (hend : chunk.isEmpty = true) : es = [] := by
    rw [hends hend, hpending hend] at hrest
    exact (Except.ok.inj hrest).symm
  obtain ⟨hbreaks, hkept⟩ := settleBreaks_append s.kept ds hes
  refine ⟨_, rfl, ⟨es, hrest, ?_⟩, fun hend => ?_, fun hmore => ?_⟩
  · rw [← List.append_assoc, hbreaks, List.append_assoc]
  · have hend := hnone.mpr hend
    exact ⟨hends hend, hpending hend, hkept hend⟩
  · have hpos : 0 < chunk.length := by
      rw [List.length_pos_iff]
      exact fun hnil => hmore (hnone.mp (List.isEmpty_iff.mpr hnil))
    have := List.length_pos_iff.mpr hmore
    rw [List.length_drop]
    omega

/-- Once nothing is to come, no more characters become ready. -/
theorem fill_of_exhausted (h : s.Exhausted) (htext : s.Holds text) (wanted fuel : Nat) :
    ∃ later, s.fill wanted (fuel + 1) = .ok later ∧ later.Exhausted ∧ later.Holds text := by
  rw [fill]
  split
  · exact ⟨s, rfl, h, htext⟩
  · obtain ⟨later, hchunk, hholds, hexhausted, -⟩ := decodeChunk_of_holds htext (wanted - s.ready.length)
    have hlater := hexhausted h.rest
    rw [hchunk]
    dsimp only
    rw [h.rest, hlater.ready_eq hholds, h.ready_eq htext, beq_self_eq_true]
    exact ⟨later, rfl, hlater, hholds⟩

/-- **CHUNKS ARE DECODED** until as many characters are ready as are wanted, or all. The induction is
    on the fuel, of which every chunk takes one and the end of the text two. -/
theorem fill_of_holds (h : s.Holds text) (wanted : Nat) {fuel : Nat} (hfuel : s.rest.length + 2 ≤ fuel) :
    ∃ later, s.fill wanted fuel = .ok later ∧ later.Holds text ∧
      (wanted ≤ later.ready.length ∨ later.Exhausted) := by
  induction fuel generalizing s with
  | zero => omega
  | succ fuel ih =>
      rw [fill]
      split
      · rename_i hready
        exact ⟨s, rfl, h, Or.inl hready⟩
      · obtain ⟨later, hchunk, hholds, hexhausted, hfewer⟩ :=
          decodeChunk_of_holds h (wanted - s.ready.length)
        rw [hchunk]
        dsimp only
        by_cases hrest : s.rest = []
        · have hlater := hexhausted hrest
          split
          · exact ⟨later, rfl, hholds, Or.inr hlater⟩
          · obtain ⟨last, hfill, hlast, hlastHolds⟩ :=
              fill_of_exhausted hlater hholds wanted (fuel - 1)
            rw [Nat.sub_add_cancel (by omega)] at hfill
            exact ⟨last, hfill, hlastHolds, Or.inr hlast⟩
        · have hfewer := hfewer hrest
          rw [if_neg]
          · exact ih hholds (by omega)
          · rw [List.isEmpty_eq_false_iff.mpr hrest]
            exact Bool.false_ne_true

/-- **THE PIECES OF A STREAM** are the text that it holds. -/
theorem pieces_of_holds (h : s.Holds text) {wanted : Nat} (hwanted : 0 < wanted) {fuel : Nat}
    (hfuel : text.length < fuel) :
    ∃ ps, s.pieces wanted fuel = (ps, none) ∧ ps.flatten = text := by
  induction fuel generalizing s text with
  | zero => exact absurd hfuel (Nat.not_lt_zero _)
  | succ fuel ih =>
      obtain ⟨later, hfill, hholds, hready⟩ := fill_of_holds h wanted (Nat.le_succ _)
      rw [pieces, hfill]
      dsimp only
      by_cases hnone : later.ready = []
      · have hexhausted : later.Exhausted := by
          refine hready.resolve_left fun hlong => ?_
          rw [hnone] at hlong
          exact absurd hlong (Nat.not_le_of_lt hwanted)
        rw [hnone, ← hexhausted.ready_eq hholds, hnone]
        exact ⟨[], rfl, rfl⟩
      · rw [if_neg (by rwa [List.isEmpty_iff])]
        obtain ⟨cs, hdecode, rfl⟩ := hholds
        have hlength := List.length_pos_iff.mpr hnone
        rw [List.length_append] at hfuel
        have hshorter : (later.ready.drop wanted ++ plainBreaks (held later.kept ++ cs)).length < fuel := by
          rw [List.length_append, List.length_drop]
          omega
        obtain ⟨ps, hpieces, hps⟩ :=
          ih (s := { later with ready := later.ready.drop wanted }) ⟨cs, hdecode, rfl⟩ hshorter
        rw [hpieces]
        refine ⟨_, rfl, ?_⟩
        rw [List.flatten_cons, hps, ← List.append_assoc, List.take_append_drop]

end Text.Stream

-- ── files ─────────────────────────────────────────────────────────────────

namespace Yaml

/-- Pieces of a text in which all characters may stand are all there. -/
theorem ofPieces_of_allAllowed (position : Nat) {ps : List (List Char)} (h : AllAllowed ps.flatten) :
    Available.ofPieces position ps none = ⟨ps.flatten, none⟩ := by
  induction ps generalizing position with
  | nil => rfl
  | cons piece ps ih =>
      rw [List.flatten_cons] at h
      have hpiece : AllAllowed piece := fun ch hch => h ch (List.mem_append_left _ hch)
      have hrest : AllAllowed ps.flatten := fun ch hch => h ch (List.mem_append_right _ hch)
      rw [Available.ofPieces, (firstUnprintable_eq_none_iff position).mpr hpiece]
      dsimp only
      rw [ih _ hrest]
      rfl

/-- **A FILE IS THERE AS A WHOLE** if its bytes are UTF-8 and all characters may stand in a text. -/
theorem ofContent_of_decode {content : List UInt8} {cs : List Char} (h : Text.Utf8.decode content = .ok cs)
    (hall : AllAllowed (ElementLocator.plainBreaks cs)) :
    Available.ofContent content = ⟨ElementLocator.plainBreaks cs, none⟩ := by
  have hholds : (Text.Stream.start content).Holds (ElementLocator.plainBreaks cs) := ⟨cs, h, rfl⟩
  have hlength : (ElementLocator.plainBreaks cs).length < content.length + 1 :=
    Nat.lt_succ_of_le (Nat.le_trans (length_plainBreaks_le cs) (Text.Utf8.length_le_of_decodeFrom h))
  have hpiece : 0 < Available.ofStream.pieceLength := by decide
  obtain ⟨ps, hpieces, hps⟩ := Text.Stream.pieces_of_holds hholds hpiece hlength
  rw [← hps] at hall
  rw [Available.ofContent, Available.ofStream, ← hps, show (Text.Stream.start content).rest = content from rfl,
    hpieces]
  match ps, hall with
  | [], hall => exact ofPieces_of_allAllowed 0 hall
  | [piece], hall => exact ofPieces_of_allAllowed 0 hall
  | first :: second :: rest, hall =>
      have hflat : ((first ++ second) :: rest).flatten = (first :: second :: rest).flatten := by
        rw [List.flatten_cons, List.flatten_cons, List.flatten_cons, List.append_assoc]
      rw [← hflat] at hall
      rw [← hflat]
      exact ofPieces_of_allAllowed 0 hall

/-- A file whose bytes are UTF-8, with characters only that may stand in a text, is loaded like its
    text. -/
theorem loadFile_of_decode {content : List UInt8} {cs : List Char} (h : Text.Utf8.decode content = .ok cs)
    (hall : AllAllowed (ElementLocator.plainBreaks cs)) : loadFile content = load (ElementLocator.plainBreaks cs) := by
  rw [loadFile, ofContent_of_decode h hall, load, (firstUnprintable_eq_none_iff 0).mpr hall]

end Yaml

end ElementLocator
