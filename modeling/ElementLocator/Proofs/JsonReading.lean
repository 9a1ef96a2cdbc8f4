import ElementLocator.Proofs.JsonTokens

/-! # Printed data is read back

    The indented text of plain data determines the data: the reader gives it back, texts and all.
    The printer leaves fractions aside here, the reader does not convert numbers of too many
    digits, and an object keeps only one of two members with the same key.

    * `Readable` — data to which none of this applies;
    * `readItems_itemsText`, `readMembers_membersText` — the run over what stands in brackets;
    * `readsBack` — all readable data is read back, by recursion on the data;
    * `parse?_indented` — so is a whole text. -/

namespace ElementLocator.Json

-- ── printed data ──────────────────────────────────────────────────────────

mutual

/-- Data that is read back as it was printed: without fractions, with numbers whose digits can be
    converted, and with objects in which no key stands twice. -/
def Readable : Json → Prop
  | .null => True
  | .bool _ => True
  | .int n => (Nat.toDigits 10 n.natAbs).length ≤ Text.Whole.maxDigits
  | .float _ => False
  | .str _ => True
  | .list items => ReadableEach items
  | .object members => (members.map (·.1)).Nodup ∧ ReadableMembers members

/-- Each of the items is. -/
def ReadableEach : List Json → Prop
  | [] => True
  | j :: rest => Readable j ∧ ReadableEach rest

/-- Each value of the members is. -/
def ReadableMembers : List (String × Json) → Prop
  | [] => True
  | (_, j) :: rest => Readable j ∧ ReadableMembers rest

end

/-- Items as they stand between the brackets. -/
def itemsText (depth : Nat) (items : List Json) : List Char :=
  (String.intercalate ("," ++ margin depth) (indentedItems depth items)).toList

/-- Members as they stand between the braces. -/
def membersText (depth : Nat) (members : List (String × Json)) : List Char :=
  (String.intercalate ("," ++ margin depth) (indentedMembers depth members)).toList

theorem itemsText_singleton (depth : Nat) (j : Json) :
    itemsText depth [j] = (indented depth j).toList := by
  rw [itemsText, indentedItems, indentedItems, String.intercalate_singleton]

theorem itemsText_cons (depth : Nat) (j k : Json) (rest : List Json) :
    itemsText depth (j :: k :: rest) =
      (indented depth j).toList ++ ',' :: ((margin depth).toList ++ itemsText depth (k :: rest)) := by
  simp only [itemsText, indentedItems]
  rw [String.intercalate_cons_cons, String.toList_append, String.toList_append, String.toList_append,
    List.append_assoc, List.append_assoc]
  rfl

/-- A member as it stands: its key, a colon, a blank and its value. -/
def memberText (depth : Nat) (key : String) (j : Json) : List Char :=
  (Text.Quoted.quote key).toList ++ ':' :: ' ' :: (indented depth j).toList

theorem toList_member (depth : Nat) (key : String) (j : Json) :
    (Text.Quoted.quote key ++ ": " ++ indented depth j).toList = memberText depth key j := by
  rw [String.toList_append, String.toList_append, List.append_assoc]
  rfl

theorem membersText_singleton (depth : Nat) (key : String) (j : Json) :
    membersText depth [(key, j)] = memberText depth key j := by
  rw [membersText, indentedMembers, indentedMembers, String.intercalate_singleton, toList_member]

theorem membersText_cons (depth : Nat) (key : String) (j : Json) (m : String × Json)
    (rest : List (String × Json)) :
    membersText depth ((key, j) :: m :: rest) =
      memberText depth key j ++ ',' :: ((margin depth).toList ++ membersText depth (m :: rest)) := by
  obtain ⟨other, k⟩ := m
  simp only [membersText, indentedMembers]
  rw [String.intercalate_cons_cons, String.toList_append, String.toList_append, toList_member,
    String.toList_append, List.append_assoc, List.append_assoc]
  rfl

theorem toList_indented_list (depth : Nat) (j : Json) (rest : List Json) :
    (indented depth (.list (j :: rest))).toList =
      '[' :: ((margin (depth + 1)).toList ++ (itemsText (depth + 1) (j :: rest) ++
        ((margin depth).toList ++ [']']))) := by
  rw [indented]
  · simp only [String.toList_append, List.append_assoc]
    rfl
  · exact List.cons_ne_nil _ _

theorem toList_indented_object (depth : Nat) (m : String × Json) (rest : List (String × Json)) :
    (indented depth (.object (m :: rest))).toList =
      '\x7b' :: ((margin (depth + 1)).toList ++ (membersText (depth + 1) (m :: rest) ++
        ((margin depth).toList ++ ['\x7d']))) := by
  rw [indented]
  · simp only [String.toList_append, List.append_assoc]
    rfl
  · exact List.cons_ne_nil _ _

/-- A number begins with a digit or a minus. -/
theorem toString_begins (n : Int) :
    ∃ c cs, (toString n).toList = c :: cs ∧ (c.isDigit = true ∨ c = '-') := by
  cases n with
  | ofNat n =>
      have htext : (toString (Int.ofNat n)).toList = Nat.toDigits 10 n := Nat.toList_repr
      obtain ⟨d, ds, hd, hdigit⟩ := exists_digit n
      exact ⟨d, ds, htext.trans hd, Or.inl hdigit⟩
  | negSucc m => exact ⟨'-', _, String.toList_append, Or.inr rfl⟩

section Scalars

variable (depth : Nat)

theorem indented_null : indented depth .null = "null" := by simp [indented, scalarText]

theorem indented_bool (b : Bool) : indented depth (.bool b) = if b then "true" else "false" := by
  simp [indented, scalarText]

theorem indented_int (n : Int) : indented depth (.int n) = toString n := by
  simp [indented, scalarText]

theorem indented_str (s : String) : indented depth (.str s) = Text.Quoted.quote s := by
  simp [indented, scalarText]

theorem indented_list_nil : indented depth (.list []) = "[]" := by rw [indented]

theorem indented_object_nil : indented depth (.object []) = "\x7b\x7d" := by rw [indented]

end Scalars

/-- Printed data does not begin with a blank or a closing bracket. -/
theorem indented_begins {j : Json} (hj : Readable j) (depth : Nat) :
    ∃ c cs, (indented depth j).toList = c :: cs ∧ isBlank c = false ∧ c ≠ ']' := by
  cases j with
  | null =>
      rw [indented_null]
      exact ⟨'n', "ull".toList, rfl, rfl, by decide⟩
  | bool b =>
      rw [indented_bool]
      cases b
      · exact ⟨'f', "alse".toList, rfl, rfl, by decide⟩
      · exact ⟨'t', "rue".toList, rfl, rfl, by decide⟩
  | int n =>
      rw [indented_int]
      obtain ⟨c, cs, hcs, hc⟩ := toString_begins n
      refine ⟨c, cs, hcs, ?_⟩
      rcases hc with hc | rfl
      · exact ⟨(isDigit_ordinary hc).1, (ne_of_isDigit hc rfl).symm⟩
      · exact ⟨rfl, by decide⟩
  | float x =>
      rw [Readable] at hj
      exact hj.elim
  | str s =>
      rw [indented_str]
      exact ⟨'"', _, String.toList_ofList, rfl, by decide⟩
  | list items =>
      cases items with
      | nil =>
          rw [indented_list_nil]
          exact ⟨'[', "]".toList, rfl, rfl, by decide⟩
      | cons k rest => exact ⟨'[', _, toList_indented_list depth k rest, rfl, by decide⟩
  | object members =>
      cases members with
      | nil =>
          rw [indented_object_nil]
          exact ⟨'\x7b', ['\x7d'], rfl, rfl, by decide⟩
      | cons m rest => exact ⟨'\x7b', _, toList_indented_object depth m rest, rfl, by decide⟩

theorem closes_margin (depth : Nat) (cs : List Char) : Closes ((margin depth).toList ++ cs) := by
  refine Or.inr ⟨'\n', List.replicate (2 * depth) ' ' ++ cs, ?_, Or.inr rfl⟩
  simp only [margin, String.toList_append, String.toList_ofList, List.append_assoc]
  rfl

theorem length_margin (depth : Nat) : (margin depth).toList.length = 2 * depth + 1 := by
  simp only [margin, String.toList_append, String.toList_ofList, List.length_append,
    List.length_replicate]
  exact Nat.add_comm _ _

theorem itemsText_begins {j : Json} (hj : Readable j) (depth : Nat) (rest : List Json) :
    ∃ c cs, itemsText depth (j :: rest) = c :: cs ∧ isBlank c = false ∧ c ≠ ']' := by
  obtain ⟨c, cs, hcs, hc⟩ := indented_begins hj depth
  cases rest with
  | nil => exact ⟨c, cs, by rw [itemsText_singleton, hcs], hc⟩
  | cons k rest => exact ⟨c, _, by rw [itemsText_cons, hcs, List.cons_append], hc⟩

theorem membersText_begins (depth : Nat) (m : String × Json) (rest : List (String × Json)) :
    ∃ cs, membersText depth (m :: rest) = '"' :: cs := by
  obtain ⟨key, j⟩ := m
  have hmember : ∃ cs, memberText depth key j = '"' :: cs := by
    rw [memberText, Text.Quoted.quote, String.toList_ofList]
    exact ⟨_, rfl⟩
  obtain ⟨cs, hcs⟩ := hmember
  cases rest with
  | nil => exact ⟨cs, by rw [membersText_singleton, hcs]⟩
  | cons m rest => exact ⟨_, by rw [membersText_cons, hcs, List.cons_append]⟩

/-- Members with different keys are put one after the other. -/
theorem foldl_putMember {members : List (String × Json)} :
    ∀ {done : List (String × Json)}, ((done ++ members).map (·.1)).Nodup →
      members.foldl (fun ms m => putMember ms m.1 m.2) done = done ++ members := by
  induction members with
  | nil => simp
  | cons m rest ih =>
      intro done h
      have hnew : done.any (·.1 == m.1) = false := by
        rw [List.map_append, List.nodup_append] at h
        refine List.any_eq_false.mpr fun d hd heq => ?_
        exact h.2.2 d.1 (List.mem_map_of_mem hd) m.1 List.mem_cons_self (beq_iff_eq.mp heq)
      rw [List.foldl_cons, putMember, hnew, if_neg Bool.false_ne_true, ih]
      · rw [List.append_assoc, List.singleton_append]
      · rwa [List.append_assoc, List.singleton_append]

theorem closes_comma (cs : List Char) : Closes (',' :: cs) := Or.inr ⟨',', cs, rfl, Or.inl rfl⟩

/-- Data is read back from its printed text, wherever it stands, in as many rounds as the text has
    characters. -/
def ReadsBack (j : Json) : Prop :=
  ∀ {depth fuel : Nat} {cs rest : List Char}, skipBlanks cs = (indented depth j).toList ++ rest →
    (indented depth j).toList.length ≤ fuel + 1 → Closes rest →
      readValue (fuel + 1) cs = some (j, rest)

/-- **THE STEP OVER ITEMS**: if each is read back, so is what stands between the brackets. -/
theorem readItems_itemsText {items : List Json} (hitems : ∀ j ∈ items, Readable j ∧ ReadsBack j)
    (hne : items ≠ []) {depth below fuel : Nat} {cs after : List Char} {done : List Json}
    (hfuel : (itemsText depth items).length + 1 ≤ fuel)
    (hcs : skipBlanks cs = itemsText depth items ++ ((margin below).toList ++ ']' :: after)) :
    readItems (fuel + 1) cs done = some (.list (done.reverse ++ items), after) := by
  induction items generalizing fuel cs done with
  | nil => exact absurd rfl hne
  | cons j more ih =>
      obtain ⟨-, hreads⟩ := hitems j List.mem_cons_self
      obtain ⟨f, rfl⟩ : ∃ f, fuel = f + 1 := ⟨fuel - 1, by omega⟩
      cases more with
      | nil =>
          rw [itemsText_singleton] at hcs hfuel
          have hvalue := hreads hcs (Nat.le_of_succ_le hfuel) (closes_margin below (']' :: after))
          rw [readItems_last hvalue, List.reverse_cons]
      | cons k more =>
          rw [itemsText_cons, List.append_assoc, List.cons_append, List.append_assoc] at hcs
          rw [itemsText_cons, List.length_append, List.length_cons, List.length_append] at hfuel
          have hlength : (indented depth j).toList.length ≤ f + 1 := by omega
          obtain ⟨c, ds, hds, hblank, -⟩ :=
            itemsText_begins (hitems k (List.mem_cons_of_mem j List.mem_cons_self)).1 depth more
          have hrest : skipBlanks ((margin depth).toList ++ (itemsText depth (k :: more) ++
              ((margin below).toList ++ ']' :: after))) =
                itemsText depth (k :: more) ++ ((margin below).toList ++ ']' :: after) := by
            rw [hds]
            exact skipBlanks_margin hblank depth _
          rw [readItems_more (hreads hcs hlength (closes_comma _))]
          rw [ih (fun i hi => hitems i (List.mem_cons_of_mem j hi)) (List.cons_ne_nil k more)
            (by omega) hrest, List.reverse_cons, List.append_assoc]
          rfl

/-- A blank stands before the value of a member. -/
theorem skipBlanks_indented {j : Json} (hj : Readable j) (depth : Nat) (rest : List Char) :
    skipBlanks (' ' :: ((indented depth j).toList ++ rest)) = (indented depth j).toList ++ rest := by
  obtain ⟨c, cs, hcs, hblank, -⟩ := indented_begins hj depth
  rw [hcs]
  exact skipBlanks_cons hblank _

/-- **THE STEP OVER MEMBERS** is the same, with their keys. -/
theorem readMembers_membersText {members : List (String × Json)}
    (hmembers : ∀ m ∈ members, Readable m.2 ∧ ReadsBack m.2) (hne : members ≠ [])
    {depth below fuel : Nat} {cs after : List Char} {done : List (String × Json)}
    (hfuel : (membersText depth members).length + 1 ≤ fuel)
    (hcs : skipBlanks cs = membersText depth members ++ ((margin below).toList ++ '\x7d' :: after)) :
    readMembers (fuel + 1) cs done =
      some (.object ((done.reverse ++ members).foldl (fun ms m => putMember ms m.1 m.2) []), after) := by
  induction members generalizing fuel cs done with
  | nil => exact absurd rfl hne
  | cons m more ih =>
      obtain ⟨key, j⟩ := m
      obtain ⟨hj, hreads⟩ := hmembers (key, j) List.mem_cons_self
      obtain ⟨f, rfl⟩ : ∃ f, fuel = f + 1 := ⟨fuel - 1, by omega⟩
      cases more with
      | nil =>
          rw [membersText_singleton, memberText] at hcs hfuel
          simp only [List.length_append, List.length_cons] at hfuel
          rw [List.append_assoc] at hcs
          have hlength : (indented depth j).toList.length ≤ f + 1 := by omega
          have hvalue := hreads (skipBlanks_indented hj depth _) hlength
            (closes_margin below ('\x7d' :: after))
          rw [(readMembers_step hcs hvalue done).2 _ (skipBlanks_margin rfl below after),
            List.reverse_cons]
      | cons k more =>
          rw [membersText_cons, memberText] at hcs hfuel
          simp only [List.length_append, List.length_cons] at hfuel
          simp only [List.append_assoc, List.cons_append] at hcs
          have hlength : (indented depth j).toList.length ≤ f + 1 := by omega
          obtain ⟨ds, hds⟩ := membersText_begins depth k more
          have hrest : skipBlanks ((margin depth).toList ++ (membersText depth (k :: more) ++
              ((margin below).toList ++ '\x7d' :: after))) =
                membersText depth (k :: more) ++ ((margin below).toList ++ '\x7d' :: after) := by
            rw [hds]
            exact skipBlanks_margin rfl depth _
          have hvalue := hreads (skipBlanks_indented hj depth _) hlength
            (closes_comma ((margin depth).toList ++
              (membersText depth (k :: more) ++ ((margin below).toList ++ '\x7d' :: after))))
          rw [(readMembers_step hcs hvalue done).1 _ (skipBlanks_cons rfl _)]
          rw [ih (fun i hi => hmembers i (List.mem_cons_of_mem _ hi)) (List.cons_ne_nil k more)
            (by omega) hrest, List.reverse_cons, List.append_assoc]
          rfl

/-- A list whose items are read back is. -/
theorem readsBack_list {items : List Json} (hitems : ∀ j ∈ items, Readable j ∧ ReadsBack j) :
    ReadsBack (.list items) := by
  intro depth fuel cs rest hcs hfuel _
  rw [← readValue_skipBlanks, hcs]
  cases items with
  | nil =>
      rw [indented_list_nil]
      rfl
  | cons j more =>
      obtain ⟨c, ds, hds, hblank, hclose⟩ :=
        itemsText_begins (hitems j List.mem_cons_self).1 (depth + 1) more
      rw [toList_indented_list] at hfuel ⊢
      simp only [List.length_cons, List.length_append, length_margin] at hfuel
      simp only [List.append_assoc, List.cons_append, List.nil_append]
      have hbegin : skipBlanks ((margin (depth + 1)).toList ++ (itemsText (depth + 1) (j :: more) ++
          ((margin depth).toList ++ ']' :: rest))) =
            itemsText (depth + 1) (j :: more) ++ ((margin depth).toList ++ ']' :: rest) := by
        rw [hds]
        exact skipBlanks_margin hblank (depth + 1) _
      obtain ⟨f, rfl⟩ : ∃ f, fuel = f + 1 := ⟨fuel - 1, by omega⟩
      rw [readValue_list (f + 1), readItems_itemsText hitems (List.cons_ne_nil j more) (by omega)
        ((skipBlanks_skipBlanks _).trans hbegin)]
      · rfl
      · intro r hr
        rw [hbegin, hds] at hr
        exact hclose (List.cons.inj hr).1

/-- An object whose values are read back is, if no key stands in it twice. -/
theorem readsBack_object {members : List (String × Json)} (hkeys : (members.map (·.1)).Nodup)
    (hmembers : ∀ m ∈ members, Readable m.2 ∧ ReadsBack m.2) : ReadsBack (.object members) := by
  intro depth fuel cs rest hcs hfuel _
  rw [← readValue_skipBlanks, hcs]
  cases members with
  | nil =>
      rw [indented_object_nil]
      rfl
  | cons m more =>
      obtain ⟨ds, hds⟩ := membersText_begins (depth + 1) m more
      rw [toList_indented_object] at hfuel ⊢
      simp only [List.length_cons, List.length_append, length_margin] at hfuel
      simp only [List.append_assoc, List.cons_append, List.nil_append]
      have hbegin : skipBlanks ((margin (depth + 1)).toList ++ (membersText (depth + 1) (m :: more) ++
          ((margin depth).toList ++ '\x7d' :: rest))) =
            membersText (depth + 1) (m :: more) ++ ((margin depth).toList ++ '\x7d' :: rest) := by
        rw [hds]
        exact skipBlanks_margin rfl (depth + 1) _
      obtain ⟨f, rfl⟩ : ∃ f, fuel = f + 1 := ⟨fuel - 1, by omega⟩
      rw [readValue_object (f + 1), readMembers_membersText hmembers (List.cons_ne_nil m more)
        (by omega) ((skipBlanks_skipBlanks _).trans hbegin)]
      · rw [List.reverse_nil, List.nil_append, foldl_putMember hkeys]
        rfl
      · intro r hr
        rw [hbegin, hds] at hr
        cases hr

/-- Data without parts is read back. -/
theorem readsBack_scalar {j : Json} (hj : Readable j) (hlist : ∀ items, j ≠ .list items)
    (hobject : ∀ members, j ≠ .object members) : ReadsBack j := by
  intro depth fuel cs rest hcs _ hrest
  rw [← readValue_skipBlanks, hcs]
  cases j with
  | null =>
      rw [indented_null]
      exact readValue_null fuel rest
  | bool b =>
      rw [indented_bool]
      exact readValue_bool fuel b rest
  | int n =>
      rw [Readable] at hj
      rw [indented_int]
      exact readValue_int fuel hj hrest
  | float x =>
      rw [Readable] at hj
      exact hj.elim
  | str s =>
      rw [indented_str]
      exact readValue_quote fuel s rest
  | list items => exact absurd rfl (hlist items)
  | object members => exact absurd rfl (hobject members)

mutual

/-- **THE RUN OVER DATA**: all readable data is read back. -/
theorem readsBack : ∀ {j : Json}, Readable j → ReadsBack j
  | .list items, h => by
      rw [Readable] at h
      exact readsBack_list (readsBack_each h)
  | .object members, h => by
      rw [Readable] at h
      exact readsBack_object h.1 (readsBack_members h.2)
  | .null, h => readsBack_scalar h (by simp) (by simp)
  | .bool _, h => readsBack_scalar h (by simp) (by simp)
  | .int _, h => readsBack_scalar h (by simp) (by simp)
  | .float _, h => readsBack_scalar h (by simp) (by simp)
  | .str _, h => readsBack_scalar h (by simp) (by simp)

theorem readsBack_each : ∀ {items : List Json}, ReadableEach items →
    ∀ j ∈ items, Readable j ∧ ReadsBack j
  | [], _ => by simp
  | k :: more, h => by
      rw [ReadableEach] at h
      exact List.forall_mem_cons.mpr ⟨⟨h.1, readsBack h.1⟩, readsBack_each h.2⟩

theorem readsBack_members : ∀ {members : List (String × Json)}, ReadableMembers members →
    ∀ m ∈ members, Readable m.2 ∧ ReadsBack m.2
  | [], _ => by simp
  | (key, k) :: more, h => by
      rw [ReadableMembers] at h
      exact List.forall_mem_cons.mpr ⟨⟨h.1, readsBack h.1⟩, readsBack_members h.2⟩

end

/-- **PRINTED DATA IS READ BACK** as what it was, whatever its texts hold, from a text that ends
    with a line break. -/
theorem parse?_indented {j : Json} (h : Readable j) : parse? (indented 0 j ++ "\n") = some j := by
  have htext : (indented 0 j ++ "\n").toList = (indented 0 j).toList ++ ['\n'] := String.toList_append
  obtain ⟨c, cs, hcs, hblank, -⟩ := indented_begins h 0
  have hbegin : skipBlanks ((indented 0 j).toList ++ ['\n']) = (indented 0 j).toList ++ ['\n'] := by
    rw [hcs]
    exact skipBlanks_cons hblank _
  have hlength : (indented 0 j).toList.length ≤ (indented 0 j ++ "\n").toList.length + 1 := by
    rw [htext, List.length_append]
    omega
  have hvalue := readsBack h hbegin hlength (Or.inr ⟨'\n', [], rfl, Or.inr rfl⟩)
  rw [← htext] at hvalue
  rw [parse?, hvalue]
  rfl

end ElementLocator.Json
