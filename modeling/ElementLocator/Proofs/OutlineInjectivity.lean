import ElementLocator.Proofs.Yaml.OutlineTokens

/-! # Outlines tell trees apart

    The outline of a tree can be taken apart in one way only, whatever its texts hold. A quoted
    text ends at the first quote that is not escaped, a key at the first colon, and after the
    last line of a node there follows a line that starts with a dash further left than the
    dashes of its children, or nothing at all.

    * `Text.Quoted.readBody_body` — a quoted text is read back, with what follows it;
    * `Outline.nodeText_append_inj` — the text of a node determines the node, less its empty
      texts, and what stands after it;
    * `Tree.outlines_eq_iff` — two trees have the same outline iff they differ in nothing but
      empty texts. -/

namespace ElementLocator

-- ── quoted texts ──────────────────────────────────────────────────────────

namespace Text.Quoted

theorem hex4?_hex4 {n : Nat} (h : n < 0x10000) :
    hex4? (Nat.digitChar (n / 4096 % 16)) (Nat.digitChar (n / 256 % 16)) (Nat.digitChar (n / 16 % 16))
      (Nat.digitChar (n % 16)) = some n := by
  have hdigit (d : Nat) : hexValue? (Nat.digitChar (d % 16)) = some (d % 16) :=
    Yaml.hexValue?_digitChar (Nat.mod_lt d (by decide))
  simp only [hex4?]
  rw [hdigit, hdigit, hdigit, hdigit]
  show some (((n / 4096 % 16 * 16 + n / 256 % 16) * 16 + n / 16 % 16) * 16 + n % 16) = some n
  congr 1
  omega

/-- An escape by code is read as its character, also where another escape by code follows. -/
theorem readBody_code {n : Nat} (h : n < 0xD800) (rest : List Char) :
    readBody ('\\' :: 'u' :: (hex4 n ++ rest)) =
      (readBody rest).map fun (cs, r) => (Char.ofNat n :: cs, r) := by
  have hcode := hex4?_hex4 (n := n) (by omega)
  have hplain : ¬ (0xD800 ≤ n ∧ n < 0xE000) := by omega
  have hpair (low : Nat) : ¬ (0xD800 ≤ n ∧ n < 0xDC00 ∧ 0xDC00 ≤ low ∧ low < 0xE000) := by omega
  simp only [hex4, List.cons_append, List.nil_append]
  rw [readBody.eq_def]
  split
  · rename_i heq
    cases heq
  · rename_i heq
    cases heq
  · -- two escapes by code in a row: the first is no half of a pair
    rename_i heq
    cases heq
    rw [hcode]
    dsimp only
    split
    · rename_i hi low hhi _
      cases hhi
      rw [if_neg (hpair low), if_neg hplain]
    · rename_i hi hhi _
      cases hhi
      rw [if_neg hplain]
    · rename_i hnone
      cases hnone
  · rename_i heq
    cases heq
    rw [hcode]
    dsimp only
    rw [if_neg hplain]
  · rename_i hcodes heq
    cases heq
    exact (hcodes _ _ _ _ _ rfl rfl).elim
  · rename_i hescapes heq
    cases heq
    exact (hescapes _ _ rfl rfl).elim

theorem readBody_simple {e c : Char} (h : simpleEscape? e = some c) (rest : List Char) :
    readBody ('\\' :: e :: rest) = (readBody rest).map fun (cs, r) => (c :: cs, r) := by
  have he : e ≠ 'u' := by
    rintro rfl
    exact nomatch h
  rw [readBody]
  · rw [h]
  · intro _ _ _ _ _ _ _ _ _ hu
    exact absurd hu he
  · intro _ _ _ _ _ hu
    exact absurd hu he

/-- What is written for a character is read as that character. -/
theorem readBody_escape (c : Char) (rest : List Char) :
    readBody (escape c ++ rest) = (readBody rest).map fun (cs, r) => (c :: cs, r) := by
  have hsimple {e : Char} (he : simpleEscape? e = some c) (hc : escape c = ['\\', e]) :
      readBody (escape c ++ rest) = (readBody rest).map fun (cs, r) => (c :: cs, r) := by
    rw [hc]
    exact readBody_simple he rest
  by_cases hquote : c = '"'
  · exact hsimple (e := '"') (by rw [hquote]; rfl) (by rw [hquote]; rfl)
  by_cases hslash : c = '\\'
  · exact hsimple (e := '\\') (by rw [hslash]; rfl) (by rw [hslash]; rfl)
  by_cases hn : c = '\n'
  · exact hsimple (e := 'n') (by rw [hn]; rfl) (by rw [hn]; rfl)
  by_cases hr : c = '\r'
  · exact hsimple (e := 'r') (by rw [hr]; rfl) (by rw [hr]; rfl)
  by_cases ht : c = '\t'
  · exact hsimple (e := 't') (by rw [ht]; rfl) (by rw [ht]; rfl)
  by_cases hb : c = '\x08'
  · exact hsimple (e := 'b') (by rw [hb]; rfl) (by rw [hb]; rfl)
  by_cases hf : c = '\x0c'
  · exact hsimple (e := 'f') (by rw [hf]; rfl) (by rw [hf]; rfl)
  simp only [escape]
  rw [if_neg hquote, if_neg hslash, if_neg hn, if_neg hr, if_neg ht, if_neg hb, if_neg hf]
  by_cases hlow : c.toNat < 0x20
  · have hcode := readBody_code (n := c.toNat) (by omega) rest
    rw [Char.ofNat_toNat] at hcode
    rw [if_pos hlow]
    exact hcode
  · rw [if_neg hlow, List.singleton_append, readBody]
    · rw [if_neg (by simp [hlow, hslash])]
    · exact hquote
    · exact fun _ _ _ _ _ _ _ _ _ hc => absurd hc hslash
    · exact fun _ _ _ _ _ hc => absurd hc hslash
    · exact fun _ _ hc => absurd hc hslash

/-- **A QUOTED TEXT IS READ BACK** up to its closing quote, whatever it holds. -/
theorem readBody_body (cs rest : List Char) : readBody (body cs ++ '"' :: rest) = some (cs, rest) := by
  induction cs with
  | nil => rw [show body [] = [] from rfl, List.nil_append, readBody]
  | cons c cs ih =>
      rw [show body (c :: cs) = escape c ++ body cs from List.flatMap_cons, List.append_assoc,
        readBody_escape, ih]
      rfl

/-- A quoted text and what follows it can be told apart. -/
theorem body_append_inj {cs ds r s : List Char} (h : body cs ++ '"' :: r = body ds ++ '"' :: s) :
    cs = ds ∧ r = s := by
  have hread : some (cs, r) = some (ds, s) := by
    rw [← readBody_body cs r, h, readBody_body]
  cases hread
  exact ⟨rfl, rfl⟩

end Text.Quoted

namespace Outline

-- ── lines ─────────────────────────────────────────────────────────────────

/-- A line break and the blanks after it can be told from what stands there. -/
theorem newLine_append_inj {column column' : Nat} {xs ys : List Char} (hxs : xs.head? ≠ some ' ')
    (hys : ys.head? ≠ some ' ') (h : newLine column ++ xs = newLine column' ++ ys) :
    column = column' ∧ xs = ys := by
  have hblanks : List.replicate column ' ' ++ xs = List.replicate column' ' ' ++ ys := by
    simp only [newLine, List.cons_append] at h
    exact (List.cons.inj h).2
  clear h
  induction column generalizing column' with
  | zero =>
      cases column' with
      | zero => exact ⟨rfl, hblanks⟩
      | succ column' =>
          rw [List.replicate_zero, List.nil_append] at hblanks
          rw [hblanks] at hxs
          exact absurd rfl hxs
  | succ column ih =>
      cases column' with
      | zero =>
          rw [List.replicate_zero, List.nil_append] at hblanks
          rw [← hblanks] at hys
          exact absurd rfl hys
      | succ column' =>
          rw [List.replicate_succ, List.replicate_succ] at hblanks
          obtain ⟨hcolumn, hrest⟩ := ih (List.cons.inj hblanks).2
          exact ⟨congrArg (· + 1) hcolumn, hrest⟩

/-- The keys of an outline. -/
def keys : List String := ["role", "identifier", "className", "label", "children"]

theorem mem_keys_of_mem_items {a : NodeAttributes} {hasChildren : Bool} {i : String × Option String}
    (hi : i ∈ items a hasChildren) : i.1 ∈ keys := by
  rcases List.mem_append.mp hi with hi | hi
  · obtain ⟨f, hf, rfl⟩ := List.mem_map.mp hi
    have hshown {key : String} {v : Option String} (hkey : key ∈ keys) (hf : f ∈ shown key v) :
        f.1 ∈ keys := by
      obtain ⟨s, -, rfl⟩ := List.mem_map.mp hf
      exact hkey
    rw [fields] at hf
    simp only [List.mem_append] at hf
    rcases hf with ((hf | hf) | hf) | hf
    all_goals exact hshown (by decide) hf
  · cases hasChildren with
    | false => cases hi
    | true =>
        rw [List.mem_singleton.mp hi]
        decide

theorem colon_not_mem_key {key : String} (h : key ∈ keys) : ':' ∉ key.toList := by
  revert key
  decide

/-- The line of an item starts with a small letter. -/
theorem head_itemText {i : String × Option String} (hi : i.1 ∈ keys) (rest : List Char) :
    ∃ ch, (itemText i ++ rest).head? = some ch ∧ ch.isLower = true := by
  have hfirst : ∀ key ∈ keys, ∃ ch cs, key.toList = ch :: cs ∧ ch.isLower = true := by
    intro key hkey
    simp only [keys, List.mem_cons, List.not_mem_nil, or_false] at hkey
    rcases hkey with rfl | rfl | rfl | rfl | rfl
    all_goals exact ⟨_, _, rfl, by decide⟩
  obtain ⟨ch, cs, hkey, hlower⟩ := hfirst i.1 hi
  refine ⟨ch, ?_, hlower⟩
  rw [itemText, hkey]
  rfl

/-- What comes before the first colon can be told from what comes after it. -/
theorem colon_append_inj {ks ls xs ys : List Char} (hks : ':' ∉ ks) (hls : ':' ∉ ls)
    (h : ks ++ ':' :: xs = ls ++ ':' :: ys) : ks = ls ∧ xs = ys := by
  induction ks generalizing ls with
  | nil =>
      cases ls with
      | nil => exact ⟨rfl, (List.cons.inj h).2⟩
      | cons l ls => exact absurd (List.cons.inj h).1 fun hl => hls (hl ▸ List.mem_cons_self)
  | cons k ks ih =>
      cases ls with
      | nil => exact absurd (List.cons.inj h).1 fun hk => hks (hk ▸ List.mem_cons_self)
      | cons l ls =>
          obtain ⟨hkl, htail⟩ := List.cons.inj h
          obtain ⟨hkeys, hrest⟩ := ih (fun hm => hks (List.mem_cons_of_mem k hm))
            (fun hm => hls (List.mem_cons_of_mem l hm)) htail
          exact ⟨by rw [hkl, hkeys], hrest⟩

/-- The line of an item determines the item, and where the line ends. -/
theorem itemText_append_inj {i j : String × Option String} {r s : List Char} (hi : i.1 ∈ keys)
    (hj : j.1 ∈ keys) (hr : r.head? = some '\n') (hs : s.head? = some '\n')
    (h : itemText i ++ r = itemText j ++ s) : i = j ∧ r = s := by
  obtain ⟨key, v⟩ := i
  obtain ⟨key', w⟩ := j
  simp only [itemText, List.append_assoc, List.cons_append] at h
  obtain ⟨hkeys, htail⟩ := colon_append_inj (colon_not_mem_key hi) (colon_not_mem_key hj) h
  have hkey : key = key' := String.toList_inj.mp hkeys
  cases v with
  | none =>
      cases w with
      | none => exact ⟨by rw [hkey], htail⟩
      | some t =>
          dsimp only [List.nil_append] at htail
          rw [htail] at hr
          cases hr
  | some t =>
      cases w with
      | none =>
          dsimp only [List.nil_append] at htail
          rw [← htail] at hs
          cases hs
      | some u =>
          dsimp only [List.cons_append] at htail
          have hquoted := (List.cons.inj (List.cons.inj htail).2).2
          rw [List.append_assoc, List.append_assoc, List.singleton_append, List.singleton_append] at hquoted
          obtain ⟨htext, hrest⟩ := Text.Quoted.body_append_inj hquoted
          exact ⟨by rw [hkey, String.toList_inj.mp htext], hrest⟩

-- ── the lines of a node ───────────────────────────────────────────────────

/-- What may follow the lines of a node: a line that starts with a dash, or nothing. -/
def Follows (rest : List Char) (column : Nat) : Prop :=
  ∃ xs, rest = newLine column ++ xs ∧ (xs = [] ∨ xs.head? = some '-')

theorem Follows.head {rest : List Char} {column : Nat} (h : Follows rest column) :
    rest.head? = some '\n' := by
  obtain ⟨xs, rfl, -⟩ := h
  rfl

theorem not_blank_of_follows {xs : List Char} (h : xs = [] ∨ xs.head? = some '-') :
    xs.head? ≠ some ' ' := by
  rcases h with rfl | h
  · exact nofun
  · rw [h]
    decide

/-- What follows can be told by its column. -/
theorem Follows.column_eq {rest : List Char} {column column' : Nat} (h : Follows rest column)
    (h' : Follows rest column') : column = column' := by
  obtain ⟨xs, rfl, hxs⟩ := h
  obtain ⟨ys, heq, hys⟩ := h'
  exact (newLine_append_inj (not_blank_of_follows hxs) (not_blank_of_follows hys) heq).1

/-- What follows is no further line of the node. -/
theorem Follows.ne_item {rest : List Char} {column column' : Nat} (h : Follows rest column)
    {i : String × Option String} (hi : i.1 ∈ keys) (s : List Char) :
    rest ≠ newLine column' ++ (itemText i ++ s) := by
  intro heq
  obtain ⟨xs, rfl, hxs⟩ := h
  obtain ⟨ch, hch, hlower⟩ := head_itemText hi s
  have hitem : (itemText i ++ s).head? ≠ some ' ' := by
    rw [hch]
    rintro ⟨⟩
    exact absurd hlower (by decide)
  obtain ⟨-, rfl⟩ := newLine_append_inj (not_blank_of_follows hxs) hitem heq
  rcases hxs with hnil | hdash
  · rw [hnil] at hch
    exact nomatch hch
  · rw [hdash] at hch
    cases hch
    exact absurd hlower (by decide)

theorem head_moreItems {column : Nat} (is : List (String × Option String)) {r : List Char}
    (hr : r.head? = some '\n') :
    ((is.flatMap fun i => newLine column ++ itemText i) ++ r).head? = some '\n' := by
  cases is with
  | nil => exact hr
  | cons i is => rfl

theorem moreItems_append_inj {column c d : Nat} {is js : List (String × Option String)} {r s : List Char}
    (his : ∀ i ∈ is, i.1 ∈ keys) (hjs : ∀ j ∈ js, j.1 ∈ keys) (hr : Follows r c) (hs : Follows s d)
    (h : (is.flatMap fun i => newLine column ++ itemText i) ++ r =
      (js.flatMap fun j => newLine column ++ itemText j) ++ s) : is = js ∧ r = s := by
  induction is generalizing js with
  | nil =>
      cases js with
      | nil => exact ⟨rfl, h⟩
      | cons j js =>
          rw [List.flatMap_nil, List.nil_append, List.flatMap_cons, List.append_assoc, List.append_assoc] at h
          exact absurd h (hr.ne_item (hjs j List.mem_cons_self) _)
  | cons i is ih =>
      cases js with
      | nil =>
          rw [List.flatMap_nil, List.nil_append, List.flatMap_cons, List.append_assoc, List.append_assoc] at h
          exact absurd h.symm (hs.ne_item (his i List.mem_cons_self) _)
      | cons j js =>
          rw [List.flatMap_cons, List.flatMap_cons, List.append_assoc, List.append_assoc, List.append_assoc,
            List.append_assoc] at h
          obtain ⟨hij, hrest⟩ := itemText_append_inj (his i List.mem_cons_self) (hjs j List.mem_cons_self)
            (head_moreItems is hr.head) (head_moreItems js hs.head) (List.append_cancel_left h)
          obtain ⟨hmore, hend⟩ := ih (fun k hk => his k (List.mem_cons_of_mem i hk))
            (fun k hk => hjs k (List.mem_cons_of_mem j hk)) hrest
          exact ⟨by rw [hij, hmore], hend⟩

/-- The lines of a node determine what they show, and where they end. -/
theorem itemsText_append_inj {column c d : Nat} {is js : List (String × Option String)} {r s : List Char}
    (his : ∀ i ∈ is, i.1 ∈ keys) (hjs : ∀ j ∈ js, j.1 ∈ keys) (hr : Follows r c) (hs : Follows s d)
    (h : itemsText column is ++ r = itemsText column js ++ s) : is = js ∧ r = s := by
  -- a node without anything to show starts with a brace, any other with a letter
  have hbrace {i : String × Option String} (hi : i.1 ∈ keys) (x y : List Char) :
      '\x7b' :: x ≠ itemText i ++ y := by
    intro heq
    obtain ⟨ch, hch, hlower⟩ := head_itemText hi y
    rw [← heq] at hch
    cases hch
    exact absurd hlower (by decide)
  cases is with
  | nil =>
      cases js with
      | nil => exact ⟨rfl, List.append_cancel_left h⟩
      | cons j js =>
          rw [itemsText, itemsText, List.append_assoc] at h
          exact absurd h (hbrace (hjs j List.mem_cons_self) _ _)
  | cons i is =>
      cases js with
      | nil =>
          rw [itemsText, itemsText, List.append_assoc] at h
          exact absurd h.symm (hbrace (his i List.mem_cons_self) _ _)
      | cons j js =>
          rw [itemsText, itemsText, List.append_assoc, List.append_assoc] at h
          obtain ⟨hij, hrest⟩ := itemText_append_inj (his i List.mem_cons_self) (hjs j List.mem_cons_self)
            (head_moreItems is hr.head) (head_moreItems js hs.head) h
          obtain ⟨hmore, hend⟩ := moreItems_append_inj (fun k hk => his k (List.mem_cons_of_mem i hk))
            (fun k hk => hjs k (List.mem_cons_of_mem j hk)) hr hs hrest
          exact ⟨by rw [hij, hmore], hend⟩

/-- A field is looked up among those that a node shows. -/
theorem find?_items (a : NodeAttributes) (hasChildren : Bool) :
    a.visible = ⟨((items a hasChildren).find? (·.1 == "role")).bind (·.2),
      ((items a hasChildren).find? (·.1 == "identifier")).bind (·.2),
      ((items a hasChildren).find? (·.1 == "className")).bind (·.2),
      ((items a hasChildren).find? (·.1 == "label")).bind (·.2)⟩ := by
  simp only [NodeAttributes.visible, items, fields, shown]
  cases present a.role <;> cases present a.identifier <;> cases present a.className <;>
    cases present a.label <;> cases hasChildren <;> rfl

theorem any_items (a : NodeAttributes) (hasChildren : Bool) :
    (items a hasChildren).any (·.2.isNone) = hasChildren := by
  simp only [items]
  rw [List.any_append, List.any_map]
  cases hasChildren with
  | false => simp
  | true => simp

theorem items_inj {a b : NodeAttributes} {hasChildren hasChildren' : Bool}
    (h : items a hasChildren = items b hasChildren') :
    a.visible = b.visible ∧ hasChildren = hasChildren' := by
  constructor
  · rw [find?_items a hasChildren, h, ← find?_items b hasChildren']
  · rw [← any_items a hasChildren, h, any_items]

-- ── trees ─────────────────────────────────────────────────────────────────

theorem follows_nodesText (depth : Nat) (ts : List Tree) {r : List Char} {c : Nat} (hr : Follows r c)
    (hc : c < 4 * depth + 2) :
    ∃ c', Follows (nodesText (depth + 1) ts ++ r) c' ∧ c' < 4 * (depth + 1) + 2 := by
  cases ts with
  | nil =>
      rw [nodesText, List.nil_append]
      exact ⟨c, hr, by omega⟩
  | cons t ts =>
      rw [nodesText, List.append_assoc, List.append_assoc]
      exact ⟨4 * (depth + 1) - 2, ⟨_, rfl, Or.inr rfl⟩, by omega⟩

/-- Behind the children of a node nothing starts like one more child. -/
theorem Follows.ne_child {r : List Char} {c depth : Nat} (hr : Follows r c) (hc : c < 4 * depth + 2)
    (t : Tree) (ts : List Tree) (s : List Char) : r ≠ nodesText (depth + 1) (t :: ts) ++ s := by
  intro heq
  have hchild : Follows r (4 * (depth + 1) - 2) := by
    rw [heq, nodesText, List.append_assoc, List.append_assoc]
    exact ⟨_, rfl, Or.inr rfl⟩
  have := hr.column_eq hchild
  omega

mutual

/-- **THE TEXT OF A NODE DETERMINES THE NODE**, less its empty texts, and what stands after it.
    The recursion is on one of the trees; what follows starts further left than any child. -/
theorem nodeText_append_inj (depth : Nat) {r s : List Char} {c d : Nat} (hr : Follows r c)
    (hs : Follows s d) (hc : c < 4 * depth + 2) (hd : d < 4 * depth + 2) :
    ∀ t u : Tree, nodeText depth t ++ r = nodeText depth u ++ s → t.visible = u.visible ∧ r = s
  | .node a ts, .node b us, h => by
      rw [nodeText, nodeText, List.append_assoc, List.append_assoc] at h
      obtain ⟨c', hr', -⟩ := follows_nodesText depth ts hr hc
      obtain ⟨d', hs', -⟩ := follows_nodesText depth us hs hd
      obtain ⟨hitems, hchildren⟩ := itemsText_append_inj (fun _ => mem_keys_of_mem_items)
        (fun _ => mem_keys_of_mem_items) hr' hs' h
      obtain ⟨hvisible, hrest⟩ := nodesText_append_inj depth hr hs hc hd ts us hchildren
      exact ⟨by rw [Tree.visible, Tree.visible, (items_inj hitems).1, hvisible], hrest⟩

theorem nodesText_append_inj (depth : Nat) {r s : List Char} {c d : Nat} (hr : Follows r c)
    (hs : Follows s d) (hc : c < 4 * depth + 2) (hd : d < 4 * depth + 2) :
    ∀ ts us : List Tree, nodesText (depth + 1) ts ++ r = nodesText (depth + 1) us ++ s →
      Tree.visibleEach ts = Tree.visibleEach us ∧ r = s
  | [], [], h => ⟨rfl, h⟩
  | [], u :: us, h => absurd h (hr.ne_child hc u us s)
  | t :: ts, [], h => absurd h.symm (hs.ne_child hd t ts r)
  | t :: ts, u :: us, h => by
      rw [nodesText, nodesText, List.append_assoc, List.append_assoc, List.append_assoc,
        List.append_assoc] at h
      have hnodes := List.append_cancel_left h
      rw [List.cons_append, List.cons_append, List.cons_append, List.cons_append] at hnodes
      have hnodes := (List.cons.inj (List.cons.inj hnodes).2).2
      obtain ⟨c', hr', hc'⟩ := follows_nodesText depth ts hr hc
      obtain ⟨d', hs', hd'⟩ := follows_nodesText depth us hs hd
      obtain ⟨hfirst, hothers⟩ := nodeText_append_inj (depth + 1) hr' hs' hc' hd' t u hnodes
      obtain ⟨hrest, hend⟩ := nodesText_append_inj depth hr hs hc hd ts us hothers
      exact ⟨by rw [Tree.visibleEach, Tree.visibleEach, hfirst, hrest], hend⟩

end

/-- The lines of a tree as one text determine the tree, less its empty texts. -/
theorem textOf_lines_inj {t u : Tree} (h : textOf (lines 0 t) = textOf (lines 0 u)) :
    t.visible = u.visible := by
  have htext : nodeText 0 t ++ ['\n'] = nodeText 0 u ++ ['\n'] := by
    rw [← toList_textOf_lines, h, toList_textOf_lines]
  have hend : Follows ['\n'] 0 := ⟨[], rfl, Or.inl rfl⟩
  exact (nodeText_append_inj 0 hend hend (by decide) (by decide) t u htext).1

end Outline

-- ── trees in memory ───────────────────────────────────────────────────────

namespace Tree

/-- **OUTLINES TELL TREES APART**: two trees within their limits both have outlines, and these are
    the same text iff the trees are the same, less their empty texts. No text of a node can pass
    for a key, an entry or another node. -/
theorem outlines_eq_iff (t u : Tree) (limit limit' : DepthLimit) (ht : t.height ≤ limit.levels)
    (hu : u.height ≤ limit'.levels) :
    ∃ saved saved' : String,
      (Outline.text (access fun _ => none) (.ok limit) (Located.root t)).outcome = .ok saved ∧
        (Outline.text (access fun _ => none) (.ok limit') (Located.root u)).outcome = .ok saved' ∧
        (saved = saved' ↔ t.visible = u.visible) := by
  have hsaved : (Outline.text (access fun _ => none) (.ok limit) (Located.root t)).outcome =
      .ok (Outline.textOf (Outline.lines 0 t.visible)) :=
    Outline.outcome_text limit (unfolds_root t) (by rw [height_visible]; exact ht)
  have hsaved' : (Outline.text (access fun _ => none) (.ok limit') (Located.root u)).outcome =
      .ok (Outline.textOf (Outline.lines 0 u.visible)) :=
    Outline.outcome_text limit' (unfolds_root u) (by rw [height_visible]; exact hu)
  refine ⟨_, _, hsaved, hsaved', ?_⟩
  constructor
  · intro h
    have hvisible := Outline.textOf_lines_inj h
    rw [visible_idem, visible_idem] at hvisible
    exact hvisible
  · intro h
    rw [h]

/-- A button with a label that looks like the end of one and the start of a child. -/
def pretending : Tree :=
  .node ⟨some "Window", none, some "", some "a\"\nchildren:\n  - role: \"Button"⟩ []

/-- A window with a child, as the label of `pretending` has it. -/
def pretended : Tree :=
  .node ⟨some "Window", none, none, some "a"⟩ [.node ⟨some "Button", none, some "", none⟩ []]

/-- A label that imitates a child has another outline than the child. -/
theorem outline_of_pretending :
    ∃ saved saved' : String,
      (Outline.text (access fun _ => none) (.ok ⟨1, by decide, by decide⟩)
        (Located.root pretending)).outcome = .ok saved ∧
        (Outline.text (access fun _ => none) (.ok ⟨2, by decide, by decide⟩)
          (Located.root pretended)).outcome = .ok saved' ∧
        saved ≠ saved' := by
  obtain ⟨saved, saved', hsaved, hsaved', hiff⟩ := outlines_eq_iff pretending pretended
    ⟨1, by decide, by decide⟩ ⟨2, by decide, by decide⟩ (by decide) (by decide)
  refine ⟨saved, saved', hsaved, hsaved', ?_⟩
  intro h
  have hchildren := congrArg (fun v : Tree => v.children.length) (hiff.mp h)
  exact absurd hchildren (by decide)

end Tree

end ElementLocator
