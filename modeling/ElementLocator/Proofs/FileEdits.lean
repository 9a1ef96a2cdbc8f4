import ElementLocator.Proofs.FileWrites

/-! # Files made and taken away

    Single files come and go while the directories stay. What an edit changes can be told at the one
    place that its path leads to.

    * `Edit.apply_cases` — an edit changes one place, where no directory stands, or nothing;
    * `FilesDiffer.locate_eq_ok_iff` — paths lead where they led before, since a way goes through
      directories only;
    * `isFile_edited` — whether a file stands at a path is not changed by edits of other files. -/

namespace ElementLocator.FileSystem

-- ── edits ─────────────────────────────────────────────────────────────────

/-- The files without what stands at a place. -/
def remove (fs : FileSystem) (names : List String) : FileSystem :=
  { fs with entries := fs.entries.filter (·.1 != names) }

/-- Takes the file at a path away. -/
def delete (fs : FileSystem) (p : Path) : Except FileFault FileSystem :=
  match fs.locate p with
  | .error e => .error ⟨e, p.text⟩
  | .ok place =>
    match fs.entry? place with
    | some (.file _) => .ok (fs.remove place)
    | some .directory => .error ⟨.isDirectory, p.text⟩
    | none => .error ⟨.missing, p.text⟩

/-- Something done to a single file. -/
inductive Edit
  /-- A file is made, or written anew. -/
  | create (path : Path) (content : List UInt8)
  | delete (path : Path)

/-- The path of the file that an edit is about. -/
def Edit.path : Edit → Path
  | .create path _ => path
  | .delete path => path

/-- The files after an edit; they stay as they are if the system refuses it. -/
def Edit.apply (fs : FileSystem) : Edit → FileSystem
  | .create path content => (fs.write path content).toOption.getD fs
  | .delete path => (fs.delete path).toOption.getD fs

/-- The files after several edits. -/
def edited (fs : FileSystem) (edits : List Edit) : FileSystem := edits.foldl Edit.apply fs

/-- Files that differ in one place, which is a directory in neither of them. -/
structure FilesDiffer (place : List String) (fs after : FileSystem) : Prop where
  workingDirectory : after.workingDirectory = fs.workingDirectory
  others {names : List String} (h : names ≠ place) : after.entry? names = fs.entry? names
  before : fs.entry? place ≠ some .directory
  after : after.entry? place ≠ some .directory

theorem entry?_remove_self (fs : FileSystem) {names : List String} (h : names ≠ []) :
    FileSystem.entry? (fs.remove names) names = none := by
  cases names with
  | nil => exact absurd rfl h
  | cons name rest =>
      show ((fs.entries.filter (·.1 != name :: rest)).find? (·.1 == name :: rest)).map (·.2) = none
      rw [List.find?_eq_none.mpr, Option.map_none]
      intro e he
      have hother := (List.mem_filter.mp he).2
      rw [bne_iff_ne] at hother
      rw [beq_iff_eq]
      exact hother

theorem entry?_remove_of_ne (fs : FileSystem) {names place : List String} (h : place ≠ names) :
    FileSystem.entry? (fs.remove names) place = fs.entry? place := by
  cases place with
  | nil => rfl
  | cons name rest =>
      show ((fs.entries.filter (·.1 != names)).find? (·.1 == name :: rest)).map (·.2) =
        (fs.entries.find? (·.1 == name :: rest)).map (·.2)
      rw [List.find?_filter]
      congr 2
      funext e
      by_cases he : e.1 = name :: rest
      · simp [he, h]
      · simp [he]

/-- **WHAT AN EDIT CHANGES**: the place that its path leads to, where no directory stands, or
    nothing at all. -/
theorem Edit.apply_cases (fs : FileSystem) (e : Edit) :
    e.apply fs = fs ∨ ∃ place, fs.locate e.path = .ok place ∧ FilesDiffer place fs (e.apply fs) := by
  have htop : fs.entry? [] = some .directory := rfl
  cases e with
  | create path content =>
      show (fs.write path content).toOption.getD fs = fs ∨ _
      cases hwrite : fs.write path content with
      | error f => exact Or.inl rfl
      | ok after =>
          obtain ⟨place, hplace, hentry, rfl⟩ := write_eq_ok hwrite
          have hne : place ≠ [] := by
            rintro rfl
            exact hentry htop
          have hafter : Edit.apply fs (.create path content) = fs.put place (.file content) := by
            rw [Edit.apply, hwrite]
            rfl
          refine Or.inr ⟨place, hplace, ?_⟩
          rw [hafter]
          exact ⟨rfl, fun h => entry?_put_of_ne h _, hentry, by rw [entry?_put_self hne]; exact nofun⟩
  | delete path =>
      cases hplace : fs.locate path with
      | error f =>
          refine Or.inl ?_
          rw [Edit.apply, FileSystem.delete, hplace]
          rfl
      | ok place =>
          cases hentry : fs.entry? place with
          | none =>
              refine Or.inl ?_
              rw [Edit.apply, FileSystem.delete, hplace]
              simp only [hentry]
              rfl
          | some entry =>
              cases entry with
              | directory =>
                  refine Or.inl ?_
                  rw [Edit.apply, FileSystem.delete, hplace]
                  simp only [hentry]
                  rfl
              | file content =>
                  have hne : place ≠ [] := by
                    rintro rfl
                    rw [htop] at hentry
                    cases hentry
                  have hafter : Edit.apply fs (.delete path) = fs.remove place := by
                    rw [Edit.apply, FileSystem.delete, hplace]
                    simp only [hentry]
                    rfl
                  refine Or.inr ⟨place, hplace, ?_⟩
                  rw [hafter]
                  exact ⟨rfl, fun h => entry?_remove_of_ne fs h, by rw [hentry]; exact nofun,
                    by rw [entry?_remove_self fs hne]; exact nofun⟩

-- ── ways ──────────────────────────────────────────────────────────────────

/-- A way that is blocked by what stands on it, or by nothing standing there. -/
def Blocked {α : Type} (r : Except FileProblem α) : Prop := r = .error .missing ∨ r = .error .notDirectory

namespace FilesDiffer

variable {place : List String} {fs after : FileSystem}

/-- A way through directories stays, and a blocked one stays blocked. -/
theorem walk (h : FilesDiffer place fs after) (start : List String) (parts : List String) :
    after.walk start parts = fs.walk start parts ∨
      (Blocked (fs.walk start parts) ∧ Blocked (after.walk start parts)) := by
  induction parts generalizing start with
  | nil => exact Or.inl rfl
  | cons name rest ih =>
      rw [FileSystem.walk, FileSystem.walk]
      by_cases hstart : start = place
      · subst hstart
        refine Or.inr ⟨?_, ?_⟩
        · cases hentry : fs.entry? start with
          | none => exact Or.inl rfl
          | some entry =>
              cases entry with
              | directory => exact absurd hentry h.before
              | file content => exact Or.inr rfl
        · cases hentry : after.entry? start with
          | none => exact Or.inl rfl
          | some entry =>
              cases entry with
              | directory => exact absurd hentry h.after
              | file content => exact Or.inr rfl
      · rw [h.others hstart]
        cases fs.entry? start with
        | none => exact Or.inl rfl
        | some entry =>
            cases entry with
            | file content => exact Or.inl rfl
            | directory =>
                dsimp only
                split
                · exact ih _
                · split
                  · exact Or.inl rfl
                  · exact ih _

theorem locate (h : FilesDiffer place fs after) (p : Path) :
    after.locate p = fs.locate p ∨ (Blocked (fs.locate p) ∧ Blocked (after.locate p)) := by
  rw [FileSystem.locate, FileSystem.locate, h.workingDirectory]
  split
  · exact Or.inl rfl
  · split
    · exact Or.inl rfl
    · exact h.walk _ _

/-- **PATHS LEAD WHERE THEY LED.** -/
theorem locate_eq_ok_iff (h : FilesDiffer place fs after) (p : Path) (names : List String) :
    after.locate p = .ok names ↔ fs.locate p = .ok names := by
  rcases h.locate p with heq | ⟨hbefore | hbefore, hafter | hafter⟩
  · rw [heq]
  all_goals
    simp only [hbefore, hafter, reduceCtorEq]

/-- Whether a file stands at a path that leads to another place. -/
theorem isFile (h : FilesDiffer place fs after) {p : Path} (hp : fs.locate p ≠ .ok place) :
    after.isFile p = fs.isFile p := by
  rcases h.locate p with heq | ⟨hbefore | hbefore, hafter | hafter⟩
  · rw [FileSystem.isFile, FileSystem.isFile, status, status, heq]
    cases hplace : fs.locate p with
    | error e => rfl
    | ok names =>
        have hne : names ≠ place := by
          rintro rfl
          exact hp hplace
        dsimp only
        rw [h.others hne]
  all_goals
    rw [FileSystem.isFile, FileSystem.isFile, status, status, hbefore, hafter]

end FilesDiffer

-- ── several edits ─────────────────────────────────────────────────────────

/-- Two paths that do not lead to one place. -/
def Apart (fs : FileSystem) (p q : Path) : Prop := ∀ place, fs.locate p = .ok place → fs.locate q ≠ .ok place

theorem Edit.locate_apply_eq_ok_iff (fs : FileSystem) (e : Edit) (p : Path) (names : List String) :
    (e.apply fs).locate p = .ok names ↔ fs.locate p = .ok names := by
  rcases e.apply_cases fs with heq | ⟨place, -, hdiffer⟩
  · rw [heq]
  · exact hdiffer.locate_eq_ok_iff p names

theorem Edit.workingDirectory_apply (fs : FileSystem) (e : Edit) :
    (e.apply fs).workingDirectory = fs.workingDirectory := by
  rcases e.apply_cases fs with heq | ⟨place, -, hdiffer⟩
  · rw [heq]
  · exact hdiffer.workingDirectory

theorem workingDirectory_edited (fs : FileSystem) (edits : List Edit) :
    (fs.edited edits).workingDirectory = fs.workingDirectory := by
  induction edits generalizing fs with
  | nil => rfl
  | cons e rest ih => exact (ih (e.apply fs)).trans (e.workingDirectory_apply fs)

theorem Apart.apply {fs : FileSystem} {p q : Path} (h : Apart fs p q) (e : Edit) : Apart (e.apply fs) p q := by
  intro place hp hq
  rw [Edit.locate_apply_eq_ok_iff] at hp hq
  exact h place hp hq

theorem Edit.isFile_apply {fs : FileSystem} {e : Edit} {p : Path} (h : Apart fs e.path p) :
    (e.apply fs).isFile p = fs.isFile p := by
  rcases e.apply_cases fs with heq | ⟨place, hplace, hdiffer⟩
  · rw [heq]
  · exact hdiffer.isFile (h place hplace)

/-- **OTHER FILES DO NOT MATTER** to whether a file stands at a path. The induction is on the edits,
    from all files. -/
theorem isFile_edited {edits : List Edit} {p : Path} :
    ∀ {fs : FileSystem}, (∀ e ∈ edits, Apart fs e.path p) → (fs.edited edits).isFile p = fs.isFile p := by
  induction edits with
  | nil => intro fs _; rfl
  | cons e rest ih =>
      intro fs h
      have hrest : ∀ e' ∈ rest, Apart (e.apply fs) e'.path p := fun e' he' =>
        (h e' (List.mem_cons_of_mem e he')).apply e
      calc (fs.edited (e :: rest)).isFile p
          = ((e.apply fs).edited rest).isFile p := rfl
        _ = (e.apply fs).isFile p := ih hrest
        _ = fs.isFile p := Edit.isFile_apply (h e List.mem_cons_self)

end ElementLocator.FileSystem
