import ElementLocator.FileSystem

/-! # Writes to files

    What a write changes in a file system, and what it leaves alone: the way to the file goes
    through directories only, and these stay where they are.

    * `FileSystem.read_write` — what was written is read;
    * `exists_write_again` — a file that was written can be written again. -/

namespace ElementLocator.FileSystem

variable {fs after : FileSystem} {p : Path} {content : List UInt8}

theorem eq_ok_of_attempted {made : Except FileFault FileSystem} (h : fs.attempted made = (.ok (), after)) :
    made = .ok after := by
  cases made with
  | error e => cases h
  | ok files =>
      cases h
      rfl

theorem entry?_put_self {names : List String} (h : names ≠ []) (e : Entry) :
    FileSystem.entry? (fs.put names e) names = some e := by
  cases names with
  | nil => exact absurd rfl h
  | cons name names =>
      show (((((name :: names), e) :: fs.entries.filter (·.1 != name :: names)).find?
        (·.1 == name :: names)).map (·.2)) = _
      rw [List.find?_cons_of_pos (by exact beq_self_eq_true _)]
      rfl

theorem entry?_put_of_ne {names place : List String} (h : place ≠ names) (e : Entry) :
    FileSystem.entry? (fs.put names e) place = fs.entry? place := by
  cases place with
  | nil => rfl
  | cons name rest =>
      have hkeep : (fs.entries.filter (·.1 != names)).find? (·.1 == name :: rest) =
          fs.entries.find? (·.1 == name :: rest) := by
        rw [List.find?_filter]
        congr 1
        funext e
        by_cases he : e.1 = name :: rest
        · simp [he, h]
        · simp [he]
      have hother : (names == name :: rest) = false := beq_eq_false_iff_ne.mpr h.symm
      show ((((names, e) :: fs.entries.filter (·.1 != names)).find? (·.1 == name :: rest)).map (·.2)) = _
      rw [List.find?_cons_of_neg (by rw [hother]; exact Bool.false_ne_true), hkeep]
      rfl

/-- **THE WAY TO A FILE** is the same after the file was written: it goes through directories, and
    the file stands in the place of none. -/
theorem walk_put {names : List String} (h : fs.entry? names ≠ some .directory) (e : Entry)
    {parts start place : List String} (hwalk : fs.walk start parts = .ok place) :
    (fs.put names e).walk start parts = .ok place := by
  induction parts generalizing start with
  | nil => exact hwalk
  | cons name rest ih =>
      rw [walk] at hwalk
      cases hentry : fs.entry? start with
      | none =>
          rw [hentry] at hwalk
          cases hwalk
      | some entry =>
          rw [hentry] at hwalk
          cases entry with
          | file content => cases hwalk
          | directory =>
              have hstart : start ≠ names := by
                rintro rfl
                exact h hentry
              rw [walk, entry?_put_of_ne hstart, hentry]
              dsimp only at hwalk ⊢
              split at hwalk
              · rename_i hup
                rw [if_pos hup]
                exact ih hwalk
              · rename_i hup
                rw [if_neg hup]
                split at hwalk
                · cases hwalk
                · rename_i hlength
                  rw [if_neg hlength]
                  exact ih hwalk

theorem locate_put {names place : List String} (h : fs.entry? names ≠ some .directory) (e : Entry)
    (hplace : fs.locate p = .ok place) : (fs.put names e).locate p = .ok place := by
  rw [locate] at hplace ⊢
  split at hplace
  · cases hplace
  · rename_i hnull
    rw [if_neg hnull]
    split at hplace
    · cases hplace
    · rename_i hlength
      rw [if_neg hlength]
      exact walk_put h e hplace

/-- A write that succeeds puts the file where its path leads, and that is no directory. -/
theorem write_eq_ok (h : fs.write p content = .ok after) :
    ∃ place, fs.locate p = .ok place ∧ fs.entry? place ≠ some .directory ∧
      after = fs.put place (.file content) := by
  rw [write] at h
  cases hplace : fs.locate p with
  | error e =>
      rw [hplace] at h
      cases h
  | ok place =>
      rw [hplace] at h
      dsimp only at h
      refine ⟨place, rfl, ?_⟩
      split at h
      · cases h
      · rename_i hentry
        exact ⟨fun hdirectory => hentry hdirectory, (Except.ok.inj h).symm⟩

theorem status_write (h : fs.write p content = .ok after) : after.status p = .ok (.file content) := by
  obtain ⟨place, hplace, hentry, rfl⟩ := write_eq_ok h
  have htop : place ≠ [] := by
    rintro rfl
    exact hentry rfl
  rw [status, locate_put hentry _ hplace]
  dsimp only
  rw [entry?_put_self htop]

/-- **WHAT WAS WRITTEN IS READ.** -/
theorem read_write (h : fs.write p content = .ok after) : after.read p = .ok content := by
  rw [read, status_write h]

/-- A file that was written can be written again. -/
theorem exists_write_again (h : fs.write p content = .ok after) (next : List UInt8) :
    ∃ last, after.write p next = .ok last := by
  obtain ⟨place, hplace, hentry, rfl⟩ := write_eq_ok h
  have htop : place ≠ [] := by
    rintro rfl
    exact hentry rfl
  refine ⟨(fs.put place (.file content)).put place (.file next), ?_⟩
  rw [write, locate_put hentry _ hplace]
  dsimp only
  rw [entry?_put_self htop]

end ElementLocator.FileSystem
