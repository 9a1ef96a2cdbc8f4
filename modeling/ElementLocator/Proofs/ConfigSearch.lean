import ElementLocator.Config.Source
import ElementLocator.Proofs.FileEdits
import ElementLocator.Proofs.ReadTraces
import ElementLocator.Proofs.StandardSettings
import Mathlib.Data.String.Basic

/-! # The search for a configuration

    A configuration is looked for in several places, one after the other, and the first one that holds
    a regular file counts.

    * `candidatePaths_eq_places` — where home directories are known, the candidates are the places in
      order of precedence;
    * `firstFile_of_found`, `firstFile_of_missing`, `firstFile_of_refused` — candidates are gone through
      to the first regular file, or to a name that is too long to ask for;
    * `firstFile_congr` — what stands behind the candidate that settles the search does not matter;
    * `search_goes_in_order` — what a search finds, loads and reports, and which edits of files it
      does not notice. -/

namespace ElementLocator

namespace FileSystem

/-- A regular file stands at a path. -/
def IsRegular (fs : FileSystem) (p : Path) : Prop := ∃ content, fs.status p = .ok (.file content)

/-- The way to a path leads to a name that is too long to ask for. -/
def IsTooLong (fs : FileSystem) (p : Path) : Prop := fs.status p = .error .nameTooLong

/-- The answer for a path that is too long. -/
def tooLong (p : Path) : FileFault := ⟨.nameTooLong, p.text⟩

variable {fs : FileSystem} {p : Path}

theorem IsRegular.isFile (h : fs.IsRegular p) : fs.isFile p = .ok true := by
  obtain ⟨content, hcontent⟩ := h
  rw [FileSystem.isFile, hcontent]

theorem IsTooLong.isFile (h : fs.IsTooLong p) : fs.isFile p = .error (tooLong p) := by
  rw [FileSystem.isFile, h]
  rfl

theorem isFile_of_neither (hregular : ¬ fs.IsRegular p) (hlong : ¬ fs.IsTooLong p) : fs.isFile p = .ok false := by
  rw [FileSystem.isFile]
  split
  · rename_i content hcontent
    exact absurd ⟨content, hcontent⟩ hregular
  · rename_i hstatus
    exact absurd hstatus hlong
  · rfl

theorem neither_of_isFile (h : fs.isFile p = .ok false) : ¬ fs.IsRegular p ∧ ¬ fs.IsTooLong p := by
  refine ⟨fun hregular => ?_, fun hlong => ?_⟩
  · rw [hregular.isFile] at h
    cases h
  · rw [hlong.isFile] at h
    cases h

/-- Whether a candidate settles a search. -/
def settles (fs : FileSystem) (p : Path) : Bool :=
  match fs.isFile p with
  | .ok found => found
  | .error _ => true

end FileSystem

/-- A host after edits of its files. -/
def Host.edited (host : Host) (edits : List FileSystem.Edit) : Host :=
  { host with files := host.files.edited edits }

theorem Host.workingDirectory_edited (host : Host) (edits : List FileSystem.Edit) :
    (host.edited edits).workingDirectory = host.workingDirectory :=
  congrArg Path.absolute (FileSystem.workingDirectory_edited host.files edits)

namespace Config

open FileSystem (IsRegular IsTooLong tooLong)

-- ── the places ────────────────────────────────────────────────────────────

/-- A path with a home directory in place of a leading tilde, if that is known. -/
def atHome (host : Host) (p : Path) : Path := (p.expandHome host.homeOf?).toOption.getD p

/-- The home directories of all paths that a search uses are known. -/
def HomesKnown (host : Host) (settings : Settings) (searchPaths : Option (List Path)) : Prop :=
  ∀ p ∈ settings.configFile.toList ++ (searchPaths.getD settings.searchPaths ++ [userDirectory]),
    ∃ q, p.expandHome host.homeOf? = .ok q

/-- The directories of a search: the working directory, the search paths given, or else those of the
    settings, and the user's own. -/
def directories (host : Host) (settings : Settings) (searchPaths : Option (List Path)) : List Path :=
  host.workingDirectory :: (searchPaths.getD settings.searchPaths ++ [userDirectory]).map (atHome host)

/-- The places of a search in order of precedence: the file that the settings name, and then in each
    directory the name with either ending. -/
def places (host : Host) (settings : Settings) (name : Option String) (searchPaths : Option (List Path)) :
    List Path :=
  settings.configFile.toList.map (atHome host) ++
    (directories host settings searchPaths).flatMap fun d =>
      [d.join (.ofString (chosenName settings name ++ ".yaml")),
        d.join (.ofString (chosenName settings name ++ ".yml"))]

theorem expandHome_absolute (homeOf : Option String → Option String) (names : List String) :
    (Path.absolute names).expandHome homeOf = .ok (.absolute names) := by
  have hroot : (Path.absolute names).root.isEmpty = false :=
    show "/".isEmpty = false by decide
  rw [Path.expandHome, hroot]

theorem placesIn_of_ok {homeOf : Option String → Option String} {d d' : Path} (name : String)
    (h : d.expandHome homeOf = .ok d') :
    placesIn homeOf name d =
      .ok [d'.join (.ofString (name ++ ".yaml")), d'.join (.ofString (name ++ ".yml"))] := by
  rw [placesIn, h]
  rfl

theorem placesInAll_eq {host : Host} {ds : List Path} (h : ∀ d ∈ ds, ∃ d', d.expandHome host.homeOf? = .ok d')
    (name : String) :
    placesInAll host.homeOf? name ds = .ok ((ds.map (atHome host)).flatMap fun d =>
      [d.join (.ofString (name ++ ".yaml")), d.join (.ofString (name ++ ".yml"))]) := by
  induction ds with
  | nil => rfl
  | cons d rest ih =>
      obtain ⟨d', hd⟩ := h d List.mem_cons_self
      have hhome : atHome host d = d' := by
        rw [atHome, hd]
        rfl
      rw [placesInAll, placesIn_of_ok name hd, ih fun e he => h e (List.mem_cons_of_mem d he), List.map_cons,
        List.flatMap_cons, hhome]
      rfl

/-- **THE CANDIDATES ARE THE PLACES** in order of precedence. -/
theorem candidatePaths_eq_places {host : Host} {settings : Settings} {searchPaths : Option (List Path)}
    (h : HomesKnown host settings searchPaths) (name : Option String) :
    candidatePaths host settings name searchPaths = .ok (places host settings name searchPaths) := by
  have hworking : atHome host host.workingDirectory = host.workingDirectory := by
    rw [atHome, Host.workingDirectory, expandHome_absolute]
    rfl
  have hknown : ∀ d ∈ host.workingDirectory :: (searchPaths.getD settings.searchPaths ++ [userDirectory]),
      ∃ d', d.expandHome host.homeOf? = .ok d' := by
    intro d hd
    rcases List.mem_cons.mp hd with rfl | hd
    · exact ⟨_, expandHome_absolute _ _⟩
    · exact h d (List.mem_append_right _ hd)
  have hothers := placesInAll_eq hknown (chosenName settings name)
  rw [List.map_cons, hworking] at hothers
  rw [places, directories]
  cases hfile : settings.configFile with
  | none =>
      simp only [candidatePaths, hfile]
      rw [hothers]
      rfl
  | some p =>
      obtain ⟨q, hq⟩ := h p (List.mem_append_left _ (by rw [hfile]; exact List.mem_singleton_self p))
      have hhome : atHome host p = q := by
        rw [atHome, hq]
        rfl
      simp only [candidatePaths, hfile]
      rw [hothers, hq, Option.toList_some, List.map_cons, hhome]
      rfl

-- ── the first file ────────────────────────────────────────────────────────

/-- Candidates that settle nothing are passed over. -/
theorem firstFile_append {fs : FileSystem} {before : List Path}
    (h : ∀ q ∈ before, ¬ fs.IsRegular q ∧ ¬ fs.IsTooLong q) (rest : List Path) :
    firstFile fs (before ++ rest) = firstFile fs rest := by
  induction before with
  | nil => rfl
  | cons q before ih =>
      obtain ⟨hregular, hlong⟩ := h q List.mem_cons_self
      rw [List.cons_append, firstFile, FileSystem.isFile_of_neither hregular hlong]
      exact ih fun r hr => h r (List.mem_cons_of_mem q hr)

theorem firstFile_of_found {fs : FileSystem} {before after : List Path} {p : Path}
    (hbefore : ∀ q ∈ before, ¬ fs.IsRegular q ∧ ¬ fs.IsTooLong q) (hp : fs.IsRegular p) :
    firstFile fs (before ++ p :: after) = .ok (some p) := by
  rw [firstFile_append hbefore, firstFile, hp.isFile]

theorem firstFile_of_missing {fs : FileSystem} {candidates : List Path}
    (h : ∀ q ∈ candidates, ¬ fs.IsRegular q ∧ ¬ fs.IsTooLong q) : firstFile fs candidates = .ok none := by
  have happend := firstFile_append h []
  rw [List.append_nil] at happend
  exact happend

theorem firstFile_of_refused {fs : FileSystem} {before after : List Path} {p : Path}
    (hbefore : ∀ q ∈ before, ¬ fs.IsRegular q ∧ ¬ fs.IsTooLong q) (hp : fs.IsTooLong p) :
    firstFile fs (before ++ p :: after) = .error (tooLong p) := by
  rw [firstFile_append hbefore, firstFile, hp.isFile]

/-- **WHAT STANDS BEHIND DOES NOT MATTER**: only candidates up to the one that settles the search are
    asked for. -/
theorem firstFile_congr {fs fs' : FileSystem} {candidates : List Path}
    (h : ∀ q ∈ upTo fs.settles candidates, fs'.isFile q = fs.isFile q) :
    firstFile fs' candidates = firstFile fs candidates := by
  induction candidates with
  | nil => rfl
  | cons p rest ih =>
      have hp : fs'.isFile p = fs.isFile p := h p (by
        rw [upTo]
        split <;> exact List.mem_cons_self)
      rw [firstFile, firstFile, hp]
      cases hfile : fs.isFile p with
      | error f => rfl
      | ok found =>
          cases found with
          | true => rfl
          | false =>
              refine ih fun q hq => h q ?_
              have hsettles : fs.settles p = false := by
                rw [FileSystem.settles, hfile]
              rw [upTo, hsettles]
              exact List.mem_cons_of_mem p hq

-- ── searches ──────────────────────────────────────────────────────────────

/-- What is logged where a file is found. -/
def foundEvent (p : Path) : LogEvent := ⟨.debug, "config_file_found", [("path", .str p.text)]⟩

/-- What is logged where none is. -/
def missingEvent (name : String) (searched : List Path) : LogEvent :=
  ⟨.error, "config_file_not_found", [("name", .str name), ("searched", .list ((searched.map (·.text)).map .str))]⟩

/-- What a search reports, by the first file among its candidates. -/
def searchReport {ν : Type} (name : String) (candidates : List Path) :
    Except FileFault (Option Path) → Task ν Path
  | .ok (some p) => ⟨[.logged (foundEvent p)], .ok p⟩
  | .ok none => ⟨[.logged (missingEvent name candidates)],
      .error (.error ⟨.configMissing name (candidates.map (·.text)), []⟩)⟩
  | .error f => ⟨[], .error (.file f)⟩

/-- How a search goes. Candidates count up to the first one that is a regular file, and a name that is
    too long on the way there ends the search. -/
structure GoesInOrder (ν : Type) (host : Host) (settings : Settings) (name : Option String)
    (searchPaths : Option (List Path)) : Prop where
  candidates : candidatePaths host settings name searchPaths = .ok (places host settings name searchPaths)
  /-- The first regular file is found. -/
  found {before after : List Path} {p : Path}
    (hplaces : places host settings name searchPaths = before ++ p :: after)
    (hbefore : ∀ q ∈ before, ¬ host.files.IsRegular q ∧ ¬ host.files.IsTooLong q) (hp : host.files.IsRegular p) :
    (find host settings name searchPaths : Task ν Path) = ⟨[.logged (foundEvent p)], .ok p⟩
  /-- Without one the error names all candidates. -/
  missing (h : ∀ q ∈ places host settings name searchPaths, ¬ host.files.IsRegular q ∧ ¬ host.files.IsTooLong q) :
    (find host settings name searchPaths : Task ν Path) =
      ⟨[.logged (missingEvent (chosenName settings name) (places host settings name searchPaths))],
        .error (.error ⟨.configMissing (chosenName settings name)
          ((places host settings name searchPaths).map (·.text)), []⟩)⟩
  /-- The system refuses to answer for a name that is too long. -/
  refused {before after : List Path} {p : Path}
    (hplaces : places host settings name searchPaths = before ++ p :: after)
    (hbefore : ∀ q ∈ before, ¬ host.files.IsRegular q ∧ ¬ host.files.IsTooLong q) (hp : host.files.IsTooLong p) :
    (find host settings name searchPaths : Task ν Path) = ⟨[], .error (.file (tooLong p))⟩
  /-- Files may be made and taken away anywhere else than at the candidates up to the result. -/
  unnoticed {edits : List FileSystem.Edit}
    (h : ∀ e ∈ edits, ∀ q ∈ upTo host.files.settles (places host settings name searchPaths),
      host.files.Apart e.path q) :
    (find (host.edited edits) settings name searchPaths : Task ν Path) = find host settings name searchPaths
  /-- By the settings kept, or those of the host, the file that is found is loaded. -/
  loaded {cache : SettingsCache} (hcache : (cache.get host).1 = .ok settings) {p : Path}
    (hfound : (find host settings name searchPaths : Task ν Path) = ⟨[.logged (foundEvent p)], .ok p⟩) :
    (locateKept cache host name searchPaths : Task ν Config × SettingsCache).1 =
      ⟨.logged (foundEvent p) :: (load host.files p : Task ν Config).notes, (load host.files p : Task ν Config).outcome⟩
  /-- Without one, loading ends as the search does. -/
  unloaded {cache : SettingsCache} (hcache : (cache.get host).1 = .ok settings) {notes : List (Note ν)} {f : Failure}
    (hfind : (find host settings name searchPaths : Task ν Path) = ⟨notes, .error f⟩) :
    (locateKept cache host name searchPaths : Task ν Config × SettingsCache).1 = ⟨notes, .error f⟩

variable {ν : Type} {host : Host} {settings : Settings} {name : Option String} {searchPaths : Option (List Path)}

theorem find_eq_searchReport (h : HomesKnown host settings searchPaths) :
    (find host settings name searchPaths : Task ν Path) =
      searchReport (chosenName settings name) (places host settings name searchPaths)
        (firstFile host.files (places host settings name searchPaths)) := by
  rw [find, candidatePaths_eq_places h]
  show Report.bind (Report.ofExcept ((firstFile host.files _).mapError Failure.file)) _ = _
  cases firstFile host.files (places host settings name searchPaths) with
  | error f => rfl
  | ok found =>
      cases found with
      | none => rfl
      | some p => rfl

/-- A configuration is loaded from the file that a search finds, by the settings kept or those of the
    host. -/
theorem locateKept_eq_bind {cache : SettingsCache} (h : (cache.get host).1 = .ok settings) :
    (locateKept cache host name searchPaths : Task ν Config × SettingsCache).1 =
      (find host settings name searchPaths).bind fun p => load host.files p := by
  have hget : cache.get host = (.ok settings, (cache.get host).2) := Prod.ext h rfl
  rw [locateKept, hget]
  rfl

/-- **A SEARCH GOES IN ORDER** of precedence, where the home directories are known, on all files and by all
    settings, names and search paths. -/
theorem search_goes_in_order (ν : Type) (h : HomesKnown host settings searchPaths) (name : Option String) :
    GoesInOrder ν host settings name searchPaths where
  candidates := candidatePaths_eq_places h name
  found hplaces hbefore hp := by
    rw [find_eq_searchReport h, hplaces, firstFile_of_found hbefore hp]
    rfl
  missing hmissing := by
    rw [find_eq_searchReport h, firstFile_of_missing hmissing]
    rfl
  refused hplaces hbefore hp := by
    rw [find_eq_searchReport h, hplaces, firstFile_of_refused hbefore hp]
    rfl
  unnoticed {edits} hapart := by
    have hplaces : places (host.edited edits) settings name searchPaths = places host settings name searchPaths := by
      rw [places, directories, Host.workingDirectory_edited]
      rfl
    have hfirst : firstFile (host.edited edits).files (places host settings name searchPaths) =
        firstFile host.files (places host settings name searchPaths) :=
      firstFile_congr fun q hq => FileSystem.isFile_edited fun e he => hapart e he q hq
    have hhomes : HomesKnown (host.edited edits) settings searchPaths := h
    rw [find_eq_searchReport h, find_eq_searchReport hhomes, hplaces, hfirst]
  loaded hcache p hfound := by
    rw [locateKept_eq_bind hcache, hfound]
    rfl
  unloaded hcache notes f hfind := by
    rw [locateKept_eq_bind hcache, hfind]
    rfl

/-- A home directory is known where the path with it is. -/
theorem exists_home_of_isOk {homeOf : Option String → Option String} {p : Path}
    (h : (p.expandHome homeOf).isOk = true) :
    ∃ q, p.expandHome homeOf = .ok q := by
  cases hp : p.expandHome homeOf with
  | ok q => exact ⟨q, rfl⟩
  | error f =>
      rw [hp] at h
      cases h

namespace Sample

/-- The files of someone with two directories: in the working directory a directory stands in the place of
    a configuration, and in the other one there is a configuration. -/
def shelves : FileSystem :=
  ⟨[(["home"], .directory), (["home", "ui_config.yaml"], .directory), (["more"], .directory),
    (["more", "ui_config.yml"], .file [])], ["home"]⟩

/-- The host with these files. -/
def desk : Host := { files := shelves, environment := [("HOME", "/home")] }

/-- Settings that name the other directory. -/
def deskSettings : Settings := { Settings.standard with searchPaths := [.absolute ["more"]] }

/-- The configuration there. -/
def shelved : Path := .absolute ["more", "ui_config.yml"]

theorem homesKnown_desk : HomesKnown desk deskSettings none := by
  intro p hp
  rcases List.mem_cons.mp hp with rfl | hp
  · exact exists_home_of_isOk (by decide +kernel)
  · obtain rfl : p = userDirectory := List.mem_singleton.mp hp
    exact exists_home_of_isOk (by decide +kernel)

end Sample

/-- The configuration in the second directory is found, though a directory has its name in the first one,
    and also after other files were made beside it. -/
theorem found_in_second_directory :
    (find Sample.desk Sample.deskSettings none none : Task Unit Path) =
        ⟨[.logged (foundEvent Sample.shelved)], .ok Sample.shelved⟩ ∧
      (find (Sample.desk.edited [.create (.absolute ["more", "ui_config.json"]) []]) Sample.deskSettings none none :
          Task Unit Path) =
        ⟨[.logged (foundEvent Sample.shelved)], .ok Sample.shelved⟩ := by
  have horder := search_goes_in_order Unit Sample.homesKnown_desk none
  have hplaces : places Sample.desk Sample.deskSettings none none =
      [.absolute ["home", "ui_config.yaml"], .absolute ["home", "ui_config.yml"],
        .absolute ["more", "ui_config.yaml"]] ++ Sample.shelved ::
        [.absolute ["home", ".config", "uilocator", "ui_config.yaml"],
          .absolute ["home", ".config", "uilocator", "ui_config.yml"]] := by decide +kernel
  have hfound : (find Sample.desk Sample.deskSettings none none : Task Unit Path) =
      ⟨[.logged (foundEvent Sample.shelved)], .ok Sample.shelved⟩ := by
    refine horder.found hplaces ?_ ⟨[], by rfl⟩
    intro q hq
    simp only [List.mem_cons, List.not_mem_nil, or_false] at hq
    rcases hq with rfl | rfl | rfl
    all_goals exact FileSystem.neither_of_isFile (by rfl)
  refine ⟨hfound, (horder.unnoticed ?_).trans hfound⟩
  intro e he q hq place hplace hcandidate
  obtain rfl := List.mem_singleton.mp he
  have hjson : Sample.shelves.locate (.absolute ["more", "ui_config.json"]) = .ok ["more", "ui_config.json"] := by rfl
  obtain rfl := Except.ok.inj (hplace.symm.trans hjson)
  have hother : (upTo Sample.shelves.settles (places Sample.desk Sample.deskSettings none none)).all
      (fun q => match Sample.shelves.locate q with
        | .ok names => names != ["more", "ui_config.json"]
        | .error _ => true) = true := by decide +kernel
  have hq' := List.all_eq_true.mp hother q hq
  have hcandidate' : Sample.shelves.locate q = .ok ["more", "ui_config.json"] := hcandidate
  rw [hcandidate'] at hq'
  cases hq'

-- ── a name that is too long ───────────────────────────────────────────────

/-- A name without slashes is a path of its own. -/
theorem ofString_name {s : String} (hslash : '/' ∉ s.toList) (hempty : s ≠ "") (hpoint : s ≠ ".") :
    Path.ofString s = ⟨"", [s]⟩ := by
  have hparts : s.toList.splitOn '/' = [s.toList] := List.splitOn_eq_singleton hslash
  have hroot : s.toList.takeWhile (· == '/') = [] := by
    cases hs : s.toList with
    | nil => rfl
    | cons c cs =>
        have hc : (c == '/') = false := beq_false_of_ne fun h => hslash (by
          rw [hs, h]
          exact List.mem_cons_self)
        rw [List.takeWhile_cons, hc]
        rfl
  simp [Path.ofString, hparts, hroot, hempty, hpoint]

/-- At the top of the files a name that is too long is refused. -/
theorem isTooLong_absolute (fs : FileSystem) {s : String} (hnull : '\x00' ∉ s.toList)
    (hlong : FileSystem.maxName < s.utf8ByteSize) : fs.IsTooLong (.absolute [s]) := by
  have hcontains : (Path.absolute [s]).text.toList.contains '\x00' = false := by
    have htext : (Path.absolute [s]).text.toList = '/' :: s.toList := by
      simp [Path.absolute, Path.text]
    rw [htext]
    simpa using hnull
  have hsteps : (s == "..") = false := beq_false_of_ne fun h => by
    subst h
    revert hlong
    decide
  have hlocate : fs.locate (.absolute [s]) = .error .nameTooLong := by
    rw [FileSystem.locate, hcontains]
    simp [Path.absolute, FileSystem.walk, FileSystem.entry?, hsteps, hlong]
  rw [FileSystem.IsTooLong, FileSystem.status, hlocate]

/-- A host without any files. -/
def Sample.bare : Host := { files := ⟨[], []⟩, environment := [("HOME", "/home")] }

theorem Sample.homesKnown_bare : HomesKnown bare .standard none := by
  intro p hp
  obtain rfl : p = userDirectory := List.mem_singleton.mp hp
  exact exists_home_of_isOk (by decide +kernel)

theorem Sample.bare_without_regular (p : Path) : ¬ bare.files.IsRegular p := by
  rintro ⟨content, hcontent⟩
  have hentry (names : List String) : bare.files.entry? names ≠ some (.file content) := by
    cases names <;> exact nofun
  rw [FileSystem.status] at hcontent
  split at hcontent
  · cases hcontent
  · rename_i names _
    split at hcontent
    · cases hcontent
    · rename_i e he
      cases hcontent
      exact hentry names he

/-- Without any files the search for a name that is too long together with an ending ends at the first
    candidate. -/
theorem Sample.find_long_name {name : String} (hslash : '/' ∉ name.toList) (hnull : '\x00' ∉ name.toList)
    (hlong : FileSystem.maxName < (name ++ ".yaml").utf8ByteSize) :
    (find bare .standard (some name) none : Task Unit Path).outcome =
      .error (.file (tooLong (.absolute [name ++ ".yaml"]))) := by
  have hpath : Path.ofString (name ++ ".yaml") = ⟨"", [name ++ ".yaml"]⟩ := by
    refine ofString_name ?_ ?_ ?_
    · simpa using hslash
    · intro hempty
      rw [hempty] at hlong
      revert hlong
      decide
    · intro hpoint
      rw [hpoint] at hlong
      revert hlong
      decide
  have hchosen : chosenName .standard (some name) = name := by
    have hname : (!name.isEmpty) = true := by
      rw [Bool.not_eq_true', Bool.eq_false_iff, ne_eq, String.isEmpty_iff]
      rintro rfl
      revert hlong
      decide
    rw [chosenName, Option.filter_some, if_pos hname, Option.getD_some]
  have hplaces : ∃ after, places bare .standard (some name) none = [] ++ .absolute [name ++ ".yaml"] :: after := by
    rw [places, directories, List.flatMap_cons, hchosen, hpath]
    exact ⟨_, rfl⟩
  obtain ⟨after, hplaces⟩ := hplaces
  rw [find_eq_searchReport homesKnown_bare, hplaces,
    firstFile_of_refused (fun _ hq => absurd hq List.not_mem_nil) (isTooLong_absolute _ (by simpa using hnull) hlong)]
  rfl

/-- A name of 251 letters is too long for a file together with an ending. -/
theorem exists_long_name : ∃ name : String, '/' ∉ name.toList ∧ '\x00' ∉ name.toList ∧
    FileSystem.maxName < (name ++ ".yaml").utf8ByteSize := by
  have hletters (n : Nat) : (String.ofList (List.replicate n 'a') ++ ".yaml").utf8ByteSize = n + 5 := by
    rw [String.utf8ByteSize_append, String.utf8ByteSize_ofList]
    congr 1
    induction n with
    | zero => rfl
    | succ n ih =>
        rw [List.replicate_succ]
        exact congrArg (· + 1) ih
  refine ⟨String.ofList (List.replicate 251 'a'), ?_, ?_, ?_⟩
  · rw [String.toList_ofList]
    exact fun h => absurd (List.eq_of_mem_replicate h) (by decide)
  · rw [String.toList_ofList]
    exact fun h => absurd (List.eq_of_mem_replicate h) (by decide)
  · rw [hletters]
    decide

/-- A search without any regular file among its candidates need not report that the configuration is
    missing: the system refuses to look for a name that is too long. -/
theorem long_name_is_refused :
    ¬ ∀ (host : Host) (settings : Settings) (name : Option String) (searchPaths : Option (List Path)),
      HomesKnown host settings searchPaths →
      (∀ q ∈ places host settings name searchPaths, ¬ host.files.IsRegular q) →
      (find host settings name searchPaths : Task Unit Path).outcome =
        .error (.error ⟨.configMissing (chosenName settings name)
          ((places host settings name searchPaths).map (·.text)), []⟩) := by
  intro h
  obtain ⟨name, hslash, hnull, hlong⟩ := exists_long_name
  have hend := h Sample.bare .standard (some name) none Sample.homesKnown_bare
    fun q _ => Sample.bare_without_regular q
  rw [Sample.find_long_name hslash hnull hlong] at hend
  cases hend

end Config

end ElementLocator
