import Rehearsal.Proofs.SuiteResults
import Rehearsal.Proofs.Walks

/-!
# Folders of scenarios

Which scenarios come of a folder (`Scenario.load_met`): those of the files with one of the two
extensions that a walk meets, one each, sorted by name. If one of the entries with such a name cannot
be read as a scenario, the folder is not loaded at all. What the walk does not meet is not missed,
though: a folder that is not there, and one below that cannot be listed, come to nothing instead of
a failure (`Scenario.load_missing`).
-/

namespace Rehearsal

namespace Scenario

variable {files : FileTree} {dir p : Path} {names : List String} {x : FileEntry} {s : Scenario}
  {specs : List Scenario}

/-! ## Files of scenarios -/

/-- Bytes from which a valid scenario is read. -/
def Spells (content : List UInt8) (s : Scenario) : Prop :=
  ∃ text, Text.decode? content = some text ∧ ofYaml (String.ofList text) = .ok s

theorem ofFile_ok :
    ofFile files p = .ok s ↔ ∃ c, files.find p = .ok (.file c) ∧ Spells c s := by
  have hread : ofFile files p = .ok s ↔
      ∃ text, files.readText p = .ok text ∧ ofYaml text = .ok s := by
    unfold ofFile
    rcases files.readText p with f | text
    · simp
    · simp only [Except.ok.injEq, exists_eq_left']
      constructor
      · intro h
        split at h
        · cases h
        · exact h
      · intro h
        rw [h]
  rw [hread]
  constructor
  · rintro ⟨text, ht, hs⟩
    obtain ⟨c, cs, hc, hcs, rfl⟩ := FileTree.readText_ok.1 ht
    exact ⟨c, hc, cs, hcs, hs⟩
  · rintro ⟨c, hc, cs, hcs, hs⟩
    exact ⟨_, FileTree.readText_ok.2 ⟨c, cs, hc, hcs, rfl⟩, hs⟩

/-- An entry that is taken for a scenario is read as what it holds. -/
theorem ofFile_of_meets (h : files.root.isProper = true) (hm : files.Meets dir names x) :
    ofFile files (Path.under dir names) = .ok s ↔
      FileTree.isTooLong (Path.under dir names) = false ∧ ∃ c, x = .file c ∧ Spells c s := by
  rw [ofFile_ok]
  constructor
  · rintro ⟨c, hc, hs⟩
    obtain ⟨⟨hcheck, -⟩, -⟩ := FileTree.find_ok.1 hc
    have hshort := (FileTree.checkText_ok.1 hcheck).2
    rw [FileTree.find_of_meets h hm hshort] at hc
    cases hc
    exact ⟨hshort, c, rfl, hs⟩
  · rintro ⟨hshort, c, rfl, hs⟩
    exact ⟨c, FileTree.find_of_meets h hm hshort, hs⟩

/-! ## What comes of a folder -/

/-- The places below a folder whose entries are taken for scenarios. -/
def candidates (files : FileTree) (dir : Path) : List (List String × FileEntry) :=
  (files.met dir).filter fun x => isScenarioPath (Path.under dir x.1)

theorem mem_candidates (h : files.root.isProper = true) : (names, x) ∈ candidates files dir ↔
    files.Meets dir names x ∧ isScenarioPath (Path.under dir names) = true := by
  rw [candidates, List.mem_filter, FileTree.mem_met h]

theorem candidates_nodup (h : files.root.isProper = true) :
    ((candidates files dir).map (·.1)).Nodup :=
  (List.filter_sublist.map _).nodup (FileTree.met_nodup h dir)

theorem candidates_paths (files : FileTree) (dir : Path) :
    (candidates files dir).map (fun x => Path.under dir x.1) =
      ((files.walk dir).map (·.path)).filter isScenarioPath := by
  rw [FileTree.walk_eq, List.map_map, List.filter_map]
  rfl

theorem load_ok : load files dir = .ok specs ↔ ∃ scenarios,
    (candidates files dir).mapM (fun x => ofFile files (Path.under dir x.1)) = .ok scenarios ∧
      scenarios.mergeSort (fun a b => decide (a.name ≤ b.name)) = specs := by
  show (((files.walk dir).map (·.path)).filter isScenarioPath).mapM (ofFile files) >>= _ = _ ↔ _
  rw [← candidates_paths, List.mapM_map, bind_ok]
  refine exists_congr fun scenarios => and_congr_right fun _ => ?_
  constructor
  · intro h
    cases h
    rfl
  · rintro rfl
    rfl

/-- What a folder is loaded to, if the entries below it that count are those of a relation. It is
loaded exactly if each of them that is taken for a scenario is a file with one, at a path that is not
too long; the scenarios are those of these files, one each, sorted by name. -/
structure LoadsFrom (files : FileTree) (dir : Path) (counts : List String → FileEntry → Prop) :
    Prop where
  loads : (∃ specs, load files dir = .ok specs) ↔ ∀ names x, counts names x →
    isScenarioPath (Path.under dir names) = true →
    FileTree.isTooLong (Path.under dir names) = false ∧ ∃ c s, x = .file c ∧ Spells c s
  exact : ∀ specs, load files dir = .ok specs →
    specs.Pairwise (fun a b => a.name ≤ b.name) ∧
    ∃ (places : List (List String)) (scenarios : List Scenario), places.Nodup ∧
      (∀ names, names ∈ places ↔
        isScenarioPath (Path.under dir names) = true ∧ ∃ c, counts names (.file c)) ∧
      List.Forall₂ (fun names s => ∃ c, counts names (.file c) ∧ Spells c s) places scenarios ∧
      specs.Perm scenarios

theorem load_iff (h : files.root.isProper = true) : (∃ specs, load files dir = .ok specs) ↔
    ∀ names x, files.Meets dir names x → isScenarioPath (Path.under dir names) = true →
      FileTree.isTooLong (Path.under dir names) = false ∧ ∃ c s, x = .file c ∧ Spells c s := by
  have hmap : (∃ specs, load files dir = .ok specs) ↔ ∃ scenarios,
      (candidates files dir).mapM (fun x => ofFile files (Path.under dir x.1)) = .ok scenarios := by
    constructor
    · rintro ⟨specs, hspecs⟩
      obtain ⟨scenarios, hm, -⟩ := load_ok.1 hspecs
      exact ⟨scenarios, hm⟩
    · rintro ⟨scenarios, hm⟩
      exact ⟨_, load_ok.2 ⟨scenarios, hm, rfl⟩⟩
  rw [hmap, exists_mapM_ok]
  constructor
  · intro hall names x hm hs
    obtain ⟨s, hread⟩ := hall (names, x) ((mem_candidates h).2 ⟨hm, hs⟩)
    obtain ⟨hshort, c, he, hc⟩ := (ofFile_of_meets h hm).1 hread
    exact ⟨hshort, c, s, he, hc⟩
  · rintro hall ⟨names, x⟩ hx
    obtain ⟨hm, hs⟩ := (mem_candidates h).1 hx
    obtain ⟨hshort, c, s, he, hc⟩ := hall names x hm hs
    exact ⟨s, (ofFile_of_meets h hm).2 ⟨hshort, c, he, hc⟩⟩

theorem loadsFrom_met (h : files.root.isProper = true) :
    LoadsFrom files dir (files.Meets dir) := by
  refine ⟨load_iff h, fun specs hspecs => ⟨load_sorted hspecs, ?_⟩⟩
  obtain ⟨scenarios, hm, rfl⟩ := load_ok.1 hspecs
  have hread : ∀ x ∈ candidates files dir, ∃ c, x.2 = .file c := by
    rintro ⟨names, x⟩ hx
    obtain ⟨hmeets, hs⟩ := (mem_candidates h).1 hx
    obtain ⟨-, c, s, he, -⟩ := (load_iff h).1 ⟨_, hspecs⟩ names x hmeets hs
    exact ⟨c, he⟩
  refine ⟨(candidates files dir).map (·.1), scenarios, ?_, fun names => ?_, ?_,
    List.mergeSort_perm _ _⟩
  · exact candidates_nodup h
  · rw [List.mem_map]
    constructor
    · rintro ⟨⟨names, x⟩, hx, rfl⟩
      obtain ⟨c, rfl⟩ := hread _ hx
      obtain ⟨hmeets, hs⟩ := (mem_candidates h).1 hx
      exact ⟨hs, c, hmeets⟩
    · rintro ⟨hs, c, hmeets⟩
      exact ⟨(names, .file c), (mem_candidates h).2 ⟨hmeets, hs⟩, rfl⟩
  · rw [List.forall₂_map_left_iff]
    have hall := (List.forall₂_and_left _ _).2 ⟨fun x hx => hx, mapM_ok.1 hm⟩
    refine hall.imp fun x s ⟨hx, hs⟩ => ?_
    obtain ⟨hmeets, -⟩ := (mem_candidates h).1 hx
    obtain ⟨-, c, he, hc⟩ := (ofFile_of_meets h hmeets).1 hs
    rw [he] at hmeets
    exact ⟨c, hmeets, hc⟩

/-- A suite of all scenarios has one result for each that the folder is loaded to. -/
theorem results_of_all {r s : Runner} {stage after : Stage} {suite : SuiteReport}
    (h : r.run .all stage = some (.ok suite, s, after)) :
    ∃ specs, load stage.files r.settings.scenariosDir = .ok specs ∧
      suite.results.map (·.name) = specs.map (·.name) := by
  rcases hl : load stage.files r.settings.scenariosDir with f | specs
  · simp [Runner.run, hl, bind, Except.bind] at h
  · refine ⟨specs, rfl, ?_⟩
    rw [Runner.run_eq hl] at h
    exact (Runner.runScenarios_reports h).names

end Scenario

/-- **A folder is loaded as far as it can be listed.** In a file tree with proper names, a path is
loaded to the scenarios of the files at and below it that a walk meets and that have one of the two
extensions, one each, sorted by name; if one of the entries that are taken for scenarios is a folder,
or cannot be read as a scenario, nothing is loaded but a failure. If the path leads to a folder, and
that and all folders below it can be listed, these are all that there are. A path that leads
nowhere, however, is loaded to no scenarios. And a suite of all scenarios has one result for each
that was loaded, with its name. -/
theorem Scenario.load_met (files : FileTree) (dir : Path) (h : files.root.isProper = true) :
    LoadsFrom files dir (files.Meets dir) ∧
    (files.Listed dir → LoadsFrom files dir (files.Has dir)) ∧
    (∀ f, files.find dir = .error f → load files dir = .ok []) ∧
    ∀ (r s : Runner) (stage after : Stage) (suite : SuiteReport), stage.files = files →
      r.settings.scenariosDir = dir → r.run .all stage = some (.ok suite, s, after) →
      ∃ specs, load files dir = .ok specs ∧ suite.results.map (·.name) = specs.map (·.name) := by
  refine ⟨loadsFrom_met h, fun hlisted => ?_, fun f hf => ?_, ?_⟩
  · have hall : files.Meets dir = files.Has dir := by
      funext names x
      exact propext (FileTree.meets_of_listed hlisted)
    rw [← hall]
    exact loadsFrom_met h
  · have hnone : files.walk dir = [] := by rw [FileTree.walk, hf]
    exact load_of_sorted (by rw [hnone]; rfl) .nil
  · rintro r s stage after suite rfl rfl hrun
    exact results_of_all hrun

/-- A folder of scenarios that is not there is loaded, and a suite without results is reported. -/
theorem Scenario.load_missing :
    ¬Stage.lenient.files.Listed Runner.prompt.settings.scenariosDir ∧
    load Stage.lenient.files Runner.prompt.settings.scenariosDir = .ok [] ∧
    ∃ suite s after, Runner.prompt.run .all .lenient = some (.ok suite, s, after) ∧
      suite.results = [] := by
  have hload : load Stage.lenient.files Runner.prompt.settings.scenariosDir = .ok [] :=
    load_of_sorted rfl .nil
  refine ⟨fun h => absurd h.folder (by decide), hload, ?_⟩
  rw [Runner.run_eq hload, Selection.choose]
  exact ⟨_, _, _, rfl, rfl⟩

theorem Scenario.load_met_mixed :
    Stage.mixed.files.root.isProper = true ∧
    Stage.mixed.files.Listed Runner.prompt.settings.scenariosDir ∧
    LoadsFrom Stage.mixed.files Runner.prompt.settings.scenariosDir
      (Stage.mixed.files.Has Runner.prompt.settings.scenariosDir) ∧
    ∃ suite s after, Runner.prompt.run .all .mixed = some (.ok suite, s, after) ∧
      suite.results.map (·.name) = ["leave", "pause"] := by
  have hproper : Stage.mixed.files.root.isProper = true := by decide +kernel
  have hlisted : Stage.mixed.files.Listed Runner.prompt.settings.scenariosDir :=
    (FileTree.listed_iff hproper).2 (by decide +kernel)
  obtain ⟨-, hall, -, hsuite⟩ := load_met _ Runner.prompt.settings.scenariosDir hproper
  refine ⟨hproper, hlisted, hall hlisted, ?_⟩
  have hd : (Runner.prompt.runScenarios [.leave, .pause] .mixed).any (·.1.isOk) = true := by
    decide +kernel
  rcases hr : Runner.prompt.runScenarios [.leave, .pause] .mixed with
    _ | ⟨f | suite, s, after⟩ <;> rw [hr] at hd
  · cases hd
  · cases hd
  · have hrun : Runner.prompt.run .all .mixed = some (.ok suite, s, after) := by
      rw [Runner.run_eq load_mixed, Selection.choose]
      exact hr
    obtain ⟨specs, hspecs, hnames⟩ := hsuite _ _ _ _ _ rfl rfl hrun
    rw [load_mixed] at hspecs
    cases hspecs
    exact ⟨suite, s, after, hrun, hnames⟩

end Rehearsal
