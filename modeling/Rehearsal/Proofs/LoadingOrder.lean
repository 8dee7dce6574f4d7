import Mathlib.Data.List.Perm.Basic
import Rehearsal.Proofs.Listings
import Rehearsal.Proofs.ScenarioFolders

/-!
# The order in which scenarios are loaded

What a folder of scenarios is loaded to does not depend on the order in which its entries are listed,
except where scenarios have one name (`Scenario.load_canonical`): it is the scenarios met on a walk,
sorted by the code points of their names, and those of one name stay as they were met
(`Scenario.SortedByName`). Where no two names are equal, two lists that are sorted so and have the
same scenarios are equal (`Scenario.SortedByName.unique`); and however folders are listed, the same
scenarios stand at the same places (`Scenario.standsAt_of_relisted`).
-/

namespace Rehearsal

/-! ## Code points -/

namespace Text

/-- The code points of a text. -/
def codePoints (s : String) : List Nat := s.toList.map Char.toNat

/-- A text before another one in the lexicographic order of their code points. -/
def Precedes (a b : String) : Prop := List.Lex (· < ·) (codePoints a) (codePoints b)

theorem lex_map_toNat {a b : List Char} :
    List.Lex (· < ·) (a.map Char.toNat) (b.map Char.toNat) ↔ List.Lex (· < ·) a b := by
  induction a generalizing b with
  | nil => cases b <;> simp
  | cons c a ih =>
    rcases b with _ | ⟨d, b⟩
    · simp
    · rw [List.map_cons, List.map_cons, List.cons_lex_cons_iff, List.cons_lex_cons_iff, ih,
        Char.toNat_inj]
      rfl

theorem precedes_iff_lt {a b : String} : Precedes a b ↔ a < b :=
  lex_map_toNat.trans String.lt_iff_toList_lt.symm

theorem not_precedes_iff_le {a b : String} : ¬Precedes b a ↔ a ≤ b := by
  rw [precedes_iff_lt, String.not_lt]

end Text

namespace Scenario

/-! ## Sorting -/

/-- Scenarios sorted by the code points of their names; those of one name stay in their order. -/
structure SortedByName (found specs : List Scenario) : Prop where
  perm : specs.Perm found
  sorted : specs.Pairwise fun a b => ¬Text.Precedes b.name a.name
  stable : ∀ n, specs.filter (fun s => s.name = n) = found.filter fun s => s.name = n

theorem sortedByName_mergeSort (found : List Scenario) :
    SortedByName found (found.mergeSort fun a b => decide (a.name ≤ b.name)) := by
  have hperm := List.mergeSort_perm found fun a b => decide (a.name ≤ b.name)
  have hsorted := List.pairwise_mergeSort byName_trans byName_total found
  refine ⟨hperm, hsorted.imp fun h => Text.not_precedes_iff_le.2 (of_decide_eq_true h), fun n => ?_⟩
  -- Those of one name are sorted as they are found, so that sorting keeps them as a sublist.
  have hone : (found.filter fun s => s.name = n).Pairwise
      fun a b => decide (a.name ≤ b.name) = true := by
    refine List.pairwise_of_forall_mem_list fun a ha b hb => ?_
    have ha : a.name = n := by simpa using (List.mem_filter.1 ha).2
    have hb : b.name = n := by simpa using (List.mem_filter.1 hb).2
    rw [ha, hb]
    exact decide_eq_true (String.le_refl n)
  have hsub := List.sublist_mergeSort byName_trans byName_total hone List.filter_sublist
  have hsub := hsub.filter fun s => s.name = n
  rw [List.filter_filter] at hsub
  simp only [Bool.and_self] at hsub
  exact (hsub.eq_of_length (hperm.filter _).length_eq.symm).symm

theorem SortedByName.unique {found found' specs specs' : List Scenario}
    (h : SortedByName found specs) (h' : SortedByName found' specs') (hperm : specs'.Perm specs)
    (hnames : (specs.map (·.name)).Nodup) : specs' = specs := by
  have hinj := List.inj_on_of_nodup_map hnames
  refine List.Perm.eq_of_pairwise (fun a b ha hb hab hba => ?_) h'.sorted h.sorted hperm
  refine hinj (hperm.subset ha) hb ?_
  exact String.le_antisymm (Text.not_precedes_iff_le.1 hab) (Text.not_precedes_iff_le.1 hba)

/-! ## Places of scenarios -/

/-- A scenario stands at some names below a folder: they have one of the two extensions, and lead to a
file from which it is read, at a path that is not too long. -/
structure StandsAt (files : FileTree) (dir : Path) (names : List String) (s : Scenario) : Prop where
  taken : isScenarioPath (Path.under dir names) = true
  short : FileTree.isTooLong (Path.under dir names) = false
  file : ∃ c, files.Has dir names (.file c) ∧ Spells c s

variable {files t : FileTree} {dir : Path} {names : List String} {s : Scenario}

theorem standsAt_iff (h : files.root.isProper = true) : StandsAt files dir names s ↔
    ∃ x, (names, x) ∈ candidates files dir ∧ ofFile files (Path.under dir names) = .ok s := by
  constructor
  · rintro ⟨htaken, hshort, c, hhas, hc⟩
    have hm := FileTree.meets_of_short h hhas hshort
    exact ⟨.file c, (mem_candidates h).2 ⟨hm, htaken⟩,
      (ofFile_of_meets h hm).2 ⟨hshort, c, rfl, hc⟩⟩
  · rintro ⟨x, hx, hread⟩
    obtain ⟨⟨e, he, hreached⟩, htaken⟩ := (mem_candidates h).1 hx
    obtain ⟨hshort, c, rfl, hc⟩ := (ofFile_of_meets h ⟨e, he, hreached⟩).1 hread
    exact ⟨htaken, hshort, c, ⟨e, he, hreached.stands⟩, hc⟩

theorem standsAt_of_relisted (h : files.root.isProper = true) (ht : files.Relisted t)
    (hs : StandsAt files dir names s) : StandsAt t dir names s := by
  obtain ⟨htaken, hshort, c, hhas, hc⟩ := hs
  obtain ⟨y, hy, hsame⟩ := ht.has h hhas
  obtain rfl : y = .file c := Option.some.inj (Standing.of_eq_file.1 hsame.symm)
  exact ⟨htaken, hshort, c, hy, hc⟩

/-- All entries below a folder that are taken for scenarios are files with one. -/
def AllParse (files : FileTree) (dir : Path) : Prop :=
  ∀ names x, files.Has dir names x → isScenarioPath (Path.under dir names) = true →
    ∃ s, StandsAt files dir names s

theorem AllParse.of_relisted (hall : AllParse files dir) (h : files.root.isProper = true)
    (ht : files.Relisted t) : AllParse t dir := by
  intro names y hy htaken
  obtain ⟨x, hx, -⟩ := ht.symm.has (ht.root.isProper h) hy
  obtain ⟨s, hs⟩ := hall names x hx htaken
  exact ⟨s, standsAt_of_relisted h ht hs⟩

/-- The places below a folder at which scenarios stand, in the order of a walk, and the scenarios. -/
structure FoundOnWalk (files : FileTree) (dir : Path) (places : List (List String))
    (found : List Scenario) : Prop where
  order : places.map (Path.under dir) = ((files.walk dir).map (·.path)).filter isScenarioPath
  nodup : places.Nodup
  all : ∀ names, names ∈ places ↔ ∃ s, StandsAt files dir names s
  each : List.Forall₂ (StandsAt files dir) places found

theorem AllParse.load (hall : AllParse files dir) (h : files.root.isProper = true) :
    ∃ places found specs, FoundOnWalk files dir places found ∧
      load files dir = .ok specs ∧ SortedByName found specs := by
  have hreads : ∀ x ∈ candidates files dir, ∃ s, ofFile files (Path.under dir x.1) = .ok s := by
    rintro ⟨names, x⟩ hx
    obtain ⟨⟨e, he, hreached⟩, htaken⟩ := (mem_candidates h).1 hx
    obtain ⟨s, hs⟩ := hall names x ⟨e, he, hreached.stands⟩ htaken
    obtain ⟨-, -, hread⟩ := (standsAt_iff h).1 hs
    exact ⟨s, hread⟩
  obtain ⟨found, hm⟩ := exists_mapM_ok.2 hreads
  refine ⟨(candidates files dir).map (·.1), found, _, ⟨?_, candidates_nodup h, fun names => ?_, ?_⟩,
    load_ok.2 ⟨found, hm, rfl⟩, sortedByName_mergeSort found⟩
  · rw [List.map_map]
    exact candidates_paths files dir
  · rw [List.mem_map]
    constructor
    · rintro ⟨⟨names, x⟩, hx, rfl⟩
      obtain ⟨s, hs⟩ := hreads _ hx
      exact ⟨s, (standsAt_iff h).2 ⟨x, hx, hs⟩⟩
    · rintro ⟨s, hs⟩
      obtain ⟨x, hx, -⟩ := (standsAt_iff h).1 hs
      exact ⟨(names, x), hx, rfl⟩
  · rw [List.forall₂_map_left_iff]
    have hmem := (List.forall₂_and_left _ _).2 ⟨fun x hx => hx, mapM_ok.1 hm⟩
    exact hmem.imp fun x s ⟨hx, hs⟩ => (standsAt_iff h).2 ⟨x.2, hx, hs⟩

/-- Two walks that find scenarios at the same places find the same scenarios. -/
theorem FoundOnWalk.perm (h : files.root.isProper = true) (ht : files.Relisted t)
    {places places' : List (List String)} {found found' : List Scenario}
    (hf : FoundOnWalk files dir places found) (hf' : FoundOnWalk t dir places' found') :
    found'.Perm found := by
  have hproper := ht.root.isProper h
  have hplaces : places'.Perm places := by
    refine (List.perm_ext_iff_of_nodup hf'.nodup hf.nodup).2 fun names => ?_
    rw [hf'.all, hf.all]
    exact exists_congr fun s =>
      ⟨standsAt_of_relisted hproper ht.symm, standsAt_of_relisted h ht⟩
  obtain ⟨mid, hmid, hperm⟩ := List.perm_comp_forall₂ hplaces hf.each
  have hread {places : List (List String)} {found : List Scenario}
      (hs : List.Forall₂ (StandsAt t dir) places found) :
      places.mapM (fun names => ofFile t (Path.under dir names)) = .ok found := by
    refine mapM_ok.2 (hs.imp fun names s hs => ?_)
    obtain ⟨-, -, hread⟩ := (standsAt_iff hproper).1 hs
    exact hread
  have hsame := hread (hmid.imp fun _ _ => standsAt_of_relisted h ht)
  rw [hread hf'.each] at hsame
  rw [Except.ok.inj hsame]
  exact hperm

theorem allParse_of_load {specs : List Scenario} (h : files.root.isProper = true)
    (hlisted : files.Listed dir) (hload : load files dir = .ok specs) : AllParse files dir := by
  intro names x hx htaken
  have hm := (FileTree.meets_of_listed hlisted).2 hx
  obtain ⟨hshort, c, s, rfl, hc⟩ := (load_iff h).1 ⟨specs, hload⟩ names x hm htaken
  exact ⟨s, htaken, hshort, c, hx, hc⟩

theorem count_withTag (specs : List Scenario) (tag : String) (s : Scenario) :
    (withTag specs tag).count s = if tag ∈ s.tags then specs.count s else 0 := by
  unfold withTag
  split
  · rename_i htag
    exact List.count_filter (by simpa using htag)
  · rename_i htag
    refine List.count_eq_zero.2 fun hm => htag ?_
    simpa using (List.mem_filter.1 hm).2

/-- **The order of loading is canonical.** In a file tree with proper names, let all entries below a
folder that are taken for scenarios be files with one. However its folders are listed, the folder is
loaded; what it is loaded to are the scenarios found on a walk, each once, sorted by the code points
of their names, those of one name in the order of the walk; and they are the same scenarios for all
ways of listing, in the same order if no two names are equal. Those with a tag are the ones among
them that have it, in that order. -/
theorem load_canonical (h : files.root.isProper = true) (hall : AllParse files dir) :
    ∃ specs, load files dir = .ok specs ∧ ∀ t, files.Relisted t →
      ∃ places found listed, FoundOnWalk t dir places found ∧ load t dir = .ok listed ∧
        SortedByName found listed ∧ listed.Perm specs ∧
        ((specs.map (·.name)).Nodup → listed = specs) ∧
        ∀ tag, (withTag listed tag).Sublist listed ∧
          ∀ s, (withTag listed tag).count s = if tag ∈ s.tags then listed.count s else 0 := by
  obtain ⟨places, found, specs, hfound, hload, hsorted⟩ := hall.load h
  refine ⟨specs, hload, fun t ht => ?_⟩
  have hall' := hall.of_relisted h ht
  obtain ⟨places', found', listed, hfound', hload', hsorted'⟩ := hall'.load (ht.root.isProper h)
  have hperm : listed.Perm specs :=
    (hsorted'.perm.trans (FoundOnWalk.perm h ht hfound hfound')).trans hsorted.perm.symm
  exact ⟨places', found', listed, hfound', hload', hsorted', hperm, hsorted.unique hsorted' hperm,
    fun tag => ⟨List.filter_sublist, count_withTag listed tag⟩⟩

/-- The folder of two scenarios, listed from its end. -/
theorem load_canonical_reversed : Stage.mixed.files.root.isProper = true ∧
    AllParse Stage.mixed.files Runner.prompt.settings.scenariosDir ∧ ∃ es t,
    Stage.mixed.files.root = .folder [("work", .folder [("scenarios", .folder es)])] ∧
    t.root = .folder [("work", .folder [("scenarios", .folder es.reverse)])] ∧
    Stage.mixed.files.Relisted t ∧
    load t Runner.prompt.settings.scenariosDir = .ok [.leave, .pause] := by
  have hproper : Stage.mixed.files.root.isProper = true := by decide +kernel
  have hlisted : Stage.mixed.files.Listed Runner.prompt.settings.scenariosDir :=
    (FileTree.listed_iff hproper).2 (by decide +kernel)
  obtain ⟨es, hes⟩ : ∃ es, Stage.mixed.files.root =
      .folder [("work", .folder [("scenarios", .folder es)])] := ⟨_, rfl⟩
  let t : FileTree := ⟨.folder [("work", .folder [("scenarios", .folder es.reverse)])], ["work"]⟩
  have ht : Stage.mixed.files.Relisted t := by
    refine ⟨?_, rfl⟩
    rw [hes]
    have horder := FileEntry.Relisted.order es.reverse_perm.symm
    exact @FileEntry.Relisted.inside [] [] "work" _ _
      (@FileEntry.Relisted.inside [] [] "scenarios" _ _ horder)
  have hall := allParse_of_load hproper hlisted load_mixed
  obtain ⟨specs, hload, hcanonical⟩ := load_canonical hproper hall
  rw [load_mixed] at hload
  obtain rfl := Except.ok.inj hload
  obtain ⟨-, -, listed, -, hlisted, -, -, hsame, -⟩ := hcanonical t ht
  exact ⟨hproper, hall, es, t, hes, rfl, ht, by rw [hlisted, hsame (by decide)]⟩

end Scenario
end Rehearsal
