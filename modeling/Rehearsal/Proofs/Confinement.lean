import Rehearsal.Proofs.Places
import Rehearsal.Proofs.UploadExact

/-!
# Names of fixtures stay in their folder

What comes of a fixture's name depends on nothing but what stands below the root of the store
(`FixtureStore.confined`): two file trees that agree there give the same path, the same bytes and
the same upload, or the same failure, whatever else they hold. A name with a step to the parent, or
one that starts with a slash, is refused without a look at the files; and a path that is given out
has the components of the root and then the names in the name. A dot in front of a name is seen only
where the root is the empty path, since nothing stands before it there.
-/

namespace Rehearsal

open Rehearsal.Path (Component)

/-! ## What stands below a path -/

/-- What stands at a place: nothing, a file with its bytes, or a folder. -/
inductive Standing where
  | nothing
  | file (content : List UInt8)
  | folder
  deriving DecidableEq

/-- What stands where an entry is, if one is. -/
def Standing.of : Option FileEntry → Standing
  | none => .nothing
  | some (.file c) => .file c
  | some (.folder _) => .folder

theorem Standing.of_eq_file {e : Option FileEntry} {c : List UInt8} :
    Standing.of e = .file c ↔ e = some (.file c) := by
  rcases e with _ | b | entries <;> simp [Standing.of]

namespace FileTree

/-- What stands at some names below the place to which a path leads. The empty path leads to the
working folder, and below a path that leads nowhere stands nothing. -/
def below (t : FileTree) (p : Path) (names : List String) : Standing :=
  match follow t.root t.working (Path.components p) with
  | .ok place => .of (at? t.root (place ++ names))
  | .error _ => .nothing

/-- Two file trees have the same at a path and everywhere below it. -/
def AgreeBelow (p : Path) (t u : FileTree) : Prop := ∀ names, t.below p names = u.below p names

theorem below_eq_file {t : FileTree} {p : Path} {names : List String} {c : List UInt8} :
    t.below p names = .file c ↔
      ∃ place, follow t.root t.working (Path.components p) = .ok place ∧
        at? t.root (place ++ names) = some (.file c) := by
  unfold below
  rcases follow t.root t.working (Path.components p) with f | place
  · simp
  · simp [Standing.of_eq_file]

end FileTree

/-! ## Names that stay inside -/

namespace FixtureStore

variable {store : FixtureStore} {name : String}

/-- A name with a step to the parent, or one that starts with a slash. -/
def LeadsOut (name : String) : Prop :=
  ['.', '.'] ∈ Text.splitOn '/' name.toList ∨ name.toList.head? = some '/'

theorem not_inside (h : LeadsOut name) : (Path.components name).all staysInside = false := by
  rw [List.all_eq_false]
  rw [Path.components_eq]
  rcases h with hp | ha
  · exact ⟨.parent, List.mem_append_right _ (Path.parent_mem_relativeComponents hp), by decide⟩
  · refine ⟨.root, List.mem_append_left _ ?_, by decide⟩
    simp [Path.leading, Path.isAbsoluteText, ha]

theorem inside_iff : (Path.components name).all staysInside = true ↔ ¬LeadsOut name := by
  constructor
  · intro h hout
    rw [not_inside hout] at h
    cases h
  · intro h
    obtain ⟨hparent, hroot⟩ := not_or.1 h
    rw [List.all_eq_true]
    intro c hm
    rw [Path.components_eq, Path.leading_of_relative (decide_eq_false hroot)] at hm
    rcases List.mem_append.1 hm with hm | hm
    · split at hm
      · rw [List.mem_singleton.1 hm]
        rfl
      · cases hm
    · rcases Path.mem_relativeComponents hm with ⟨-, hp⟩ | hn
      · exact absurd hp hparent
      · cases c with
        | name s => rfl
        | _ => cases hn

/-- A name that stays inside is relative, and what follows its start are names. -/
theorem inside_names (h : (Path.components name).all staysInside = true) :
    Path.isAbsolute name = false ∧
      ∃ ns : List (List Char), Path.relativeComponents name.toList = ns.map .name := by
  obtain ⟨hparent, hroot⟩ := not_or.1 (inside_iff.1 h)
  refine ⟨decide_eq_false hroot, Path.exists_names fun c hc => ?_⟩
  rcases Path.mem_relativeComponents hc with ⟨-, hp⟩ | hn
  · exact absurd hp hparent
  · exact hn

/-- The joined path leads where the names lead below the root. -/
theorem follow_join {t : FileTree} (h : Path.isAbsolute name = false) :
    FileTree.follow t.root t.working (Path.components (Path.join store.root name)) =
      FileTree.follow t.root t.working (Path.components store.root) >>= fun place =>
        FileTree.follow t.root place (Path.relativeComponents name.toList) := by
  rw [Path.components_join h]
  split
  · rename_i hroot
    -- At an empty root a name starts in the working folder, with or without a dot.
    have hstart : FileTree.follow t.root t.working (Path.leading name.toList ++
        Path.relativeComponents name.toList) =
        FileTree.follow t.root t.working (Path.relativeComponents name.toList) := by
      rw [Path.leading_of_relative h]
      split <;> rfl
    rw [hstart, hroot]
    rfl
  · rw [FileTree.follow_append]

/-- A name that stays inside leads to the same file in trees that agree below the root. -/
theorem find_eq_file_iff {t u : FileTree} (hagree : FileTree.AgreeBelow store.root t u)
    (h : (Path.components name).all staysInside = true) {c : List UInt8} :
    t.find (Path.join store.root name) = .ok (.file c) ↔
      u.find (Path.join store.root name) = .ok (.file c) := by
  obtain ⟨hrel, ns, hns⟩ := inside_names h
  have hplace (t : FileTree) :
      (∃ place, FileTree.follow t.root t.working
          (Path.components (Path.join store.root name)) = .ok place ∧
        FileTree.at? t.root place = some (.file c)) ↔
      (∀ n ∈ ns, Text.utf8Length n ≤ FileTree.longestName) ∧
        t.below store.root (ns.map String.ofList) = .file c := by
    rw [FileTree.below_eq_file, follow_join hrel, hns]
    simp only [bind_ok]
    constructor
    · rintro ⟨place, ⟨start, hs, hf⟩, hc⟩
      obtain ⟨hshort, hat⟩ := FileTree.follow_names.1 ⟨place, hf, hc⟩
      exact ⟨hshort, start, hs, hat⟩
    · rintro ⟨hshort, start, hs, hat⟩
      obtain ⟨place, hf, hc⟩ := FileTree.follow_names.2 ⟨hshort, hat⟩
      exact ⟨place, ⟨start, hs, hf⟩, hc⟩
  rw [FileTree.find_file, FileTree.find_file, hplace t, hplace u, hagree]

/-! ## Two runs -/

theorem path_eq_of_agree {t u : FileTree} (hagree : FileTree.AgreeBelow store.root t u) :
    store.path t name = store.path u name := by
  unfold path
  split
  · rename_i h
    have hfile : t.isFile (Path.join store.root name) = u.isFile (Path.join store.root name) := by
      rw [Bool.eq_iff_iff, isFile_iff, isFile_iff]
      exact exists_congr fun c => find_eq_file_iff hagree h
    simp only [hfile]
  · rfl

theorem read_eq_of_agree {t u : FileTree} (hagree : FileTree.AgreeBelow store.root t u) :
    store.read t name = store.read u name := by
  unfold read
  rw [← path_eq_of_agree hagree]
  rcases hp : store.path t name with f | p
  · rfl
  · obtain ⟨hin, rfl, hfile⟩ := path_ok.1 hp
    obtain ⟨b, hb⟩ := isFile_iff.1 hfile
    have hb' := (find_eq_file_iff hagree (List.all_eq_true.2 hin)).1 hb
    simp only [bind, Except.bind, FileTree.read_ok.2 hb, FileTree.read_ok.2 hb']

theorem load_eq_of_agree {t u : FileTree} (hagree : FileTree.AgreeBelow store.root t u)
    (encoding : FixtureEncoding) : store.load t name encoding = store.load u name encoding := by
  unfold load
  rw [read_eq_of_agree hagree]

/-! ## Refused names -/

/-- Why a name that does not stay inside is refused. -/
def outside (store : FixtureStore) (name : String) : Failure :=
  .fixtureNotFound s!"{name} (fixture names must be relative to {store.root})"

theorem path_of_not_inside (h : (Path.components name).all staysInside = false)
    (files : FileTree) : store.path files name = .error (store.outside name) := by
  unfold path
  rw [if_neg (by simp [h])]
  rfl

/-! ## Accepted paths -/

/-- The steps of a name that are names, in order. -/
def normalSteps (name : String) : List Component :=
  (Path.components name).filter Component.isName

/-- A dot in front of a name, where nothing of the root stands before it. -/
def leadingDot (store : FixtureStore) (name : String) : List Component :=
  if store.root = "" ∧ (Text.splitOn '/' name.toList).head? = some ['.'] then [.here] else []

theorem normalSteps_eq (h : (Path.components name).all staysInside = true) :
    normalSteps name = Path.relativeComponents name.toList := by
  obtain ⟨hrel, ns, hns⟩ := inside_names h
  have hstart : (Path.leading name.toList).filter Component.isName = [] := by
    rw [Path.leading_of_relative hrel]
    split <;> rfl
  rw [normalSteps, Path.components_eq, List.filter_append, hstart, List.nil_append, hns]
  exact List.filter_eq_self.2 fun c hm => by
    obtain ⟨n, -, rfl⟩ := List.mem_map.1 hm
    rfl

theorem components_of_path_ok {files : FileTree} {p : Path} (h : store.path files name = .ok p) :
    Path.components p =
      store.leadingDot name ++ Path.components store.root ++ normalSteps name := by
  obtain ⟨hin, rfl, -⟩ := path_ok.1 h
  have hall := List.all_eq_true.2 hin
  obtain ⟨hrel, -⟩ := inside_names hall
  rw [Path.components_join hrel, normalSteps_eq hall]
  by_cases hroot : store.root = ""
  · have hlead : Path.leading name.toList = store.leadingDot name := by
      rw [Path.leading_of_relative hrel]
      simp [leadingDot, hroot]
    have hnone : Path.components "" = [] := by decide
    rw [if_pos hroot, hlead, hroot, hnone, List.append_nil]
  · have hdot : store.leadingDot name = [] := by simp [leadingDot, hroot]
    rw [if_neg hroot, hdot, List.nil_append]

end FixtureStore

/-- **Names of fixtures stay in their folder.** Two file trees that agree at the root of a store and
below it give the same path, bytes, fixture and upload for every name, or the same failure. A name
with a step to the parent, or one that starts with a slash, is refused whatever files there are; any
other one is accepted exactly if it leads to a file. And each path that is given out has the
components of the root and then the names in the name, in order; only an empty root lets a dot in
front of the name be seen. -/
theorem FixtureStore.confined (store : FixtureStore) (name : String) :
    (∀ t u : FileTree, FileTree.AgreeBelow store.root t u →
      store.path t name = store.path u name ∧ store.read t name = store.read u name ∧
      ∀ encoding, store.load t name encoding = store.load u name encoding ∧
        ∀ settings, Blob.prepare store settings t name encoding =
          Blob.prepare store settings u name encoding) ∧
    (LeadsOut name →
      ∀ files : FileTree, store.path files name = .error (store.outside name) ∧
        store.read files name = .error (store.outside name) ∧
        ∀ encoding, store.load files name encoding = .error (store.outside name) ∧
          ∀ settings, Blob.prepare store settings files name encoding =
            .error (store.outside name)) ∧
    ∀ (files : FileTree) (p : Path),
      (store.path files name = .ok p ↔
        ¬LeadsOut name ∧ p = Path.join store.root name ∧ files.isFile p = true) ∧
      (store.path files name = .ok p → Path.components p =
        store.leadingDot name ++ Path.components store.root ++ normalSteps name) := by
  refine ⟨fun t u hagree => ⟨path_eq_of_agree hagree, read_eq_of_agree hagree, fun encoding =>
    ⟨load_eq_of_agree hagree encoding, fun settings => ?_⟩⟩, fun h files => ?_,
    fun files p => ⟨?_, components_of_path_ok⟩⟩
  · rw [Blob.prepare, load_eq_of_agree hagree]
    rfl
  · have hpath : store.path files name = .error (store.outside name) :=
      path_of_not_inside (not_inside h) files
    have hread : store.read files name = .error (store.outside name) := by
      rw [read, hpath]
      rfl
    have hload (encoding : FixtureEncoding) :
        store.load files name encoding = .error (store.outside name) := by
      rw [load, hread]
      rfl
    refine ⟨hpath, hread, fun encoding => ⟨hload encoding, fun settings => ?_⟩⟩
    rw [Blob.prepare, hload]
    rfl
  · rw [path_ok, ← List.all_eq_true, inside_iff]

/-- At an empty root the dot in front of a name stays in the path that is given out. -/
theorem FixtureStore.leading_dot_stays :
    (⟨""⟩ : FixtureStore).path ⟨.folder [("x", .file [49])], []⟩ "./x" = .ok "./x" ∧
      Path.components "./x" ≠ Path.components "" ++ normalSteps "./x" :=
  ⟨path_ok.2 ⟨by decide, by decide, rfl⟩, by decide⟩

/-- A folder with a fixture in its `store`, and a secret beside it. -/
def FixtureStore.secretBeside (secret : List UInt8) : FileTree where
  root := .folder [("secret", .file secret), ("store", .folder [("a.txt", .file [104, 105])])]
  working := []

theorem FixtureStore.secretBeside_agree (secret other : List UInt8) :
    FileTree.AgreeBelow "/store" (secretBeside secret) (secretBeside other) := by
  intro names
  have hroot (s : List UInt8) :
      FileTree.follow (secretBeside s).root (secretBeside s).working (Path.components "/store") =
        .ok ["store"] := by
    have hsteps : Path.components "/store" = [.root, .name "store".toList] := by decide
    rw [hsteps]
    rfl
  unfold FileTree.below
  rw [hroot, hroot]
  rfl

theorem FixtureStore.confined_secretBeside :
    (FileTree.AgreeBelow "/store" (secretBeside [1]) (secretBeside [2]) ∧
      (⟨"/store"⟩ : FixtureStore).load (secretBeside [1]) "./a.txt" .base64 =
        (⟨"/store"⟩ : FixtureStore).load (secretBeside [2]) "./a.txt" .base64) ∧
    (LeadsOut "a/../../secret" ∧
      (⟨"/store"⟩ : FixtureStore).read (secretBeside [1]) "a/../../secret" =
        .error (outside ⟨"/store"⟩ "a/../../secret")) ∧
    (⟨"/store"⟩ : FixtureStore).path (secretBeside [1]) "./a.txt" = .ok "/store/./a.txt" ∧
      Path.components "/store/./a.txt" =
        leadingDot ⟨"/store"⟩ "./a.txt" ++ Path.components "/store" ++ normalSteps "./a.txt" := by
  have hagree := secretBeside_agree [1] [2]
  have hout : LeadsOut "a/../../secret" := .inl (by decide)
  have hpath : (⟨"/store"⟩ : FixtureStore).path (secretBeside [1]) "./a.txt" =
      .ok "/store/./a.txt" := rfl
  refine ⟨⟨hagree, ?_⟩, ⟨hout, ?_⟩, hpath, ?_⟩
  · exact (((FixtureStore.confined ⟨"/store"⟩ "./a.txt").1 _ _ hagree).2.2 .base64).1
  · exact ((FixtureStore.confined ⟨"/store"⟩ "a/../../secret").2.1 hout _).2.1
  · exact ((FixtureStore.confined ⟨"/store"⟩ "./a.txt").2.2 _ _).2 hpath

end Rehearsal
