import Rehearsal.Proofs.Confinement
import Rehearsal.Proofs.Walks

/-!
# Uploads are named after their file

The path of a fixture is followed step by step, while the name of the upload is the last step of the
fixture's name. Both end at the same part of the name, the one after its last slash: a part that is
empty or a dot asks for a folder (`FileTree.last_part`), so no file is found there, and a part of
two dots is refused before. Hence a name that stands for a file has a last step, whatever slashes
and dots are in the middle (`FixtureStore.Holds.last_part`), and the folder to which the steps
before it lead has the file under that name (`FixtureStore.Holds.place`). `Blob.prepare_filename`
says so of every upload that is made without a name of its own.
-/

namespace Rehearsal

open Rehearsal.Path (Component)

/-! ## The part after the last slash -/

/-- The last field of a text is what follows the last occurrence of the character, or all of it. -/
theorem Text.splitOn_last (sep : Char) (s : List Char) :
    ∃ front last, splitOn sep s = front ++ [last] ∧ sep ∉ last ∧
      (front = [] ∧ s = last ∨ ∃ before, s = before ++ sep :: last) := by
  induction s with
  | nil => exact ⟨[], [], rfl, List.not_mem_nil, .inl ⟨rfl, rfl⟩⟩
  | cons c r ih =>
    obtain ⟨front, last, he, hlast, hr⟩ := ih
    by_cases hc : c = sep
    · subst hc
      refine ⟨[] :: front, last, by simp [splitOn, he], hlast, .inr ?_⟩
      rcases hr with ⟨-, rfl⟩ | ⟨before, rfl⟩
      · exact ⟨[], rfl⟩
      · exact ⟨c :: before, rfl⟩
    · rcases hr with ⟨rfl, rfl⟩ | ⟨before, rfl⟩
      · have hall : sep ∉ c :: r := by simp [hlast, Ne.symm hc]
        exact ⟨[], c :: r, splitOn_of_not_mem hall, hall, .inl ⟨rfl, rfl⟩⟩
      · refine ⟨splitOn sep (c :: before), last, ?_, hlast, .inr ⟨c :: before, rfl⟩⟩
        rw [← List.cons_append, splitOn_append_cons, splitOn_of_not_mem hlast]

theorem Path.getLast?_splitOn_joinText {base path : List Char} (hp : isAbsoluteText path = false) :
    (Text.splitOn '/' (joinText base path)).getLast? = (Text.splitOn '/' path).getLast? := by
  have hbehind (front : List Char) :
      (Text.splitOn '/' (front ++ '/' :: path)).getLast? = (Text.splitOn '/' path).getLast? := by
    rw [Text.splitOn_append_cons, List.getLast?_append_of_ne_nil _ (Text.splitOn_ne_nil '/' path)]
  by_cases hb : base = []
  · subst hb
    simp [joinText, hp]
  · rcases joinText_cases hp hb with he | ⟨front, -, he⟩
    · rw [he, hbehind]
    · rw [he, hbehind]

/-- A path that asks for no folder ends in a part that is neither empty nor a dot. -/
theorem FileTree.last_part {p : Path} (hempty : p.isEmpty = false) (hasks : asksFolder p = false) :
    ∃ last, (Text.splitOn '/' p.toList).getLast? = some last ∧ last ≠ [] ∧ last ≠ ['.'] := by
  obtain ⟨front, last, he, -, hp⟩ := Text.splitOn_last '/' p.toList
  have hlast : (Text.splitOn '/' p.toList).getLast? = some last := by
    rw [he, List.getLast?_concat]
  obtain ⟨hslash, hdot⟩ : p.toList.getLast? ≠ some '/' ∧ last ≠ ['.'] := by
    simpa [asksFolder, hlast] using hasks
  refine ⟨last, hlast, ?_, hdot⟩
  rintro rfl
  rcases hp with ⟨-, hp⟩ | ⟨before, hp⟩
  · rw [String.toList_eq_nil_iff.1 hp] at hempty
    cases hempty
  · exact hslash (by rw [hp, List.getLast?_concat])

theorem Path.mem_joinText {base path : List Char} {c : Char} (h : c ∈ path) :
    c ∈ joinText base path := by
  unfold joinText
  split
  · exact h
  · split
    · exact List.mem_append_right base h
    · exact List.mem_append_right base (List.mem_cons_of_mem '/' h)

/-- Steps whose last part is a name end with that name. -/
theorem Path.relativeComponents_concat {s last : List Char} {front : List (List Char)}
    (he : Text.splitOn '/' s = front ++ [last]) (hne : last ≠ []) (hdot : last ≠ ['.'])
    (hparent : last ≠ ['.', '.']) : ∃ steps, relativeComponents s = steps ++ [.name last] := by
  have hpart : Component.ofPart last = .name last := by
    rw [Component.ofPart, if_neg hdot, if_neg hparent]
  refine ⟨(front.filter fun part => part ≠ [] ∧ part ≠ ['.']).map Component.ofPart, ?_⟩
  rw [relativeComponents, he, List.filter_append, List.map_append]
  simp [hne, hdot, hpart]

/-- A path whose last step is a name has that one as its file name. -/
theorem Path.fileName?_of_concat {p : Path} {steps : List Component} {last : List Char}
    (h : relativeComponents p.toList = steps ++ [.name last]) : fileName? p = some last := by
  rw [fileName?, components_eq, h, ← List.append_assoc, List.getLast?_concat]

/-! ## Names that stand for files -/

namespace FixtureStore

variable {store : FixtureStore} {files : FileTree} {name : String} {bytes : List UInt8}

/-- A name that stands for a file has a part after its last slash, and that part is a name. -/
theorem Holds.last_part (h : store.Holds files name bytes) : ∃ front last,
    Text.splitOn '/' name.toList = front ++ [last] ∧ last ≠ [] ∧ last ≠ ['.'] ∧
      last ≠ ['.', '.'] ∧ '/' ∉ last ∧ Char.ofNat 0 ∉ last := by
  obtain ⟨hparent, hroot⟩ := not_or.1 (inside_iff.1 (List.all_eq_true.2 h.inside))
  obtain ⟨⟨hcheck, hempty, hasks⟩, -⟩ := FileTree.find_file.1 h.file
  obtain ⟨front, last, he, hslash, hname⟩ := Text.splitOn_last '/' name.toList
  obtain ⟨part, hpart, hne, hdot⟩ := FileTree.last_part hempty hasks
  rw [Path.join, String.toList_ofList, Path.getLast?_splitOn_joinText (decide_eq_false hroot), he,
    List.getLast?_concat] at hpart
  obtain rfl : last = part := Option.some.inj hpart
  refine ⟨front, last, he, hne, hdot, ?_, hslash, fun hnul => ?_⟩
  · rintro rfl
    exact hparent (by simp [he])
  · have hmem : Char.ofNat 0 ∈ name.toList := by
      rcases hname with ⟨-, hname⟩ | ⟨before, hname⟩ <;> rw [hname]
      · exact hnul
      · exact List.mem_append_right before (List.mem_cons_of_mem '/' hnul)
    refine (FileTree.checkText_ok.1 hcheck).1 ?_
    rw [Path.join, String.toList_ofList]
    exact Path.mem_joinText hmem

/-- The folder to which the steps before the last one lead has the file under that name. -/
theorem Holds.place (h : store.Holds files name bytes) {steps : List Component} {last : List Char}
    (hsteps : Path.relativeComponents name.toList = steps ++ [.name last]) :
    ∃ folder entries,
      files.place (Path.join store.root name) = .ok (folder ++ [String.ofList last]) ∧
      FileTree.at? files.root folder = some (.folder entries) ∧
      FileEntry.child? (String.ofList last) (.folder entries) = some (.file bytes) ∧
      Text.utf8Length last ≤ FileTree.longestName := by
  obtain ⟨-, hroot⟩ := not_or.1 (inside_iff.1 (List.all_eq_true.2 h.inside))
  obtain ⟨⟨hcheck, hempty, -⟩, place, hfollow, hat⟩ := FileTree.find_file.1 h.file
  have hplace := FileTree.place_ok.2 ⟨hcheck, hempty, hfollow⟩
  rw [Path.components_join (decide_eq_false hroot), hsteps, ← List.append_assoc,
    FileTree.follow_append] at hfollow
  obtain ⟨folder, -, hfollow⟩ := bind_ok.1 hfollow
  rw [FileTree.follow_name] at hfollow
  rcases hf : FileTree.at? files.root folder with _ | c | entries <;> rw [hf] at hfollow
  · cases hfollow
  · cases hfollow
  · simp only at hfollow
    split at hfollow
    · cases hfollow
    · rename_i hshort
      obtain rfl : folder ++ [String.ofList last] = place := Except.ok.inj hfollow
      rw [FileTree.at?_append, hf] at hat
      exact ⟨folder, entries, hplace, hf, by simpa [FileTree.at?] using hat, Nat.not_lt.1 hshort⟩

end FixtureStore

/-- **Uploads are named after their file.** If a fixture can be prepared and no name is set for its
upload, then the upload has the name of the last step of the fixture's name: the last part between
slashes that is neither empty nor a dot. That step exists, so that the whole name is never used
instead, and it is a proper name of a file. And the path that the store has for the fixture leads to
the entry of that name in a folder, which is the file whose bytes are uploaded. -/
theorem Blob.prepare_filename {store : FixtureStore} {settings : UploadSettings} {files : FileTree}
    {fixture : String} {encoding : FixtureEncoding} {blob : Blob}
    (h : prepare store settings files fixture encoding = .ok blob)
    (hname : settings.filename = none) :
    Path.fileName? fixture = some blob.filename.toList ∧
    ((Text.splitOn '/' fixture.toList).filter fun part => part ≠ [] ∧ part ≠ ['.']).getLast? =
      some blob.filename.toList ∧
    FileEntry.IsName blob.filename ∧
    ∃ path folder entries, store.path files fixture = .ok path ∧
      files.place path = .ok (folder ++ [blob.filename]) ∧
      FileTree.at? files.root folder = some (.folder entries) ∧
      FileEntry.child? blob.filename (.folder entries) = some (.file blob.bytes) := by
  obtain ⟨bytes, hread, rfl⟩ : ∃ bytes, store.read files fixture = .ok bytes ∧
      ⟨bytes, uploadName fixture, settings.mimeType⟩ = blob := by
    rw [prepare_eq, hname] at h
    rcases hr : store.read files fixture with f | bytes <;> rw [hr] at h
    · cases h
    · exact ⟨bytes, rfl, Except.ok.inj h⟩
  have hholds := FixtureStore.read_ok.1 hread
  obtain ⟨front, last, hsplit, hne, hdot, hparent, hslash, hnul⟩ := hholds.last_part
  obtain ⟨steps, hsteps⟩ := Path.relativeComponents_concat hsplit hne hdot hparent
  obtain ⟨folder, entries, hplace, hfolder, hchild, hshort⟩ := hholds.place hsteps
  have hfile := Path.fileName?_of_concat hsteps
  have hupload : uploadName fixture = String.ofList last := by rw [uploadName, hfile]
  simp only [hupload, String.toList_ofList]
  refine ⟨hfile, ?_, ?_, _, folder, entries, FixtureStore.path_ok.2 ⟨hholds.inside, rfl,
    FixtureStore.isFile_iff.2 ⟨bytes, hholds.file⟩⟩, hplace, hfolder, hchild⟩
  · rw [hsplit, List.filter_append]
    simp [hne, hdot]
  · constructor <;> rw [String.toList_ofList] <;> assumption

/-- A folder `courses` with a course in it. -/
def FileTree.withCourse : FileTree where
  root := .folder [("store", .folder [("courses", .folder [("demo.tgz", .file [31, 139])])])]
  working := []

/-- Slashes and dots in the middle of a fixture's name are not in the name of its upload. -/
theorem Blob.prepare_filename_dotted : ∃ blob folder entries,
    prepare ⟨"/store"⟩ {} .withCourse "./courses//././demo.tgz" .base64 = .ok blob ∧
    Path.fileName? "./courses//././demo.tgz" = some blob.filename.toList ∧
    FileTree.at? FileTree.withCourse.root folder = some (.folder entries) ∧
    FileEntry.child? blob.filename (.folder entries) = some (.file blob.bytes) := by
  have h : prepare ⟨"/store"⟩ {} .withCourse "./courses//././demo.tgz" .base64 =
      .ok ⟨[31, 139], "demo.tgz", "application/tar+gzip"⟩ := ok_of_toOption (by decide +kernel)
  obtain ⟨hfile, -, -, path, folder, entries, -, -, hfolder, hchild⟩ := prepare_filename h rfl
  exact ⟨_, folder, entries, h, hfile, hfolder, hchild⟩

end Rehearsal
