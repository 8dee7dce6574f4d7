import Rehearsal.Proofs.Utf8Text
import Rehearsal.Proofs.Walks

/-!
# What is written to a path is read there

A file that is put at a place is found there (`FileTree.at?_put`), and every folder that was there
before still is one (`FileTree.folder_put`), unless it stood at that place. So a path leads after
the writing where it led before (`FileTree.follow_put`), and what is read is what was written
(`FileTree.read_write`, `FileTree.readText_write`).

Whether a file can be written is a matter of its path (`FileTree.write_cases`). In a folder that is
there it can be, under any name that no folder has, if the path is not too long
(`FileTree.write_join`).
-/

namespace Rehearsal

namespace FileEntry

variable {name other : String} {e : FileEntry} {entries : List (String × FileEntry)}

theorem child?_putChild :
    (FileEntry.folder (putChild name e entries)).child? other =
      if other = name then some e else (FileEntry.folder entries).child? other := by
  simp only [child?]
  induction entries with
  | nil => by_cases h : other = name <;> simp [putChild, h, Ne.symm]
  | cons x entries ih =>
    obtain ⟨n, y⟩ := x
    by_cases hn : n = name
    · subst hn
      by_cases h : n = other
      · simp [putChild, h]
      · simp [putChild, h, Ne.symm h]
    · by_cases h : n = other
      · subst h
        simp [putChild, hn]
      · simpa [putChild, hn, h] using ih

/-- To put an entry below a folder is to put it below one of its entries, a new folder if there is
none of that name. -/
theorem put_cons (e : FileEntry) (n : String) (ns : List String) :
    put e (n :: ns) (.folder entries) = .folder (putChild n
      (put e ns (((FileEntry.folder entries).child? n).getD (.folder []))) entries) := by
  simp only [put, child?]
  split
  · rename_i h
    rw [h]
    rfl
  · rename_i h
    rw [h]
    rfl

end FileEntry

namespace FileTree

open FileEntry (child?_putChild put_cons)
open Rehearsal.Path (Component)

variable {root e : FileEntry}

/-- A name leads only from a folder. -/
theorem at?_cons {n : String} {ns : List String} {x : FileEntry} (h : at? root (n :: ns) = some x) :
    ∃ entries y, root = .folder entries ∧ root.child? n = some y ∧ at? y ns = some x := by
  obtain ⟨y, hy, hx⟩ := Option.bind_eq_some_iff.1 h
  cases root with
  | file c => cases hy
  | folder entries => exact ⟨entries, y, rfl, hy, hx⟩

/-! ## Entries that are put into a tree -/

/-- What is put into a folder that is there, or in the place of all, is found there. -/
theorem at?_put {names : List String}
    (h : names = [] ∨ ∃ entries, at? root names.dropLast = some (.folder entries)) :
    at? (FileEntry.put e names root) names = some e := by
  induction names generalizing root with
  | nil => rfl
  | cons m names ih =>
    obtain ⟨entries, hfolder⟩ := h.resolve_left (List.cons_ne_nil m names)
    cases names with
    | nil =>
      cases hfolder
      rw [put_cons, at?, child?_putChild, if_pos rfl]
      rfl
    | cons n names =>
      obtain ⟨others, y, rfl, hy, hfolder⟩ := at?_cons hfolder
      rw [put_cons, at?, child?_putChild, if_pos rfl, hy]
      exact ih (.inr ⟨entries, hfolder⟩)

/-- What stands at a place stands in a folder, unless it is all. -/
theorem folder_of_at? {names : List String} (h : at? root names = some e) :
    names = [] ∨ ∃ entries, at? root names.dropLast = some (.folder entries) := by
  rcases List.eq_nil_or_concat names with rfl | ⟨front, n, rfl⟩
  · exact .inl rfl
  · rw [List.concat_eq_append, at?_append] at h
    obtain ⟨x, hx, hn⟩ := Option.bind_eq_some_iff.1 h
    obtain ⟨entries, -, rfl, -⟩ := at?_cons hn
    exact .inr ⟨entries, by rw [List.concat_eq_append, List.dropLast_concat, hx]⟩

/-- What is put where there is no folder leaves all folders that are there. -/
theorem folder_put {names place : List String} {entries : List (String × FileEntry)}
    (hnames : ∀ es, at? root names ≠ some (.folder es))
    (h : at? root place = some (.folder entries)) :
    ∃ es, at? (FileEntry.put e names root) place = some (.folder es) := by
  induction place generalizing root names with
  | nil =>
    cases h
    cases names with
    | nil => exact absurd rfl (hnames entries)
    | cons n ns => exact ⟨_, congrArg some (put_cons e n ns)⟩
  | cons m place ih =>
    obtain ⟨others, y, rfl, hy, hfolder⟩ := at?_cons h
    cases names with
    | nil => exact absurd rfl (hnames others)
    | cons n ns =>
      rw [put_cons, at?, child?_putChild]
      -- the two places go on below one entry, or they part here
      by_cases hm : m = n
      · subst hm
        rw [if_pos rfl, hy]
        refine ih (fun es he => hnames es ?_) hfolder
        rw [at?, hy]
        exact he
      · rw [if_neg hm, hy]
        exact ⟨entries, hfolder⟩

/-- A path leads where it led before something was put where there is no folder. -/
theorem follow_put {names place start : List String} {cs : List Component}
    (hnames : ∀ es, at? root names ≠ some (.folder es)) (h : follow root start cs = .ok place) :
    follow (FileEntry.put e names root) start cs = .ok place := by
  induction cs generalizing start with
  | nil => exact h
  | cons c cs ih =>
    cases c with
    | root => exact ih h
    | here => exact ih h
    | parent =>
      rw [follow_parent] at h ⊢
      rcases he : at? root start with _ | _ | entries <;> rw [he] at h
      · cases h
      · cases h
      · obtain ⟨es, hes⟩ := folder_put (e := e) hnames he
        rw [hes]
        exact ih h
    | name s =>
      rw [follow_name] at h ⊢
      rcases he : at? root start with _ | _ | entries <;> rw [he] at h
      · cases h
      · cases h
      · obtain ⟨es, hes⟩ := folder_put (e := e) hnames he
        rw [hes]
        simp only at h ⊢
        split at h
        · cases h
        · rename_i hshort
          rw [if_neg hshort]
          exact ih h

/-! ## Writing and reading -/

variable {t after : FileTree} {p : Path} {content : List UInt8}

/-- A writing fails whatever is written, or it puts a file at the place to which the path leads,
below a folder and not in place of one. -/
theorem write_cases (t : FileTree) (p : Path) :
    (∃ f, ∀ content, t.write p content = .error f) ∨
    ∃ place, t.place p = .ok place ∧ asksFolder p = false ∧
      (∀ es, at? t.root place ≠ some (.folder es)) ∧
      (place = [] ∨ ∃ entries, at? t.root place.dropLast = some (.folder entries)) ∧
      ∀ content, t.write p content =
        .ok { t with root := FileEntry.put (.file content) place t.root } := by
  unfold write
  rcases t.place p with f | place
  · exact .inl ⟨f, fun _ => rfl⟩
  simp only [bind, Except.bind]
  rcases asksFolder p with _ | _
  · rcases he : at? t.root place with _ | c | entries
    · rcases hfolder : at? t.root place.dropLast with _ | c | entries
      · exact .inl ⟨_, fun _ => rfl⟩
      · exact .inl ⟨_, fun _ => rfl⟩
      · exact .inr ⟨place, rfl, rfl, by rw [he]; nofun, .inr ⟨entries, hfolder⟩, fun _ => rfl⟩
    · exact .inr ⟨place, rfl, rfl, by rw [he]; nofun, folder_of_at? he, fun _ => rfl⟩
    · exact .inl ⟨_, fun _ => rfl⟩
  · rcases at? t.root place with _ | c | entries <;> exact .inl ⟨_, fun _ => rfl⟩

/-- **What is written is read.** -/
theorem read_write (h : t.write p content = .ok after) : after.read p = .ok content := by
  obtain ⟨f, hf⟩ | ⟨place, hplace, hasks, hno, hfolder, hput⟩ := write_cases t p
  · cases (hf content).symm.trans h
  · obtain rfl := Except.ok.inj ((hput content).symm.trans h)
    obtain ⟨hcheck, hempty, hfollow⟩ := place_ok.1 hplace
    exact read_ok.2 (find_file.2
      ⟨⟨hcheck, hempty, hasks⟩, place, follow_put hno hfollow, at?_put hfolder⟩)

theorem readText_write {s : List Char} (h : t.write p (Text.utf8 s) = .ok after) :
    after.readText p = .ok (String.ofList s) :=
  readText_ok.2 ⟨_, s, read_ok.1 (read_write h), Text.decode?_utf8 s, rfl⟩

/-! ## Folders that are there -/

/-- Nothing has to be made on a relative way to a folder. -/
theorem makeAlong_of_follow {cs : List Component} {names place : List String}
    {entries : List (String × FileEntry)} (hcs : ∀ c ∈ cs, c = .parent ∨ c.isName = true)
    (h : follow root names cs = .ok place) (hplace : at? root place = some (.folder entries))
    (dotted : Bool) :
    (∃ es, at? root names = some (.folder es)) ∧ makeAlong dotted root names cs = .ok root := by
  induction cs generalizing names with
  | nil =>
    cases h
    exact ⟨⟨entries, hplace⟩, rfl⟩
  | cons c cs ih =>
    obtain ⟨hc, hrest⟩ := List.forall_mem_cons.1 hcs
    cases c with
    | root => simp [Component.isName] at hc
    | here => simp [Component.isName] at hc
    | parent =>
      rw [follow_parent] at h
      rcases he : at? root names with _ | _ | es <;> rw [he] at h
      · cases h
      · cases h
      · exact ⟨⟨es, rfl⟩, (ih hrest h).2⟩
    | name s =>
      rw [follow_name] at h
      rcases he : at? root names with _ | _ | es <;> rw [he] at h
      · cases h
      · cases h
      · simp only at h
        split at h
        · cases h
        · rename_i hshort
          -- a folder stands under the name, since the rest of the way starts there
          obtain ⟨⟨below, hbelow⟩, hmade⟩ := ih hrest h
          refine ⟨⟨es, rfl⟩, ?_⟩
          simp only [makeAlong, if_neg hshort, hbelow]
          exact hmade

/-- A folder that is there does not have to be made. -/
theorem makeFolders_of_find {entries : List (String × FileEntry)}
    (h : t.find p = .ok (.folder entries)) : t.makeFolders p = .ok t := by
  obtain ⟨⟨hcheck, -, -⟩, place, hfollow, hat⟩ := find_ok.1 h
  have hcs : ∀ c ∈ Path.relativeComponents p.toList, c = .parent ∨ c.isName = true :=
    fun c hc => (Path.mem_relativeComponents hc).imp_left And.left
  have hleading : Path.leading p.toList = [.root] ∨ Path.leading p.toList = [.here] ∨
      Path.leading p.toList = [] := by
    unfold Path.leading
    split
    · exact .inl rfl
    · split
      · exact .inr (.inl rfl)
      · exact .inr (.inr rfl)
  have hmade : makeAlong (endsInDot p) t.root t.working (Path.components p) = .ok t.root := by
    rw [Path.components_eq] at hfollow ⊢
    rcases hleading with he | he | he <;> rw [he] at hfollow ⊢ <;>
      exact (makeAlong_of_follow hcs hfollow hat _).2
  unfold makeFolders
  rw [hcheck, hmade]
  rfl

/-- A file can be written into a folder that is there, under a name that no folder has, if its path
is not too long. -/
theorem write_join {entries : List (String × FileEntry)} {n : String}
    (hp : t.find p = .ok (.folder entries)) (h : FileEntry.IsName n)
    (hshort : isTooLong (Path.join p n) = false) (hno : t.isFolder (Path.join p n) = false)
    (content : List UInt8) : ∃ after, t.write (Path.join p n) content = .ok after := by
  obtain ⟨place, hat, hplace⟩ := place_join hp h hshort
  have hasks := asksFolder_join_name (ne_empty_of_find hp) h
  unfold write
  rw [hplace]
  simp only [bind, Except.bind, hasks, Bool.false_eq_true, if_false]
  rcases he : at? t.root (place ++ [n]) with _ | c | es
  · simp only [List.dropLast_concat, hat]
    exact ⟨_, rfl⟩
  · exact ⟨_, rfl⟩
  · obtain ⟨hcheck, hempty, hfollow⟩ := place_ok.1 hplace
    have hfound : t.find (Path.join p n) = .ok (.folder es) :=
      find_ok.2 ⟨⟨hcheck, hempty, fun _ _ => nofun⟩, _, hfollow, he⟩
    exact absurd (isFolder_iff.2 ⟨es, hfound⟩) (ne_true_of_eq_false hno)

end FileTree
end Rehearsal
