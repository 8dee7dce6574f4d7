import Rehearsal.FileTree
import Rehearsal.Proofs.Runs

/-!
# Paths and the places to which they lead

A path that is put after another has the components of both (`Path.components_join`), and it is
followed by following the one and then the other (`FileTree.follow_append`). Names lead from a place
to what stands below it: following them finds a file exactly if the file is there and no name is too
long (`FileTree.follow_names`), wherever the place itself is.
-/

namespace Rehearsal

theorem Text.splitOn_append_cons (sep : Char) (a b : List Char) :
    splitOn sep (a ++ sep :: b) = splitOn sep a ++ splitOn sep b := by
  induction a with
  | nil => simp [splitOn]
  | cons c r ih =>
    by_cases hc : c = sep
    · simp [splitOn, hc, ih]
    · obtain ⟨f, fs, he⟩ := List.exists_cons_of_ne_nil (splitOn_ne_nil sep r)
      simp [splitOn, hc, ih, he]

namespace Path

/-! ## Components of joined paths -/

/-- The component that stands for where a path starts, if there is one. -/
def leading (s : List Char) : List Component :=
  if isAbsoluteText s then [.root]
  else if (Text.splitOn '/' s).head? = some ['.'] then [.here]
  else []

theorem components_eq (p : Path) :
    components p = leading p.toList ++ relativeComponents p.toList := by
  unfold components componentsText leading
  split
  · rfl
  · split <;> rfl

theorem leading_of_relative {s : List Char} (h : isAbsoluteText s = false) :
    leading s = if (Text.splitOn '/' s).head? = some ['.'] then [.here] else [] := by
  unfold leading
  rw [h]
  rfl

theorem relativeComponents_append (a b : List Char) :
    relativeComponents (a ++ '/' :: b) = relativeComponents a ++ relativeComponents b := by
  unfold relativeComponents
  rw [Text.splitOn_append_cons, List.filter_append, List.map_append]

theorem relativeComponents_nil : relativeComponents [] = [] := rfl

/-- A text in front of a slash decides where the whole path starts. -/
theorem leading_append {a : List Char} (ha : a ≠ []) (b : List Char) :
    leading (a ++ '/' :: b) = leading a := by
  obtain ⟨f, fs, he⟩ := List.exists_cons_of_ne_nil (Text.splitOn_ne_nil '/' a)
  obtain ⟨c, r, rfl⟩ := List.exists_cons_of_ne_nil ha
  unfold leading isAbsoluteText
  rw [Text.splitOn_append_cons, he]
  rfl

variable {base path : List Char}

/-- A relative path is put behind a slash, which may be there already. -/
theorem joinText_cases (hp : isAbsoluteText path = false) (hb : base ≠ []) :
    joinText base path = base ++ '/' :: path ∨
      ∃ front, base = front ++ ['/'] ∧ joinText base path = front ++ '/' :: path := by
  unfold joinText
  rw [hp]
  by_cases hl : base.getLast? = some '/'
  · obtain ⟨front, rfl⟩ := List.getLast?_eq_some_iff.1 hl
    refine .inr ⟨front, rfl, ?_⟩
    simp
  · refine .inl ?_
    simp [hb, hl]

theorem relativeComponents_joinText (hp : isAbsoluteText path = false) :
    relativeComponents (joinText base path) =
      relativeComponents base ++ relativeComponents path := by
  by_cases hb : base = []
  · subst hb
    simp [joinText, hp, relativeComponents_nil]
  · rcases joinText_cases hp hb with he | ⟨front, rfl, he⟩
    · rw [he, relativeComponents_append]
    · rw [he, relativeComponents_append, relativeComponents_append, relativeComponents_nil,
        List.append_nil]

theorem leading_joinText (hp : isAbsoluteText path = false) (hb : base ≠ []) :
    leading (joinText base path) = leading base := by
  rcases joinText_cases hp hb with he | ⟨front, rfl, he⟩
  · rw [he, leading_append hb]
  · rw [he]
    by_cases hf : front = []
    · subst hf
      rfl
    · rw [leading_append hf, leading_append hf]

/-- The components of a relative path that is put after another: those of the other, which is where
the joined path starts, and those of the path without its start. An empty path is not seen. -/
theorem components_join {p q : Path} (hq : isAbsolute q = false) :
    components (join p q) = (if p = "" then leading q.toList else components p) ++
      relativeComponents q.toList := by
  have hq : isAbsoluteText q.toList = false := hq
  rw [components_eq, join, String.toList_ofList, relativeComponents_joinText hq]
  split
  · rename_i hp
    subst hp
    have he : joinText "".toList q.toList = q.toList := by simp [joinText, hq]
    rw [he]
    rfl
  · rename_i hp
    have hp : p.toList ≠ [] := by simpa using hp
    rw [leading_joinText hq hp, components_eq, List.append_assoc]

/-! ## Names -/

/-- Whether a component is a name. -/
def Component.isName : Component → Bool
  | .name _ => true
  | _ => false

theorem exists_names {cs : List Component} (h : ∀ c ∈ cs, c.isName = true) :
    ∃ ns : List (List Char), cs = ns.map .name := by
  induction cs with
  | nil => exact ⟨[], rfl⟩
  | cons c cs ih =>
    obtain ⟨hc, hcs⟩ := List.forall_mem_cons.1 h
    obtain ⟨ns, rfl⟩ := ih hcs
    cases c with
    | name s => exact ⟨s :: ns, rfl⟩
    | _ => cases hc

theorem ofPart_of_ne {part : List Char} (h : part ≠ ['.']) :
    Component.ofPart part = .parent ∧ part = ['.', '.'] ∨ Component.ofPart part = .name part := by
  unfold Component.ofPart
  rw [if_neg h]
  split
  · rename_i hp
    exact .inl ⟨rfl, hp⟩
  · exact .inr rfl

/-- Relative components are names and steps to the parent. -/
theorem mem_relativeComponents {s : List Char} {c : Component} (h : c ∈ relativeComponents s) :
    c = .parent ∧ ['.', '.'] ∈ Text.splitOn '/' s ∨ c.isName = true := by
  obtain ⟨part, hm, rfl⟩ := List.mem_map.1 h
  obtain ⟨hm, hne⟩ := List.mem_filter.1 hm
  have hdot : part ≠ ['.'] := (of_decide_eq_true hne).2
  rcases ofPart_of_ne hdot with ⟨he, rfl⟩ | he
  · exact .inl ⟨he, hm⟩
  · exact .inr (by rw [he]; rfl)

theorem parent_mem_relativeComponents {s : List Char} (h : ['.', '.'] ∈ Text.splitOn '/' s) :
    .parent ∈ relativeComponents s := by
  refine List.mem_map.2 ⟨['.', '.'], List.mem_filter.2 ⟨h, by decide⟩, by decide⟩

end Path

/-! ## Following paths -/

namespace FileTree

open Rehearsal.Path (Component)

variable {root : FileEntry}

theorem at?_append (root : FileEntry) (names more : List String) :
    at? root (names ++ more) = (at? root names).bind fun e => at? e more := by
  induction names generalizing root with
  | nil => rfl
  | cons n names ih =>
    rw [List.cons_append, at?, at?, Option.bind_assoc]
    exact congrArg _ (funext ih)

theorem follow_parent (names : List String) (cs : List Component) :
    follow root names (.parent :: cs) = match at? root names with
      | none => .error .notFound
      | some (.file _) => .error .notFolder
      | some (.folder _) => follow root names.dropLast cs := rfl

theorem follow_name (names : List String) (s : List Char) (cs : List Component) :
    follow root names (.name s :: cs) = match at? root names with
      | none => .error .notFound
      | some (.file _) => .error .notFolder
      | some (.folder _) =>
        if longestName < Text.utf8Length s then .error .nameTooLong
        else follow root (names ++ [String.ofList s]) cs := rfl

theorem follow_append (names : List String) (cs ds : List Component) :
    follow root names (cs ++ ds) = follow root names cs >>= fun place => follow root place ds := by
  induction cs generalizing names with
  | nil => rfl
  | cons c cs ih =>
    cases c with
    | root => exact ih []
    | here => exact ih names
    | parent =>
      rw [List.cons_append, follow_parent, follow_parent]
      rcases at? root names with _ | _ | _
      · rfl
      · rfl
      · exact ih names.dropLast
    | name s =>
      rw [List.cons_append, follow_name, follow_name]
      rcases at? root names with _ | _ | _
      · rfl
      · rfl
      · simp only
        split
        · rfl
        · exact ih _

/-- Names lead to a file exactly if it is there and they are all short enough. -/
theorem follow_names {names : List String} {ns : List (List Char)} {c : List UInt8} :
    (∃ place, follow root names (ns.map .name) = .ok place ∧ at? root place = some (.file c)) ↔
      (∀ n ∈ ns, Text.utf8Length n ≤ longestName) ∧
        at? root (names ++ ns.map String.ofList) = some (.file c) := by
  induction ns generalizing names with
  | nil => simp [follow]
  | cons n ns ih =>
    have hplace : names ++ (n :: ns).map String.ofList =
        names ++ [String.ofList n] ++ ns.map String.ofList := by simp
    rw [List.map_cons, List.forall_mem_cons, hplace, follow_name]
    rcases he : at? root names with _ | b | entries
    · simp [List.append_assoc, at?_append, he]
    · simp [List.append_assoc, at?_append, he, at?, FileEntry.child?]
    · simp only
      split
      · rename_i hlong
        simp [Nat.not_le.2 hlong]
      · rename_i hshort
        rw [ih]
        simp [Nat.not_lt.1 hshort]

theorem place_ok {t : FileTree} {p : Path} {place : List String} : t.place p = .ok place ↔
    checkText p = .ok () ∧ p.isEmpty = false ∧
      follow t.root t.working (Path.components p) = .ok place := by
  unfold FileTree.place
  rcases checkText p with f | ⟨⟩
  · simp [bind, Except.bind]
  · rcases p.isEmpty with _ | _
    · simp [bind, Except.bind]
    · simp [bind, Except.bind, throw, throwThe, MonadExceptOf.throw]

/-- A path leads to an entry if it is one that the operating system takes, does not ask for a folder
where there is none, and the entry stands at the place to which its components lead. -/
theorem find_ok {t : FileTree} {p : Path} {e : FileEntry} : t.find p = .ok e ↔
    (checkText p = .ok () ∧ p.isEmpty = false ∧ (asksFolder p = true → ∀ c, e ≠ .file c)) ∧
      ∃ place, follow t.root t.working (Path.components p) = .ok place ∧
        at? t.root place = some e := by
  unfold find
  rw [bind_ok]
  constructor
  · rintro ⟨place, hp, h⟩
    obtain ⟨hcheck, hempty, hfollow⟩ := place_ok.1 hp
    rcases he : at? t.root place with _ | b | entries <;> rw [he] at h
    · cases h
    · simp only at h
      split at h
      · cases h
      · rename_i hasks
        cases h
        exact ⟨⟨hcheck, hempty, fun ha => absurd ha hasks⟩, place, hfollow, he⟩
    · cases h
      exact ⟨⟨hcheck, hempty, fun _ => nofun⟩, place, hfollow, he⟩
  · rintro ⟨⟨hcheck, hempty, hasks⟩, place, hfollow, he⟩
    refine ⟨place, place_ok.2 ⟨hcheck, hempty, hfollow⟩, ?_⟩
    rw [he]
    rcases e with b | entries
    · exact if_neg fun ha => hasks ha b rfl
    · rfl

theorem find_file {t : FileTree} {p : Path} {c : List UInt8} : t.find p = .ok (.file c) ↔
    (checkText p = .ok () ∧ p.isEmpty = false ∧ asksFolder p = false) ∧
      ∃ place, follow t.root t.working (Path.components p) = .ok place ∧
        at? t.root place = some (.file c) := by
  rw [find_ok]
  simp

theorem isFolder_iff {t : FileTree} {p : Path} :
    t.isFolder p = true ↔ ∃ entries, t.find p = .ok (.folder entries) := by
  unfold isFolder
  rcases t.find p with f | c | entries <;> simp

theorem read_ok {t : FileTree} {p : Path} {c : List UInt8} :
    t.read p = .ok c ↔ t.find p = .ok (.file c) := by
  unfold read
  rw [bind_ok]
  constructor
  · rintro ⟨e, he, h⟩
    rcases e with b | entries <;> cases h
    exact he
  · intro h
    exact ⟨.file c, h, rfl⟩

theorem readText_ok {t : FileTree} {p : Path} {text : String} : t.readText p = .ok text ↔
    ∃ c cs, t.find p = .ok (.file c) ∧ Text.decode? c = some cs ∧ String.ofList cs = text := by
  unfold readText
  rw [bind_ok]
  constructor
  · rintro ⟨c, hc, h⟩
    rcases hd : Text.decode? c with _ | cs <;> rw [hd] at h <;> cases h
    exact ⟨c, cs, read_ok.1 hc, hd, rfl⟩
  · rintro ⟨c, cs, hc, hd, rfl⟩
    exact ⟨c, read_ok.2 hc, by rw [hd]⟩

end FileTree
end Rehearsal
