import Mathlib.Data.List.Nodup
import Rehearsal.Proofs.Places

/-!
# Walks through folders

A walk meets the entries below a folder that are not kept from it by a folder which cannot be
listed, each of them once (`FileTree.mem_places`, `FileTree.places_nodup`), and it gives them paths
that lead to them (`FileTree.find_under`). This needs names as the operating system has them:
without slashes, not longer than it takes, and different from each other within a folder
(`FileEntry.isProper`).
-/

namespace Rehearsal

open Rehearsal.Path (Component)

/-! ## Proper names -/

/-- What a name of an entry is not. -/
structure FileEntry.IsName (n : String) : Prop where
  not_empty : n.toList ≠ []
  not_here : n.toList ≠ ['.']
  not_parent : n.toList ≠ ['.', '.']
  no_slash : '/' ∉ n.toList
  no_nul : Char.ofNat 0 ∉ n.toList
  short : Text.utf8Length n.toList ≤ FileTree.longestName

instance (n : String) : Decidable (FileEntry.IsName n) :=
  decidable_of_iff (n.toList ≠ [] ∧ n.toList ≠ ['.'] ∧ n.toList ≠ ['.', '.'] ∧ '/' ∉ n.toList ∧
      Char.ofNat 0 ∉ n.toList ∧ Text.utf8Length n.toList ≤ FileTree.longestName)
    ⟨fun ⟨h₁, h₂, h₃, h₄, h₅, h₆⟩ => ⟨h₁, h₂, h₃, h₄, h₅, h₆⟩,
      fun h => ⟨h.not_empty, h.not_here, h.not_parent, h.no_slash, h.no_nul, h.short⟩⟩

namespace FileEntry

mutual

/-- Whether all entries at and below an entry have proper names, each its own within its folder. -/
def isProper : FileEntry → Bool
  | .file _ => true
  | .folder es => decide (es.map (·.1)).Nodup && areProper es

/-- Whether the entries of a folder have proper names, and so on below them. -/
def areProper : List (String × FileEntry) → Bool
  | [] => true
  | (n, e) :: r => decide (IsName n) && isProper e && areProper r

end

/-- Whether an entry is a folder. -/
def isFolder : FileEntry → Bool
  | .file _ => false
  | .folder _ => true

theorem areProper_iff {es : List (String × FileEntry)} :
    areProper es = true ↔ ∀ n e, (n, e) ∈ es → IsName n ∧ e.isProper = true := by
  induction es with
  | nil => simp [areProper]
  | cons x r ih =>
    obtain ⟨n, e⟩ := x
    rw [areProper, Bool.and_eq_true, Bool.and_eq_true, decide_eq_true_eq, ih]
    constructor
    · rintro ⟨hx, hr⟩ m d hm
      rcases List.mem_cons.1 hm with hm | hm
      · cases hm
        exact hx
      · exact hr m d hm
    · intro h
      exact ⟨h n e List.mem_cons_self, fun m d hm => h m d (List.mem_cons_of_mem _ hm)⟩

theorem isProper_folder {es : List (String × FileEntry)} :
    (folder es).isProper = true ↔
      (es.map (·.1)).Nodup ∧ ∀ n e, (n, e) ∈ es → IsName n ∧ e.isProper = true := by
  rw [isProper, Bool.and_eq_true, decide_eq_true_eq, areProper_iff]

theorem child?_folder {es : List (String × FileEntry)} (h : (es.map (·.1)).Nodup) {n : String}
    {e : FileEntry} : child? n (.folder es) = some e ↔ (n, e) ∈ es := by
  unfold child?
  constructor
  · intro hc
    obtain ⟨⟨m, d⟩, hf, rfl⟩ := Option.map_eq_some_iff.1 hc
    obtain rfl : m = n := by simpa using List.find?_some hf
    exact List.mem_of_find?_eq_some hf
  · intro hm
    exact Option.map_eq_some_iff.2 ⟨(n, e), find?_of_nodup h hm, rfl⟩

end FileEntry

/-! ## A name put after a path -/

namespace Path

open FileEntry (IsName)

variable {p : Path} {n : String}

theorem isAbsolute_name (h : IsName n) : isAbsolute n = false := by
  show decide (n.toList.head? = some '/') = false
  exact decide_eq_false fun hs => h.no_slash (List.mem_of_head? hs)

theorem components_join_name (hp : p ≠ "") (h : IsName n) :
    components (join p n) = components p ++ [.name n.toList] := by
  rw [components_join (isAbsolute_name h), if_neg hp]
  have hpart : Component.ofPart n.toList = .name n.toList := by
    rw [Component.ofPart, if_neg h.not_here, if_neg h.not_parent]
  have hnames : relativeComponents n.toList = [.name n.toList] := by
    rw [relativeComponents, Text.splitOn_of_not_mem h.no_slash]
    simp [h.not_empty, h.not_here, hpart]
  rw [hnames]

/-- The text of a path with a name put after it ends in a slash and the name. -/
theorem toList_join_name (hp : p ≠ "") (h : IsName n) :
    ∃ front, (join p n).toList = front ++ '/' :: n.toList ∧
      ∀ c ∈ front, c ∈ p.toList := by
  have hrel : isAbsoluteText n.toList = false := isAbsolute_name h
  have hp : p.toList ≠ [] := by simpa using hp
  rw [join, String.toList_ofList]
  rcases joinText_cases hrel hp with he | ⟨front, hf, he⟩
  · exact ⟨p.toList, he, fun c hc => hc⟩
  · exact ⟨front, he, fun c hc => by rw [hf]; exact List.mem_append_left _ hc⟩

end Path

namespace FileTree

open FileEntry (IsName)

variable {t : FileTree} {p : Path} {n : String}

theorem checkText_ok :
    checkText p = .ok () ↔ Char.ofNat 0 ∉ p.toList ∧ isTooLong p = false := by
  unfold checkText
  by_cases hnul : Char.ofNat 0 ∈ p.toList
  · simp [hnul]
  · by_cases hlong : isTooLong p = true
    · simp [hnul, hlong]
    · simp [hnul, hlong]

theorem asksFolder_join_name (hp : p ≠ "") (h : IsName n) :
    asksFolder (Path.join p n) = false := by
  obtain ⟨front, he, -⟩ := Path.toList_join_name hp h
  have hslash : (Path.join p n).toList.getLast? ≠ some '/' := by
    intro hl
    rw [he, List.append_cons, List.getLast?_append_of_ne_nil _ h.not_empty] at hl
    exact h.no_slash (List.mem_of_getLast? hl)
  have hdot : (Text.splitOn '/' (Path.join p n).toList).getLast? = some n.toList := by
    rw [he, Text.splitOn_append_cons, Text.splitOn_of_not_mem h.no_slash]
    simp
  show (decide _ || decide _) = false
  rw [hdot, decide_eq_false hslash]
  simpa using h.not_here

/-- A path with a name put after it is the longer one. -/
theorem isTooLong_of_join (h : IsName n) (hshort : isTooLong (Path.join p n) = false) :
    isTooLong p = false := by
  by_cases hp : p = ""
  · rw [hp]
    rfl
  · have hrel : Path.isAbsoluteText n.toList = false := Path.isAbsolute_name h
    have hne : p.toList ≠ [] := by simpa using hp
    obtain ⟨more, hmore⟩ : ∃ more, Path.joinText p.toList n.toList = p.toList ++ more := by
      rcases Path.joinText_cases hrel hne with he | ⟨front, hf, he⟩
      · exact ⟨_, he⟩
      · exact ⟨n.toList, by rw [he, hf, List.append_assoc]; rfl⟩
    have hjoin : Path.join p n = p ++ String.ofList more := by
      rw [Path.join, hmore, String.ofList_append, String.ofList_toList]
    rw [hjoin] at hshort
    simp only [isTooLong, decide_eq_false_iff_not, Nat.not_lt, String.utf8ByteSize_append] at *
    omega

theorem ne_empty_of_find {e : FileEntry} (hp : t.find p = .ok e) : p ≠ "" := by
  rintro rfl
  cases (find_ok.1 hp).1.2.1

/-- A path to a folder with a name put after it, if that is not too long, names the place of that
name below the folder's. -/
theorem place_join {es : List (String × FileEntry)} (hp : t.find p = .ok (.folder es))
    (h : IsName n) (hshort : isTooLong (Path.join p n) = false) :
    ∃ place, at? t.root place = some (.folder es) ∧
      t.place (Path.join p n) = .ok (place ++ [n]) := by
  obtain ⟨⟨hcheck, -, -⟩, place, hfollow, hat⟩ := find_ok.1 hp
  have hne := ne_empty_of_find hp
  obtain ⟨front, he, hfront⟩ := Path.toList_join_name hne h
  refine ⟨place, hat, place_ok.2 ⟨?_, ?_, ?_⟩⟩
  · refine checkText_ok.2 ⟨?_, hshort⟩
    rw [he]
    intro hm
    rcases List.mem_append.1 hm with hm | hm
    · exact (checkText_ok.1 hcheck).1 (hfront _ hm)
    · exact h.no_nul (List.mem_of_ne_of_mem (by decide) hm)
  · have hfull : Path.join p n ≠ "" := fun hj => by simp [hj] at he
    simpa using hfull
  · rw [Path.components_join_name hne h, follow_append, hfollow]
    show follow t.root place [.name n.toList] = .ok (place ++ [n])
    rw [follow_name, hat]
    simp only
    rw [if_neg (Nat.not_lt.2 h.short), String.ofList_toList]
    rfl

/-- What stands in a folder under a name is found at the path with the name put after it, if that is
not too long. -/
theorem find_join {es : List (String × FileEntry)} {e : FileEntry}
    (hp : t.find p = .ok (.folder es)) (h : IsName n)
    (hc : FileEntry.child? n (.folder es) = some e) (hshort : isTooLong (Path.join p n) = false) :
    t.find (Path.join p n) = .ok e := by
  obtain ⟨place, hat, hplace⟩ := place_join hp h hshort
  obtain ⟨hcheck, hempty, hfollow⟩ := place_ok.1 hplace
  refine find_ok.2 ⟨⟨hcheck, hempty, ?_⟩, place ++ [n], hfollow, ?_⟩
  · rw [asksFolder_join_name (ne_empty_of_find hp) h]
    exact nofun
  · rw [at?_append, hat]
    simp [at?, hc]

end FileTree

/-! ## Walks -/

/-- A path with some names put after it, one after the other. -/
def Path.under (p : Path) (names : List String) : Path := names.foldl join p

namespace FileTree

mutual

/-- The entries that a walk meets at and below an entry, with the names that lead to them. -/
def places (p : Path) : FileEntry → List (List String × FileEntry)
  | .file c => [([], .file c)]
  | .folder es => ([], .folder es) :: if isTooLong p then [] else placesIn p es

/-- The entries that a walk meets below the entries of a folder. -/
def placesIn (p : Path) : List (String × FileEntry) → List (List String × FileEntry)
  | [] => []
  | (n, e) :: r => (places (Path.join p n) e).map (fun x => (n :: x.1, x.2)) ++ placesIn p r

end

/-- What a walk says of an entry that it meets. -/
def visit (p : Path) (x : List String × FileEntry) : Visit := ⟨Path.under p x.1, x.2.isFolder⟩

mutual

theorem walkEntry_eq (p : Path) : ∀ e : FileEntry, walkEntry p e = (places p e).map (visit p)
  | .file c => rfl
  | .folder es => by
    rw [walkEntry, places]
    by_cases hlong : isTooLong p = true
    · rw [if_pos hlong, if_pos hlong]
      rfl
    · rw [if_neg hlong, if_neg hlong, List.map_cons, walkEntries_eq p es]
      rfl

theorem walkEntries_eq (p : Path) : ∀ es : List (String × FileEntry),
    walkEntries p es = (placesIn p es).map (visit p)
  | [] => rfl
  | (n, e) :: r => by
    rw [walkEntries, placesIn, List.map_append, walkEntry_eq _ e, walkEntries_eq p r, List.map_map]
    rfl

end

/-- An entry that a walk from a path meets: it stands below at some names, and each folder on the
way can be listed. -/
structure Reached (p : Path) (e : FileEntry) (names : List String) (x : FileEntry) : Prop where
  stands : at? e names = some x
  listed : ∀ above, above <+: names → above ≠ names → isTooLong (Path.under p above) = false

section
variable {p : Path} {e x : FileEntry} {n : String} {names : List String}

theorem reached_nil : Reached p e [] x ↔ e = x := by
  constructor
  · intro h
    exact Option.some.inj h.stands
  · rintro rfl
    exact ⟨rfl, fun above hp hne => absurd (List.prefix_nil.1 hp) hne⟩

theorem reached_cons : Reached p e (n :: names) x ↔
    isTooLong p = false ∧ ∃ d, FileEntry.child? n e = some d ∧ Reached (Path.join p n) d names x := by
  constructor
  · rintro ⟨hat, hlisted⟩
    obtain ⟨d, hd, hx⟩ := Option.bind_eq_some_iff.1 hat
    refine ⟨hlisted [] List.nil_prefix (by simp), d, hd, hx, fun above hp hne => ?_⟩
    exact hlisted (n :: above) (List.cons_prefix_cons.2 ⟨rfl, hp⟩) (by simpa using hne)
  · rintro ⟨hp, d, hd, hx, hlisted⟩
    refine ⟨Option.bind_eq_some_iff.2 ⟨d, hd, hx⟩, fun above ha hne => ?_⟩
    rcases above with _ | ⟨m, above⟩
    · exact hp
    · obtain ⟨rfl, hrest⟩ := List.cons_prefix_cons.1 ha
      exact hlisted above hrest (by simpa using hne)

theorem mem_placesIn {es : List (String × FileEntry)} : (names, x) ∈ placesIn p es ↔
    ∃ n d rest, (n, d) ∈ es ∧ names = n :: rest ∧ (rest, x) ∈ places (Path.join p n) d := by
  induction es with
  | nil => simp [placesIn]
  | cons head r ih =>
    obtain ⟨m, b⟩ := head
    rw [placesIn, List.mem_append, ih, List.mem_map]
    constructor
    · rintro (⟨⟨rest, y⟩, hm, he⟩ | ⟨n, d, rest, hd, he, hm⟩)
      · cases he
        exact ⟨m, b, rest, List.mem_cons_self, rfl, hm⟩
      · exact ⟨n, d, rest, List.mem_cons_of_mem _ hd, he, hm⟩
    · rintro ⟨n, d, rest, hd, rfl, hm⟩
      rcases List.mem_cons.1 hd with hd | hd
      · cases hd
        exact .inl ⟨(rest, x), hm, rfl⟩
      · exact .inr ⟨n, d, rest, hd, rfl, hm⟩

/-- The induction is on the names, since the tree below is another one after each of them. -/
theorem mem_places (h : e.isProper = true) : (names, x) ∈ places p e ↔ Reached p e names x := by
  induction names generalizing p e with
  | nil =>
    rw [reached_nil]
    rcases e with c | es
    · simp [places, eq_comm]
    · rw [places, List.mem_cons]
      constructor
      · rintro (hm | hm)
        · exact (congrArg Prod.snd hm).symm
        · split at hm
          · cases hm
          · obtain ⟨n, d, rest, -, he, -⟩ := mem_placesIn.1 hm
            cases he
      · rintro rfl
        exact .inl rfl
  | cons n names ih =>
    rw [reached_cons]
    rcases e with c | es
    · simp [places, FileEntry.child?]
    · obtain ⟨hnodup, hall⟩ := FileEntry.isProper_folder.1 h
      rw [places, List.mem_cons]
      by_cases hlong : isTooLong p = true
      · simp [hlong]
      · rw [if_neg hlong, mem_placesIn]
        constructor
        · rintro (hm | ⟨m, d, rest, hd, he, hm⟩)
          · cases hm
          · cases he
            exact ⟨by simpa using hlong, d, (FileEntry.child?_folder hnodup).2 hd,
              (ih (hall _ _ hd).2).1 hm⟩
        · rintro ⟨-, d, hd, hr⟩
          have hd := (FileEntry.child?_folder hnodup).1 hd
          exact .inr ⟨n, d, names, hd, rfl, (ih (hall _ _ hd).2).2 hr⟩

end

mutual

/-- Each entry is met once. -/
theorem places_nodup (p : Path) : ∀ e : FileEntry, e.isProper = true →
    ((places p e).map (·.1)).Nodup
  | .file c, _ => by simp [places]
  | .folder es, h => by
    rw [FileEntry.isProper, Bool.and_eq_true, decide_eq_true_eq] at h
    rw [places]
    by_cases hlong : isTooLong p = true
    · simp [hlong]
    · rw [if_neg hlong, List.map_cons, List.nodup_cons]
      refine ⟨fun hm => ?_, placesIn_nodup p es h.1 h.2⟩
      obtain ⟨⟨names, x⟩, hm, rfl⟩ := List.mem_map.1 hm
      obtain ⟨n, d, rest, -, he, -⟩ := mem_placesIn.1 hm
      cases he

theorem placesIn_nodup (p : Path) : ∀ es : List (String × FileEntry), (es.map (·.1)).Nodup →
    FileEntry.areProper es = true → ((placesIn p es).map (·.1)).Nodup
  | [], _, _ => by simp [placesIn]
  | (n, e) :: r, hnodup, h => by
    obtain ⟨hn, hr⟩ := List.nodup_cons.1 hnodup
    rw [FileEntry.areProper, Bool.and_eq_true, Bool.and_eq_true] at h
    rw [placesIn, List.map_append, List.map_map]
    refine List.nodup_append.2 ⟨?_, placesIn_nodup p r hr h.2, ?_⟩
    · have hmap := List.Nodup.map (List.cons_injective (a := n))
        (places_nodup (Path.join p n) e h.1.2)
      rwa [List.map_map] at hmap
    · intro names hm other ho he
      obtain ⟨⟨rest, x⟩, -, rfl⟩ := List.mem_map.1 hm
      obtain ⟨⟨more, y⟩, hy, rfl⟩ := List.mem_map.1 ho
      obtain ⟨m, d, rest', hd, rfl, -⟩ := mem_placesIn.1 hy
      cases he
      exact hn (List.mem_map.2 ⟨(n, d), hd, rfl⟩)

end

/-- The path of an entry that a walk met leads to it, unless the path is too long. -/
theorem find_under {t : FileTree} {p : Path} {e x : FileEntry} {names : List String}
    (hp : t.find p = .ok e) (h : e.isProper = true) (hr : Reached p e names x)
    (hshort : isTooLong (Path.under p names) = false) : t.find (Path.under p names) = .ok x := by
  induction names generalizing p e with
  | nil =>
    rw [← reached_nil.1 hr]
    exact hp
  | cons n names ih =>
    obtain ⟨-, d, hd, hrest⟩ := reached_cons.1 hr
    rcases e with c | es
    · cases hd
    · obtain ⟨hnodup, hall⟩ := FileEntry.isProper_folder.1 h
      obtain ⟨hname, hproper⟩ := hall n d ((FileEntry.child?_folder hnodup).1 hd)
      have hjoin : isTooLong (Path.join p n) = false := by
        rcases names with _ | ⟨m, names⟩
        · exact hshort
        · exact hrest.listed [] List.nil_prefix (by simp)
      exact ih (find_join hp hname hd hjoin) hproper hrest hshort

/-! ## What stands below a folder -/

section
variable {t : FileTree} {dir : Path} {names : List String} {x : FileEntry}

/-- An entry stands at some names below a path. -/
def Has (t : FileTree) (dir : Path) (names : List String) (x : FileEntry) : Prop :=
  ∃ e, t.find dir = .ok e ∧ at? e names = some x

/-- A walk from a path meets an entry that stands at some names below it. -/
def Meets (t : FileTree) (dir : Path) (names : List String) (x : FileEntry) : Prop :=
  ∃ e, t.find dir = .ok e ∧ Reached dir e names x

/-- A path leads to a folder, and that and all folders below it can be listed. -/
structure Listed (t : FileTree) (dir : Path) : Prop where
  folder : t.isFolder dir = true
  below : ∀ names es, t.Has dir names (.folder es) → isTooLong (Path.under dir names) = false

theorem at?_of_below {e : FileEntry} {above : List String} (h : at? e names = some x)
    (ha : above <+: names) (hne : above ≠ names) : ∃ es, at? e above = some (.folder es) := by
  obtain ⟨rest, rfl⟩ := ha
  rw [at?_append] at h
  obtain ⟨d, hd, hx⟩ := Option.bind_eq_some_iff.1 h
  rcases rest with _ | ⟨n, rest⟩
  · exact absurd (List.append_nil above).symm hne
  · rcases d with c | es
    · cases hx
    · exact ⟨es, hd⟩

/-- Where all folders can be listed, a walk meets all that is there. -/
theorem meets_of_listed (h : t.Listed dir) : t.Meets dir names x ↔ t.Has dir names x := by
  constructor
  · rintro ⟨e, he, hr⟩
    exact ⟨e, he, hr.stands⟩
  · rintro ⟨e, he, hx⟩
    refine ⟨e, he, hx, fun above ha hne => ?_⟩
    obtain ⟨es, hes⟩ := at?_of_below hx ha hne
    exact h.below above es ⟨e, he, hes⟩

/-- What stands at a path that is not too long is met, since no path on the way is longer. -/
theorem reached_of_short {p : Path} {e : FileEntry} (h : e.isProper = true)
    (hx : at? e names = some x) (hshort : isTooLong (Path.under p names) = false) :
    isTooLong p = false ∧ Reached p e names x := by
  induction names generalizing p e with
  | nil => exact ⟨hshort, reached_nil.2 (Option.some.inj hx)⟩
  | cons n names ih =>
    obtain ⟨d, hd, hrest⟩ := Option.bind_eq_some_iff.1 hx
    rcases e with c | es
    · cases hd
    · obtain ⟨hnodup, hall⟩ := FileEntry.isProper_folder.1 h
      obtain ⟨hname, hproper⟩ := hall n d ((FileEntry.child?_folder hnodup).1 hd)
      obtain ⟨hjoin, hreached⟩ := ih hproper hrest hshort
      have hp := isTooLong_of_join hname hjoin
      exact ⟨hp, reached_cons.2 ⟨hp, d, hd, hreached⟩⟩

/-- All that a walk meets. -/
def met (t : FileTree) (dir : Path) : List (List String × FileEntry) :=
  match t.find dir with
  | .ok e => places dir e
  | .error _ => []

theorem walk_eq (t : FileTree) (dir : Path) : t.walk dir = (t.met dir).map (visit dir) := by
  unfold walk met
  rcases t.find dir with f | e
  · rfl
  · exact walkEntry_eq dir e

theorem isProper_of_at? {e : FileEntry} (h : e.isProper = true) (hx : at? e names = some x) :
    x.isProper = true := by
  induction names generalizing e with
  | nil =>
    cases hx
    exact h
  | cons n names ih =>
    obtain ⟨d, hd, hrest⟩ := Option.bind_eq_some_iff.1 hx
    rcases e with c | es
    · cases hd
    · obtain ⟨hnodup, hall⟩ := FileEntry.isProper_folder.1 h
      exact ih (hall n d ((FileEntry.child?_folder hnodup).1 hd)).2 hrest

theorem isProper_of_find {e : FileEntry} (h : t.root.isProper = true) (he : t.find dir = .ok e) :
    e.isProper = true := by
  obtain ⟨-, place, -, hat⟩ := find_ok.1 he
  exact isProper_of_at? h hat

theorem mem_met (h : t.root.isProper = true) : (names, x) ∈ t.met dir ↔ t.Meets dir names x := by
  unfold met Meets
  rcases he : t.find dir with f | e
  · simp
  · simp [mem_places (isProper_of_find h he)]

theorem met_nodup (h : t.root.isProper = true) (dir : Path) :
    ((t.met dir).map (·.1)).Nodup := by
  unfold met
  rcases he : t.find dir with f | e
  · exact List.nodup_nil
  · exact places_nodup dir e (isProper_of_find h he)

theorem find_of_meets (h : t.root.isProper = true) (hm : t.Meets dir names x)
    (hshort : isTooLong (Path.under dir names) = false) : t.find (Path.under dir names) = .ok x := by
  obtain ⟨e, he, hr⟩ := hm
  exact find_under he (isProper_of_find h he) hr hshort

theorem meets_of_short (h : t.root.isProper = true) (hhas : t.Has dir names x)
    (hshort : isTooLong (Path.under dir names) = false) : t.Meets dir names x := by
  obtain ⟨e, he, hx⟩ := hhas
  exact ⟨e, he, (reached_of_short (isProper_of_find h he) hx hshort).2⟩

/-- Whether all folders can be listed shows in the walk. -/
theorem listed_iff (h : t.root.isProper = true) : t.Listed dir ↔
    t.isFolder dir = true ∧ ∀ v ∈ t.walk dir, v.isFolder = true → isTooLong v.path = false := by
  rw [walk_eq]
  constructor
  · rintro hlisted
    refine ⟨hlisted.folder, fun v hv hfolder => ?_⟩
    obtain ⟨⟨names, x⟩, hx, rfl⟩ := List.mem_map.1 hv
    rcases x with c | es
    · cases hfolder
    · exact hlisted.below names es ((meets_of_listed hlisted).1 ((mem_met h).1 hx))
  · rintro ⟨hfolder, hall⟩
    refine ⟨hfolder, fun names es hhas => ?_⟩
    -- A folder is met since those above it are, which are at fewer names.
    induction hn : names.length using Nat.strongRecOn generalizing names es with
    | ind n ih =>
      obtain ⟨e, he, hat⟩ := hhas
      have hr : Reached dir e names (.folder es) := by
        refine ⟨hat, fun above ha hne => ?_⟩
        obtain ⟨more, hmore⟩ := at?_of_below hat ha hne
        have hlt : above.length < n := by
          rw [← hn]
          exact Nat.lt_of_le_of_ne ha.length_le fun hl => hne (ha.eq_of_length hl)
        exact ih _ hlt above more ⟨e, he, hmore⟩ rfl
      have hm := (mem_met h).2 ⟨e, he, hr⟩
      exact hall _ (List.mem_map.2 ⟨_, hm, rfl⟩) rfl

end

end FileTree
end Rehearsal
