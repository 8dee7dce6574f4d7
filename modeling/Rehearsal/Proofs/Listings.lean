import Rehearsal.Proofs.Confinement
import Rehearsal.Proofs.Walks

/-!
# Listing orders

The entries of a folder are listed in some order, which nothing but a listing shows: in a tree whose
folders are listed in other orders the same stands at the same names (`FileEntry.Relisted.standing`),
so that each path leads to the same place (`FileTree.follow_eq_of_standing`), and the same stands
below it (`FileTree.Relisted.has`).
-/

namespace Rehearsal

open Rehearsal.Path (Component)

namespace FileEntry

/-- Two entries that differ in the order in which their folders are listed: in that of one folder, of
folders inside an entry of it, or in several of these steps. -/
inductive Relisted : FileEntry → FileEntry → Prop
  | refl (e : FileEntry) : Relisted e e
  | order {es es' : List (String × FileEntry)} : es.Perm es' → Relisted (.folder es) (.folder es')
  | inside {front rest : List (String × FileEntry)} {n : String} {d d' : FileEntry} :
    Relisted d d' →
    Relisted (.folder (front ++ (n, d) :: rest)) (.folder (front ++ (n, d') :: rest))
  | trans {e e' e'' : FileEntry} : Relisted e e' → Relisted e' e'' → Relisted e e''

theorem child?_append (m : String) (front rest : List (String × FileEntry)) :
    child? m (.folder (front ++ rest)) = (child? m (.folder front)).or (child? m (.folder rest)) := by
  simp only [child?, List.find?_append, Option.map_or]

theorem child?_cons (m n : String) (d : FileEntry) (rest : List (String × FileEntry)) :
    child? m (.folder ((n, d) :: rest)) = if n = m then some d else child? m (.folder rest) := by
  by_cases hn : n = m <;> simp [child?, hn]

variable {e e' : FileEntry}

theorem Relisted.symm (h : Relisted e e') : Relisted e' e := by
  induction h with
  | refl e => exact .refl e
  | order hperm => exact .order hperm.symm
  | inside _ ih => exact .inside ih
  | trans _ _ ih ih' => exact .trans ih' ih

theorem Relisted.isProper (h : Relisted e e') (hp : e.isProper = true) : e'.isProper = true := by
  induction h with
  | refl e => exact hp
  | order hperm =>
    obtain ⟨hnodup, hall⟩ := isProper_folder.1 hp
    exact isProper_folder.2 ⟨(hperm.map _).nodup_iff.1 hnodup,
      fun n d hm => hall n d (hperm.mem_iff.2 hm)⟩
  | @inside front rest n d d' _ ih =>
    obtain ⟨hnodup, hall⟩ := isProper_folder.1 hp
    refine isProper_folder.2 ⟨by simpa using hnodup, fun m x hm => ?_⟩
    rcases List.mem_append.1 hm with hm | hm
    · exact hall m x (List.mem_append_left _ hm)
    · rcases List.mem_cons.1 hm with hm | hm
      · cases hm
        obtain ⟨hname, hproper⟩ := hall n d (by simp)
        exact ⟨hname, ih hproper⟩
      · exact hall m x (by simp [hm])
  | trans _ _ ih ih' => exact ih' (ih hp)

/-- The same stands at the same names, however folders are listed. -/
theorem Relisted.standing (h : Relisted e e') (hp : e.isProper = true) (names : List String) :
    Standing.of (FileTree.at? e names) = Standing.of (FileTree.at? e' names) := by
  induction h generalizing names with
  | refl e => rfl
  | @order es es' hperm =>
    rcases names with _ | ⟨n, names⟩
    · rfl
    · have hp' := (Relisted.order hperm).isProper hp
      have hchild : child? n (.folder es) = child? n (.folder es') := by
        ext d
        rw [child?_folder (isProper_folder.1 hp).1, child?_folder (isProper_folder.1 hp').1]
        exact hperm.mem_iff
      rw [FileTree.at?, FileTree.at?, hchild]
  | @inside front rest n d d' _ ih =>
    rcases names with _ | ⟨m, names⟩
    · rfl
    · have hd := ((isProper_folder.1 hp).2 n d (by simp)).2
      rw [FileTree.at?, FileTree.at?, child?_append, child?_append, child?_cons, child?_cons]
      rcases child? m (.folder front) with _ | x
      · by_cases hn : n = m
        · rw [if_pos hn, if_pos hn]
          exact ih hd names
        · rw [if_neg hn, if_neg hn]
      · rfl
  | trans h _ ih ih' => exact (ih hp names).trans (ih' (h.isProper hp) names)

end FileEntry

namespace FileTree

/-- Two trees that differ in the order in which folders are listed. -/
structure Relisted (t u : FileTree) : Prop where
  root : t.root.Relisted u.root
  working : u.working = t.working

theorem Relisted.symm {t u : FileTree} (h : t.Relisted u) : u.Relisted t :=
  ⟨h.root.symm, h.working.symm⟩

/-- Where a path leads depends on nothing but what stands at which names. -/
theorem follow_eq_of_standing {root root' : FileEntry}
    (h : ∀ names, Standing.of (at? root names) = Standing.of (at? root' names))
    (names : List String) (cs : List Component) : follow root names cs = follow root' names cs := by
  induction cs generalizing names with
  | nil => rfl
  | cons c cs ih =>
    cases c with
    | root => exact ih []
    | here => exact ih names
    | parent =>
      have hn := h names
      rw [follow_parent, follow_parent]
      generalize at? root names = x, at? root' names = y at hn
      rcases x with _ | _ | _ <;> rcases y with _ | _ | _ <;> cases hn
      · rfl
      · rfl
      · exact ih names.dropLast
    | name s =>
      have hn := h names
      rw [follow_name, follow_name]
      generalize at? root names = x, at? root' names = y at hn
      rcases x with _ | _ | _ <;> rcases y with _ | _ | _ <;> cases hn
      · rfl
      · rfl
      · simp only
        split
        · rfl
        · exact ih _

variable {t u : FileTree} {dir : Path} {names : List String} {c : List UInt8} {e : FileEntry}

/-- A path that leads to an entry leads, in a tree listed otherwise, to one that has the same at all
names. -/
theorem Relisted.find (h : t.Relisted u) (hp : t.root.isProper = true) (he : t.find dir = .ok e) :
    ∃ e', u.find dir = .ok e' ∧
      ∀ names, Standing.of (at? e names) = Standing.of (at? e' names) := by
  have hstanding := h.root.standing hp
  obtain ⟨⟨hcheck, hempty, hasks⟩, place, hfollow, hat⟩ := find_ok.1 he
  have hplace := hstanding place
  rw [hat] at hplace
  rcases hat' : at? u.root place with _ | e'
  · rw [hat'] at hplace
    rcases e with _ | _ <;> cases hplace
  · have hbelow : ∀ names, Standing.of (at? e names) = Standing.of (at? e' names) := by
      intro names
      have := hstanding (place ++ names)
      rwa [at?_append, at?_append, hat, hat'] at this
    refine ⟨e', find_ok.2 ⟨⟨hcheck, hempty, fun ha b hb => ?_⟩, place, ?_, hat'⟩, hbelow⟩
    · rw [hat', hb, Standing.of_eq_file.2 rfl] at hplace
      exact hasks ha b (Option.some.inj (Standing.of_eq_file.1 hplace))
    · rw [h.working, ← follow_eq_of_standing hstanding]
      exact hfollow

theorem Relisted.has (h : t.Relisted u) (hp : t.root.isProper = true) {x : FileEntry}
    (hx : t.Has dir names x) :
    ∃ y, u.Has dir names y ∧ Standing.of (some x) = Standing.of (some y) := by
  obtain ⟨e, he, hat⟩ := hx
  obtain ⟨e', he', hbelow⟩ := h.find hp he
  have hn := hbelow names
  rw [hat] at hn
  rcases hat' : at? e' names with _ | y
  · rw [hat'] at hn
    rcases x with _ | _ <;> cases hn
  · exact ⟨y, ⟨e', he', hat'⟩, hat' ▸ hn⟩

end FileTree
end Rehearsal
