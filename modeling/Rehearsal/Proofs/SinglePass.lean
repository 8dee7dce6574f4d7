import Mathlib.Data.List.Find
import Rehearsal.Proofs.Expansion

/-!
# Placeholders replaced in one pass

Placeholders are replaced pass by pass, and each pass reads what the passes before it put in.
`Text.replaceEach` is the substitution without that: one pass from left to right that puts the value
of whatever token begins at a place, and reads nothing that it put in. `Text.foldl_replaceAll` says
when the two agree: no value takes part in an occurrence of a token that is replaced after it, and
no token starts in another one. One pass is taken off the table at a time
(`Text.replaceEach_cons`); the induction is on the length of the text.

`Placeholders.expand_single_pass` puts this to use. A value without braces can only stand inside an
occurrence as a whole, so one character that no name has keeps it out of all of them; the letters of
a run have none, and are kept out because no name that comes later has so many letters in a row.
-/

namespace Rehearsal

namespace Text

/-- The text with the value of the first entry of a table whose token begins at a place, for each
such place; `skip` characters belong to a token that was already replaced. -/
def replaceEachFrom (table : List (List Char × List Char)) : Nat → List Char → List Char
  | _, [] => []
  | skip + 1, _ :: r => replaceEachFrom table skip r
  | 0, c :: r =>
    match table.find? fun e => e.1.isPrefixOf (c :: r) with
    | some (token, value) => value ++ replaceEachFrom table (token.length - 1) r
    | none => c :: replaceEachFrom table 0 r

/-- The text with their values for all tokens of a table, in one pass from left to right. -/
def replaceEach (table : List (List Char × List Char)) (s : List Char) : List Char :=
  replaceEachFrom table 0 s

section
variable {table : List (List Char × List Char)} {token value part new s t : List Char}

theorem replaceEachFrom_length (u : List Char) (t : List Char) :
    replaceEachFrom table u.length (u ++ t) = replaceEach table t := by
  induction u with
  | nil => rfl
  | cons c u ih => exact ih

theorem replaceEach_nil (s : List Char) : replaceEach [] s = s := by
  induction s with
  | nil => rfl
  | cons c r ih =>
    rw [replaceEach] at ih ⊢
    rw [replaceEachFrom, List.find?_nil, ih]

theorem replaceEach_of_none {c : Char}
    (h : table.find? (fun e => e.1.isPrefixOf (c :: s)) = none) :
    replaceEach table (c :: s) = c :: replaceEach table s := by
  rw [replaceEach, replaceEachFrom, h, replaceEach]

theorem replaceEach_of_some (hne : token ≠ [])
    (h : table.find? (fun e => e.1.isPrefixOf (token ++ s)) = some (token, value)) :
    replaceEach table (token ++ s) = value ++ replaceEach table s := by
  obtain ⟨a, p, rfl⟩ := List.exists_cons_of_ne_nil hne
  rw [List.cons_append] at h ⊢
  rw [replaceEach, replaceEachFrom, h]
  simp only [List.length_cons, Nat.add_sub_cancel, replaceEachFrom_length]

/-- A text in which no token starts is copied. -/
theorem replaceEach_of_not_mayStart (h : ∀ e ∈ table, mayStart e.1 s = false) (t : List Char) :
    replaceEach table (s ++ t) = s ++ replaceEach table t := by
  induction s with
  | nil => rfl
  | cons c r ih =>
    have hnone : table.find? (fun e => e.1.isPrefixOf (c :: (r ++ t))) = none := by
      rw [List.find?_eq_none]
      intro e he hp
      obtain ⟨u, hu⟩ := List.isPrefixOf_iff_prefix.1 hp
      have hd := (mayStart_cons (h e he) t).1
      rw [dropBeginning?_eq_some.2 hu.symm] at hd
      cases hd
    rw [List.cons_append, replaceEach_of_none hnone,
      ih fun e he => (mayStart_cons (h e he) t).2, List.cons_append]

/-! ## One pass after another -/

theorem replaceAll_cons_of_not_begins {c : Char} (h : ¬ part <+: c :: s) :
    replaceAll part new (c :: s) = c :: replaceAll part new s := by
  have hd : dropBeginning? part (c :: s) = none := by
    cases hd : dropBeginning? part (c :: s) with
    | none => rfl
    | some u => exact absurd ⟨u, (dropBeginning?_eq_some.1 hd).symm⟩ h
  rw [replaceAll, replaceFrom, hd, replaceAll]

/-- The end of a token, with which a text begins after a pass, was there before the pass, if what
the pass puts in takes part in no occurrence of the token. -/
theorem prefix_of_prefix_replaceAll (hp : part ≠ []) (ha : ∀ t, Apart token (new ++ t)) :
    ∀ (s x y : List Char), token = x ++ y → x ≠ [] → y <+: replaceAll part new s → y <+: s
  | _, _, [], _, _, _ => List.nil_prefix
  | [], _, d :: y, _, _, h => h
  | c :: s, x, d :: y, he, hx, h => by
    by_cases hs : part <+: c :: s
    · -- the value begins here, and the token would reach into it
      obtain ⟨u, hu⟩ := hs
      rw [← hu, replaceAll_self hp] at h
      exact absurd h (ha _ x (d :: y) he hx (List.cons_ne_nil d y))
    · rw [replaceAll_cons_of_not_begins hs, List.cons_prefix_cons] at h
      obtain ⟨rfl, h⟩ := h
      have he' : token = (x ++ [d]) ++ y := by rw [he, List.append_assoc]; rfl
      have hy := prefix_of_prefix_replaceAll hp ha s (x ++ [d]) y he' (by simp) h
      exact List.cons_prefix_cons.2 ⟨rfl, hy⟩

/-- Where a pass replaces nothing at the beginning of a text, the text begins with the same tokens
before and after it. -/
theorem prefix_replaceAll_iff (hp : part ≠ []) (ht : token ≠ []) (hv : Inert token new)
    (hm : mayStart part token = false) {c : Char} (hs : ¬ part <+: c :: s) :
    token <+: replaceAll part new (c :: s) ↔ token <+: c :: s := by
  constructor
  · intro h
    obtain ⟨a, y, rfl⟩ := List.exists_cons_of_ne_nil ht
    rw [replaceAll_cons_of_not_begins hs, List.cons_prefix_cons] at h
    exact List.cons_prefix_cons.2 ⟨h.1,
      prefix_of_prefix_replaceAll hp hv.apart s [a] y rfl (List.cons_ne_nil a []) h.2⟩
  · rintro ⟨u, hu⟩
    rw [← hu, replaceAll_of_not_mayStart hm]
    exact List.prefix_append token _

/-- Replacing the tokens of a table and one more in one pass is replacing that one first. -/
theorem replaceEach_cons (hp : part ≠ [])
    (h : ∀ e ∈ table, e.1 ≠ [] ∧ Inert e.1 new ∧ mayStart part e.1 = false) (s : List Char) :
    replaceEach ((part, new) :: table) s = replaceEach table (replaceAll part new s) := by
  induction hn : s.length using Nat.strongRecOn generalizing s with
  | ind n ih =>
    cases s with
    | nil => rfl
    | cons c r =>
      by_cases hs : part <+: c :: r
      · obtain ⟨u, hu⟩ := hs
        have hlen : u.length < n := by
          have := congrArg List.length hu
          have := List.length_pos_iff.2 hp
          simp only [List.length_append, List.length_cons] at *
          omega
        have hfind : List.find? (fun e => e.1.isPrefixOf (part ++ u)) ((part, new) :: table) =
            some (part, new) :=
          List.find?_cons_of_pos (List.isPrefixOf_iff_prefix.2 (List.prefix_append part u))
        rw [← hu, replaceEach_of_some hp hfind, replaceAll_self hp,
          replaceEach_of_not_mayStart (fun e he => (h e he).2.1.start), ih u.length hlen u rfl]
      · have hskip : List.find? (fun e => e.1.isPrefixOf (c :: r)) ((part, new) :: table) =
            table.find? fun e => e.1.isPrefixOf (c :: r) := by
          refine List.find?_cons_of_neg ?_
          rwa [List.isPrefixOf_iff_prefix]
        have hsame : table.find? (fun e => e.1.isPrefixOf (replaceAll part new (c :: r))) =
            table.find? fun e => e.1.isPrefixOf (c :: r) := by
          refine List.find?_congr fun e he => ?_
          obtain ⟨hne, hv, hm⟩ := h e he
          rw [Bool.eq_iff_iff, List.isPrefixOf_iff_prefix, List.isPrefixOf_iff_prefix]
          exact prefix_replaceAll_iff hp hne hv hm hs
        rcases hf : table.find? (fun e => e.1.isPrefixOf (c :: r)) with _ | ⟨token, value⟩
        · have hlen : r.length < n := by
            rw [← hn]
            exact Nat.lt_succ_self _
          rw [replaceEach_of_none (hskip.trans hf), ih r.length hlen r rfl]
          rw [hf, replaceAll_cons_of_not_begins hs] at hsame
          rw [replaceAll_cons_of_not_begins hs, replaceEach_of_none hsame]
        · have hmem := List.mem_of_find?_eq_some hf
          obtain ⟨hne, -, hm⟩ := h _ hmem
          have hpre := List.find?_some hf
          obtain ⟨u, hu⟩ := List.isPrefixOf_iff_prefix.1 hpre
          have hlen : u.length < n := by
            have := congrArg List.length hu
            have := List.length_pos_iff.2 hne
            simp only [List.length_append, List.length_cons] at *
            omega
          rw [hf] at hskip hsame
          rw [← hu] at hskip hsame ⊢
          rw [replaceAll_of_not_mayStart hm] at hsame ⊢
          rw [replaceEach_of_some hne hskip, replaceEach_of_some hne hsame,
            ih u.length hlen u rfl]

/-- No value of a table takes part in an occurrence of a token after it, and no token starts in one
after it. -/
def Separate (table : List (List Char × List Char)) : Prop :=
  table.Pairwise fun a b => Inert b.1 a.2 ∧ mayStart a.1 b.1 = false

/-- Replacing the tokens of a separate table one after the other is replacing them in one pass. -/
theorem foldl_replaceAll {table : List (List Char × List Char)} (h : Separate table)
    (hne : ∀ e ∈ table, e.1 ≠ []) (s : List Char) :
    table.foldl (fun s e => replaceAll e.1 e.2 s) s = replaceEach table s := by
  induction table generalizing s with
  | nil => exact (replaceEach_nil s).symm
  | cons e table ih =>
    obtain ⟨he, hrest⟩ := List.pairwise_cons.1 h
    obtain ⟨hpart, hne⟩ := List.forall_mem_cons.1 hne
    rw [List.foldl_cons, ih hrest hne]
    exact (replaceEach_cons hpart (fun b hb => ⟨hne b hb, (he b hb).1, (he b hb).2⟩) s).symm

end

end Text

namespace Placeholders

open Text

/-- A character of the names of placeholders. -/
def isNameChar (c : Char) : Bool := c.isLower || c = '_'

/-- The placeholders that have a value, as they are written, with their values. -/
def table (p : Placeholders) : List (List Char × List Char) :=
  p.values.filterMap fun (name, value) => value.map fun v => (token name, v.toList)

/-- Values that leave all placeholders alone: they have no braces, and each has a character that no
name has, but for the letters of the run, which are many, and the key of the course, which is put in
last. -/
structure Plain (p : Placeholders) : Prop where
  braceless : ∀ e ∈ p.values, ∀ v ∈ e.2, '\x7b' ∉ v.toList ∧ '\x7d' ∉ v.toList
  marked : ∀ e ∈ p.values, ∀ v ∈ e.2, e.1 = "unique" ∨ e.1 = "course_key" ∨
    ∃ c ∈ v.toList, isNameChar c = false
  unique : Lettered p.unique.toList

theorem expandText_eq_foldl (p : Placeholders) (s : List Char) :
    p.expandText s = p.table.foldl (fun s e => replaceAll e.1 e.2 s) s := by
  rw [expandText_eq, table]
  induction p.values generalizing s with
  | nil => rfl
  | cons e values ih =>
    obtain ⟨name, value⟩ := e
    cases value with
    | none => exact ih s
    | some v => exact ih (replaceAll (token name) v.toList s)

/-- A value without braces that has a character which no name has takes part in no placeholder. -/
theorem inert_of_marked {name : String} (hn : ∀ c ∈ name.toList, isNameChar c = true)
    {v : List Char} (hb : '\x7b' ∉ v ∧ '\x7d' ∉ v) (hm : ∃ c ∈ v, isNameChar c = false) :
    Inert (token name) v := by
  refine ⟨mayStart_of_not_mem hb.1, fun t x y hxy hx hy hp => ?_⟩
  obtain ⟨d, x, rfl⟩ := List.exists_cons_of_ne_nil hx
  have hname : name.toList ++ ['\x7d'] = x ++ y := (List.cons.inj hxy).2
  rcases List.prefix_or_prefix_of_prefix hp (List.prefix_append v t) with hyv | hvy
  · exact hb.2 (hyv.subset (closing_mem_of_token hxy hy))
  · obtain ⟨c, hc, hmark⟩ := hm
    have hmem : c ∈ name.toList ++ ['\x7d'] := by
      rw [hname]
      exact List.mem_append_right x (hvy.subset hc)
    rcases List.mem_append.1 hmem with hcn | hcb
    · rw [hn c hcn] at hmark
      cases hmark
    · exact hb.2 (List.mem_singleton.1 hcb ▸ hc)

/-- The names of placeholders, in the order in which they are replaced. -/
theorem map_fst_values (p : Placeholders) :
    p.values.map Prod.fst = earlier ++ ["course_key"] := rfl

theorem pairwise_names : (earlier ++ ["course_key"]).Pairwise fun a b =>
    mayStart (token a) (token b) = false ∧ b.toList.all isNameChar = true ∧
      a ≠ "course_key" ∧ (a = "unique" → b ∈ ["demo_course_id", "mail", "course_key"]) := by
  decide +kernel

theorem Plain.separate {p : Placeholders} (h : p.Plain) : Separate p.table := by
  have hnames := pairwise_names
  rw [← map_fst_values p, List.pairwise_map] at hnames
  refine List.Pairwise.filterMap _ ?_ (hnames.imp_of_mem (S := fun a b => ∀ v ∈ a.2,
    Inert (token b.1) v.toList ∧ mayStart (token a.1) (token b.1) = false) ?_)
  · rintro ⟨a, va⟩ ⟨b, vb⟩ hab x hx y hy
    obtain ⟨v, rfl, rfl⟩ := Option.map_eq_some_iff.1 hx
    obtain ⟨w, rfl, rfl⟩ := Option.map_eq_some_iff.1 hy
    exact hab v rfl
  · rintro ⟨a, va⟩ ⟨b, vb⟩ ha - ⟨hstart, hb, hlast, hunique⟩ v hv
    refine ⟨?_, hstart⟩
    rcases h.marked _ ha v hv with rfl | rfl | hm
    · obtain rfl : va = some p.unique := by simpa [values] using ha
      cases hv
      exact h.unique.inert (hunique rfl)
    · exact absurd rfl hlast
    · exact inert_of_marked (List.all_eq_true.1 hb) (h.braceless _ ha v hv) hm

/-- **Passes are one pass.** With plain values, whatever the text and however its braces stand,
replacing the placeholders one name after the other gives what one pass from left to right gives
that puts the value of each placeholder which has one and copies all the rest. -/
theorem expand_single_pass {p : Placeholders} (h : p.Plain) (text : String) :
    p.expand text = String.ofList (replaceEach p.table text.toList) := by
  have hne : ∀ e ∈ p.table, e.1 ≠ [] := by
    intro e he
    obtain ⟨⟨name, value⟩, -, hv⟩ := List.mem_filterMap.1 he
    obtain ⟨v, -, rfl⟩ := Option.map_eq_some_iff.1 hv
    exact List.cons_ne_nil _ _
  rw [expand, expandText_eq_foldl, foldl_replaceAll h.separate hne]

/-- The placeholders of a setup with a course but without a place for mail. -/
def ofDemo : Placeholders :=
  .ofSetup { lms := "http://lms.localhost/", demoCourse := some "course-v1:edX+DemoX" } "abcdefghij"

theorem expand_single_pass_nested : ofDemo.Plain ∧
    ofDemo.expand "\x7bc\x7blms\x7d\x7d\x7bun\x7bstaff_email\x7d\x7bdemo_course_id\x7d\x7bmail\x7d\x7b" =
      "\x7bchttp://lms.localhost\x7d\x7bunstaff@example.comcourse-v1:edX+DemoX\x7bmail\x7d\x7b" := by
  have hmarked : ∀ e ∈ ofDemo.values, ∀ v ∈ e.2, e.1 = "unique" ∨ e.1 = "course_key" ∨
      v.toList.any (fun c => !isNameChar c) = true := by decide +kernel
  have hletters : ofDemo.unique.toList.all Char.isLower = true := by decide +kernel
  have h : ofDemo.Plain := by
    refine ⟨by decide +kernel, fun e he v hv => ?_, ?_, by decide +kernel⟩
    · simpa using hmarked e he v hv
    · simpa using hletters
  refine ⟨h, ?_⟩
  rw [expand_single_pass h]
  decide +kernel

end Placeholders
end Rehearsal
