import Mathlib.Data.List.TakeWhile
import Rehearsal.Setup

/-!
# Addresses that are joined

A path is put below an address with one slash between them, unless it is an address of its own. A
text that is more than slashes is a core with slashes on both sides (`exists_core`); what is dropped
at a seam are the slashes of the one side (`Core.trimTrailingSlashes`) and of the other
(`Core.dropWhile`), and the core stays. No join makes an address of its own of two paths that are
none: the two slashes after the scheme would have to come from the seam, which has one
(`isAbsoluteAddress_joinAddressText`). `joinAddress_laws` puts together what follows: joining is
associative, it does not see slashes at the seam, and below an address of its own it is idempotent.
-/

namespace Rehearsal

variable {a base core path p q r s t : List Char}

/-! ## Slashes at the ends -/

theorem exists_dropWhile_slashes (s : List Char) :
    ∃ n, s = List.replicate n '/' ++ s.dropWhile (· = '/') := by
  refine ⟨(s.takeWhile (· = '/')).length, ?_⟩
  have hslashes : s.takeWhile (· = '/') = List.replicate (s.takeWhile (· = '/')).length '/' := by
    rw [List.eq_replicate_iff]
    exact ⟨rfl, fun c hc => by simpa using List.all_eq_true.1 List.all_takeWhile c hc⟩
  rw [← hslashes, List.takeWhile_append_dropWhile]

/-- A text is one without slashes at its end and slashes. -/
theorem exists_trimTrailingSlashes (s : List Char) :
    ∃ n, s = trimTrailingSlashes s ++ List.replicate n '/' := by
  obtain ⟨n, hn⟩ := exists_dropWhile_slashes s.reverse
  refine ⟨n, ?_⟩
  rw [trimTrailingSlashes, ← List.reverse_replicate, ← List.reverse_append, ← hn,
    List.reverse_reverse]

theorem dropWhile_slashes_append (n : Nat) (s : List Char) :
    (List.replicate n '/' ++ s).dropWhile (· = '/') = s.dropWhile (· = '/') := by
  refine List.dropWhile_append_of_pos fun c hc => ?_
  simp [List.eq_of_mem_replicate hc]

theorem trimTrailingSlashes_append_slashes (s : List Char) (n : Nat) :
    trimTrailingSlashes (s ++ List.replicate n '/') = trimTrailingSlashes s := by
  unfold trimTrailingSlashes
  rw [List.reverse_append, List.reverse_replicate, dropWhile_slashes_append]

theorem head?_dropWhile_slashes (s : List Char) : (s.dropWhile (· = '/')).head? ≠ some '/' := by
  intro h
  have hnot := List.head?_dropWhile_not (fun c : Char => decide (c = '/')) s
  rw [h] at hnot
  exact absurd hnot (by decide)

theorem getLast?_trimTrailingSlashes (s : List Char) :
    (trimTrailingSlashes s).getLast? ≠ some '/' := by
  rw [trimTrailingSlashes, List.getLast?_reverse]
  exact head?_dropWhile_slashes s.reverse

/-! ## What is between the slashes -/

/-- A text that starts and ends with a character that is no slash. -/
structure Core (s : List Char) : Prop where
  first : ∃ c ∈ s.head?, c ≠ '/'
  last : ∃ c ∈ s.getLast?, c ≠ '/'

/-- A text that is more than slashes is a core with slashes on both sides. -/
theorem exists_core (h : ∃ c ∈ s, c ≠ '/') :
    ∃ i core j, Core core ∧ s = List.replicate i '/' ++ core ++ List.replicate j '/' := by
  obtain ⟨i, hi⟩ := exists_dropWhile_slashes s
  have hhead := head?_dropWhile_slashes s
  generalize s.dropWhile (· = '/') = rest at hi hhead
  obtain ⟨j, hj⟩ := exists_trimTrailingSlashes rest
  have hlast := getLast?_trimTrailingSlashes rest
  generalize trimTrailingSlashes rest = core at hj hlast
  subst hi hj
  refine ⟨i, core, j, ?_, (List.append_assoc ..).symm⟩
  cases core with
  | nil =>
    obtain ⟨c, hc, hne⟩ := h
    simp [List.mem_replicate, hne] at hc
  | cons c core =>
    refine ⟨⟨c, rfl, fun he => hhead (congrArg some he)⟩, ?_⟩
    obtain ⟨d, hd⟩ := Option.ne_none_iff_exists'.1
      (mt List.getLast?_eq_none_iff.1 (List.cons_ne_nil c core))
    exact ⟨d, hd, fun he => hlast (he ▸ hd)⟩

theorem Core.dropWhile (h : Core core) (n : Nat) (t : List Char) :
    (List.replicate n '/' ++ core ++ t).dropWhile (· = '/') = core ++ t := by
  obtain ⟨c, hc, hne⟩ := h.first
  obtain ⟨rest, rfl⟩ := List.head?_eq_some_iff.1 hc
  rw [List.append_assoc, dropWhile_slashes_append, List.cons_append,
    List.dropWhile_cons_of_neg (by simpa using hne)]

theorem Core.trimTrailingSlashes (h : Core core) (t : List Char) (n : Nat) :
    trimTrailingSlashes (t ++ core ++ List.replicate n '/') = t ++ core := by
  obtain ⟨c, hc, hne⟩ := h.last
  obtain ⟨front, rfl⟩ := List.getLast?_eq_some_iff.1 hc
  rw [trimTrailingSlashes_append_slashes, Rehearsal.trimTrailingSlashes, ← List.append_assoc,
    List.reverse_append, List.reverse_singleton, List.singleton_append,
    List.dropWhile_cons_of_neg (by simpa using hne), List.reverse_cons, List.reverse_reverse]

/-! ## Addresses of their own -/

theorem isAbsoluteAddress_iff : isAbsoluteAddress s = true ↔
    "http:".toList ++ ['/', '/'] <+: s ∨ "https:".toList ++ ['/', '/'] <+: s := by
  rw [isAbsoluteAddress, Bool.or_eq_true, List.isPrefixOf_iff_prefix, List.isPrefixOf_iff_prefix]
  rfl

theorem isAbsoluteAddress_append (h : isAbsoluteAddress s = true) (t : List Char) :
    isAbsoluteAddress (s ++ t) = true := by
  rw [isAbsoluteAddress_iff] at h ⊢
  exact h.imp (·.trans (List.prefix_append s t)) (·.trans (List.prefix_append s t))

/-- Two slashes after a text without any are not at a seam. -/
theorem prefix_of_prefix_seam (ha : '/' ∉ a) (ht : t.getLast? ≠ some '/') (hr : r.head? ≠ some '/')
    (h : a ++ ['/', '/'] <+: t ++ '/' :: r) : a ++ ['/', '/'] <+: t := by
  obtain ⟨rest, he⟩ := h
  have hsecond (hm : '/' :: r = ['/', '/'] ++ rest) : False := by
    rw [(List.cons.inj hm).2] at hr
    exact hr rfl
  rcases List.append_eq_append_iff.1 he with ⟨more, rfl, -⟩ | ⟨more, hs, hm⟩
  · exact List.prefix_append _ more
  -- Otherwise the seam's slash would be the second of the two, the first, or one before them.
  rcases List.append_eq_append_iff.1 hs with ⟨front, rfl, hf⟩ | ⟨back, rfl, rfl⟩
  · rcases List.eq_nil_or_concat front with rfl | ⟨front, c, rfl⟩
    · exact (hsecond (hf ▸ hm)).elim
    · have hc : c ∈ ['/', '/'] := by
        rw [hf]
        simp
      obtain rfl : c = '/' := by simpa using hc
      exact absurd (by simp) ht
  · cases back with
    | nil => exact (hsecond hm).elim
    | cons c back =>
      obtain rfl : '/' = c := (List.cons.inj hm).1
      exact absurd (by simp) ha

/-- Two paths that are no addresses of their own do not make one. -/
theorem isAbsoluteAddress_joinAddressText (hp : isAbsoluteAddress p = false)
    (hq : isAbsoluteAddress q = false) : isAbsoluteAddress (joinAddressText p q) = false := by
  rw [Bool.eq_false_iff, Ne, isAbsoluteAddress_iff] at hp ⊢
  rw [joinAddressText, hq]
  have hseam {a : List Char} (ha : '/' ∉ a)
      (h : a ++ ['/', '/'] <+: trimTrailingSlashes p ++ '/' :: q.dropWhile (· = '/')) :
      a ++ ['/', '/'] <+: p := by
    obtain ⟨n, hn⟩ := exists_trimTrailingSlashes p
    have htrim := prefix_of_prefix_seam ha (getLast?_trimTrailingSlashes p)
      (head?_dropWhile_slashes q) h
    rw [hn]
    exact htrim.trans (List.prefix_append _ _)
  exact fun h => hp (h.imp (hseam (by decide)) (hseam (by decide)))

theorem joinAddressText_of_relative (h : isAbsoluteAddress path = false) (base : List Char) :
    joinAddressText base path = trimTrailingSlashes base ++ '/' :: path.dropWhile (· = '/') := by
  rw [joinAddressText, h]
  rfl

theorem joinAddressText_of_absolute (h : isAbsoluteAddress path = true) (base : List Char) :
    joinAddressText base path = path := by
  rw [joinAddressText, h]
  rfl

/-! ## Laws -/

theorem joinAddressText_assoc (hp : isAbsoluteAddress p = false) (hq : isAbsoluteAddress q = false)
    (hsolid : ∃ c ∈ p, c ≠ '/') :
    joinAddressText (joinAddressText base p) q = joinAddressText base (joinAddressText p q) := by
  have hpq := isAbsoluteAddress_joinAddressText hp hq
  rw [joinAddressText_of_relative hpq, joinAddressText_of_relative hp,
    joinAddressText_of_relative hq, joinAddressText_of_relative hq]
  obtain ⟨i, core, j, hcore, rfl⟩ := exists_core hsolid
  generalize trimTrailingSlashes base = base
  generalize q.dropWhile (· = '/') = rest
  have hleft : trimTrailingSlashes (base ++ '/' ::
      (List.replicate i '/' ++ core ++ List.replicate j '/').dropWhile (· = '/')) =
      base ++ '/' :: core := by
    rw [hcore.dropWhile, List.append_cons, ← List.append_assoc, hcore.trimTrailingSlashes,
      ← List.append_cons]
  have hright : (trimTrailingSlashes (List.replicate i '/' ++ core ++ List.replicate j '/') ++
      '/' :: rest).dropWhile (· = '/') = core ++ '/' :: rest := by
    rw [hcore.trimTrailingSlashes, hcore.dropWhile]
  rw [hleft, hright, List.append_assoc, List.cons_append]

theorem joinAddressText_idem (hb : isAbsoluteAddress (trimTrailingSlashes base) = true) :
    joinAddressText base (joinAddressText base path) = joinAddressText base path := by
  refine joinAddressText_of_absolute ?_ base
  by_cases hp : isAbsoluteAddress path = true
  · rwa [joinAddressText_of_absolute hp]
  · rw [joinAddressText_of_relative (by simpa using hp)]
    exact isAbsoluteAddress_append hb _

/-- An address of its own with more than slashes after its scheme is still one without the slashes
at its end. -/
theorem isAbsoluteAddress_trimTrailingSlashes (scheme : List Char)
    (h : isAbsoluteAddress scheme = true) (hsolid : ∃ c ∈ s, c ≠ '/') :
    isAbsoluteAddress (trimTrailingSlashes (scheme ++ s)) = true := by
  obtain ⟨i, core, j, hcore, rfl⟩ := exists_core hsolid
  rw [← List.append_assoc, ← List.append_assoc, hcore.trimTrailingSlashes, List.append_assoc]
  exact isAbsoluteAddress_append h _

theorem toList_joinAddress (base path : String) :
    (joinAddress base path).toList = joinAddressText base.toList path.toList :=
  String.toList_ofList

/-- A text of slashes. -/
def slashes (n : Nat) : String := String.ofList (List.replicate n '/')

theorem toList_slashes_append (n : Nat) (s : String) :
    (slashes n ++ s).toList = List.replicate n '/' ++ s.toList := by
  rw [slashes, String.toList_append, String.toList_ofList]

theorem joinAddress_append_slashes (b p : String) (n : Nat) :
    joinAddress (b ++ slashes n) p = joinAddress b p := by
  unfold joinAddress joinAddressText
  rw [String.toList_append, slashes, String.toList_ofList, trimTrailingSlashes_append_slashes]

theorem joinAddress_slashes_append (b : String) {p : String}
    (hp : isAbsoluteAddress p.toList = false) (n : Nat) :
    joinAddress b (slashes n ++ p) = joinAddress b p := by
  have hadded : isAbsoluteAddress (List.replicate n '/' ++ p.toList) = false := by
    cases n with
    | zero => exact hp
    | succ n => rfl
  rw [joinAddress, joinAddress, toList_slashes_append, joinAddressText_of_relative hadded,
    joinAddressText_of_relative hp, dropWhile_slashes_append]

/-- **Laws of joining.**

* Joining is associative for paths that are no addresses of their own, if the one in the middle is
  more than slashes; two such paths joined are no address of their own either.
* Slashes at the end of the address make no difference, nor do those at the start of a path that is
  no address of its own.
* Below an address that is more than slashes after its scheme, joining again changes nothing. -/
theorem joinAddress_laws (b p q : String) :
    (isAbsoluteAddress p.toList = false → isAbsoluteAddress q.toList = false →
      isAbsoluteAddress (joinAddress p q).toList = false ∧
      ((∃ c ∈ p.toList, c ≠ '/') →
        joinAddress (joinAddress b p) q = joinAddress b (joinAddress p q))) ∧
    (∀ n, joinAddress (b ++ slashes n) p = joinAddress b p) ∧
    (∀ n, isAbsoluteAddress p.toList = false →
      joinAddress b (slashes n ++ p) = joinAddress b p) ∧
    (∀ scheme ∈ ["http://", "https://"], ∀ rest : String, b = scheme ++ rest →
      (∃ c ∈ rest.toList, c ≠ '/') → joinAddress b (joinAddress b p) = joinAddress b p) := by
  refine ⟨fun hp hq => ⟨?_, fun hsolid => ?_⟩, joinAddress_append_slashes b p,
    fun n hp => joinAddress_slashes_append b hp n, fun scheme hscheme rest hb hsolid => ?_⟩
  · rw [toList_joinAddress]
    exact isAbsoluteAddress_joinAddressText hp hq
  · rw [← String.toList_inj]
    simp only [toList_joinAddress, joinAddressText_assoc hp hq hsolid]
  · have habsolute : ∀ scheme ∈ ["http://", "https://"],
        isAbsoluteAddress scheme.toList = true := by decide
    have htrim : isAbsoluteAddress (trimTrailingSlashes b.toList) = true := by
      rw [hb, String.toList_append]
      exact isAbsoluteAddress_trimTrailingSlashes scheme.toList (habsolute scheme hscheme) hsolid
    rw [← String.toList_inj]
    simp only [toList_joinAddress, joinAddressText_idem htrim]

theorem joinAddress_laws_seam :
    joinAddress (joinAddress "http://[::1]//" "http:/") "//x" =
        joinAddress "http://[::1]//" (joinAddress "http:/" "//x") ∧
      joinAddress ("http://[::1]" ++ slashes 2) "http:/" = joinAddress "http://[::1]" "http:/" ∧
      joinAddress "http://[::1]//" (slashes 2 ++ "http:/") = joinAddress "http://[::1]//" "http:/" ∧
      joinAddress "http://[::1]//" (joinAddress "http://[::1]//" "http:/") =
        joinAddress "http://[::1]//" "http:/" := by
  obtain ⟨hassoc, -, hstart, hidem⟩ := joinAddress_laws "http://[::1]//" "http:/" "//x"
  refine ⟨(hassoc rfl rfl).2 ⟨'h', ?_, ?_⟩, (joinAddress_laws "http://[::1]" "http:/" "").2.1 2,
    hstart 2 rfl, hidem "http://" ?_ "[::1]//" rfl ⟨':', ?_, ?_⟩⟩ <;> decide

/-- The join of a scheme without its slashes and a path does not become an address of its own. -/
example : joinAddress "http:/" "//x" = "http:/x" := by decide

end Rehearsal
