import Mathlib.Data.List.TakeWhile
import Rehearsal.Proofs.Runs
import Rehearsal.Url.Basic

/-!
# URLs that go on

What stands before a path or a query is read without regard to it. The authority of a URL ends
where a slash, a question mark or a number sign starts what follows, so whether a text is a URL does
not depend on what follows there (`parseFrom_goesOn`), and its query is what stands after the first
question mark (`parseFrom_query`). Each part of the parser has a lemma about a text with more after
it, in the order in which the parts are read.
-/

namespace Rehearsal.Url

open Text

/-! ## What cleaning leaves -/

/-- A character that is dropped at the ends of a text. -/
def isOuter (c : Char) : Bool := c.toNat ≤ 32

/-- A character that is not dropped everywhere: no tab and no line break. -/
def isKept (c : Char) : Bool := c ≠ '\t' && c ≠ '\n' && c ≠ '\r'

/-- A text as it is read in front of others. -/
def opening (s : List Char) : List Char := (s.dropWhile isOuter).filter isKept

/-- A text as it is read after others. -/
def closing (s : List Char) : List Char := ((s.reverse.dropWhile isOuter).reverse).filter isKept

variable {s y : List Char} {c : Char}

theorem drop_length_takeWhile (p : Char → Bool) (s : List Char) :
    s.drop (s.takeWhile p).length = s.dropWhile p := by
  induction s with
  | nil => rfl
  | cons c s ih => by_cases h : p c <;> simp [h, ih]

theorem takeWhile_append_of_head {p : Char → Bool} (hy : ∀ c, y.head? = some c → p c = false) :
    (s ++ y).takeWhile p = s.takeWhile p := by
  induction s with
  | nil => cases y <;> simp_all
  | cons c s ih => by_cases h : p c <;> simp [h, ih]

theorem dropWhile_append_of_head {p : Char → Bool} (hy : ∀ c, y.head? = some c → p c = false) :
    (s ++ y).dropWhile p = s.dropWhile p ++ y := by
  induction s with
  | nil => cases y <;> simp_all
  | cons c s ih => by_cases h : p c <;> simp [h, ih]

theorem takeWhile_append_stop {p : Char → Bool} {a : List Char} (ha : ∀ c ∈ a, p c = true)
    (hy : ∀ c, y.head? = some c → p c = false) : (a ++ y).takeWhile p = a := by
  rw [takeWhile_append_of_head hy, List.takeWhile_eq_self_iff.2 ha]

theorem isKept_of_lt (hc : 32 < c.toNat) : isKept c = true := by
  have : ∀ d : Char, d.toNat ≤ 32 → c ≠ d := by
    rintro d hd rfl
    omega
  simp [isKept, this '\t' (by decide), this '\n' (by decide), this '\r' (by decide)]

theorem opening_append (hc : 32 < c.toNat) :
    opening (s ++ c :: y) = opening s ++ c :: y.filter isKept := by
  rw [opening, dropWhile_append_of_head (by simpa [isOuter] using hc), List.filter_append,
    List.filter_cons_of_pos (isKept_of_lt hc), opening]

/-- A character that is no blank separates what is read in front of it from what is read after
it. -/
theorem clean_append (hc : 32 < c.toNat) : clean (s ++ c :: y) = opening s ++ c :: closing y := by
  have houter : ∀ r d, (c :: r).head? = some d → isOuter d = false := by
    rintro r d ⟨⟩
    simpa [isOuter] using hc
  have he : clean (s ++ c :: y) = (((s ++ c :: y).dropWhile isOuter).reverse.dropWhile
      isOuter).reverse.filter isKept := rfl
  rw [he, dropWhile_append_of_head (houter y), List.reverse_append, List.reverse_cons,
    List.append_assoc, List.singleton_append, dropWhile_append_of_head (houter _),
    List.reverse_append, List.reverse_cons, List.reverse_reverse, List.append_assoc,
    List.singleton_append, List.filter_append, List.filter_cons_of_pos (isKept_of_lt hc)]
  rfl

/-- A text that, tabs and line breaks aside, does not end with a blank or a control character. -/
def IsTrimmed (s : List Char) : Prop := ∀ c, (s.filter isKept).getLast? = some c → 32 < c.toNat

/-- What is read of a text in front of others is what is read of it alone, and then the blanks at
its end. -/
theorem exists_opening (s : List Char) :
    ∃ w, opening s = clean s ++ w ∧ (IsTrimmed s → w = []) := by
  have hsplit : s.dropWhile isOuter = ((s.dropWhile isOuter).reverse.dropWhile isOuter).reverse ++
      ((s.dropWhile isOuter).reverse.takeWhile isOuter).reverse := by
    rw [← List.reverse_append, List.takeWhile_append_dropWhile, List.reverse_reverse]
  obtain ⟨u, w, ht, hw, hu⟩ : ∃ u w, s.dropWhile isOuter = u ++ w ∧ (∀ c ∈ w, isOuter c = true) ∧
      clean s = u.filter isKept :=
    ⟨_, _, hsplit, fun c hc => List.all_eq_true.1 List.all_takeWhile c (List.mem_reverse.1 hc), rfl⟩
  refine ⟨w.filter isKept, by rw [hu, opening, ht, List.filter_append], fun h => ?_⟩
  -- a character of `w` that is kept would be the last one of `s`
  by_contra hne
  have hs : s.filter isKept = (s.takeWhile isOuter ++ u).filter isKept ++ w.filter isKept := by
    rw [← List.filter_append, List.append_assoc, ← ht, List.takeWhile_append_dropWhile]
  have hlast : 32 < ((w.filter isKept).getLast hne).toNat :=
    h _ (by rw [hs, List.getLast?_append_of_ne_nil _ hne, List.getLast?_eq_some_getLast hne])
  have hblank := hw _ (List.mem_filter.1 (List.getLast_mem hne)).1
  rw [isOuter, decide_eq_true_eq] at hblank
  omega

/-! ## Schemes -/

theorem scheme?_eq_some {scheme r : List Char} : scheme? s = some (scheme, r) ↔
    ∃ name : List Char, (∀ c ∈ name, isSchemeChar c = true) ∧
      (∃ c, name.head? = some c ∧ c.isAlpha = true) ∧ scheme = name.map Char.toLower ∧
      s = name ++ ':' :: r := by
  constructor
  · intro h
    simp only [scheme?, drop_length_takeWhile] at h
    split at h
    · rename_i c r' hhead hrest
      split at h
      · rename_i halpha
        cases h
        refine ⟨_, fun c hc => List.all_eq_true.1 List.all_takeWhile c hc, ⟨c, hhead, halpha⟩,
          rfl, ?_⟩
        rw [← hrest, List.takeWhile_append_dropWhile]
      · cases h
    · cases h
  · rintro ⟨name, hname, ⟨c, hc, halpha⟩, rfl, rfl⟩
    have htake : (name ++ ':' :: r).takeWhile isSchemeChar = name :=
      takeWhile_append_stop hname (by rintro c ⟨⟩; decide)
    simp [scheme?, htake, hc, halpha]

/-- The scheme of a text does not depend on what follows after its colon. -/
theorem scheme?_append {scheme r : List Char} (h : scheme? (s ++ y) = some (scheme, r))
    (hy : ∀ c, y.head? = some c → isSchemeChar c = false ∧ c ≠ ':') :
    ∃ r', r = r' ++ y ∧ r' <:+ s ∧ ∀ y', scheme? (s ++ y') = some (scheme, r' ++ y') := by
  obtain ⟨name, hname, hhead, rfl, he⟩ := scheme?_eq_some.1 h
  rcases List.append_eq_append_iff.1 he with ⟨t, ht, hyt⟩ | ⟨t, rfl, ht⟩
  · -- the colon cannot stand in `y`
    exfalso
    cases t with
    | nil =>
      rw [List.nil_append] at hyt
      exact (hy ':' (by rw [hyt]; rfl)).2 rfl
    | cons c t =>
      have hc := hname c (by rw [ht]; simp)
      rw [(hy c (by rw [hyt]; rfl)).1] at hc
      cases hc
  · cases t with
    | nil =>
      exfalso
      rw [List.nil_append] at ht
      exact (hy ':' (by rw [← ht]; rfl)).2 rfl
    | cons c t =>
      obtain ⟨rfl, rfl⟩ := List.cons.inj ht
      refine ⟨t, rfl, ⟨name ++ [':'], by simp⟩, fun y' => scheme?_eq_some.2 ⟨name, hname, hhead,
        rfl, ?_⟩⟩
      rw [List.append_assoc, List.cons_append]

/-! ## Authorities -/

/-- What follows an authority: nothing, or something that starts with a character that ends it. -/
def Ends (special : Bool) (y : List Char) : Prop :=
  ∀ c, y.head? = some c → endsAuthority special c = true

variable {special : Bool} {a scheme : List Char}

theorem Ends.mono {special' : Bool} (hy : Ends special y) (h : special = true → special' = true) :
    Ends special' y := by
  intro c hc
  have := hy c hc
  simp only [endsAuthority, Bool.or_eq_true, Bool.and_eq_true, decide_eq_true_eq] at this ⊢
  tauto

theorem takeWhile_authority (ha : ∀ c ∈ a, endsAuthority special c = false) (hy : Ends special y) :
    (a ++ y).takeWhile (fun c => !endsAuthority special c) = a :=
  takeWhile_append_stop (fun c hc => by simp [ha c hc]) fun c hc => by simp [hy c hc]

/-- The user information of an authority does not depend on what follows, unless the authority is
an at-sign alone. -/
theorem userInfo_append (ha : ∀ c ∈ a, endsAuthority special c = false) (hy : Ends special y)
    (hat : a = ['@'] → y = []) :
    userInfo special (a ++ y) = (userInfo special a).map fun (n, p, t) => (n, p, t ++ y) := by
  have htake := takeWhile_authority ha hy
  have htake' := takeWhile_authority ha (show Ends special [] by rintro c ⟨⟩)
  rw [List.append_nil] at htake'
  simp only [userInfo, htake, htake', List.drop_left, List.drop_length]
  split
  · rfl
  · rename_i x info hinfo
    split
    · rename_i hempty
      obtain rfl : info = [] := by simpa using hempty
      have hback : a.reverse.takeWhile (· ≠ '@') ++ a.reverse.dropWhile (· ≠ '@') = a.reverse :=
        List.takeWhile_append_dropWhile
      have hx : x = '@' := by
        have := List.head?_dropWhile_not (fun c => decide (c ≠ '@')) a.reverse
        rw [hinfo] at this
        simpa using this
      rcases hhost : a.reverse.takeWhile (· ≠ '@') with _ | ⟨d, host⟩
      · have hya : y = [] := by
          refine hat (List.reverse_injective ?_)
          rw [← hback, hinfo, hhost, hx]
          rfl
        subst hya
        rfl
      · rcases hrev : (d :: host).reverse with _ | ⟨e, rest⟩
        · simp at hrev
        · simp [Except.map]
    · simp [Except.map]

/-- The user information stands in front of the rest of its authority. -/
theorem userInfo_ok {n t : List Char} {p : Option (List Char)}
    (h : userInfo special s = .ok (n, p, t)) :
    ∃ before, s = before ++ t ∧ ∀ c ∈ before, endsAuthority special c = false := by
  have hsplit : s.takeWhile (fun c => !endsAuthority special c) ++
      s.dropWhile (fun c => !endsAuthority special c) = s := List.takeWhile_append_dropWhile
  have hfree : ∀ c ∈ s.takeWhile (fun c => !endsAuthority special c),
      endsAuthority special c = false := fun c hc => by
    simpa using List.all_eq_true.1 List.all_takeWhile c hc
  simp only [userInfo, drop_length_takeWhile] at h
  generalize s.takeWhile (fun c => !endsAuthority special c) = a at h hsplit hfree
  generalize s.dropWhile (fun c => !endsAuthority special c) = y at h hsplit
  have hback : a.reverse.takeWhile (· ≠ '@') ++ a.reverse.dropWhile (· ≠ '@') = a.reverse :=
    List.takeWhile_append_dropWhile
  have ha : a =
      (a.reverse.dropWhile (· ≠ '@')).reverse ++ (a.reverse.takeWhile (· ≠ '@')).reverse := by
    rw [← List.reverse_append, hback, List.reverse_reverse]
  have hrest : ∀ t, t = (a.reverse.takeWhile (· ≠ '@')).reverse ++ y →
      ∃ before, s = before ++ t ∧ ∀ c ∈ before, endsAuthority special c = false := by
    rintro t rfl
    refine ⟨(a.reverse.dropWhile (· ≠ '@')).reverse, ?_, fun c hc => hfree c ?_⟩
    · rw [← List.append_assoc, ← ha, hsplit]
    · rw [ha]
      exact List.mem_append_left _ hc
  split at h
  · cases h
    exact ⟨[], rfl, fun _ hc => nomatch hc⟩
  · split at h
    · split at h
      · cases h
      · cases h
        exact hrest _ rfl
    · cases h
      exact hrest _ rfl

theorem hostText_append (hy : Ends special y) {inBrackets : Bool} {h t : List Char}
    (hs : hostText special inBrackets s = (h, t)) :
    hostText special inBrackets (s ++ y) = (h, t ++ y) := by
  induction s generalizing inBrackets h t with
  | nil =>
    cases hs
    cases y with
    | nil => rfl
    | cons c y => simp [hostText, hy c rfl]
  | cons c s ih =>
    simp only [hostText] at hs
    split at hs
    · rename_i hc
      cases hs
      exact if_pos hc
    · rename_i hc
      cases hs
      rw [List.cons_append]
      simp only [hostText, if_neg hc]
      rw [ih rfl]

/-- The host stands in front, has no character that ends an authority, and goes up to a colon or to
such a character. -/
theorem hostText_eq {inBrackets : Bool} {h t : List Char}
    (hs : hostText special inBrackets s = (h, t)) :
    s = h ++ t ∧ (∀ c ∈ h, endsAuthority special c = false) ∧
      ∀ c, t.head? = some c → c = ':' ∨ endsAuthority special c = true := by
  induction s generalizing inBrackets h t with
  | nil =>
    cases hs
    exact ⟨rfl, fun _ hc => (nomatch hc), fun _ hc => nomatch hc⟩
  | cons c s ih =>
    simp only [hostText] at hs
    split at hs
    · rename_i hc
      cases hs
      refine ⟨rfl, fun _ hc => (nomatch hc), ?_⟩
      rintro d ⟨⟩
      simp only [Bool.or_eq_true, Bool.and_eq_true, decide_eq_true_eq] at hc
      exact hc.imp_left And.left
    · rename_i hc
      cases hs
      obtain ⟨he, hfree, hstop⟩ := ih rfl
      refine ⟨congrArg (c :: ·) he, List.forall_mem_cons.2 ⟨?_, hfree⟩, hstop⟩
      simp only [Bool.or_eq_true, not_or, Bool.not_eq_true] at hc
      exact hc.2

theorem portText_append (hy : Ends true y) :
    portText scheme (s ++ y) = (portText scheme s).map fun (port, t) => (port, t ++ y) := by
  have hdigit : ∀ c, y.head? = some c → isDigit c = false := by
    intro c hc
    have hends := hy c hc
    simp only [endsAuthority, Bool.true_and, Bool.or_eq_true, decide_eq_true_eq] at hends
    rcases hends with ((rfl | rfl) | rfl) | rfl <;> decide
  simp only [portText, drop_length_takeWhile]
  simp only [takeWhile_append_of_head hdigit, dropWhile_append_of_head hdigit]
  cases s.dropWhile isDigit with
  | cons c r =>
    simp only [List.cons_append]
    split <;> rfl
  | nil =>
    cases y with
    | nil =>
      simp only [List.append_nil]
      split <;> rfl
    | cons c y =>
      simp only [List.nil_append, hy c rfl]
      split <;> rfl

/-- A port stands in front, and it has digits only. -/
theorem portText_ok {port : Option Nat} {t : List Char} (h : portText scheme s = .ok (port, t)) :
    ∃ before, s = before ++ t ∧ ∀ c ∈ before, isDigit c = true := by
  have ht : t = s.dropWhile isDigit := by
    simp only [portText, drop_length_takeWhile] at h
    split_ifs at h <;> cases h <;> rfl
  rw [ht]
  exact ⟨_, List.takeWhile_append_dropWhile.symm,
    fun c hc => List.all_eq_true.1 List.all_takeWhile c hc⟩

/-- The host that a text denotes after a scheme. -/
def hostOf (scheme h : List Char) : Except UrlFault Host :=
  if isSpecial scheme && h.isEmpty then .error .emptyHost
  else if isSpecial scheme then specialHost h
  else otherHost h

/-- The port after the text of a host, if there is one, and the text after it. -/
def portAfter (scheme h : List Char) : List Char → Except UrlFault (Option Nat × List Char)
  | ':' :: r => if h.isEmpty then .error .emptyHost else portText scheme r
  | t => .ok (none, t)

theorem hostAndPort_eq {h t : List Char} (hs : hostText (isSpecial scheme) false s = (h, t)) :
    hostAndPort scheme s = do
      let host ← hostOf scheme h
      let (port, r) ← portAfter scheme h t
      return (host, port, r) := by
  have hstop : t = [] ∨ ∃ r, t = ':' :: r ∨ t = '/' :: r ∨ t = '?' :: r ∨ t = '#' :: r ∨
      t = '\\' :: r := by
    cases t with
    | nil => exact .inl rfl
    | cons c r =>
      have hc := (hostText_eq hs).2.2 c rfl
      simp only [endsAuthority, Bool.or_eq_true, Bool.and_eq_true, decide_eq_true_eq] at hc
      refine .inr ⟨r, ?_⟩
      rcases hc with rfl | ((rfl | rfl) | rfl) | ⟨-, rfl⟩ <;> simp
  simp only [hostAndPort, hs, hostOf]
  cases isSpecial scheme && h.isEmpty
  · cases isSpecial scheme
    · rcases otherHost h with f | host
      · rfl
      · rcases hstop with rfl | ⟨r, rfl | rfl | rfl | rfl | rfl⟩ <;> simp only [portAfter] <;>
          cases h.isEmpty <;> rfl
    · rcases specialHost h with f | host
      · rfl
      · rcases hstop with rfl | ⟨r, rfl | rfl | rfl | rfl | rfl⟩ <;> simp only [portAfter] <;>
          cases h.isEmpty <;> rfl
  · rfl

/-- The host and the port of an authority do not depend on what follows. -/
theorem hostAndPort_append (hs : ∀ c ∈ s, endsAuthority (isSpecial scheme) c = false)
    (hy : Ends (isSpecial scheme) y) :
    hostAndPort scheme (s ++ y) =
      (hostAndPort scheme s).map fun (host, port, t) => (host, port, t ++ y) := by
  rcases hh : hostText (isSpecial scheme) false s with ⟨h, t⟩
  obtain ⟨rfl, -, hstop⟩ := hostText_eq hh
  have hport : portAfter scheme h (t ++ y) =
      (portAfter scheme h t).map fun (port, r) => (port, r ++ y) := by
    rcases t with _ | ⟨c, r⟩
    · rcases y with _ | ⟨c, y⟩
      · rfl
      · have hc : c ≠ ':' := by
          rintro rfl
          exact absurd (hy.mono (fun _ => rfl) ':' rfl) (by decide)
        simp [portAfter, hc, Except.map]
    · obtain rfl : c = ':' := (hstop c rfl).resolve_right (by simp [hs c (by simp)])
      simp only [List.cons_append, portAfter, portText_append (hy.mono fun _ => rfl)]
      cases h.isEmpty <;> rfl
  rw [hostAndPort_eq hh, hostAndPort_eq (hostText_append hy hh), hport]
  rcases hostOf scheme h with f | host
  · rfl
  · rcases portAfter scheme h t with f | ⟨port, r⟩ <;> rfl

/-- Whether a text that follows an authority makes a URL does not depend on what follows it. -/
theorem fromAuthority_append (ha : ∀ c ∈ a, endsAuthority (isSpecial scheme) c = false)
    (hy : Ends (isSpecial scheme) y) (hat : a = ['@'] → y = []) :
    (fromAuthority scheme (a ++ y)).isOk = (fromAuthority scheme a).isOk := by
  simp only [fromAuthority, userInfo_append ha hy hat, bind, Except.bind]
  rcases hu : userInfo (isSpecial scheme) a with f | ⟨n, p, t⟩
  · rfl
  · obtain ⟨before, rfl, -⟩ := userInfo_ok hu
    have ht : ∀ c ∈ t, endsAuthority (isSpecial scheme) c = false :=
      fun c hc => ha c (List.mem_append_right _ hc)
    simp only [Except.map, hostAndPort_append ht hy]
    rcases hostAndPort scheme t with f | ⟨host, port, r⟩
    · rfl
    · simp only
      split <;> rfl

theorem fromAuthority_at (hy : Ends (isSpecial scheme) y) (hne : y ≠ []) :
    (fromAuthority scheme ('@' :: y)).isOk = false := by
  obtain ⟨c, y, rfl⟩ := List.exists_cons_of_ne_nil hne
  have htake : ('@' :: c :: y).takeWhile (fun c => !endsAuthority (isSpecial scheme) c) = ['@'] :=
    takeWhile_authority (a := ['@']) (by simp [endsAuthority]) hy
  have hu : userInfo (isSpecial scheme) ('@' :: c :: y) = .error .emptyHost := by
    simp [userInfo, htake]
  simp only [fromAuthority, hu, bind, Except.bind]
  rfl

variable {r y' : List Char}

/-- A text that follows the slashes of an authority may go on in another way, if the authority is
not an at-sign that was nothing but the end. -/
theorem fromAuthority_goesOn (hy : Ends (isSpecial scheme) y) (hy' : Ends (isSpecial scheme) y')
    (hat : r = ['@'] → y ≠ []) (h : (fromAuthority scheme (r ++ y)).isOk = true) :
    (fromAuthority scheme (r ++ y')).isOk = true := by
  obtain ⟨a, b, rfl, ha, hb⟩ : ∃ a b, r = a ++ b ∧
      (∀ c ∈ a, endsAuthority (isSpecial scheme) c = false) ∧ Ends (isSpecial scheme) b := by
    refine ⟨_, _, (List.takeWhile_append_dropWhile
      (p := fun c => !endsAuthority (isSpecial scheme) c)).symm, fun c hc => ?_, fun c hc => ?_⟩
    · simpa using List.all_eq_true.1 List.all_takeWhile c hc
    · have := List.head?_dropWhile_not (fun c => !endsAuthority (isSpecial scheme) c) r
      rw [hc] at this
      simpa using this
  have hends : ∀ {z}, Ends (isSpecial scheme) z → Ends (isSpecial scheme) (b ++ z) := by
    intro z hz
    cases b with
    | nil => exact hz
    | cons c b => exact fun d hd => hb d hd
  have hne : a ≠ ['@'] := by
    rintro rfl
    rw [List.append_assoc, List.singleton_append, fromAuthority_at (hends hy)] at h
    · cases h
    · cases b with
      | nil => exact hat rfl
      | cons c b => simp
  rw [List.append_assoc, fromAuthority_append ha (hends hy) fun h => absurd h hne] at h
  rw [List.append_assoc, fromAuthority_append ha (hends hy') fun h => absurd h hne]
  exact h

/-- At-signs that make up an authority stand in front of no host. -/
theorem userInfo_ats {n t : List Char} {p : Option (List Char)} (ha : ∀ c ∈ a, c = '@')
    (hy : Ends special y) (h : userInfo special (a ++ y) = .ok (n, p, t)) : t = y := by
  have htake : (a ++ y).takeWhile (fun c => !endsAuthority special c) = a :=
    takeWhile_authority (fun c hc => by simp [ha c hc, endsAuthority]) hy
  have hhost : a.reverse.takeWhile (· ≠ '@') = [] := by
    rcases hback : a.reverse with _ | ⟨c, back⟩
    · rfl
    · have hc : c = '@' := ha c (List.mem_reverse.1 (by rw [hback]; exact List.mem_cons_self))
      simp [hc]
  simp only [userInfo, htake, hhost, List.drop_left] at h
  split at h
  · rename_i hnone
    have hback : a.reverse.takeWhile (· ≠ '@') ++ a.reverse.dropWhile (· ≠ '@') = a.reverse :=
      List.takeWhile_append_dropWhile
    rw [hhost, hnone] at hback
    obtain rfl : a = [] := List.reverse_eq_nil_iff.1 hback.symm
    cases h
    rfl
  · split at h
    · split at h <;> cases h
      rfl
    · cases h
      rfl

/-- The authority of an address of the web has more than slashes and at-signs. -/
theorem exists_of_fromAuthority (hs : isSpecial scheme = true)
    (h : (fromAuthority scheme r).isOk = true) : ∃ c ∈ r, c ∉ ['/', '\\', '@'] := by
  by_contra hnone
  push Not at hnone
  rcases hu : fromAuthority scheme r with f | u
  · rw [hu] at h
    cases h
  obtain ⟨⟨n, p, t⟩, huser, hrest⟩ := bind_ok.1 hu
  obtain ⟨⟨host, port, t'⟩, hhost, -⟩ := bind_ok.1 hrest
  rw [hs] at huser
  have hsplit : r.takeWhile (fun c => !endsAuthority true c) ++
      r.dropWhile (fun c => !endsAuthority true c) = r := List.takeWhile_append_dropWhile
  have hends : Ends true (r.dropWhile fun c => !endsAuthority true c) := by
    intro c hc
    have := List.head?_dropWhile_not (fun c => !endsAuthority true c) r
    rw [hc] at this
    simpa using this
  have hats : ∀ c ∈ r.takeWhile (fun c => !endsAuthority true c), c = '@' := by
    intro c hc
    have hend := List.all_eq_true.1 List.all_takeWhile c hc
    have hmem := hnone c ((List.takeWhile_sublist _).subset hc)
    simp only [List.mem_cons, List.not_mem_nil, or_false] at hmem
    rcases hmem with rfl | rfl | rfl
    · exact absurd hend (by decide)
    · exact absurd hend (by decide)
    · rfl
  rw [← hsplit] at huser
  obtain rfl := userInfo_ats hats hends huser
  have hempty : ∀ {z}, Ends true z → hostText (isSpecial scheme) false z = ([], z) := by
    intro z hz
    rw [hs]
    cases z with
    | nil => rfl
    | cons c z => simp [hostText, hz c rfl]
  rw [hostAndPort_eq (hempty hends)] at hhost
  simp [hostOf, hs, bind, Except.bind] at hhost

/-! ## What follows a scheme -/

/-- A slash or a backslash. -/
def isSlash (c : Char) : Bool := c = '/' || c = '\\'

/-- The text in the place of a host denotes one after the scheme of files. -/
def isFileHost (h : List Char) : Bool := isDrive h || h.isEmpty || (specialHost h).isOk

theorem ofFile_slashes {c d : Char} (hc : isSlash c = true) (hd : isSlash d = true) :
    (ofFile scheme (c :: d :: r)).isOk =
      isFileHost (r.takeWhile fun c => !endsAuthority true c) := by
  have hslashes : ((decide (c = '/') || decide (c = '\\')) &&
      (decide (d = '/') || decide (d = '\\'))) = true := by
    rw [Bool.and_eq_true]
    exact ⟨hc, hd⟩
  simp only [ofFile, hslashes, if_true, isFileHost]
  generalize r.takeWhile (fun c => !endsAuthority true c) = h
  cases isDrive h
  · cases h.isEmpty
    · rcases specialHost h with f | host <;> rfl
    · rfl
  · rfl

theorem ofFile_isOk {s : List Char}
    (hs : ∀ c d r, s = c :: d :: r → isSlash c = false ∨ isSlash d = false) :
    (ofFile scheme s).isOk = true := by
  unfold ofFile
  split
  · rename_i c d r
    have hslashes : ((decide (c = '/') || decide (c = '\\')) &&
        (decide (d = '/') || decide (d = '\\'))) = false := by
      rw [Bool.and_eq_false_iff]
      exact hs c d r rfl
    simp only [hslashes]
    rfl
  · rfl

theorem afterScheme_file (hf : isFileScheme scheme = true) :
    afterScheme none scheme s = ofFile scheme s :=
  if_pos hf

theorem afterScheme_special (hf : isFileScheme scheme = false) (hs : isSpecial scheme = true) :
    afterScheme none scheme s = fromAuthority scheme (s.dropWhile isSlash) := by
  simp only [afterScheme, hf, hs, if_true, drop_length_takeWhile]
  rfl

theorem afterScheme_slashes (hs : isSpecial scheme = false) :
    afterScheme none scheme ('/' :: '/' :: s) = fromAuthority scheme s := by
  have hf : isFileScheme scheme = false := (Bool.or_eq_false_iff.1 hs).1
  simp [afterScheme, hf, hs]

theorem afterScheme_isOk (hs : isSpecial scheme = false) (h : ∀ r, s ≠ '/' :: '/' :: r) :
    (afterScheme none scheme s).isOk = true := by
  have hf : isFileScheme scheme = false := (Bool.or_eq_false_iff.1 hs).1
  simp only [afterScheme, hf, hs, Bool.false_eq_true, if_false]
  split
  · exact absurd rfl (h _)
  · rfl
  · rfl

/-- How a text goes on after another one whose parts it leaves as they are: the other one has more
than slashes, backslashes and at-signs, or a query goes on with a query. -/
def GoesOn (r y y' : List Char) : Prop :=
  Ends false y ∧ Ends false y' ∧
    ((∃ c ∈ r, c ∉ ['/', '\\', '@']) ∨ ∃ z z', y = '?' :: z ∧ y' = '?' :: z')

theorem not_isSlash_of_ends {c : Char} (h : c ∉ ['/', '\\', '@']) : isSlash c = false := by
  simp only [List.mem_cons, List.not_mem_nil, or_false, not_or] at h
  simp [isSlash, h.1, h.2.1]

theorem ofFile_goesOn (hg : GoesOn r y y') (h : (ofFile scheme (r ++ y)).isOk = true) :
    (ofFile scheme (r ++ y')).isOk = true := by
  obtain ⟨hy, hy', hr⟩ := hg
  rcases r with _ | ⟨c, _ | ⟨d, r⟩⟩
  · obtain ⟨c, hc, -⟩ | ⟨z, z', rfl, rfl⟩ := hr
    · cases hc
    · refine ofFile_isOk ?_
      rintro c d r ⟨⟩
      exact .inl rfl
  · refine ofFile_isOk ?_
    intro c' d r he
    obtain ⟨rfl, rfl⟩ := List.cons.inj he
    obtain ⟨e, he, hne⟩ | ⟨z, z', rfl, hz⟩ := hr
    · obtain rfl := List.mem_singleton.1 he
      exact .inl (not_isSlash_of_ends hne)
    · cases hz
      exact .inr rfl
  · by_cases hcd : isSlash c = true ∧ isSlash d = true
    · have hhost : ∀ {z}, Ends false z → (r ++ z).takeWhile (fun c => !endsAuthority true c) =
          r.takeWhile (fun c => !endsAuthority true c) := fun hz =>
        takeWhile_append_of_head fun c hc => by simpa using hz.mono nofun c hc
      simp only [List.cons_append, ofFile_slashes hcd.1 hcd.2, hhost hy, hhost hy'] at h ⊢
      exact h
    · refine ofFile_isOk ?_
      rintro c' d' r' ⟨⟩
      rw [not_and_or] at hcd
      simpa using hcd

theorem fromAuthority_dropWhile_goesOn (hg : GoesOn r y y')
    (h : (fromAuthority scheme ((r ++ y).dropWhile isSlash)).isOk = true) :
    (fromAuthority scheme ((r ++ y').dropWhile isSlash)).isOk = true := by
  obtain ⟨hy, hy', hr⟩ := hg
  obtain ⟨a, ha, ha', hat⟩ : ∃ a, (r ++ y).dropWhile isSlash = a ++ y ∧
      (r ++ y').dropWhile isSlash = a ++ y' ∧ (a = ['@'] → y ≠ []) := by
    refine ⟨r.dropWhile isSlash, ?_⟩
    obtain ⟨c, hc, hne⟩ | ⟨z, z', rfl, rfl⟩ := hr
    · have hslash := not_isSlash_of_ends hne
      have hmem : c ∈ r.dropWhile isSlash := by
        rw [← List.takeWhile_append_dropWhile (p := isSlash) (l := r)] at hc
        refine (List.mem_append.1 hc).resolve_left fun hc => ?_
        rw [List.all_eq_true.1 List.all_takeWhile c hc] at hslash
        cases hslash
      have hempty : (r.dropWhile isSlash).isEmpty = false := by
        rw [List.isEmpty_eq_false_iff]
        exact List.ne_nil_of_mem hmem
      refine ⟨by simp [List.dropWhile_append, hempty], by simp [List.dropWhile_append, hempty], ?_⟩
      intro he
      rw [he, List.mem_singleton] at hmem
      exact absurd (by simp [hmem]) hne
    · exact ⟨dropWhile_append_of_head (by rintro c ⟨⟩; rfl),
        dropWhile_append_of_head (by rintro c ⟨⟩; rfl), fun _ => List.cons_ne_nil _ _⟩
  rw [ha] at h
  rw [ha']
  exact fromAuthority_goesOn (hy.mono nofun) (hy'.mono nofun) hat h

/-- Whether a text is a URL after its scheme does not depend on how it goes on. -/
theorem afterScheme_goesOn (hg : GoesOn r y y')
    (h : (afterScheme none scheme (r ++ y)).isOk = true) :
    (afterScheme none scheme (r ++ y')).isOk = true := by
  cases hf : isFileScheme scheme with
  | true =>
    rw [afterScheme_file hf] at h ⊢
    exact ofFile_goesOn hg h
  | false =>
    cases hs : isSpecial scheme with
    | true =>
      rw [afterScheme_special hf hs] at h ⊢
      exact fromAuthority_dropWhile_goesOn hg h
    | false =>
      obtain ⟨hy, hy', hr⟩ := hg
      by_cases hslashes : ∃ t, r ++ y' = '/' :: '/' :: t
      · obtain ⟨t, ht⟩ := hslashes
        -- both slashes stand in `r`
        obtain ⟨r, rfl⟩ : ∃ r₀, r = '/' :: '/' :: r₀ := by
          obtain ⟨c, hc, hne⟩ | ⟨z, z', rfl, rfl⟩ := hr
          · rcases r with _ | ⟨d, _ | ⟨e, r⟩⟩
            · cases hc
            · obtain rfl := List.mem_singleton.1 hc
              exact absurd (by simp [(List.cons.inj ht).1]) hne
            · cases ht
              exact ⟨r, rfl⟩
          · rcases r with _ | ⟨d, _ | ⟨e, r⟩⟩ <;> cases ht
            exact ⟨r, rfl⟩
        rw [List.cons_append, List.cons_append, afterScheme_slashes hs] at h ⊢
        refine fromAuthority_goesOn (hy.mono nofun) (hy'.mono nofun) ?_ h
        rintro rfl
        obtain ⟨c, hc, hne⟩ | ⟨z, z', rfl, -⟩ := hr
        · simp only [List.mem_cons, List.not_mem_nil, or_false] at hc hne
          tauto
        · exact List.cons_ne_nil _ _
      · exact afterScheme_isOk hs fun t ht => hslashes ⟨t, ht⟩

/-! ## Queries -/

/-- The characters before a query or a fragment. -/
def IsFree (s : List Char) : Prop := ∀ c ∈ s, c ≠ '?' ∧ c ≠ '#'

/-- The query and the fragment of a URL are those that a text ends with. -/
structure EndsAs (u : Url) (scheme s : List Char) : Prop where
  scheme_eq : u.scheme = scheme
  tail_eq : (u.query, u.fragment) = queryAndFragment (isSpecial scheme) (pathText s).2

variable {u : Url}

theorem pathText_append {b : List Char} (hb : IsFree b) :
    (pathText (b ++ s)).2 = (pathText s).2 := by
  have hb : ∀ c ∈ b, (decide (c ≠ '?') && decide (c ≠ '#')) = true := by
    intro c hc
    simpa using hb c hc
  simp only [pathText, drop_length_takeWhile]
  rw [List.dropWhile_append_of_pos hb]

theorem EndsAs.append {b : List Char} (hb : IsFree b) (h : EndsAs u scheme s) :
    EndsAs u scheme (b ++ s) :=
  ⟨h.scheme_eq, by rw [pathText_append hb, h.tail_eq]⟩

theorem endsAs_assemble (scheme n : List Char) (p : Option (List Char)) (host : Option Host)
    (port : Option Nat) (path : UrlPath) (s : List Char) :
    EndsAs (assemble scheme n p host port path (pathText s).2) scheme s :=
  ⟨rfl, rfl⟩

theorem isFree_of_endsAuthority {b : List Char} (h : ∀ c ∈ b, endsAuthority special c = false) :
    IsFree b := by
  intro c hc
  have := h c hc
  simp only [endsAuthority, Bool.or_eq_false_iff, decide_eq_false_iff_not] at this
  exact ⟨this.1.1.2, this.1.2⟩

theorem portAfter_ok {h t t' : List Char} {port : Option Nat}
    (hp : portAfter scheme h t = .ok (port, t')) : ∃ b, t = b ++ t' ∧ IsFree b := by
  unfold portAfter at hp
  split at hp
  · split at hp
    · cases hp
    · obtain ⟨digits, rfl, hdigits⟩ := portText_ok hp
      refine ⟨':' :: digits, rfl, List.forall_mem_cons.2 ⟨by decide, fun c hc => ?_⟩⟩
      constructor <;>
      · rintro rfl
        exact absurd (hdigits _ hc) (by decide)
  · cases hp
    exact ⟨[], rfl, fun _ hc => nomatch hc⟩

theorem hostAndPort_ok {host : Host} {port : Option Nat} {t : List Char}
    (h : hostAndPort scheme s = .ok (host, port, t)) : ∃ b, s = b ++ t ∧ IsFree b := by
  rcases hh : hostText (isSpecial scheme) false s with ⟨name, rest⟩
  obtain ⟨rfl, hname, -⟩ := hostText_eq hh
  rw [hostAndPort_eq hh] at h
  obtain ⟨host', -, h⟩ := bind_ok.1 h
  obtain ⟨⟨port', t'⟩, hp, h⟩ := bind_ok.1 h
  cases h
  obtain ⟨b, rfl, hb⟩ := portAfter_ok hp
  refine ⟨name ++ b, (List.append_assoc ..).symm, fun c hc => ?_⟩
  exact (List.mem_append.1 hc).elim (isFree_of_endsAuthority hname c) (hb c)

theorem fromAuthority_endsAs (h : fromAuthority scheme s = .ok u) : EndsAs u scheme s := by
  obtain ⟨⟨n, p, t⟩, hu, hrest⟩ := bind_ok.1 h
  obtain ⟨⟨host, port, t'⟩, hh, hend⟩ := bind_ok.1 hrest
  obtain ⟨before, rfl, hbefore⟩ := userInfo_ok hu
  obtain ⟨b, rfl, hb⟩ := hostAndPort_ok hh
  refine .append (isFree_of_endsAuthority hbefore) (.append hb ?_)
  dsimp only at hend
  split at hend
  · cases hend
  · cases hend
    exact endsAs_assemble ..

theorem fileOn_endsAs (scheme : List Char) (host : Option Host) (s : List Char) :
    EndsAs (fileOn scheme host s) scheme s :=
  ⟨rfl, rfl⟩

theorem free_of_isSlash {c : Char} (h : isSlash c = true) : c ≠ '?' ∧ c ≠ '#' := by
  constructor <;>
  · rintro rfl
    exact absurd h (by decide)

theorem ofFile_endsAs (h : ofFile scheme s = .ok u) : EndsAs u scheme s := by
  unfold ofFile at h
  split at h
  · rename_i c d r
    dsimp only at h
    split at h
    · rename_i hcd
      rw [Bool.and_eq_true] at hcd
      have hfree : IsFree [c, d] := by
        simpa [IsFree] using And.intro (free_of_isSlash hcd.1) (free_of_isSlash hcd.2)
      refine EndsAs.append hfree ?_
      have hhost : ∀ host, EndsAs (fileOn scheme host
          (r.drop (r.takeWhile fun c => !endsAuthority true c).length)) scheme r := by
        intro host
        rw [drop_length_takeWhile]
        have hname : IsFree (r.takeWhile fun c => !endsAuthority true c) :=
          @isFree_of_endsAuthority true _ fun c hc => by
            simpa using List.all_eq_true.1 List.all_takeWhile c hc
        have :=
          (fileOn_endsAs scheme host (r.dropWhile fun c => !endsAuthority true c)).append hname
        rwa [List.takeWhile_append_dropWhile] at this
      split at h
      · cases h
        exact fileOn_endsAs ..
      · split at h
        · cases h
          exact hhost _
        · obtain ⟨host, -, h⟩ := bind_ok.1 h
          cases h
          exact hhost _
    · cases h
      exact fileOn_endsAs ..
  · cases h
    exact fileOn_endsAs ..

/-- The query and the fragment are what is left after the parts in front of them. -/
theorem afterScheme_endsAs (h : afterScheme none scheme s = .ok u) : EndsAs u scheme s := by
  cases hf : isFileScheme scheme with
  | true =>
    rw [afterScheme_file hf] at h
    exact ofFile_endsAs h
  | false =>
    cases hs : isSpecial scheme with
    | true =>
      rw [afterScheme_special hf hs] at h
      have hslashes : IsFree (s.takeWhile isSlash) := fun c hc =>
        free_of_isSlash (List.all_eq_true.1 List.all_takeWhile c hc)
      have := (fromAuthority_endsAs h).append hslashes
      rwa [List.takeWhile_append_dropWhile] at this
    | false =>
      simp only [afterScheme, hf, hs, Bool.false_eq_true, if_false] at h
      split at h
      · exact EndsAs.append (b := ['/', '/']) (by simp [IsFree]) (fromAuthority_endsAs h)
      · cases h
        exact EndsAs.append (b := ['/']) (by simp [IsFree]) (endsAs_assemble ..)
      · cases h
        exact endsAs_assemble ..

/-! ## Texts -/

theorem ends_schemeChar (hy : Ends false y) :
    ∀ c, y.head? = some c → isSchemeChar c = false ∧ c ≠ ':' := by
  intro c hc
  have := hy c hc
  simp only [endsAuthority, Bool.or_eq_true, Bool.false_and, Bool.false_eq_true, or_false,
    decide_eq_true_eq] at this
  rcases this with (rfl | rfl) | rfl <;> decide

theorem parseFrom_isOk : (parseFrom none s).isOk = true ↔
    ∃ scheme r, scheme? (clean s) = some (scheme, r) ∧ (afterScheme none scheme r).isOk = true := by
  unfold parseFrom
  rcases hs : scheme? (clean s) with _ | ⟨scheme, r⟩
  · simp [hs, Except.isOk, Except.toBool]
  · simp [hs]

/-- A text that is a URL stays one if it goes on in another way. -/
theorem parseFrom_goesOn {t b : List Char} (hs : clean s = b ++ y) (ht : clean t = b ++ y')
    (hy : Ends false y)
    (hg : ∀ scheme r, scheme? (clean s) = some (scheme, r ++ y) → GoesOn r y y')
    (h : (parseFrom none s).isOk = true) : (parseFrom none t).isOk = true := by
  obtain ⟨scheme, r, hscheme, hok⟩ := parseFrom_isOk.1 h
  have hg := hg scheme
  rw [hs] at hscheme hg
  obtain ⟨r, rfl, -, hother⟩ := scheme?_append hscheme (ends_schemeChar hy)
  refine parseFrom_isOk.2 ⟨scheme, r ++ y', by rw [ht, hother], ?_⟩
  exact afterScheme_goesOn (hg r hscheme) hok

/-- The part of a URL in which its query is encoded. -/
def queryPart (scheme : List Char) : Part := if isSpecial scheme then .specialQuery else .query

/-- The query of a URL is what stands after the first question mark up to a number sign. -/
theorem parseFrom_query {b w : List Char} (hs : clean s = b ++ '?' :: w) (hb : IsFree b)
    (h : parseFrom none s = .ok u) :
    u.query = some (encode (queryPart u.scheme) (w.takeWhile (· ≠ '#'))) := by
  unfold parseFrom at h
  dsimp only at h
  split at h
  · rename_i scheme r hscheme
    rw [hs] at hscheme
    obtain ⟨r, rfl, hr, -⟩ := scheme?_append hscheme (by rintro c ⟨⟩; decide)
    obtain ⟨rfl, htail⟩ := afterScheme_endsAs h
    have hquery : (pathText ('?' :: w)).2 = '?' :: w := rfl
    rw [pathText_append fun c hc => hb c (hr.subset hc), hquery] at htail
    exact congrArg Prod.fst htail
  · cases h

end Rehearsal.Url
