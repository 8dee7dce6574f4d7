import Rehearsal.Proofs.LoginHandshake
import Rehearsal.Proofs.Runs

/-!
# Cookies that a session shows

What a session says of its jar, and what it hands over to a browser. The pairs for a URL are those
of the cookies that the jar has for it (`Session.cookies_stored`). An export goes through URLs while
its own result grows; `Session.browserCookies_eq` says what that comes to without the loop: of the
cookies that the URLs offer one after the other, those that are the first of their name and origin
(`firsts`). `Session.browserCookies_exports` draws the consequences: no cookie is exported twice and
none is lost, and the value is that of the earliest URL.
-/

namespace Rehearsal

open Http

/-! ## The first of each key -/

section
variable {α κ : Type} [DecidableEq κ] {key : α → κ} {a c : α} {l more : List α}

/-- Of the items of each key, the first one. -/
def firsts (key : α → κ) (l : List α) : List α := l.eraseDupsBy fun a b => decide (key a = key b)

@[simp] theorem firsts_nil : firsts key [] = [] := rfl

theorem firsts_cons :
    firsts key (a :: l) = a :: firsts key (l.filter fun b => decide (key b ≠ key a)) := by
  unfold firsts
  rw [List.eraseDupsBy_cons]
  simp only [decide_eq_false_iff_not, ne_eq]

/-- Induction along `firsts`: the items of the first key are left out. -/
theorem firsts_induct (key : α → κ) {motive : List α → Prop} (nil : motive [])
    (cons : ∀ a l, motive (l.filter fun b => decide (key b ≠ key a)) → motive (a :: l)) :
    ∀ l, motive l
  | [] => nil
  | a :: l => cons a l (firsts_induct key nil cons _)
termination_by l => l.length
decreasing_by exact Nat.lt_succ_of_le (List.length_filter_le _ _)

theorem mem_of_mem_firsts (h : c ∈ firsts key l) : c ∈ l := by
  induction l using firsts_induct key with
  | nil => exact h
  | cons a l ih =>
    rw [firsts_cons] at h
    rcases List.mem_cons.1 h with rfl | h
    · exact List.mem_cons_self
    · exact List.mem_cons_of_mem _ (List.mem_filter.1 (ih h)).1

/-- The first of a key is what a search for that key finds. -/
theorem mem_firsts : c ∈ firsts key l ↔ l.find? (fun b => decide (key b = key c)) = some c := by
  induction l using firsts_induct key with
  | nil => simp
  | cons a l ih =>
    rw [firsts_cons, List.mem_cons]
    by_cases ha : key a = key c
    · rw [List.find?_cons_of_pos (by simpa using ha), Option.some.injEq]
      constructor
      · rintro (rfl | hc)
        · rfl
        · have hne := (List.mem_filter.1 (mem_of_mem_firsts hc)).2
          exact absurd ha.symm (of_decide_eq_true hne)
      · rintro rfl
        exact .inl rfl
    · -- The items that are left out have another key, so the search passes over them.
      have hsame : (fun b => decide (decide (key b ≠ key a) = true ∧ decide (key b = key c) = true)) =
          fun b => decide (key b = key c) := by
        funext b
        by_cases hb : key b = key c
        · simp [hb, Ne.symm ha]
        · simp [hb]
      have hne : c ≠ a := fun h => ha (h ▸ rfl)
      rw [or_iff_right hne, ih, List.find?_filter, hsame, List.find?_cons_of_neg (by simpa using ha)]

theorem exists_mem_firsts (key : α → κ) (h : a ∈ l) : ∃ b ∈ firsts key l, key b = key a := by
  have hsome : (l.find? fun b => decide (key b = key a)).isSome = true :=
    List.find?_isSome.2 ⟨a, h, decide_eq_true rfl⟩
  obtain ⟨b, hb⟩ := Option.isSome_iff_exists.1 hsome
  have hkey : key b = key a := by simpa using List.find?_some hb
  exact ⟨b, mem_firsts.2 (hkey ▸ hb), hkey⟩

theorem firsts_distinct : (firsts key l).Pairwise fun b c => key b ≠ key c := by
  induction l using firsts_induct key with
  | nil => exact .nil
  | cons a l ih =>
    rw [firsts_cons]
    refine List.pairwise_cons.2 ⟨fun c hc => ?_, ih⟩
    have hne := (List.mem_filter.1 (mem_of_mem_firsts hc)).2
    exact (of_decide_eq_true hne).symm

/-- One more item counts if its key is new. -/
theorem firsts_concat : firsts key (l ++ [c]) =
    if (firsts key l).any fun b => decide (key b = key c) then firsts key l
    else firsts key l ++ [c] := by
  induction l using firsts_induct key with
  | nil => simp [firsts_cons]
  | cons a l ih =>
    rw [List.cons_append, firsts_cons, firsts_cons, List.filter_append, List.any_cons]
    by_cases ha : key a = key c
    · simp [ha]
    · have hc : [c].filter (fun b => decide (key b ≠ key a)) = [c] := by
        simp [Ne.symm ha]
      rw [hc, ih, decide_eq_false ha, Bool.false_or]
      split <;> rfl

theorem firsts_append_of_known (h : ∀ c ∈ more, ∃ b ∈ l, key b = key c) :
    firsts key (l ++ more) = firsts key l := by
  induction more generalizing l with
  | nil => rw [List.append_nil]
  | cons c more ih =>
    obtain ⟨⟨b, hb, hk⟩, hr⟩ := List.forall_mem_cons.1 h
    obtain ⟨d, hd, hkd⟩ := exists_mem_firsts key hb
    have hc : firsts key (l ++ [c]) = firsts key l := by
      rw [firsts_concat, if_pos (List.any_eq_true.2 ⟨d, hd, decide_eq_true (hkd.trans hk)⟩)]
    rw [List.append_cons, ih, hc]
    intro d hd
    obtain ⟨b, hb, hk⟩ := hr d hd
    exact ⟨b, List.mem_append_left _ hb, hk⟩

variable [DecidableEq α]

/-- What is left out of a list does not change which of two items comes first. -/
theorem idxOf_lt_of_filter {p : α → Bool} {b : α} (hc : p c = true)
    (h : (l.filter p).idxOf b < (l.filter p).idxOf c) : l.idxOf b < l.idxOf c := by
  induction l with
  | nil => exact h
  | cons a l ih =>
    by_cases hac : a = c
    · subst hac
      rw [List.filter_cons_of_pos hc, List.idxOf_cons_self] at h
      exact absurd h (Nat.not_lt_zero _)
    rw [List.idxOf_cons_ne _ hac]
    by_cases hab : a = b
    · rw [hab, List.idxOf_cons_self]
      exact Nat.succ_pos _
    rw [List.idxOf_cons_ne _ hab]
    refine Nat.succ_lt_succ (ih ?_)
    by_cases ha : p a = true
    · rw [List.filter_cons_of_pos ha, List.idxOf_cons_ne _ hac, List.idxOf_cons_ne _ hab] at h
      exact Nat.lt_of_succ_lt_succ h
    · rwa [List.filter_cons_of_neg ha] at h

/-- The first items of the keys stand in the order in which they occur. -/
theorem firsts_inOrder : (firsts key l).Pairwise fun b c => l.idxOf b < l.idxOf c := by
  induction l using firsts_induct key with
  | nil => exact .nil
  | cons a l ih =>
    have hother : ∀ c ∈ firsts key (l.filter fun b => decide (key b ≠ key a)),
        decide (key c ≠ key a) = true ∧ a ≠ c := by
      intro c hc
      have hne := (List.mem_filter.1 (mem_of_mem_firsts hc)).2
      exact ⟨hne, fun he => of_decide_eq_true hne (he ▸ rfl)⟩
    rw [firsts_cons]
    refine List.pairwise_cons.2 ⟨fun c hc => ?_, ?_⟩
    · rw [List.idxOf_cons_self, List.idxOf_cons_ne _ (hother c hc).2]
      exact Nat.succ_pos _
    · refine ih.imp_of_mem fun {b c} hb hc hlt => ?_
      rw [List.idxOf_cons_ne _ (hother b hb).2, List.idxOf_cons_ne _ (hother c hc).2]
      exact Nat.succ_lt_succ (idxOf_lt_of_filter (hother c hc).1 hlt)

end

/-! ## The cookies for a URL -/

namespace Session

/-- **What a session shows of its jar.** A jar writes the cookies that it has for a URL one after the
other as `name=value`, with a semicolon and a blank between them. If their names and values can be
told apart in that, then the pairs that the session shows are those of these cookies in order; a
single name gives the value of the first of them that has it, and nothing exactly if none has it. -/
theorem cookies_stored {s : Session} {jar : Jar} {text : String} {u : Url} (hj : s.jar = some jar)
    (hu : urlOf text = .ok u) (hl : ∀ c ∈ jar.cookiesFor u, Legible c.name c.value) :
    (jar.header? u).getD [] =
      Text.utf8 (Text.joinWith [';', ' '] ((jar.cookiesFor u).map fun c => c.name ++ '=' :: c.value)) ∧
    s.cookies text =
      .ok ((jar.cookiesFor u).map fun c => (String.ofList c.name, String.ofList c.value)) ∧
    ∀ name : String,
      s.cookie text name = .ok (((jar.cookiesFor u).find? fun c => c.name = name.toList).map
        fun c => String.ofList c.value) ∧
      (s.cookie text name = .ok none ↔ ∀ c ∈ jar.cookiesFor u, c.name ≠ name.toList) := by
  have hcookies : s.cookies text =
      .ok ((jar.cookiesFor u).map fun c => (String.ofList c.name, String.ofList c.value)) := by
    have h := cookies_of_legible (s := s) hu (by rwa [hj])
    rwa [hj] at h
  refine ⟨jar.header?_getD u, hcookies, fun name => ?_⟩
  have hcookie := cookie_of_cookies hcookies name
  refine ⟨hcookie, ?_⟩
  rw [hcookie, Except.ok.injEq, Option.map_eq_none_iff, List.find?_eq_none]
  simp only [decide_eq_true_eq, ne_eq]

/-- A session with cookies for all of a host, and one that goes before them in a folder. -/
def layered : Session where
  jar := some
    [⟨"sid".toList, "1".toList, .only "[::1]".toList, "/a".toList, false, true⟩,
      ⟨"sid".toList, "2".toList, .only "[::1]".toList, "/".toList, false, false⟩,
      ⟨"lang".toList, "fré=x".toList, .only "[::1]".toList, "/".toList, false, false⟩,
      ⟨"opt".toList, [], .only "[::1]".toList, "/".toList, false, false⟩]
  network := .down
  now := ⟨0, 0⟩

theorem cookies_stored_layered :
    (∀ c ∈ (layered.jar.getD []).cookiesFor { Url.loopback with path := .segments [['a']] },
      Legible c.name c.value) ∧
    layered.cookies "http://[::1]/a" =
      .ok [("sid", "1"), ("sid", "2"), ("lang", "fré=x"), ("opt", "")] ∧
    layered.cookie "http://[::1]/a" "sid" = .ok (some "1") ∧
    layered.cookie "http://[::1]/a" "id" = .ok none := by
  have hl : ∀ c ∈ (layered.jar.getD []).cookiesFor { Url.loopback with path := .segments [['a']] },
      Legible c.name c.value := by
    have hall : ∀ c ∈ layered.jar.getD [], c.name ≠ [] ∧ '=' ∉ c.name ∧ ';' ∉ c.name ∧
        ';' ∉ c.value ∧ Text.trim c.name = c.name ∧ Text.trim c.value = c.value := by decide
    intro c hc
    obtain ⟨h1, h2, h3, h4, h5, h6⟩ := hall c (List.mem_filter.1 hc).1
    exact ⟨h1, h2, h3, h4, h5, h6⟩
  have hp : Url.parse "http://[::1]/a" = .ok { Url.loopback with path := .segments [['a']] } := by
    decide +kernel
  have hu : urlOf "http://[::1]/a" = .ok { Url.loopback with path := .segments [['a']] } := by
    rw [urlOf, hp]
  obtain ⟨-, hcookies, hcookie⟩ := cookies_stored (s := layered) rfl hu hl
  exact ⟨hl, hcookies.trans (congrArg _ (by decide +kernel)),
    (hcookie "sid").1.trans (congrArg _ (by decide +kernel)),
    (hcookie "id").2.2 (by decide +kernel)⟩

end Session

/-! ## The cookies for a browser -/

/-- What tells an exported cookie from others: its name and its origin. -/
def BrowserCookie.key (c : BrowserCookie) : String × String := (c.name, c.url)

namespace Session

/-- The cookies of a URL, labelled with its origin. -/
def offer (s : Session) (url : String) : Except Failure (List BrowserCookie) := do
  let u ← urlOf url
  let pairs ← s.cookies url
  return pairs.map fun (name, value) => ⟨name, value, u.origin⟩

/-- The cookies that URLs offer, one URL after the other. -/
def offered (s : Session) (urls : List String) : List BrowserCookie :=
  urls.flatMap fun url => (s.offer url).toOption.getD []

variable {s : Session} {url origin : String} {urls : List String} {u : Url}
  {known : List BrowserCookie}

theorem offer_ok {cookies : List BrowserCookie} : s.offer url = .ok cookies ↔
    ∃ u pairs, urlOf url = .ok u ∧ s.cookies url = .ok pairs ∧
      cookies = pairs.map fun p => ⟨p.1, p.2, u.origin⟩ := by
  constructor
  · intro h
    obtain ⟨u, hu, h⟩ := bind_ok.1 h
    obtain ⟨pairs, hp, h⟩ := bind_ok.1 h
    cases h
    exact ⟨u, pairs, hu, hp, rfl⟩
  · rintro ⟨u, pairs, hu, hp, rfl⟩
    exact bind_ok.2 ⟨u, hu, bind_ok.2 ⟨pairs, hp, rfl⟩⟩

theorem exists_cookies (s : Session) (hu : urlOf url = .ok u) : ∃ pairs, s.cookies url = .ok pairs :=
  ⟨_, bind_ok.2 ⟨u, hu, rfl⟩⟩

theorem exists_offer_iff : (∃ cookies, s.offer url = .ok cookies) ↔ ∃ u, urlOf url = .ok u := by
  constructor
  · rintro ⟨cookies, h⟩
    obtain ⟨u, -, hu, -⟩ := offer_ok.1 h
    exact ⟨u, hu⟩
  · rintro ⟨u, hu⟩
    obtain ⟨pairs, hp⟩ := s.exists_cookies hu
    exact ⟨_, offer_ok.2 ⟨u, pairs, hu, hp, rfl⟩⟩

/-- A URL offers nothing only if it is none. -/
theorem offer_error {f : Failure} : s.offer url = .error f ↔ urlOf url = .error f := by
  constructor
  · intro h
    rcases bind_error.1 h with h | ⟨u, hu, h⟩
    · exact h
    · obtain ⟨pairs, hp⟩ := s.exists_cookies hu
      rcases bind_error.1 h with h | ⟨_, -, h⟩
      · rw [hp] at h
        cases h
      · cases h
  · exact fun h => bind_error.2 (.inl h)

/-! ### The loop -/

/-- The cookies of a URL are added to what is known one by one, and those of a known name and origin
are passed over. -/
theorem addCookies_firsts (origin : String) (pairs : List (String × String)) :
    addCookies origin (firsts BrowserCookie.key known) pairs =
      firsts BrowserCookie.key (known ++ pairs.map fun p => ⟨p.1, p.2, origin⟩) := by
  induction pairs generalizing known with
  | nil => rw [List.map_nil, List.append_nil, addCookies]
  | cons p pairs ih =>
    obtain ⟨name, value⟩ := p
    have hkey : (fun c : BrowserCookie => decide (c.name = name) && decide (c.url = origin)) =
        fun c => decide (c.key = BrowserCookie.key ⟨name, value, origin⟩) := by
      funext c
      simp [BrowserCookie.key]
    have hc : firsts BrowserCookie.key (known ++ [⟨name, value, origin⟩]) = _ := firsts_concat
    rw [List.map_cons, List.append_cons, ← ih, hc, addCookies, hkey]
    split <;> rfl

theorem collectCookies_firsts (s : Session) (known : List BrowserCookie) (urls : List String) :
    s.collectCookies (firsts BrowserCookie.key known) urls =
      (urls.mapM s.offer).map fun offers => firsts BrowserCookie.key (known ++ offers.flatten) := by
  induction urls generalizing known with
  | nil => simp [collectCookies, pure, Except.pure, Except.map]
  | cons url urls ih =>
    rw [List.mapM_cons, collectCookies, offer]
    rcases urlOf url with f | u
    · rfl
    rcases s.cookies url with f | pairs
    · rfl
    simp only [bind, Except.bind, pure, Except.pure, addCookies_firsts, ih]
    rcases urls.mapM s.offer with f | offers
    · rfl
    · simp only [Except.map, List.flatten_cons, List.append_assoc]

/-- An export without its loop: of the cookies that the URLs offer, the first ones of their name and
origin. -/
theorem browserCookies_eq (s : Session) (urls : List String) : s.browserCookies urls =
    (urls.mapM s.offer).map fun offers => firsts BrowserCookie.key offers.flatten :=
  s.collectCookies_firsts [] urls

theorem browserCookies_of_urls (h : ∀ url ∈ urls, ∃ u, urlOf url = .ok u) :
    s.browserCookies urls = .ok (firsts BrowserCookie.key (s.offered urls)) := by
  obtain ⟨offers, ho⟩ := exists_mapM_ok.2 fun url hm => (exists_offer_iff (s := s)).2 (h url hm)
  have hflat : offers.flatten = s.offered urls := by
    have hf : List.Forall₂ (fun url cookies => s.offer url = .ok cookies) urls offers := mapM_ok.1 ho
    clear ho h
    induction hf with
    | nil => rfl
    | cons hx _ ih =>
      rw [List.flatten_cons, ih, offered, offered, List.flatMap_cons, hx]
      rfl
  rw [browserCookies_eq, ho, ← hflat]
  rfl

/-- An export fails exactly at the first text that is no URL. -/
theorem browserCookies_error {f : Failure} : s.browserCookies urls = .error f ↔
    ∃ before url after fault, urls = before ++ url :: after ∧
      (∀ earlier ∈ before, ∃ u, urlOf earlier = .ok u) ∧
      Url.parse url = .error fault ∧ f = .invalidUrl url fault := by
  have hmap : s.browserCookies urls = .error f ↔ urls.mapM s.offer = .error f := by
    rw [browserCookies_eq]
    rcases urls.mapM s.offer with g | offers <;> simp [Except.map]
  have hurl : ∀ url, urlOf url = .error f ↔
      ∃ fault, Url.parse url = .error fault ∧ f = .invalidUrl url fault := by
    intro url
    unfold urlOf
    rcases Url.parse url with fault | u <;> simp [eq_comm]
  simp only [hmap, mapM_error, exists_offer_iff, offer_error, hurl, exists_and_left]

/-! ### What is exported -/

/-- What a URL offers under the name and the origin of a cookie: its value of that name, if the
origin is its own. -/
theorem find?_offer {c : BrowserCookie} {value : Option String} (hu : urlOf url = .ok u)
    (hv : s.cookie url c.name = .ok value) :
    ((s.offer url).toOption.getD []).find? (fun d => d.key = c.key) =
      if u.origin = c.url then value.map fun v => ⟨c.name, v, c.url⟩ else none := by
  obtain ⟨pairs, hp⟩ := s.exists_cookies hu
  rw [cookie_of_pairs hp, Except.ok.injEq] at hv
  rw [offer_ok.2 ⟨u, pairs, hu, hp, rfl⟩, ← hv]
  change (pairs.map fun p => (⟨p.1, p.2, u.origin⟩ : BrowserCookie)).find? _ = _
  rw [List.find?_map]
  split
  · rename_i ho
    have hkey : (fun d : BrowserCookie => decide (d.key = c.key)) ∘
        (fun p : String × String => (⟨p.1, p.2, u.origin⟩ : BrowserCookie)) =
          fun p => decide (p.1 = c.name) := by
      funext p
      simp [BrowserCookie.key, ho]
    rw [hkey, ho]
    rcases hf : pairs.find? (fun p => decide (p.1 = c.name)) with _ | p <;> rw [hf]
    · rfl
    · have hn : p.1 = c.name := by simpa using List.find?_some hf
      simp only [Option.map_some, hn]
  · rename_i ho
    rw [Option.map_eq_none_iff, List.find?_eq_none]
    intro p _
    simp [BrowserCookie.key, ho]

/-- What is found first among the cookies of all URLs is found at the first URL of its origin that
has its name. -/
theorem find?_offered {c : BrowserCookie} (h : ∀ url ∈ urls, ∃ u, urlOf url = .ok u)
    (hc : (s.offered urls).find? (fun d => d.key = c.key) = some c) :
    ∃ before url after u, urls = before ++ url :: after ∧ urlOf url = .ok u ∧ u.origin = c.url ∧
      s.cookie url c.name = .ok (some c.value) ∧
      ∀ earlier ∈ before, ∀ v, urlOf earlier = .ok v → v.origin = c.url →
        s.cookie earlier c.name = .ok none := by
  induction urls with
  | nil => cases hc
  | cons url urls ih =>
    obtain ⟨⟨u, hu⟩, hr⟩ := List.forall_mem_cons.1 h
    obtain ⟨value, hv⟩ : ∃ value, s.cookie url c.name = .ok value := by
      obtain ⟨pairs, hp⟩ := s.exists_cookies hu
      exact ⟨_, cookie_of_pairs hp c.name⟩
    rw [offered, List.flatMap_cons, List.find?_append, find?_offer hu hv] at hc
    -- Either this URL has the cookie, or it has none of this name for this origin.
    by_cases hhere : u.origin = c.url ∧ value.isSome = true
    · obtain ⟨ho, hsome⟩ := hhere
      obtain ⟨v, rfl⟩ := Option.isSome_iff_exists.1 hsome
      rw [if_pos ho, Option.map_some, Option.some_or, Option.some.injEq] at hc
      refine ⟨[], url, urls, u, rfl, hu, ho, ?_, by simp⟩
      rw [hv, ← hc]
    · have hnone : (if u.origin = c.url then
          value.map fun v => (⟨c.name, v, c.url⟩ : BrowserCookie) else none) = none := by
        split
        · rename_i ho
          rcases value with _ | v
          · rfl
          · exact absurd ⟨ho, rfl⟩ hhere
        · rfl
      rw [hnone, Option.none_or] at hc
      obtain ⟨before, there, after, w, rfl, hw, ho, hfirst, hb⟩ := ih hr hc
      refine ⟨url :: before, there, after, w, rfl, hw, ho, hfirst, ?_⟩
      refine List.forall_mem_cons.2 ⟨fun v hv' ho' => ?_, hb⟩
      rw [hu] at hv'
      cases hv'
      rcases value with _ | v
      · exact hv
      · exact absurd ⟨ho', rfl⟩ hhere

/-- What is exported for URLs: of the cookies that they offer, the first ones of their name and
origin. So no two share name and origin, none that would be sent to one of the URLs is lost, each
has the value that the earliest URL of its origin shows for its name, and they stand in the order in
which they occur first. -/
structure Exports (s : Session) (urls : List String) (out : List BrowserCookie) : Prop where
  firsts : out = firsts BrowserCookie.key (s.offered urls)
  distinct : out.Pairwise fun c d => ¬ (c.name = d.name ∧ c.url = d.url)
  covers : ∀ url ∈ urls, ∀ u, urlOf url = .ok u → ∀ pairs, s.cookies url = .ok pairs →
    ∀ p ∈ pairs, ∃ c ∈ out, c.name = p.1 ∧ c.url = u.origin
  value : ∀ c ∈ out, ∃ before url after u, urls = before ++ url :: after ∧
    urlOf url = .ok u ∧ u.origin = c.url ∧ s.cookie url c.name = .ok (some c.value) ∧
    ∀ earlier ∈ before, ∀ v, urlOf earlier = .ok v → v.origin = c.url →
      s.cookie earlier c.name = .ok none
  inOrder : out.Pairwise fun c d => (s.offered urls).idxOf c < (s.offered urls).idxOf d

theorem exports_firsts (h : ∀ url ∈ urls, ∃ u, urlOf url = .ok u) :
    s.Exports urls (Rehearsal.firsts BrowserCookie.key (s.offered urls)) where
  firsts := rfl
  distinct := firsts_distinct.imp fun hne => fun ⟨hn, ho⟩ => hne (Prod.ext hn ho)
  covers url hm u hu pairs hp p hpm := by
    have hoffer : (⟨p.1, p.2, u.origin⟩ : BrowserCookie) ∈ s.offered urls := by
      refine List.mem_flatMap.2 ⟨url, hm, ?_⟩
      rw [offer_ok.2 ⟨u, pairs, hu, hp, rfl⟩]
      exact List.mem_map.2 ⟨p, hpm, rfl⟩
    obtain ⟨c, hc, hk⟩ := exists_mem_firsts BrowserCookie.key hoffer
    exact ⟨c, hc, congrArg Prod.fst hk, congrArg Prod.snd hk⟩
  value c hc := find?_offered h (mem_firsts.1 hc)
  inOrder := firsts_inOrder

/-- **Exporting cookies.** For URLs, `Exports` describes all that is exported; and further URLs add
nothing if they offer no name for an origin that was not offered before. If some text is no URL, the
export fails at the first such text. -/
theorem browserCookies_exports (s : Session) (urls : List String) :
    ((∀ url ∈ urls, ∃ u, urlOf url = .ok u) →
      ∃ out, s.browserCookies urls = .ok out ∧ s.Exports urls out ∧
        ∀ more, (∀ url ∈ more, ∃ u, urlOf url = .ok u) →
          (∀ c ∈ s.offered more, ∃ d ∈ s.offered urls, d.name = c.name ∧ d.url = c.url) →
          s.browserCookies (urls ++ more) = .ok out) ∧
    (∀ f, s.browserCookies urls = .error f ↔ ∃ before url after fault,
      urls = before ++ url :: after ∧ (∀ earlier ∈ before, ∃ u, urlOf earlier = .ok u) ∧
      Url.parse url = .error fault ∧ f = .invalidUrl url fault) := by
  refine ⟨fun h => ?_, fun f => browserCookies_error⟩
  refine ⟨_, browserCookies_of_urls h, exports_firsts h, fun more hm hknown => ?_⟩
  have hall : ∀ url ∈ urls ++ more, ∃ u, urlOf url = .ok u := fun url hx =>
    (List.mem_append.1 hx).elim (h url) (hm url)
  have happend : s.offered (urls ++ more) = s.offered urls ++ s.offered more :=
    List.flatMap_append
  rw [browserCookies_of_urls hall, happend, firsts_append_of_known]
  intro c hc
  obtain ⟨d, hd, hn, ho⟩ := hknown c hc
  exact ⟨d, hd, Prod.ext hn ho⟩

/-- What `layered` hands over for two addresses of one origin and one of another. -/
theorem browserCookies_exports_layered :
    ∃ out, layered.browserCookies ["http://[::1]/", "http://[::1]/a", "http://[::1]:4701/a"] = .ok out ∧
      layered.Exports ["http://[::1]/", "http://[::1]/a", "http://[::1]:4701/a"] out ∧
      out = [⟨"sid", "2", "http://[::1]"⟩, ⟨"lang", "fré=x", "http://[::1]"⟩,
        ⟨"opt", "", "http://[::1]"⟩, ⟨"sid", "1", "http://[::1]:4701"⟩,
        ⟨"lang", "fré=x", "http://[::1]:4701"⟩, ⟨"opt", "", "http://[::1]:4701"⟩] ∧
      layered.browserCookies ["http://[::1]/", "::nope", "http://[::1]:"] =
        .error (.invalidUrl "::nope" .relativeWithoutBase) := by
  have hurl : ∀ url, (Url.parse url).isOk = true → ∃ u, urlOf url = .ok u := by
    intro url h
    rcases hp : Url.parse url with f | u
    · rw [hp] at h
      cases h
    · exact ⟨u, by rw [urlOf, hp]⟩
  have hall : ∀ url ∈ ["http://[::1]/", "http://[::1]/a", "http://[::1]:4701/a"],
      (Url.parse url).isOk = true := by decide +kernel
  obtain ⟨hok, -⟩ := layered.browserCookies_exports
    ["http://[::1]/", "http://[::1]/a", "http://[::1]:4701/a"]
  obtain ⟨out, ho, he, -⟩ := hok fun url hm => hurl url (hall url hm)
  refine ⟨out, ho, he, ?_, ?_⟩
  · rw [he.firsts]
    decide +kernel
  · refine ((layered.browserCookies_exports _).2 _).2
      ⟨["http://[::1]/"], "::nope", ["http://[::1]:"], .relativeWithoutBase, rfl, ?_, ?_, rfl⟩
    · exact fun url hm => hurl url (by revert url; decide +kernel)
    · decide +kernel

end Session
end Rehearsal
