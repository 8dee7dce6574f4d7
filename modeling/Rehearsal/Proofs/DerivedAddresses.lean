import Rehearsal.Login
import Rehearsal.Proofs.Exchange
import Rehearsal.Proofs.JoinedAddresses
import Rehearsal.Proofs.UrlText

/-!
# Addresses made of the addresses of a setup

A setup is accepted if its addresses are URLs; requests go to these addresses with paths and
queries added. `Url.Extensible` says when that makes URLs again, whatever is added: something
besides slashes and at-signs follows the scheme, and blanks at the end are not left in the middle of
that. A URL of the web without blanks at its end is such an address (`Url.extensible_of_web`).
`Setup.derived_addresses` says so of all that is derived from a setup, and that the configured query
is sent.
-/

namespace Rehearsal

namespace Url

open Text

/-- An address to which paths and queries may be added. Its scheme is followed by more than slashes,
backslashes and at-signs, and if there are blanks or control characters at its end, then they come
after a character that ends that part. -/
def Extensible (s : List Char) : Prop :=
  ∀ scheme r, scheme? (clean s) = some (scheme, r) →
    ∃ a y, r = a ++ y ∧ (∃ c ∈ a, c ∉ ['/', '\\', '@']) ∧ Ends false y ∧ (y = [] → IsTrimmed s)

/-- A query as it is read after an address: up to a number sign, without blanks at its end and
without tabs and line breaks. -/
def queryText (q : List Char) : List Char := (closing q).takeWhile (· ≠ '#')

variable {s q : List Char}

theorem ends_cons {c : Char} {y : List Char} (hc : c = '/' ∨ c = '?') : Ends false (c :: y) := by
  rintro d ⟨⟩
  rcases hc with rfl | rfl <;> rfl

theorem ends_nil {special : Bool} : Ends special [] := by
  rintro c ⟨⟩

theorem lt_of_separates {c : Char} (hc : c = '/' ∨ c = '?') : 32 < c.toNat := by
  rcases hc with rfl | rfl <;> decide

/-- An address of the web that is a URL and has no blanks at its end is extensible. -/
theorem extensible_of_web (h : (parseFrom none s).isOk = true) (hs : IsTrimmed s)
    (hweb : ∀ scheme r, scheme? (clean s) = some (scheme, r) →
      isSpecial scheme = true ∧ isFileScheme scheme = false) : Extensible s := by
  intro scheme r hr
  obtain ⟨scheme', r', hr', hok⟩ := parseFrom_isOk.1 h
  cases hr.symm.trans hr'
  obtain ⟨hspecial, hfile⟩ := hweb scheme r hr
  rw [afterScheme_special hfile hspecial] at hok
  obtain ⟨c, hc, hne⟩ := exists_of_fromAuthority hspecial hok
  exact ⟨r, [], (List.append_nil r).symm, ⟨c, (List.dropWhile_sublist _).subset hc, hne⟩, ends_nil,
    fun _ => hs⟩

/-! ## Added paths -/

/-- An address that is a URL is one with anything after a slash or a question mark. -/
theorem Extensible.append (he : Extensible s) (h : (parseFrom none s).isOk = true) {c : Char}
    (hc : c = '/' ∨ c = '?') (t : List Char) : (parseFrom none (s ++ c :: t)).isOk = true := by
  obtain ⟨scheme, r, hr, -⟩ := parseFrom_isOk.1 h
  obtain ⟨a, y, rfl, ha, hy, hlast⟩ := he scheme r hr
  obtain ⟨name, -, -, -, hclean⟩ := scheme?_eq_some.1 hr
  obtain ⟨w, hopen, hw⟩ := exists_opening s
  have hy' : Ends false (y ++ w ++ c :: closing t) := by
    cases y with
    | nil =>
      rw [hw (hlast rfl)]
      exact ends_cons hc
    | cons d y =>
      rintro e ⟨⟩
      exact hy d rfl
  have haddress : clean s = (name ++ ':' :: a) ++ y := by
    rw [hclean, List.append_assoc, List.cons_append]
  have hadded : clean (s ++ c :: t) = (name ++ ':' :: a) ++ (y ++ w ++ c :: closing t) := by
    rw [clean_append (lt_of_separates hc), hopen, haddress]
    simp only [List.append_assoc]
  refine parseFrom_goesOn haddress hadded hy (fun scheme' r' hr' => ?_) h
  obtain ⟨-, hr'⟩ := Prod.mk.inj (Option.some.inj (hr.symm.trans hr'))
  exact ⟨hy, hy', .inl (List.append_cancel_right hr' ▸ ha)⟩

theorem isTrimmed_slash (s : List Char) (k : Nat) :
    IsTrimmed (s ++ List.replicate (k + 1) '/') := by
  intro c hc
  rw [List.replicate_succ', ← List.append_assoc, List.filter_append,
    List.getLast?_append_of_ne_nil _ (by decide)] at hc
  obtain rfl : '/' = c := Option.some.inj hc
  decide

/-- An address that is a URL is one with any path below it. -/
theorem Extensible.join (he : Extensible s) (h : (parseFrom none s).isOk = true) {path : List Char}
    (hp : isAbsoluteAddress path = false) :
    (parseFrom none (joinAddressText s path)).isOk = true := by
  rw [joinAddressText_of_relative hp]
  obtain ⟨k, hk⟩ := exists_trimTrailingSlashes s
  generalize trimTrailingSlashes s = t at hk ⊢
  subst hk
  cases k with
  | zero =>
    rw [List.replicate_zero, List.append_nil] at he h
    exact he.append h (.inl rfl) _
  | succ k =>
    -- the slashes are gone, and with them what ended the part in front of them
    obtain ⟨w, hopen, hw⟩ := exists_opening (t ++ List.replicate (k + 1) '/')
    have hclean : clean (t ++ List.replicate (k + 1) '/') =
        opening t ++ List.replicate (k + 1) '/' := by
      rw [hw (isTrimmed_slash t k), List.append_nil] at hopen
      rw [← hopen, List.replicate_succ, opening_append (by decide)]
      simp [isKept]
    have hslashes : Ends false (List.replicate (k + 1) '/') := ends_cons (.inl rfl)
    refine parseFrom_goesOn hclean (clean_append (by decide)) hslashes (fun scheme r hr => ?_) h
    obtain ⟨a, y, hay, ⟨c, hc, hne⟩, -⟩ := he scheme _ hr
    have hc : c ∈ r ++ List.replicate (k + 1) '/' := hay ▸ List.mem_append_left y hc
    refine ⟨hslashes, ends_cons (.inl rfl), .inl ⟨c, (List.mem_append.1 hc).resolve_right ?_, hne⟩⟩
    intro hslash
    rw [(List.mem_replicate.1 hslash).2] at hne
    exact hne List.mem_cons_self

/-- Any address with the usual path of the login page below it is extensible. -/
theorem extensible_login (s : List Char) :
    Extensible (joinAddressText s "/login_ajax".toList) := by
  have he : joinAddressText s "/login_ajax".toList =
      trimTrailingSlashes s ++ '/' :: "login_ajax".toList := rfl
  intro scheme r hr
  rw [he, clean_append (by decide)] at hr
  obtain ⟨r, rfl, -⟩ := scheme?_append hr (ends_schemeChar (ends_cons (.inl rfl)))
  refine ⟨_, [], (List.append_nil _).symm, ⟨'l', List.mem_append_right _ (by decide), by decide⟩,
    ends_nil, fun _ c hc => ?_⟩
  have hlast : ("/login_ajax".toList.filter isKept).getLast? = some 'x' := by decide
  rw [he, List.filter_append, List.getLast?_append_of_ne_nil _ (by decide)] at hc
  obtain rfl : 'x' = c := Option.some.inj (hlast.symm.trans hc)
  decide

/-! ## Added queries -/

/-- What stands between an address and a query that is added to it. -/
def separator (s : List Char) : Char := if s.contains '?' then '&' else '?'

theorem clean_withParameter (x z q : List Char) :
    clean (x ++ '?' :: z ++ separator (x ++ '?' :: z) :: q) =
      opening x ++ '?' :: (z.filter isKept ++ '&' :: closing q) := by
  rw [separator, if_pos (by simp), clean_append (by decide), opening_append (by decide),
    List.append_assoc, List.cons_append]

theorem mem_of_opening {c : Char} (hc : c ∈ opening s) : c ∈ s :=
  (List.dropWhile_sublist _).subset (List.mem_of_mem_filter hc)

/-- An address that is a URL is one with any query; if it has one already, whatever its end is. -/
theorem withQuery_isOk (he : '?' ∉ s → Extensible s) (h : (parseFrom none s).isOk = true)
    (q : List Char) : (parseFrom none (s ++ separator s :: q)).isOk = true := by
  by_cases hq : '?' ∈ s
  · obtain ⟨x, z, rfl, -⟩ := List.eq_append_cons_of_mem hq
    have hclean : clean (x ++ '?' :: z) = opening x ++ '?' :: closing z := clean_append (by decide)
    exact parseFrom_goesOn hclean (clean_withParameter x z q) (ends_cons (.inr rfl))
      (fun scheme r hr => ⟨ends_cons (.inr rfl), ends_cons (.inr rfl), .inr ⟨_, _, rfl, rfl⟩⟩) h
  · rw [separator, if_neg (by simpa using hq)]
    exact (he hq).append h (.inr rfl) q

/-- A query that is added to an address is read after a question mark, as a parameter of its own if
there are others. -/
theorem clean_withQuery (s q : List Char) :
    ∃ b x, clean (s ++ separator s :: q) = b ++ '?' :: (x ++ closing q) ∧
      (∀ c ∈ b, c ∈ s ∧ c ≠ '?') ∧ (∀ c ∈ x, c ∈ s ∨ c = '&') ∧
      (x = [] ∨ x.getLast? = some '&') := by
  by_cases hq : '?' ∈ s
  · obtain ⟨b, z, rfl, hb⟩ := List.eq_append_cons_of_mem hq
    refine ⟨opening b, z.filter isKept ++ ['&'], ?_, fun c hc => ⟨?_, ?_⟩, fun c hc => ?_,
      .inr (by simp)⟩
    · rw [clean_withParameter, List.append_assoc, List.singleton_append]
    · exact List.mem_append_left _ (mem_of_opening hc)
    · rintro rfl
      exact hb (mem_of_opening hc)
    · rcases List.mem_append.1 hc with hc | hc
      · exact .inl (List.mem_append_right _ (List.mem_cons_of_mem _ (List.mem_of_mem_filter hc)))
      · exact .inr (List.mem_singleton.1 hc)
  · refine ⟨opening s, [], ?_, fun c hc => ⟨mem_of_opening hc, ?_⟩, fun _ hc => (nomatch hc),
      .inl rfl⟩
    · rw [separator, if_neg (by simpa using hq), clean_append (by decide)]
      rfl
    · rintro rfl
      exact hq (mem_of_opening hc)

/-- A query that is added to an address without a fragment is sent, as a parameter of its own if
there are others. -/
theorem withQuery_query (hs : '#' ∉ s) {u : Url}
    (h : parseFrom none (s ++ separator s :: q) = .ok u) :
    ∃ before, u.query = some (before ++ encode (queryPart u.scheme) (queryText q)) ∧
      (before = [] ∨ before.getLast? = some '&') := by
  obtain ⟨b, x, hclean, hb, hx, hend⟩ := clean_withQuery s q
  have hfree : IsFree b := by
    intro c hc
    obtain ⟨hc, hne⟩ := hb c hc
    refine ⟨hne, ?_⟩
    rintro rfl
    exact hs hc
  have hnone : ∀ c ∈ x, decide (c ≠ '#') = true := by
    intro c hc
    rw [decide_eq_true_eq]
    rintro rfl
    exact (hx _ hc).elim hs (by decide)
  refine ⟨encode (queryPart u.scheme) x, ?_, ?_⟩
  · rw [parseFrom_query hclean hfree h, List.takeWhile_append_of_pos hnone, queryText]
    simp [encode]
  · rcases hend with rfl | hend
    · exact .inl rfl
    · obtain ⟨x, rfl⟩ := List.getLast?_eq_some_iff.1 hend
      have hamp : encodeChar (queryPart u.scheme) '&' = ['&'] := by
        unfold queryPart
        split <;> rfl
      exact .inr (by simp [encode, hamp])

end Url

/-! ## Requests for URLs -/

/-- The failure of a text that is no URL. -/
def Failure.IsNoUrl : Failure → Prop
  | .invalidUrl _ _ => True
  | .http (.notUrl _) => True
  | _ => False

namespace Http.Client

open Http

variable {c : Client}

/-- Once it has a URL, no request fails for want of one. -/
theorem exchange_ne_notUrl (left : Nat) (r : Request) (f : UrlFault) :
    (c.exchange left r).1 ≠ .error (.notUrl f) := by
  induction left generalizing c r with
  | zero =>
    unfold exchange
    split
    · rintro ⟨⟩
    · rcases c.network.ask r with ⟨_ | _ | _, network⟩
      · dsimp only
        rcases nextRequest? r _ with _ | next <;> rintro ⟨⟩
      · rintro ⟨⟩
      · rintro ⟨⟩
  | succ left ih =>
    unfold exchange
    split
    · rintro ⟨⟩
    · rcases c.network.ask r with ⟨_ | _ | _, network⟩
      · dsimp only
        rcases nextRequest? r _ with _ | next
        · rintro ⟨⟩
        · exact ih _
      · rintro ⟨⟩
      · rintro ⟨⟩

theorem sendIfOk_ne_notUrl {r : Except Fault Request} {f : UrlFault} (hr : r ≠ .error (.notUrl f)) :
    (c.sendIfOk r).1 ≠ .error (.notUrl f) := by
  rcases r with e | r
  · intro he
    exact hr (congrArg Except.error (Except.error.inj he))
  · simp only [sendIfOk, send]
    split
    · nofun
    · split
      · nofun
      · exact exchange_ne_notUrl _ _ f

end Http.Client

namespace Session

variable {s : Session} {setup : Setup} {text : String} {u : Url} {f : Failure}

theorem ofText_ne_notUrl (h : Url.parse text = .ok u) (method : Http.Method) (f : UrlFault) :
    Http.Request.ofText method text ≠ .error (.notUrl f) := by
  simp only [Http.Request.ofText, h]
  split
  · nofun
  · split <;> nofun

theorem outcome_ne_noUrl {r : Except Http.Fault Http.Answer × Http.Client}
    (h : ∀ f, r.1 ≠ .error (.notUrl f)) (hf : (outcome r).1 = .error f) : ¬ f.IsNoUrl := by
  obtain ⟨_ | _, c⟩ := r
  · rename_i e
    obtain rfl := Except.error.inj hf
    intro he
    cases e with
    | notUrl g => exact h g rfl
    | _ => exact he
  · cases hf

theorem status_ne_noUrl (h : Url.parse text = .ok u) (hf : (s.status text).1 = .error f) :
    ¬ f.IsNoUrl :=
  outcome_ne_noUrl (fun g => Http.Client.sendIfOk_ne_notUrl (ofText_ne_notUrl h .get g)) hf

theorem ofText_query (h : Url.parse text = .ok u) {method : Http.Method} {r : Http.Request}
    (hr : Http.Request.ofText method text = .ok r) : r.url.query = u.query := by
  simp only [Http.Request.ofText, h] at hr
  split at hr
  · cases hr
  · split at hr <;> cases hr <;> rfl

theorem addHeader_url {r q : Http.Request} {name value : String}
    (h : r.addHeader name value = .ok q) : q.url = r.url := by
  unfold Http.Request.addHeader at h
  split at h
  · cases h
  · split at h <;> cases h
    rfl

theorem loginRequest_query (h : Url.parse setup.loginUrl = .ok u) {c : Credentials}
    {token : String} {r : Http.Request} (hr : loginRequest setup c token = .ok r) :
    r.url.query = u.query := by
  unfold loginRequest at hr
  obtain ⟨r₁, h₁, hr⟩ := bind_ok.1 hr
  obtain ⟨r₂, h₂, hr⟩ := bind_ok.1 hr
  obtain ⟨r₃, h₃, hr⟩ := bind_ok.1 hr
  cases hr
  have hurl : (r₃.withForm (loginForm c)).url = r₁.url :=
    (addHeader_url h₃).trans (addHeader_url h₂)
  rw [hurl, ofText_query h h₁]

theorem addHeader_ne_notUrl (r : Http.Request) (name value : String) (g : UrlFault) :
    r.addHeader name value ≠ .error (.notUrl g) := by
  unfold Http.Request.addHeader
  split
  · nofun
  · split <;> nofun

theorem loginRequest_ne_notUrl (h : Url.parse setup.loginUrl = .ok u) (c : Credentials)
    (token : String) (g : UrlFault) : loginRequest setup c token ≠ .error (.notUrl g) := by
  intro he
  unfold loginRequest at he
  rcases bind_error.1 he with he | ⟨r, -, he⟩
  · exact ofText_ne_notUrl h .post g he
  · rcases bind_error.1 he with he | ⟨r, -, he⟩
    · exact addHeader_ne_notUrl _ _ _ g he
    · rcases bind_error.1 he with he | ⟨r, -, he⟩
      · exact addHeader_ne_notUrl _ _ _ g he
      · cases he

theorem cookie_ok (h : Url.parse text = .ok u) (s : Session) (name : String) :
    ∃ v, s.cookie text name = .ok v := by
  simp only [cookie, cookies, urlOf, h]
  exact ⟨_, rfl⟩

/-- A login at a URL does not fail for want of one. -/
theorem authenticate_ne_noUrl (h : Url.parse setup.loginUrl = .ok u) {c : Credentials}
    (hf : (s.authenticate setup c).1 = .error f) : ¬ f.IsNoUrl := by
  obtain ⟨v, hv⟩ := cookie_ok h (s.get setup.loginUrl).2 setup.login.tokenCookie
  simp only [authenticate_eq] at hf
  rw [hv] at hf
  cases v with
  | none =>
    obtain rfl := Except.error.inj hf
    exact id
  | some token =>
    exact outcome_ne_noUrl
      (fun g => Http.Client.sendIfOk_ne_notUrl (loginRequest_ne_notUrl h c token g)) hf

end Session

namespace Setup

variable {s : Setup}

/-- A setup is accepted if it is valid, or if it was loaded. -/
def Accepted (s : Setup) : Prop :=
  s.validate = .ok () ∨ ∃ files path env, load files path env = .ok s

theorem validate_of_load {files : FileTree} {path : Option Path} {env : Environment}
    (h : load files path env = .ok s) : s.validate = .ok () := by
  have hread : ∀ t : Setup, (do (t.overlay env).validate; return t.overlay env) = .ok s →
      s.validate = .ok () := by
    intro t ht
    obtain ⟨⟨⟩, hv, ht⟩ := bind_ok.1 ht
    cases ht
    exact hv
  unfold load at h
  dsimp only at h
  split at h
  · exact hread _ h
  · split at h
    · obtain ⟨t, -, h⟩ := bind_ok.1 h
      exact hread t h
    · cases h

theorem urlOf_isOk {text : String} {u : Url} (h : urlOf text = .ok u) :
    (Url.parseFrom none text.toList).isOk = true := by
  unfold urlOf Url.parse at h
  split at h
  · rename_i he
    rw [he]
    rfl
  · cases h

/-- The addresses of a setup that is accepted are URLs. -/
theorem Accepted.urls (h : s.Accepted) : (Url.parseFrom none s.lms.toList).isOk = true ∧
    (Url.parseFrom none s.cms.toList).isOk = true ∧
    (Url.parseFrom none s.loginEndpoint.toList).isOk = true := by
  have hv : s.validate = .ok () := h.elim id fun ⟨_, _, _, h⟩ => validate_of_load h
  obtain ⟨u, hu, hv⟩ := bind_ok.1 hv
  obtain ⟨v, hv', hv⟩ := bind_ok.1 hv
  obtain ⟨w, hw, -⟩ := bind_ok.1 hv
  exact ⟨urlOf_isOk hu, urlOf_isOk hv', urlOf_isOk hw⟩

theorem parse_of_isOk {text : String} (h : (Url.parseFrom none text.toList).isOk = true) :
    ∃ u, Url.parse text = .ok u := by
  rcases hp : Url.parseFrom none text.toList with f | u
  · rw [hp] at h
    cases h
  · exact ⟨u, hp⟩

theorem joinAddress_ok {base path : String} (he : Url.Extensible base.toList)
    (h : (Url.parseFrom none base.toList).isOk = true)
    (hp : isAbsoluteAddress path.toList = false) : ∃ u, Url.parse (joinAddress base path) = .ok u :=
  parse_of_isOk (by rw [toList_joinAddress]; exact he.join h hp)

/-- The address of a login is the one of the login page with the configured query, if there is
one. -/
theorem loginUrl_cases (s : Setup) :
    (∃ q, s.login.query = some q ∧ q ≠ "" ∧ s.loginUrl.toList =
      s.loginEndpoint.toList ++ Url.separator s.loginEndpoint.toList :: q.toList) ∨
    ((∀ q ∈ s.login.query, q = "") ∧ s.loginUrl = s.loginEndpoint) := by
  unfold loginUrl
  cases hq : s.login.query with
  | none => exact .inr ⟨nofun, rfl⟩
  | some q =>
    by_cases hne : q = ""
    · subst hne
      exact .inr ⟨fun q hq => (Option.some.inj hq).symm, rfl⟩
    · refine .inl ⟨q, rfl, hne, ?_⟩
      have hempty : q.isEmpty = false := by simpa using hne
      simp only [hempty, Bool.false_eq_true, if_false, Url.separator, String.toList_append]
      split <;> simp

/-- The login page takes the configured query: a page of its own to which a query is added has one
already, or it is extensible. -/
def TakesQuery (s : Setup) : Prop :=
  ∀ e ∈ s.login.endpoint, ∀ q ∈ s.login.query, q ≠ "" → '?' ∉ e.toList → Url.Extensible e.toList

theorem loginUrl_ok (he : (Url.parseFrom none s.loginEndpoint.toList).isOk = true)
    (hq : s.TakesQuery) : ∃ u, Url.parse s.loginUrl = .ok u := by
  refine parse_of_isOk ?_
  rcases s.loginUrl_cases with ⟨q, hquery, hne, htext⟩ | ⟨-, htext⟩ <;> rw [htext]
  · refine Url.withQuery_isOk (fun hmark => ?_) he q.toList
    unfold loginEndpoint at hmark ⊢
    cases hn : s.login.endpoint with
    | none =>
      rw [Option.getD_none, lmsAddress, toList_joinAddress]
      exact Url.extensible_login _
    | some e =>
      rw [hn] at hmark
      exact hq e hn q hquery hne hmark
  · exact he

theorem loginUrl_query (hs : '#' ∉ s.loginEndpoint.toList) {q : String} (hq : q ∈ s.login.query)
    (hne : q ≠ "") {u : Url} (h : Url.parse s.loginUrl = .ok u) :
    ∃ before, u.query =
        some (before ++ Url.encode (Url.queryPart u.scheme) (Url.queryText q.toList)) ∧
      (before = [] ∨ before.getLast? = some '&') := by
  rcases s.loginUrl_cases with ⟨q', hq', -, htext⟩ | ⟨hnone, -⟩
  · obtain rfl : q' = q := Option.some.inj (hq'.symm.trans hq)
    unfold Url.parse at h
    rw [htext] at h
    exact Url.withQuery_query hs h
  · exact absurd (hnone q hq) hne

/-- **Addresses that are derived from a setup.** Paths below extensible addresses of a setup that is
accepted are URLs, so that waiting for the application and ending a session find one; and if the
login page takes the configured query, then logging in finds a URL and sends this query. -/
theorem derived_addresses (hs : s.Accepted) :
    (Url.Extensible s.lms.toList → ∀ path : String, isAbsoluteAddress path.toList = false →
      (∃ u, Url.parse (s.lmsAddress path) = .ok u) ∧
        ∀ (c : Http.Client) (f : UrlFault), (c.get (s.lmsAddress path)).1 ≠ .error (.notUrl f)) ∧
    (Url.Extensible s.cms.toList → ∀ path : String, isAbsoluteAddress path.toList = false →
      ∃ u, Url.parse (s.cmsAddress path) = .ok u) ∧
    (Url.Extensible s.lms.toList → isAbsoluteAddress s.login.logoutPath.toList = false →
      ∀ (session : Session) (f : Failure), (session.logOut s).1 = .error f → ¬ f.IsNoUrl) ∧
    (s.TakesQuery →
      (∃ u, Url.parse s.loginUrl = .ok u ∧
        ('#' ∉ s.loginEndpoint.toList → ∀ q ∈ s.login.query, q ≠ "" →
          ∃ before, u.query =
              some (before ++ Url.encode (Url.queryPart u.scheme) (Url.queryText q.toList)) ∧
            (before = [] ∨ before.getLast? = some '&')) ∧
        (∀ r, Http.Request.ofText .get s.loginUrl = .ok r → r.url.query = u.query) ∧
        ∀ c token r, Session.loginRequest s c token = .ok r → r.url.query = u.query) ∧
      ∀ (session : Session) (c : Credentials) (f : Failure),
        (session.authenticate s c).1 = .error f → ¬ f.IsNoUrl) := by
  obtain ⟨hl, hc, he⟩ := hs.urls
  refine ⟨fun hlms path hp => ?_, fun hcms path hp => joinAddress_ok hcms hc hp,
    fun hlms hp session f hf => ?_, fun hq => ?_⟩
  · obtain ⟨u, hu⟩ := joinAddress_ok hlms hl hp
    exact ⟨⟨u, hu⟩, fun c f => Http.Client.sendIfOk_ne_notUrl (Session.ofText_ne_notUrl hu .get f)⟩
  · obtain ⟨u, hu⟩ := joinAddress_ok hlms hl hp
    exact Session.status_ne_noUrl hu hf
  · obtain ⟨u, hu⟩ := loginUrl_ok he hq
    exact ⟨⟨u, hu, fun hfragment q hq hne => loginUrl_query hfragment hq hne hu,
        fun r hr => Session.ofText_query hu hr,
        fun c token r hr => Session.loginRequest_query hu hr⟩,
      fun session c f hf => Session.authenticate_ne_noUrl hu hf⟩

/-- A setup on the loopback interface, with its courses made at an address. -/
def madeAt (cms : String) : Setup := { lms := "http://[::1]", cms := cms }

/-- A setup on the loopback interface, with a login page and a query for it. -/
def askedAt (endpoint query : String) : Setup :=
  { madeAt "http://[::1]:4701/cms/" with
    login := { endpoint := some endpoint, query := some query } }

/-- A setup with a login page and a query with a blank. -/
def ownPage : Setup := askedAt "http://[::1]/login" "skip=a b"

theorem derived_addresses_loopback :
    (∃ u, Url.parse (ownPage.lmsAddress "heartbeat") = .ok u) ∧
    (∃ u, Url.parse (ownPage.cmsAddress "/home") = .ok u) ∧
    (∀ (session : Session) (f : Failure),
      (session.logOut ownPage).1 = .error f → ¬ f.IsNoUrl) ∧
    ∃ u, Url.parse ownPage.loginUrl = .ok u ∧
      ∃ before, u.query = some (before ++ "skip=a%20b".toList) ∧
        (before = [] ∨ before.getLast? = some '&') := by
  have hextensible : ∀ s ∈ [ownPage.lms, ownPage.cms, "http://[::1]/login"],
      Url.Extensible s.toList := by
    simp only [List.forall_mem_cons, List.not_mem_nil, false_imp_iff, implies_true, and_true]
    refine ⟨?_, ?_, ?_⟩ <;>
    · refine Url.extensible_of_web rfl ?_ ?_
      · rintro c ⟨⟩
        decide
      · rintro scheme r ⟨⟩
        exact ⟨rfl, rfl⟩
  obtain ⟨hlms, hcms, hlogout, hlogin⟩ := derived_addresses (s := ownPage) (.inl rfl)
  have htakes : ownPage.TakesQuery := by
    rintro e ⟨⟩ - - - -
    exact hextensible _ (by simp)
  obtain ⟨⟨u, hu, hquery, -⟩, -⟩ := hlogin htakes
  refine ⟨(hlms (hextensible _ (by simp)) "heartbeat" rfl).1,
    hcms (hextensible _ (by simp)) "/home" rfl, hlogout (hextensible _ (by simp)) rfl, u, hu, ?_⟩
  obtain ⟨before, hbefore, hend⟩ := hquery (by decide) _ rfl (by decide)
  refine ⟨before, ?_, hend⟩
  cases hu
  exact hbefore

/-- What is derived from a setup that is accepted need not be a URL, and a query need not be sent as
it is: blanks are left in the middle, a scheme may be followed by slashes only, a query may come
after a fragment, and it may have characters that are not sent as they are. -/
theorem accepted_underivable :
    ((madeAt "http://[::1]:4701 ").Accepted ∧ isAbsoluteAddress "/".toList = false ∧
      Url.parse ((madeAt "http://[::1]:4701 ").cmsAddress "/") = .error .invalidPort) ∧
    ((madeAt "file:///").Accepted ∧ isAbsoluteAddress "\\[".toList = false ∧
      Url.parse ((madeAt "file:///").cmsAddress "\\[") = .error .invalidAddress6) ∧
    ((madeAt "foo://@").Accepted ∧
      Url.parse ((madeAt "foo://@").cmsAddress "/") = .error .emptyHost) ∧
    ((askedAt "http://[::1] " "a=1").Accepted ∧
      Url.parse (askedAt "http://[::1] " "a=1").loginUrl = .error .invalidAddress6) ∧
    ((askedAt "http://[::1]/#f" "a=1").Accepted ∧
      (Url.parse (askedAt "http://[::1]/#f" "a=1").loginUrl).map (·.query) = .ok none) ∧
    ((askedAt "http://[::1]/?x" "a b#c").Accepted ∧
      (Url.parse (askedAt "http://[::1]/?x" "a b#c").loginUrl).map (·.query) =
        .ok (some "x&a%20b".toList)) :=
  ⟨⟨.inl rfl, rfl, rfl⟩, ⟨.inl rfl, rfl, rfl⟩, ⟨.inl rfl, rfl⟩, ⟨.inl rfl, rfl⟩, ⟨.inl rfl, rfl⟩,
    ⟨.inl rfl, rfl⟩⟩
end Setup
end Rehearsal
