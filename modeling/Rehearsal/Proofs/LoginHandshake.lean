import Mathlib.Data.String.Basic
import Rehearsal.Login
import Rehearsal.Proofs.Exchange
import Rehearsal.Proofs.FormText
import Rehearsal.Proofs.UrlText

/-!
# The handshake of a login

A login fetches its page once and posts the credentials together with a token that the session read
from its own cookies. Two paths lead from the jar into that request: the token is taken from a
header that is read again, and the cookies are put in by the client, a little later. `Session.handshake`
says that they agree for every jar, as long as the cookie with the token has not ended in between, and
that the jar after the first request alone decides whether anything is posted: `loginPost?` is the only
request that can be, and it depends on nothing else. For an address that cannot stand in a request
nothing is sent at all (`Session.unsent`); `Session.handshake_fails` shows both exceptions.
-/

namespace Rehearsal

open Http

/-! ## Cookies of a session -/

section
variable {s : Session} {text : String} {u : Url} {headers : List (List UInt8)}

/-- The pairs that a session shows are those of its cookies for the URL. -/
theorem Session.cookies_of_legible (h : urlOf text = .ok u)
    (hl : ∀ c ∈ (s.jar.getD []).cookiesFor u, Legible c.name c.value) :
    s.cookies text = .ok (((s.jar.getD []).cookiesFor u).map fun c =>
      (String.ofList c.name, String.ofList c.value)) := by
  unfold Session.cookies
  rw [h]
  simp only [bind, Except.bind, Jar.pairs_of_legible hl, List.map_map]
  rfl

theorem Session.cookies_eq (s : Session) (h : urlOf text = .ok u)
    (hf : (s.jar.getD []).From headers) :
    s.cookies text = .ok (((s.jar.getD []).cookiesFor u).map fun c =>
      (String.ofList c.name, String.ofList c.value)) := cookies_of_legible h hf.legible

theorem Session.cookie_of_pairs {pairs : List (String × String)} (h : s.cookies text = .ok pairs)
    (name : String) :
    s.cookie text name = .ok ((pairs.find? fun p => p.1 = name).map fun p => p.2) := by
  unfold Session.cookie
  rw [h]
  rfl

/-- Of the cookies that a session shows, the first one of a name gives its value. -/
theorem Session.cookie_of_cookies {kept : List Cookie} (h : s.cookies text =
    .ok (kept.map fun c => (String.ofList c.name, String.ofList c.value))) (name : String) :
    s.cookie text name = .ok ((kept.find? fun c => c.name = name.toList).map fun c =>
      String.ofList c.value) := by
  have hname : (fun p : String × String => decide (p.1 = name)) ∘
      (fun c : Cookie => (String.ofList c.name, String.ofList c.value)) =
        fun c => decide (c.name = name.toList) := by
    funext c
    exact decide_eq_decide.2 String.ofList_eq
  rw [cookie_of_pairs h, List.find?_map, hname, Option.map_map]
  rfl

end

/-! ## Headers of a request -/

/-- The values of the headers of a name with which a request is sent. -/
def Http.Request.values (r : Request) (name : String) : List String :=
  (r.sentHeaders.filter (·.1 = name)).map (·.2)

theorem Http.Request.values_eq (r : Request) {name : String} (hn : name ≠ lengthHeader) :
    r.values name = (r.headers.filter (·.1 = name)).map (·.2) := by
  rw [values, filter_sentHeaders]
  exact fun _ => decide_eq_false hn.symm

/-- A text that can be the name of a header. -/
structure IsHeaderName (name : String) : Prop where
  nonempty : name ≠ ""
  length : name.length ≤ 65535
  chars : name.toList.all isHeaderNameChar = true

/-- A text that can be the value of a header. -/
def IsHeaderValue (value : String) : Prop := (Text.utf8 value.toList).all Jar.isHeaderByte = true

/-- The name of a header as a request has it. -/
def lowerName (name : String) : String := String.ofList (name.toList.map Char.toLower)

theorem Http.Request.addHeader_eq {name value : String} (hn : IsHeaderName name)
    (hv : IsHeaderValue value) (r : Request) : r.addHeader name value =
      .ok { r with headers := r.headers ++ [(lowerName name, value)] } := by
  have hl : ¬ 65535 < name.length := by have := hn.length; omega
  have he : name.isEmpty = false := by simpa using hn.nonempty
  unfold addHeader
  rw [if_neg (by simp [he, hl, hn.chars]), if_neg (by simpa [IsHeaderValue] using hv)]
  rfl

theorem isHeaderName_referer : IsHeaderName "referer" where
  nonempty := by decide
  length := by decide
  chars := by decide

/-! ## What is posted -/

/-- The names of the headers that a login has besides the one with the token. -/
def loginHeaders (u : Url) : List String :=
  (userOf? u).toList.map (fun _ => "authorization") ++
    [Request.lengthHeader, "content-type", "cookie", "referer"]

/-- A setup whose login has all that it needs at a URL. The address of the login is that URL, and it is
fetched over plain HTTP. The referer can be the value of a header, and the token has a header of its
own. -/
structure Setup.CanLogIn (setup : Setup) (u : Url) : Prop where
  address : Url.parse setup.loginUrl = .ok u
  scheme : u.scheme = "http".toList
  referer : IsHeaderValue setup.loginReferer
  header : IsHeaderName setup.login.tokenHeader
  own : lowerName setup.login.tokenHeader ∉ loginHeaders u

/-- A request that logs in at a URL with a token: it posts the form there, with the referer of the
setup, and with the token in its header. -/
structure IsLogin (setup : Setup) (c : Credentials) (u : Url) (token : String) (r : Request) :
    Prop where
  method : r.method = .post
  url : r.url = addressed u
  token : r.values (lowerName setup.login.tokenHeader) = [token]
  referer : r.values "referer" = [setup.loginReferer]
  contentType : r.values "content-type" = ["application/x-www-form-urlencoded"]
  form : r.body.map readForm =
    some [("email", c.email), ("password", c.password), ("remember", "false")]

/-- The value of the first cookie of a name in a request. -/
def Http.Request.cookie? (r : Request) (name : String) : Option String :=
  (r.pairs.find? (·.1 = name.toList)).map fun p => String.ofList p.2

/-- A jar has a cookie of a name for a URL. -/
def Http.Jar.Holds (jar : Jar) (u : Url) (name : String) : Prop :=
  ∃ c ∈ jar, c.isFor u = true ∧ c.name = name.toList

/-- The cookie with the token that a jar has for a URL. -/
def tokenCookie? (setup : Setup) (u : Url) (jar : Jar) : Option Cookie :=
  (jar.cookiesFor u).find? (·.name = setup.login.tokenCookie.toList)

/-- The token that a jar has for a URL. -/
def tokenIn? (setup : Setup) (u : Url) (jar : Jar) : Option String :=
  (tokenCookie? setup u jar).map fun c => String.ofList c.value

/-- The request that logs in with the token of a jar and the cookies that are left of it. -/
def loginPost? (setup : Setup) (c : Credentials) (u : Url) (jar left : Jar) : Option Request := do
  let token ← tokenIn? setup u jar
  let r ← (Session.loginRequest setup c token).toOption
  return r.withCookies left

/-- The request that logs in with a token, before the cookies are put in. -/
def bareLogin (setup : Setup) (c : Credentials) (u : Url) (token : String) : Request :=
  { Request.plain .post u with
    headers := (Request.plain .post u).headers ++
      [("referer", setup.loginReferer), (lowerName setup.login.tokenHeader, token)] }.withForm
    (Session.loginForm c)

section
variable {setup : Setup} {c : Credentials} {u : Url} {jar : Jar} {headers : List (List UInt8)}
  {token : String}

theorem Setup.CanLogIn.isHttp (h : setup.CanLogIn u) : u.isHttp = true :=
  Url.isHttp_iff.2 (.inl h.scheme)

theorem loginRequest_eq (h : setup.CanLogIn u) (ht : IsHeaderValue token) :
    Session.loginRequest setup c token = .ok (bareLogin setup c u token) := by
  have hl : lowerName "referer" = "referer" := by decide
  unfold Session.loginRequest bareLogin
  rw [Request.ofText_eq h.address h.isHttp]
  simp only [bind, Except.bind, Request.addHeader_eq isHeaderName_referer h.referer,
    Request.addHeader_eq h.header ht, hl, List.append_assoc]
  rfl

theorem mem_plain_headers {e : String × String} (h : e ∈ (Request.plain .post u).headers) :
    e.1 = "authorization" ∧ "authorization" ∈ loginHeaders u := by
  unfold Request.plain at h
  obtain ⟨x, hx, rfl⟩ := List.mem_map.1 h
  exact ⟨rfl, List.mem_append_left _ (List.mem_map.2 ⟨x, hx, rfl⟩)⟩

/-- The headers of a login: those of its address, the referer, the token, and the kind of body. -/
theorem bareLogin_headers (h : setup.CanLogIn u) (c : Credentials) (token : String) :
    (bareLogin setup c u token).headers = (Request.plain .post u).headers ++
      [("referer", setup.loginReferer), (lowerName setup.login.tokenHeader, token),
        ("content-type", "application/x-www-form-urlencoded")] := by
  have hown : lowerName setup.login.tokenHeader ≠ "content-type" := by
    intro he
    exact h.own (by simp [he, loginHeaders])
  have hplain : ∀ e ∈ (Request.plain .post u).headers, e.1 ≠ "content-type" := by
    intro e he
    rw [(mem_plain_headers he).1]
    decide
  have hkeep : ∀ e ∈ (Request.plain .post u).headers ++
      [("referer", setup.loginReferer), (lowerName setup.login.tokenHeader, token)],
      decide (e.1 ≠ "content-type") = true := by
    intro e he
    apply decide_eq_true
    rcases List.mem_append.1 he with he | he
    · exact hplain e he
    · rcases List.mem_cons.1 he with rfl | he
      · change "referer" ≠ "content-type"
        decide
      · rw [List.mem_singleton.1 he]
        exact hown
  have he : (bareLogin setup c u token).headers = ((Request.plain .post u).headers ++
      [("referer", setup.loginReferer), (lowerName setup.login.tokenHeader, token)]).filter
        (fun e => decide (e.1 ≠ "content-type")) ++
          [("content-type", "application/x-www-form-urlencoded")] := rfl
  rw [he, List.filter_eq_self.2 hkeep, List.append_assoc]
  rfl

/-! ## The token and the cookies -/

theorem tokenIn?_isSome :
    (tokenIn? setup u jar).isSome = true ↔ jar.Holds u setup.login.tokenCookie := by
  simp [tokenIn?, tokenCookie?, Jar.Holds, Jar.cookiesFor]

theorem cookiesFor_addressed (jar : Jar) (u : Url) :
    jar.cookiesFor (addressed u) = jar.cookiesFor u := by
  obtain ⟨hs, hh, hp⟩ := addressed_eq u
  have hfor : ∀ c : Cookie, c.isFor (addressed u) = c.isFor u := by
    intro c
    unfold Cookie.isFor pathCovers CookieDomain.covers isSafe Url.isSecure hasHttpScheme
    rw [hs, hh, hp]
  unfold Jar.cookiesFor
  exact List.filter_congr fun c _ => hfor c

/-- A session finds the token that its jar has, read from the header with all cookies. -/
theorem cookie_eq_tokenIn (hu : urlOf setup.loginUrl = .ok u) {s : Session} (hj : s.jar = some jar)
    (hf : jar.From headers) :
    s.cookie setup.loginUrl setup.login.tokenCookie = .ok (tokenIn? setup u jar) := by
  have hfrom : (s.jar.getD []).From headers := by rwa [hj]
  have hcookies := s.cookies_eq hu hfrom
  rw [hj] at hcookies
  exact Session.cookie_of_cookies hcookies setup.login.tokenCookie

theorem cookie_eq (h : setup.CanLogIn u) {s : Session} (hj : s.jar = some jar)
    (hf : jar.From headers) :
    s.cookie setup.loginUrl setup.login.tokenCookie = .ok (tokenIn? setup u jar) :=
  cookie_eq_tokenIn (by rw [urlOf, h.address]) hj hf

/-- A token that a jar has can stand in a header. -/
theorem isHeaderValue_of_tokenIn? (hf : jar.From headers) (h : tokenIn? setup u jar = some token) :
    IsHeaderValue token := by
  obtain ⟨k, hk, rfl⟩ := Option.map_eq_some_iff.1 h
  have hm : k ∈ jar := (List.mem_filter.1 (List.mem_of_find?_eq_some hk)).1
  rw [IsHeaderValue, String.toList_ofList]
  exact (hf k hm).headerBytes

theorem tokenCookie?_name {k : Cookie} (hk : tokenCookie? setup u jar = some k) :
    k.name = setup.login.tokenCookie.toList := by
  simpa using List.find?_some hk

/-- A cookie with the token that has not ended is the one that is left. -/
theorem tokenCookie?_losing {ended : Cookie → Bool} {k : Cookie}
    (hk : tokenCookie? setup u jar = some k) (he : ended k = false) :
    tokenCookie? setup u (jar.losing ended) = some k := by
  have hleft : (jar.losing ended).cookiesFor u = (jar.cookiesFor u).filter fun c => !ended c :=
    List.filter_comm _ _ jar
  obtain ⟨hname, front, back, hfront, hbefore⟩ := List.find?_eq_some_iff_append.1 hk
  rw [tokenCookie?, hleft, hfront, List.filter_append, List.filter_cons_of_pos (by simp [he])]
  refine List.find?_eq_some_iff_append.2 ⟨hname, _, _, rfl, fun d hd => ?_⟩
  exact hbefore d (List.mem_filter.1 hd).1

section
variable {k : Cookie} (hk : tokenCookie? setup u jar = some k)
include hk

theorem tokenIn?_of_tokenCookie? : tokenIn? setup u jar = some (String.ofList k.value) :=
  congrArg (Option.map _) hk

/-- A login with the token of a jar can be made. -/
theorem loginRequest_of_tokenCookie? (h : setup.CanLogIn u) (hf : jar.From headers)
    (c : Credentials) : Session.loginRequest setup c (String.ofList k.value) =
      .ok (bareLogin setup c u (String.ofList k.value)) :=
  loginRequest_eq h (isHeaderValue_of_tokenIn? hf (tokenIn?_of_tokenCookie? hk))

theorem loginPost?_of_tokenCookie? (h : setup.CanLogIn u) (hf : jar.From headers)
    (c : Credentials) (left : Jar) : loginPost? setup c u jar left =
      some ((bareLogin setup c u (String.ofList k.value)).withCookies left) := by
  unfold loginPost?
  simp only [tokenIn?_of_tokenCookie? hk, loginRequest_of_tokenCookie? hk h hf,
    Option.bind_eq_bind, Option.bind_some]
  rfl

end

/-- Each of the headers that a login adds is there once. -/
theorem bareLogin_values (h : setup.CanLogIn u) (c : Credentials) (token : String) :
    (bareLogin setup c u token).values "referer" = [setup.loginReferer] ∧
    (bareLogin setup c u token).values (lowerName setup.login.tokenHeader) = [token] ∧
    (bareLogin setup c u token).values "content-type" = ["application/x-www-form-urlencoded"] := by
  have hplain : ∀ name, name ≠ "authorization" ∨ name ∉ loginHeaders u →
      (Request.plain .post u).headers.filter (·.1 = name) = [] := by
    intro name hn
    rw [List.filter_eq_nil_iff]
    intro e he heq
    obtain ⟨ha, hm⟩ := mem_plain_headers he
    rw [decide_eq_true_eq, ha] at heq
    rcases hn with hn | hn
    · exact hn heq.symm
    · exact hn (heq ▸ hm)
  have hreferer : "referer" ≠ lowerName setup.login.tokenHeader := by
    intro he
    exact h.own (by simp [← he, loginHeaders])
  have htype : "content-type" ≠ lowerName setup.login.tokenHeader := by
    intro he
    exact h.own (by simp [← he, loginHeaders])
  have hlength : lowerName setup.login.tokenHeader ≠ Request.lengthHeader := by
    intro he
    exact h.own (by simp [he, loginHeaders])
  rw [Request.values_eq _ (by decide), Request.values_eq _ hlength, Request.values_eq _ (by decide),
    bareLogin_headers h c token, List.filter_append, List.filter_append, List.filter_append,
    hplain "referer" (.inl (by decide)), hplain _ (.inr h.own),
    hplain "content-type" (.inl (by decide))]
  simp [hreferer, hreferer.symm, htype, htype.symm]

theorem bareLogin_pairs (hf : jar.From headers) :
    ((bareLogin setup c u token).withCookies jar).pairs =
      (jar.cookiesFor u).map fun c => (c.name, c.value) := by
  rw [← cookiesFor_addressed, ← hf.pairs]
  change (((jar.header? (addressed u)).or none).map readHeader).getD [] = _
  rw [Option.or_none]

theorem bareLogin_form (setup : Setup) (c : Credentials) (u : Url) (token : String) :
    (bareLogin setup c u token).body.map readForm =
      some [("email", c.email), ("password", c.password), ("remember", "false")] := by
  unfold bareLogin
  rw [readForm_body]
  rfl

/-- What is posted with the cookies of a jar is a login. -/
theorem isLogin_bareLogin (h : setup.CanLogIn u) (c : Credentials) (token : String) (jar : Jar) :
    IsLogin setup c u token ((bareLogin setup c u token).withCookies jar) := by
  obtain ⟨hreferer, htoken, htype⟩ := bareLogin_values h c token
  exact {
    method := rfl
    url := rfl
    token := htoken
    referer := hreferer
    contentType := htype
    form := bareLogin_form setup c u token }

/-- The first cookie of the token's name that is sent is that of the jar. -/
theorem bareLogin_cookie? (hf : jar.From headers) :
    ((bareLogin setup c u token).withCookies jar).cookie? setup.login.tokenCookie =
      tokenIn? setup u jar := by
  rw [Request.cookie?, bareLogin_pairs hf, List.find?_map, Option.map_map]
  rfl

end

/-! ## The handshake -/

namespace Session

theorem outcome_snd (r : Except Fault Answer × Client) : (outcome r).2 = r.2 := by
  rcases r with ⟨_ | _, _⟩ <;> rfl

/-- What is sent for a request that can be sent: itself first, with the cookies of the jar, and then
what redirects ask for. -/
theorem send_ok (s : Session) {jar : Jar} (hj : s.jar = some jar) {r : Request}
    (hr : r.url.isHttp = true) (hn : Request.isNameable r.url = true) :
    ∃ reply rest, Client.Talks s (r.withCookies jar) ((r.withCookies jar, reply) :: rest)
      (s.send r).2 := by
  have hd : s.dress r = r.withCookies jar := by rw [Client.dress, hj]
  rcases s.send_cases r with ⟨hf, -⟩ | ⟨-, -, he⟩
  · rw [hr, hn] at hf
    simp at hf
  · obtain ⟨trace, ht⟩ := s.exchange_talks Client.redirectLimit (s.dress r)
    rw [hd] at ht
    obtain ⟨reply, rest, rfl⟩ := ht.head hr
    rw [he, hd]
    exact ⟨reply, rest, ht⟩

variable {setup : Setup} {u : Url}

theorem addressed_isHttp (h : setup.CanLogIn u) : (addressed u).isHttp = true := by
  rw [Url.isHttp, (addressed_eq u).1]
  exact h.isHttp

theorem losing_jar {s : Session} {jar : Jar} (hj : s.jar = some jar) (ended : Cookie → Bool) :
    (s.losing ended).jar = some (jar.losing ended) := by
  rw [losing, hj]
  rfl

theorem get_eq (h : setup.CanLogIn u) (s : Session) :
    s.get setup.loginUrl = s.send (Request.plain .get u) := by
  rw [Client.get, Request.ofText_eq h.address h.isHttp]
  rfl

/-- What comes of a login after the page was fetched, by the token in the jar. -/
theorem authenticateLosing_cases (h : setup.CanLogIn u) (c : Credentials) {s t : Session} {jar : Jar}
    {headers : List (List UInt8)} {before : Cookie → Bool}
    (ht : losing (s.get setup.loginUrl).2 before = t) (hj : t.jar = some jar) (hf : jar.From headers)
    (after : Cookie → Bool) :
    (tokenCookie? setup u jar = none ∧ s.authenticateLosing before after setup c =
      (.error (.tokenMissing setup.login.tokenCookie setup.loginUrl), t)) ∨
    ∃ k, tokenCookie? setup u jar = some k ∧
      loginPost? setup c u jar (jar.losing after) =
        some ((bareLogin setup c u (String.ofList k.value)).withCookies (jar.losing after)) ∧
      (s.authenticateLosing before after setup c).2 =
        ((t.losing after).send (bareLogin setup c u (String.ofList k.value))).2 := by
  have hcookie := cookie_eq h hj hf
  rcases hk : tokenCookie? setup u jar with _ | k
  · have hno : tokenIn? setup u jar = none := congrArg (Option.map _) hk
    refine .inl ⟨rfl, ?_⟩
    unfold authenticateLosing
    simp only [ht, hcookie, hno]
  · refine .inr ⟨k, rfl, loginPost?_of_tokenCookie? hk h hf c _, ?_⟩
    unfold authenticateLosing
    simp only [ht, hcookie, tokenIn?_of_tokenCookie? hk, loginRequest_of_tokenCookie? hk h hf,
      outcome_snd]
    rfl

/-- Nothing is sent for a login at an address that cannot stand in a request, not even its page. -/
theorem unsent (h : setup.CanLogIn u) (hn : Request.isNameable (addressed u) = false)
    (c : Credentials) {s : Session} {jar : Jar} {headers : List (List UInt8)} (hj : s.jar = some jar)
    (hf : jar.From headers) (before after : Cookie → Bool) :
    (s.authenticateLosing before after setup c).2.network = s.network := by
  have hkept : ∀ (s : Session) {r : Request}, r.url = addressed u → (s.send r).2 = s := by
    intro s r hr
    rcases s.send_cases r with ⟨-, he⟩ | ⟨-, hyes, -⟩
    · exact he
    · rw [hr, hn] at hyes
      cases hyes
  have hget : losing (s.get setup.loginUrl).2 before = s.losing before := by
    rw [get_eq h, hkept s rfl]
  rcases authenticateLosing_cases h c hget (losing_jar hj before) (hf.losing before) after with
    ⟨-, he⟩ | ⟨k, -, -, he⟩
  · rw [he]
    rfl
  · rw [he, hkept _ rfl]
    rfl

/-- **The handshake of a login.** Take a login at an address that can stand in a request (`unsent` is
about the others), any jar that headers filled, as that of a session is, any replies to come, and any
cookies that end before the token is read, and after that; none of them do in `authenticate`. The page
of the login is fetched first, and every request until the next step is a page that a redirect leads
to. Whether anything is posted after that depends on the jar alone: so a page that failed counts only
by the cookies that it set. If the jar has the token, `loginPost?` is the one request that is posted,
redirects of it aside; it logs in with that token, which is also the first one among its cookies,
unless the cookie with the token has ended after it was read. If the jar has none, nothing is posted,
and the login fails for want of the token. -/
theorem handshake (h : setup.CanLogIn u) (hn : Request.isNameable (addressed u) = true)
    (c : Credentials) {s : Session} {jar : Jar} {headers : List (List UInt8)} (hj : s.jar = some jar)
    (hf : jar.From headers) (before after : Cookie → Bool) :
    ∃ (first : Reply) (redirects posts : Trace),
      let page : Trace := ((Request.plain .get u).withCookies jar, first) :: redirects
      let later : Jar := (jar.heard s.now page).losing before
      let login := s.authenticateLosing before after setup c
      login.2.network.history = s.network.history ++ page ++ posts ∧
      page.IsChain Client.Follows ∧ (∀ e ∈ page, e.1.method = .get) ∧
      (later.Holds u setup.login.tokenCookie → ∃ token r reply rest,
        tokenIn? setup u later = some token ∧
        loginPost? setup c u later (later.losing after) = some r ∧
        posts = (r, reply) :: rest ∧ posts.IsChain Client.Follows ∧
        IsLogin setup c u token r ∧
        ((∀ k ∈ tokenCookie? setup u later, after k = false) →
          r.cookie? setup.login.tokenCookie = some token)) ∧
      (¬ later.Holds u setup.login.tokenCookie → posts = [] ∧
        login.1 = .error (.tokenMissing setup.login.tokenCookie setup.loginUrl)) := by
  obtain ⟨first, redirects, hpage⟩ :=
    send_ok s hj (r := Request.plain .get u) (addressed_isHttp h) hn
  rw [← get_eq h] at hpage
  have hheard := hpage.jar
  rw [hj, Option.map_some] at hheard
  -- The page leaves a jar that headers filled; from here on what is left of it alone decides.
  have hlater := losing_jar hheard before
  have hfrom := (hf.heard s.now
    (((Request.plain .get u).withCookies jar, first) :: redirects)).losing before
  have hhistory : (losing (s.get setup.loginUrl).2 before).network.history =
      s.network.history ++ (((Request.plain .get u).withCookies jar, first) :: redirects) :=
    hpage.history
  rcases authenticateLosing_cases h c rfl hlater hfrom after with ⟨hno, he⟩ | ⟨k, hk, hp, he⟩
  · refine ⟨first, redirects, [], ?_, hpage.chain, hpage.get rfl, fun hh => ?_, fun _ => ?_⟩
    · rw [he, hhistory, List.append_nil]
    · rw [← tokenIn?_isSome, tokenIn?, hno] at hh
      cases hh
    · exact ⟨rfl, by rw [he]⟩
  · obtain ⟨reply, rest, hposts⟩ := send_ok _ (losing_jar hlater after)
      (r := bareLogin setup c u (String.ofList k.value)) (addressed_isHttp h) hn
    have htoken := tokenIn?_of_tokenCookie? hk
    refine ⟨first, redirects, (_, reply) :: rest, ?_, hpage.chain, hpage.get rfl,
      fun _ => ⟨_, _, reply, rest, htoken, hp, rfl, hposts.chain, isLogin_bareLogin h c _ _,
        fun hkept => ?_⟩, fun hh => ?_⟩
    · rw [he, hposts.history]
      exact congrArg (· ++ _) hhistory
    · rw [bareLogin_cookie? (hfrom.losing after)]
      exact tokenIn?_of_tokenCookie? (tokenCookie?_losing hk (hkept k hk))
    · exact absurd (tokenIn?_isSome.1 (by rw [htoken]; rfl)) hh

end Session

/-- The setup of an application on the same machine. -/
def Setup.loopback : Setup := { lms := "http://[::1]", cms := "http://[::1]:4701" }

/-- The address of a login on the same machine. -/
def Url.loopback : Url where
  scheme := "http".toList
  username := []
  password := none
  host := some (.address6 [0, 0, 0, 0, 0, 0, 0, 1])
  port := none
  path := .segments ["login_ajax".toList]
  query := none
  fragment := none

/-- A session with an application whose login page hands out a token. -/
def Session.granting : Session :=
  .start ⟨[.answer ⟨200, [Text.utf8 "csrftoken=tok; Path=/".toList], none⟩],
    .answer ⟨200, [], none⟩, []⟩ ⟨0, 0⟩

/-- The credentials of somebody. -/
def Credentials.ann : Credentials := ⟨"ann@example.com", "a&b"⟩

theorem Setup.canLogIn_loopback : Setup.loopback.CanLogIn .loopback where
  address := by decide +kernel
  scheme := rfl
  referer := by unfold IsHeaderValue; decide +kernel
  header := ⟨by decide +kernel, by decide +kernel, by decide +kernel⟩
  own := by decide +kernel

/-- Whether a cookie is another one than that with the token. -/
def Http.Cookie.isOther (c : Cookie) : Bool := c.name ≠ "csrftoken".toList

/-- A login whose other cookies end on the way. -/
theorem Session.handshake_granting : Setup.loopback.CanLogIn .loopback ∧
    Request.isNameable (addressed .loopback) = true ∧
    ∃ (page posts : Trace) (token : String) (r : Request),
      (granting.authenticateLosing Cookie.isOther Cookie.isOther .loopback .ann).2.network.history =
        page ++ posts ∧
      posts.head?.map (·.1) = some r ∧ IsLogin .loopback .ann .loopback token r ∧
      r.cookie? "csrftoken" = some token := by
  have h := Setup.canLogIn_loopback
  have hn : Request.isNameable (addressed .loopback) = true := by decide +kernel
  have hfrom : Jar.From [] [] := .nil
  obtain ⟨first, redirects, posts, hh, -, -, hyes, hno⟩ :=
    handshake h hn .ann (s := .granting) rfl hfrom Cookie.isOther Cookie.isOther
  have hok : (granting.authenticateLosing Cookie.isOther Cookie.isOther .loopback .ann).1.isOk =
      true := by
    decide +kernel
  -- the login is granted, so the page handed the token out
  obtain ⟨token, r, reply, rest, -, -, rfl, -, hlogin, hcookie⟩ :=
    hyes <| Classical.byContradiction fun hl => by
      rw [(hno hl).2] at hok
      cases hok
  refine ⟨h, hn, _, (r, reply) :: rest, token, r, hh, rfl, hlogin, hcookie fun k hk => ?_⟩
  exact decide_eq_false (not_not.2 (tokenCookie?_name hk))

/-- A setup whose login has a query of that many characters. -/
def Setup.asking (n : Nat) : Setup :=
  { Setup.loopback with
    login := { Setup.loopback.login with query := some (String.ofList (List.replicate n 'a')) } }

/-- The address of that login. -/
def Url.asking (n : Nat) : Url := { Url.loopback with query := some (List.replicate n 'a') }

section
variable {n : Nat}

theorem Url.closing_replicate (n : Nat) : closing (List.replicate n 'a') = List.replicate n 'a' := by
  have ha : isOuter 'a' = false := rfl
  have hkept : isKept 'a' = true := rfl
  simp [closing, ha, hkept]

theorem Url.encode_replicate (n : Nat) :
    encode .specialQuery (List.replicate n 'a') = List.replicate n 'a' := by
  induction n with
  | zero => rfl
  | succ n ih => exact congrArg ('a' :: ·) ih

theorem utf8Len_replicate (n : Nat) : String.utf8Len (List.replicate n 'a') = n := by
  induction n with
  | zero => rfl
  | succ n ih =>
    rw [List.replicate_succ, String.utf8Len_cons, ih]
    rfl

theorem Setup.toList_asking (hn : 0 < n) : (asking n).loginUrl.toList =
    "http://[::1]/login_ajax".toList ++ '?' :: List.replicate n 'a' := by
  have hne : (String.ofList (List.replicate n 'a')).isEmpty = false := by
    simp [String.ofList_eq_empty_iff]
    omega
  have hendpoint : (asking n).loginEndpoint = "http://[::1]/login_ajax" := by
    change Setup.loopback.loginEndpoint = _
    decide +kernel
  have hmark : "http://[::1]/login_ajax".toList.contains '?' = false := by decide
  have hquery : (asking n).login.query = some (String.ofList (List.replicate n 'a')) := rfl
  unfold loginUrl
  simp only [hquery, hne, hendpoint, hmark, Bool.false_eq_true, if_false, String.toList_append,
    String.toList_ofList, List.append_assoc]
  rfl

/-- The address of a login with a query is read in its parts. -/
theorem Url.parse_asking (hn : 0 < n) : parse (Setup.asking n).loginUrl = .ok (asking n) := by
  have hclean : clean (Setup.asking n).loginUrl.toList =
      "http://[::1]/login_ajax?".toList ++ List.replicate n 'a' := by
    rw [Setup.toList_asking hn, clean_append (by decide), closing_replicate]
    rfl
  have hstop : (List.replicate n 'a').takeWhile (· ≠ '#') = List.replicate n 'a' := by
    simp
  have hscheme (w : List Char) : scheme? ("http://[::1]/login_ajax?".toList ++ w) =
      some ("http".toList, "//[::1]/login_ajax?".toList ++ w) := by
    with_unfolding_all rfl
  have hparts (w : List Char) :
      afterScheme none "http".toList ("//[::1]/login_ajax?".toList ++ w) =
        .ok { Url.loopback with
          query := (queryAndFragment true ('?' :: w)).1
          fragment := (queryAndFragment true ('?' :: w)).2 } := by
    with_unfolding_all rfl
  unfold parse parseFrom
  simp only [hclean, hscheme, hparts, queryAndFragment, hstop, List.drop_length, if_true,
    encode_replicate]
  rfl

theorem Setup.canLogIn_asking (hn : 0 < n) : (asking n).CanLogIn (.asking n) where
  address := Url.parse_asking hn
  scheme := rfl
  referer := canLogIn_loopback.referer
  header := canLogIn_loopback.header
  own := canLogIn_loopback.own

theorem Url.not_isNameable_asking (hn : Request.longestUrl ≤ n) :
    Request.isNameable (addressed (asking n)) = false := by
  have htext : (addressed (asking n)).text =
      "http://[::1]/login_ajax?".toList ++ List.replicate n 'a' ++ [] := by
    with_unfolding_all rfl
  have hsize : (ToString.toString (addressed (asking n))).utf8ByteSize = 24 + n := by
    change (String.ofList (addressed (asking n)).text).utf8ByteSize = _
    rw [htext, List.append_nil, String.utf8ByteSize_ofList, String.utf8Len_append,
      utf8Len_replicate]
    rfl
  have hlong : ¬ (ToString.toString (addressed (asking n))).utf8ByteSize ≤ Request.longestUrl := by
    omega
  rw [Request.isNameable, decide_eq_false hlong, Bool.false_and]

end

/-- Nothing is sent for a login whose query makes its address too long. And if the cookie with the
token ends in between, the token is posted without it. -/
theorem Session.handshake_fails :
    ((Setup.asking Request.longestUrl).CanLogIn (.asking Request.longestUrl) ∧
      (granting.authenticate (.asking Request.longestUrl) .ann).2.network.history = []) ∧
    Setup.loopback.CanLogIn .loopback ∧
      (granting.authenticateLosing (fun _ => false) (fun _ => true) .loopback .ann).2.network.history.map
        (fun e => (e.1.method, e.1.values "x-csrftoken", e.1.cookie? "csrftoken")) =
          [(.get, [], none), (.post, ["tok"], none)] := by
  have h : (Setup.asking Request.longestUrl).CanLogIn (.asking Request.longestUrl) :=
    Setup.canLogIn_asking (by decide)
  have hfrom : Jar.From [] [] := .nil
  refine ⟨⟨h, ?_⟩, Setup.canLogIn_loopback, by decide +kernel⟩
  rw [authenticate, unsent h (Url.not_isNameable_asking le_rfl) .ann rfl hfrom]
  rfl

end Rehearsal
