import Mathlib.Data.Finset.Dedup
import Rehearsal.Proofs.FailStop
import Rehearsal.Proofs.JarUpdates

/-!
# Logging in twice

A login that gets the same answers as one before it sends the same requests, but for the cookies and
the token in them, comes to the same status, and leaves the cookies as they are. `Request.SameKind`
relates the requests of the two logins; a redirect keeps it, so an exchange repeats one whose replies
it gets (`Client.exchange_again`), whatever the jars are. What the second login needs of its jar is
a token only, and the page hands one out again. That the jar ends as it was is
`Jar.Overwrites.twice`: the second login overwrites the same cookies as the first one.
-/

namespace Rehearsal

open Http

namespace Http

/-! ## Requests of a kind -/

/-- Two headers have the same name, and the same value too unless the name is a certain one. -/
def SameHeader (name : String) (a b : String × String) : Prop :=
  b.1 = a.1 ∧ (a.1 ≠ name → b.2 = a.2)

/-- Two requests are the same but for their cookies and for the values of the headers of a name. -/
structure Request.SameKind (name : String) (q r : Request) : Prop where
  method : r.method = q.method
  url : r.url = q.url
  body : r.body = q.body
  headers : List.Forall₂ (SameHeader name) q.headers r.headers

variable {name : String} {q r : Request}

theorem SameHeader.refl (name : String) (a : String × String) : SameHeader name a a :=
  ⟨rfl, fun _ => rfl⟩

theorem Request.SameKind.refl (name : String) (q : Request) : q.SameKind name q where
  method := rfl
  url := rfl
  body := rfl
  headers := List.forall₂_same.2 fun a _ => .refl name a

theorem Request.SameKind.without (h : q.SameKind name r) (other : String) :
    (q.without other).SameKind name (r.without other) where
  method := h.method
  url := h.url
  body := h.body
  headers := List.rel_filter (fun a b hab => by simp [hab.1]) h.headers

theorem Request.SameKind.replaceHeader (h : q.SameKind name r) (other value : String) :
    (q.replaceHeader other value).SameKind name (r.replaceHeader other value) where
  method := h.method
  url := h.url
  body := h.body
  headers := List.rel_append (h.without other).headers (.cons (.refl name _) .nil)

theorem Request.SameKind.leadTo (h : q.SameKind name r) (v : Url) :
    (q.leadTo v).SameKind name (r.leadTo v) := by
  unfold Request.leadTo
  simp only [h.url]
  have htold : (if q.url.isSecure && !v.isSecure then q
      else q.replaceHeader "referer" (referral q.url)).SameKind name
        (if q.url.isSecure && !v.isSecure then r
          else r.replaceHeader "referer" (referral q.url)) := by
    split
    · exact h
    · exact h.replaceHeader _ _
  split
  · exact ⟨htold.method, rfl, htold.body, htold.headers⟩
  · have hkept := htold.without "authorization"
    exact ⟨hkept.method, rfl, hkept.body, hkept.headers⟩

theorem redirected?_again (h : q.SameKind name r) (status : Nat) :
    Option.Rel (Request.SameKind name) (redirected? q status) (redirected? r status) := by
  unfold redirected?
  split
  · have hw := h.without "content-type"
    exact .some ⟨rfl, hw.url, rfl, hw.headers⟩
  · split
    · exact .some h
    · exact .none

/-- Requests of a kind are followed by requests of a kind, or by none. -/
theorem nextRequest?_again (h : q.SameKind name r) (a : Answer) :
    Option.Rel (Request.SameKind name) (nextRequest? q a) (nextRequest? r a) := by
  have hagain := redirected?_again h a.status
  unfold nextRequest?
  rw [h.url]
  generalize redirected? q a.status = x at hagain ⊢
  generalize redirected? r a.status = y at hagain ⊢
  cases hagain with
  | none => exact .none
  | some hxy =>
    simp only [Option.bind_eq_bind, Option.bind_some]
    rcases redirectTarget? q.url a with _ | v
    · exact .none
    · exact .some (hxy.leadTo v)

theorem isSome_nextRequest? (h : q.SameKind name r) (a : Answer) :
    (nextRequest? r a).isSome = (nextRequest? q a).isSome := by
  have hnext := nextRequest?_again h a
  generalize nextRequest? q a = x at hnext ⊢
  generalize nextRequest? r a = y at hnext ⊢
  cases hnext <;> rfl

theorem exists_nextRequest? (h : q.SameKind name r) {a : Answer} {next : Request}
    (hn : nextRequest? q a = some next) :
    ∃ next', nextRequest? r a = some next' ∧ next.SameKind name next' := by
  have hnext := nextRequest?_again h a
  rw [hn] at hnext
  generalize nextRequest? r a = y at hnext ⊢
  cases hnext with
  | some hk => exact ⟨_, rfl, hk⟩

theorem Client.dress_again (h : q.SameKind name r) (c d : Client) :
    (c.dress q).SameKind name (d.dress r) := by
  rw [dress_eq, dress_eq]
  exact ⟨h.method, h.url, h.body, h.headers⟩

/-! ## Replies to come -/

/-- The reply to one of the requests to come, counted from 0. -/
def Network.reply (n : Network) (i : Nat) : Reply := n.replies.getD i n.otherwise

/-- A network has some replies to come. -/
def Network.Answers (n : Network) (replies : List Reply) : Prop :=
  ∀ i reply, replies[i]? = some reply → n.reply i = reply

theorem Network.Answers.left {n : Network} {before after : List Reply}
    (h : n.Answers (before ++ after)) : n.Answers before := by
  intro i reply hi
  refine h i reply ?_
  obtain ⟨hlt, -⟩ := List.getElem?_eq_some_iff.1 hi
  rw [List.getElem?_append_left hlt, hi]

theorem Network.ask_reply (n : Network) (r : Request) :
    (n.ask r).1 = n.reply 0 ∧ ∀ i, (n.ask r).2.reply i = n.reply (i + 1) := by
  obtain ⟨replies, otherwise, history⟩ := n
  cases replies with
  | nil => exact ⟨rfl, fun i => by simp [ask, reply]⟩
  | cons first rest => exact ⟨rfl, fun i => by simp [ask, reply]⟩

namespace Client

variable {c d : Client} {trace more : Trace}

theorem hear_reply {reply : Reply} (h : c.hear r = (reply, d)) :
    reply = c.network.reply 0 ∧ ∀ i, d.network.reply i = c.network.reply (i + 1) := by
  unfold hear at h
  cases h
  exact c.network.ask_reply r

theorem Talks.reply (h : Talks c r trace d) (i : Nat) :
    d.network.reply i = c.network.reply (trace.length + i) := by
  induction h with
  | astray => rw [List.length_nil, Nat.zero_add]
  | last _ hh => rw [(hear_reply hh).2, List.length_singleton, Nat.add_comm]
  | redirect _ hh _ _ ih =>
    rw [ih, (hear_reply hh).2, List.length_cons]
    congr 1
    omega

theorem hear_of_answers {reply : Reply} {replies : List Reply}
    (h : c.network.Answers (reply :: replies)) (r : Request) :
    ∃ d, c.hear r = (reply, d) ∧ d.network.Answers replies := by
  rcases hh : c.hear r with ⟨first, d⟩
  obtain ⟨hfirst, hrest⟩ := hear_reply hh
  have he : first = reply := hfirst.trans (h 0 reply rfl)
  exact ⟨d, by rw [he], fun i next hi => (hrest i).trans (h (i + 1) next hi)⟩

/-- From one moment to another a client heard the replies of a trace, and these were the ones that its
network had to come. -/
structure Hears (c : Client) (trace : Trace) (d : Client) : Prop extends c.Advances trace d where
  reply : ∀ i, d.network.reply i = c.network.reply (trace.length + i)

theorem Hears.refl (c : Client) : c.Hears [] c where
  toAdvances := .refl c
  reply i := by rw [List.length_nil, Nat.zero_add]

theorem Hears.trans {e : Client} (h : c.Hears trace d) (hm : d.Hears more e) :
    c.Hears (trace ++ more) e where
  toAdvances := h.toAdvances.trans hm.toAdvances
  reply i := by rw [hm.reply, h.reply, List.length_append, Nat.add_assoc]

theorem Talks.hears (h : Talks c (c.dress r) trace d) (hr : r.cookies = none) :
    c.Hears trace d where
  toAdvances := h.advances hr
  reply := h.reply

theorem Hears.answers {before after : List Reply} (h : c.Hears trace d)
    (hl : before.length = trace.length) (ha : c.network.Answers (before ++ after)) :
    d.network.Answers after := by
  intro i reply hi
  rw [h.reply]
  refine ha (trace.length + i) reply ?_
  rwa [List.getElem?_append_right (by omega), hl, Nat.add_sub_cancel_left]

/-! ## Exchanges that are repeated -/

/-- A request of the same kind got the same reply. -/
def Repeats (name : String) (e f : Request × Reply) : Prop := e.1.SameKind name f.1 ∧ e.2 = f.2

theorem heard_repeats {now later : Instant} {again : Trace} (hle : now.seconds ≤ later.seconds)
    (hl : Lasting now later trace) (h : List.Forall₂ (Repeats name) trace again) (jar : Jar) :
    jar.heard later again = jar.heard now trace :=
  Jar.heard_again hle hl (h.imp fun _ _ hef => ⟨hef.1.url, hef.2⟩) jar

/-- What an exchange comes to if it ends with a reply. -/
def verdict (r : Request) : Reply → Except Fault Answer
  | .unreachable => .error (.unreachable r.url)
  | .dropped => .error (.dropped r.url)
  | .answer a => if (nextRequest? r a).isSome then .error (.tooManyRedirects r.url) else .ok a

/-- How an exchange goes on after a reply, if it does: with another request, and one redirect fewer
left. -/
def onward? (left : Nat) (r : Request) (reply : Reply) : Option (Nat × Request) :=
  match reply, left with
  | .answer a, left + 1 => (nextRequest? r a).map fun next => (left, next)
  | _, _ => none

theorem onward?_eq_some {left fewer : Nat} {reply : Reply} {next : Request} :
    onward? left r reply = some (fewer, next) ↔
      ∃ a, reply = .answer a ∧ left = fewer + 1 ∧ nextRequest? r a = some next := by
  unfold onward?
  split
  · rename_i a left
    simp [and_comm]
  · rename_i hno
    refine ⟨nofun, ?_⟩
    rintro ⟨a, rfl, rfl, -⟩
    exact absurd rfl (hno a fewer rfl)

/-- One step of an exchange: it ends with a reply or goes on after it. -/
theorem exchange_step (left : Nat) (hr : r.url.isHttp = true) {reply : Reply}
    (h : c.hear r = (reply, d)) :
    c.exchange left r = match onward? left r reply with
      | none => (verdict r reply, d)
      | some (left, next) => d.exchange left (d.dress next) := by
  rw [exchange_hear c left hr, h]
  cases reply with
  | unreachable => rfl
  | dropped => rfl
  | answer a =>
    rcases hn : nextRequest? r a with _ | next <;> cases left <;> simp [onward?, verdict, hn]

theorem verdict_again (h : q.SameKind name r) (reply : Reply) :
    verdict r reply = verdict q reply := by
  unfold verdict
  simp only [h.url, isSome_nextRequest? h]

theorem onward?_none_again (h : q.SameKind name r) {left : Nat} {reply : Reply}
    (hq : onward? left q reply = none) : onward? left r reply = none := by
  rcases hr : onward? left r reply with _ | ⟨fewer, next⟩
  · rfl
  obtain ⟨a, rfl, rfl, hn⟩ := onward?_eq_some.1 hr
  have hsome : (nextRequest? q a).isSome = true := by rw [← isSome_nextRequest? h a, hn]; rfl
  obtain ⟨next', hn'⟩ := Option.isSome_iff_exists.1 hsome
  rw [onward?_eq_some.2 ⟨a, rfl, rfl, hn'⟩] at hq
  cases hq

/-- An exchange does the same again for a request of the same kind that gets the same replies,
whatever the jar is. -/
theorem exchange_again (name : String) (c : Client) (left : Nat) (q : Request) :
    ∃ trace, Talks c q trace (c.exchange left q).2 ∧
      ∀ d r, q.SameKind name r → d.network.Answers (trace.map fun e => e.2) →
        ∃ again, Talks d r again (d.exchange left r).2 ∧
          (d.exchange left r).1 = (c.exchange left q).1 ∧
          List.Forall₂ (Repeats name) trace again := by
  by_cases hq : q.url.isHttp = true
  · rcases hc : c.hear q with ⟨reply, c'⟩
    rcases hnext : onward? left q reply with _ | ⟨fewer, next⟩
    · refine ⟨[(q, reply)], ?_, fun d r hk ha => ?_⟩
      · rw [exchange_step left hq hc, hnext]
        exact .last hq hc
      obtain ⟨d', hd, -⟩ := hear_of_answers ha r
      have hr : r.url.isHttp = true := by rw [hk.url, hq]
      rw [exchange_step left hq hc, hnext, exchange_step left hr hd, onward?_none_again hk hnext]
      exact ⟨[(r, reply)], .last hr hd, verdict_again hk reply, .cons ⟨hk, rfl⟩ .nil⟩
    -- One redirect fewer is left for what follows, on both sides.
    · obtain ⟨a, rfl, rfl, hn⟩ := onward?_eq_some.1 hnext
      obtain ⟨trace, ht, hagain⟩ := exchange_again name c' fewer (c'.dress next)
      rw [exchange_step _ hq hc, hnext]
      refine ⟨(q, .answer a) :: trace, .redirect hq hc hn ht, fun d r hk ha => ?_⟩
      obtain ⟨d', hd, ha'⟩ := hear_of_answers ha r
      have hr : r.url.isHttp = true := by rw [hk.url, hq]
      obtain ⟨next', hn', hk'⟩ := exists_nextRequest? hk hn
      rw [exchange_step _ hr hd, onward?_eq_some.2 ⟨a, rfl, rfl, hn'⟩]
      obtain ⟨again, ht', hresult, hall⟩ := hagain d' _ (dress_again hk' c' d') ha'
      exact ⟨(r, .answer a) :: again, .redirect hr hd hn' ht', hresult, .cons ⟨hk, rfl⟩ hall⟩
  · have hf : q.url.isHttp = false := by simpa using hq
    rw [exchange, if_pos (by simp [hf])]
    refine ⟨[], .astray hf, fun d r hk _ => ?_⟩
    have hr : r.url.isHttp = false := by rw [hk.url, hf]
    rw [exchange, if_pos (by simp [hr]), hk.url]
    exact ⟨[], .astray hr, rfl, .nil⟩
termination_by left

/-- A client does again what came to `x` by a trace: it hears the same replies to requests of the same
kind, and comes to the same in `y`. -/
def Again (name : String) (trace : Trace) (x : Except Fault Answer) (d : Client)
    (y : Except Fault Answer × Client) : Prop :=
  ∃ again, d.Hears again y.2 ∧ y.1 = x ∧ List.Forall₂ (Repeats name) trace again

theorem send_again (name : String) (c : Client) {q : Request} (hq : q.cookies = none) :
    ∃ trace, c.Hears trace (c.send q).2 ∧
      ∀ (d : Client) r, q.SameKind name r → r.cookies = none →
        d.network.Answers (trace.map fun e => e.2) →
        d.Again name trace (c.send q).1 (d.send r) := by
  rcases hu : q.url.isHttp
  · have hc : c.send q = (.error (.schemeNotAllowed q.url), c) := by simp [send, hu]
    rw [hc]
    refine ⟨[], .refl c, fun d r hk _ _ => ?_⟩
    have hd : d.send r = (.error (.schemeNotAllowed q.url), d) := by simp [send, hk.url, hu]
    rw [hd]
    exact ⟨[], .refl d, rfl, .nil⟩
  rcases hn : Request.isNameable q.url
  · have hc : c.send q = (.error (.notNameable q.url), c) := by simp [send, hu, hn]
    rw [hc]
    refine ⟨[], .refl c, fun d r hk _ _ => ?_⟩
    have hd : d.send r = (.error (.notNameable q.url), d) := by simp [send, hk.url, hu, hn]
    rw [hd]
    exact ⟨[], .refl d, rfl, .nil⟩
  · have hc : c.send q = c.exchange redirectLimit (c.dress q) := by simp [send, hu, hn]
    obtain ⟨trace, ht, hagain⟩ := exchange_again name c redirectLimit (c.dress q)
    rw [hc]
    refine ⟨trace, ht.hears hq, fun d r hk hr ha => ?_⟩
    have hd : d.send r = d.exchange redirectLimit (d.dress r) := by simp [send, hk.url, hu, hn]
    rw [hd]
    obtain ⟨again, ht', hresult, hall⟩ := hagain d _ (dress_again hk c d) ha
    exact ⟨again, ht'.hears hr, hresult, hall⟩

theorem get_again (name : String) (c : Client) (text : String) :
    ∃ trace, c.Hears trace (c.get text).2 ∧
      ∀ d : Client, d.network.Answers (trace.map fun e => e.2) →
        d.Again name trace (c.get text).1 (d.get text) := by
  unfold get
  rcases hr : Request.ofText .get text with f | q
  · exact ⟨[], .refl c, fun d _ => ⟨[], .refl d, rfl, .nil⟩⟩
  · have hq := Request.ofText_cookies hr
    obtain ⟨trace, h, hagain⟩ := send_again name c hq
    exact ⟨trace, h, fun d => hagain d q (.refl name q) hq⟩

end Client
end Http

/-! ## A login that is repeated -/

theorem Http.Request.addHeader_ok {q r : Request} {name value : String}
    (h : q.addHeader name value = .ok r) :
    IsHeaderName name ∧ r = { q with headers := q.headers ++ [(lowerName name, value)] } := by
  unfold addHeader at h
  split at h
  · cases h
  · rename_i hn
    split at h <;> cases h
    simp only [Bool.or_eq_true, not_or, decide_eq_true_eq, Bool.not_eq_true, Bool.not_eq_false',
      not_lt, String.isEmpty_eq_false_iff] at hn
    exact ⟨⟨hn.1.1, hn.1.2, hn.2⟩, rfl⟩

namespace Session

/-- A session after the page of the login was fetched. -/
def primed (s : Session) (setup : Setup) : Session := (s.get setup.loginUrl).2

variable {s t : Session} {setup : Setup} {c : Credentials} {status : Nat} {token : String}
  {q : Request} {u : Url} {jar : Jar} {headers : List (List UInt8)}

theorem authenticate_of_token
    (h : (s.primed setup).cookie setup.loginUrl setup.login.tokenCookie = .ok (some token)) :
    s.authenticate setup c = outcome ((s.primed setup).sendIfOk (loginRequest setup c token)) := by
  unfold primed at h
  rw [authenticate_eq]
  simp only [h]
  rfl

/-- All that there is to a login that succeeds: the session finds a token, and what it posts with it
is answered. -/
theorem authenticate_ok (h : (s.authenticate setup c).1 = .ok status) : ∃ token q,
    (s.primed setup).cookie setup.loginUrl setup.login.tokenCookie = .ok (some token) ∧
    loginRequest setup c token = .ok q ∧
    s.authenticate setup c = outcome ((s.primed setup).send q) := by
  rcases hc : (s.primed setup).cookie setup.loginUrl setup.login.tokenCookie with f | _ | token
  · have he : (s.authenticate setup c).1 = .error f := by
      unfold primed at hc
      simp only [authenticate_eq, hc]
    rw [he] at h
    cases h
  · have he : (s.authenticate setup c).1 =
        .error (.tokenMissing setup.login.tokenCookie setup.loginUrl) := by
      unfold primed at hc
      simp only [authenticate_eq, hc]
    rw [he] at h
    cases h
  · have he := authenticate_of_token (c := c) hc
    rcases hq : loginRequest setup c token with f | q <;> rw [hq] at he
    · rw [he] at h
      cases h
    · exact ⟨token, q, rfl, hq, he⟩

/-- A login can be posted with any other token that can stand in a header, in a request of the same
kind. -/
theorem loginRequest_again (h : loginRequest setup c token = .ok q) {other : String}
    (hv : IsHeaderValue other) : ∃ r, loginRequest setup c other = .ok r ∧
      q.SameKind (lowerName setup.login.tokenHeader) r := by
  obtain ⟨q₀, h₀, h⟩ := bind_ok.1 h
  obtain ⟨q₁, h₁, h⟩ := bind_ok.1 h
  obtain ⟨q₂, h₂, h⟩ := bind_ok.1 h
  cases h
  obtain ⟨hn, rfl⟩ := Request.addHeader_ok h₂
  refine ⟨_, bind_ok.2 ⟨q₀, h₀, bind_ok.2 ⟨q₁, h₁, bind_ok.2
    ⟨_, Request.addHeader_eq hn hv q₁, rfl⟩⟩⟩, ?_⟩
  have hkind : { q₁ with headers := q₁.headers ++ [(lowerName setup.login.tokenHeader, token)] }.SameKind
      (lowerName setup.login.tokenHeader)
      { q₁ with headers := q₁.headers ++ [(lowerName setup.login.tokenHeader, other)] } := {
    method := rfl
    url := rfl
    body := rfl
    headers := List.rel_append (List.forall₂_same.2 fun a _ => .refl _ a)
      (.cons ⟨rfl, fun hne => absurd rfl hne⟩ .nil) }
  have hform := hkind.replaceHeader "content-type" "application/x-www-form-urlencoded"
  exact ⟨hform.method, hform.url, rfl, hform.headers⟩

theorem cookie_of_holds (hu : urlOf setup.loginUrl = .ok u) (hj : s.jar = some jar)
    (hf : jar.From headers) (h : jar.Holds u setup.login.tokenCookie) :
    ∃ token, s.cookie setup.loginUrl setup.login.tokenCookie = .ok (some token) ∧
      IsHeaderValue token := by
  obtain ⟨token, ht⟩ := Option.isSome_iff_exists.1 (tokenIn?_isSome.2 h)
  exact ⟨token, by rw [cookie_eq_tokenIn hu hj hf, ht], isHeaderValue_of_tokenIn? hf ht⟩

/-- A page that hands out a token does so again, whatever is in the jar. -/
theorem primed_again {now : Instant} {name : String} {page again : Trace}
    (hu : urlOf setup.loginUrl = .ok u) (hj : s.jar = some jar) (hf : jar.From headers)
    (hset : (Jar.heard now [] page).Holds u setup.login.tokenCookie)
    (hs : s.Hears again (s.primed setup)) (hall : List.Forall₂ (Client.Repeats name) page again)
    (hle : now.seconds ≤ s.now.seconds) (hlast : Lasting now s.now page) :
    ∃ token, (s.primed setup).cookie setup.loginUrl setup.login.tokenCookie = .ok (some token) ∧
      IsHeaderValue token := by
  have hprimed : (s.primed setup).jar = some (jar.heard now page) := by
    rw [hs.jar, hj, Option.map_some, Client.heard_repeats hle hlast hall]
  obtain ⟨keys, hkeys⟩ := Jar.overwrites_heard now page
  obtain ⟨d, hd, hfor, hname⟩ := hset
  exact cookie_of_holds hu hprimed (hf.heard now page) ⟨d, hkeys.own hd, hfor, hname⟩

/-- Sessions whose jars have the same cookies show the same pairs for each URL. -/
theorem cookies_of_same {more : Jar} {others : List (List UInt8)} (hs : s.jar = some jar)
    (ht : t.jar = some more) (hf : jar.From headers) (hg : more.From others)
    (h : ∀ d, d ∈ more ↔ d ∈ jar) (url : String) :
    (t.cookies url).map List.toFinset = (s.cookies url).map List.toFinset := by
  rcases hu : urlOf url with f | u
  · have he : ∀ s : Session, s.cookies url = .error f := fun s => by
      unfold cookies
      rw [hu]
      rfl
    rw [he, he]
  · have hfrom : (s.jar.getD []).From headers := by rwa [hs]
    have hfrom' : (t.jar.getD []).From others := by rwa [ht]
    rw [s.cookies_eq hu hfrom, t.cookies_eq hu hfrom', hs, ht]
    refine congrArg Except.ok ?_
    ext p
    simp only [Option.getD_some, Jar.cookiesFor, List.mem_toFinset, List.mem_map, List.mem_filter, h]

/-- **Logging in twice.** Take any session whose jar headers filled and a login that succeeds: it
sends `page` to fetch the page and `posts` to log in. If the page hands out the token, whatever was in
the jar before, then a login of any session with the jar that is there afterwards, at a time until
which no cookie of these answers has ended, and which gets the same replies, comes to the same status;
it sends as many requests, each of the same kind as before; and for each URL it leaves the pairs as
they were. -/
theorem authenticate_twice (hj : s.jar = some jar) (hf : jar.From headers)
    (hu : urlOf setup.loginUrl = .ok u) (hok : (s.authenticate setup c).1 = .ok status) :
    ∃ page posts : Trace,
      (s.primed setup).network.history = s.network.history ++ page ∧
      (s.authenticate setup c).2.network.history = s.network.history ++ page ++ posts ∧
      ((Jar.heard s.now [] page).Holds u setup.login.tokenCookie →
        ∀ t : Session, t.jar = (s.authenticate setup c).2.jar →
          t.network.Answers ((page ++ posts).map fun e => e.2) →
          s.now.seconds ≤ t.now.seconds → Lasting s.now t.now (page ++ posts) →
          (t.authenticate setup c).1 = .ok status ∧
          (∃ again, (t.authenticate setup c).2.network.history = t.network.history ++ again ∧
            List.Forall₂ (Client.Repeats (lowerName setup.login.tokenHeader)) (page ++ posts)
              again) ∧
          ∀ url, ((t.authenticate setup c).2.cookies url).map List.toFinset =
            ((s.authenticate setup c).2.cookies url).map List.toFinset) := by
  obtain ⟨token, q, -, hq, hafter⟩ := authenticate_ok hok
  obtain ⟨page, hpage, hpageAgain⟩ :=
    Client.get_again (lowerName setup.login.tokenHeader) s setup.loginUrl
  obtain ⟨posts, hposts, hpostsAgain⟩ := Client.send_again (lowerName setup.login.tokenHeader)
    (s.primed setup) (loginRequest_cookies hq)
  have hs : s.Hears (page ++ posts) (s.authenticate setup c).2 := by
    rw [hafter, outcome_snd]
    exact hpage.trans hposts
  have hjar : (s.authenticate setup c).2.jar = some (jar.heard s.now (page ++ posts)) := by
    rw [hs.jar, hj, Option.map_some]
  have hfrom := hf.heard s.now (page ++ posts)
  refine ⟨page, posts, hpage.history, by rw [hs.history, List.append_assoc], ?_⟩
  intro hset t ht hanswers hle hlast
  rw [hjar] at ht
  rw [List.map_append] at hanswers
  -- The page is fetched again and leaves a token, so the credentials are posted again.
  obtain ⟨page', hpage', -, hall⟩ := hpageAgain t hanswers.left
  obtain ⟨token', hcookie', hv⟩ := primed_again hu ht hfrom hset hpage' hall hle hlast.left
  obtain ⟨q', hq', hk⟩ := loginRequest_again hq hv
  have hafter' : t.authenticate setup c = outcome ((t.primed setup).send q') := by
    rw [authenticate_of_token hcookie', hq']
    rfl
  have hlen : (page.map fun e => e.2).length = page'.length := by
    rw [List.length_map, hall.length_eq]
  obtain ⟨posts', hposts', hresult, hall'⟩ := hpostsAgain (t.primed setup) q' hk
    (loginRequest_cookies hq') (hpage'.answers hlen hanswers)
  have htwice : t.Hears (page' ++ posts') (t.authenticate setup c).2 := by
    rw [hafter', outcome_snd]
    exact hpage'.trans hposts'
  have hrepeats := List.rel_append hall hall'
  refine ⟨?_, ⟨_, htwice.history, hrepeats⟩, fun url => ?_⟩
  · rw [hafter, outcome_ok] at hok
    rwa [hafter', outcome_ok, hresult]
  -- And the second login overwrites what the first one did.
  · have hjar' : (t.authenticate setup c).2.jar =
        some ((jar.heard s.now (page ++ posts)).heard s.now (page ++ posts)) := by
      rw [htwice.jar, ht, Option.map_some, Client.heard_repeats hle hlast hrepeats]
    obtain ⟨keys, hkeys⟩ := Jar.overwrites_heard s.now (page ++ posts)
    exact cookies_of_same hjar hjar' hfrom (hfrom.heard s.now _) (hkeys.twice jar) url

/-- A session with an application that hands out a token on the way to another page, and a new one
with the login. -/
def rotating : Session :=
  .start ⟨[.answer ⟨302, [Text.utf8 "csrftoken=a; Path=/".toList, Text.utf8 "step=1; Path=/".toList],
      some (Text.utf8 "/login".toList)⟩,
    .answer ⟨200, [Text.utf8 "step=; Path=/; Max-Age=0".toList], none⟩,
    .answer ⟨200, [Text.utf8 "csrftoken=b; Path=/".toList, Text.utf8 "sid=7; Path=/".toList], none⟩],
    .dropped, []⟩ ⟨0, 0⟩

/-- The session after a login, with an application that starts afresh. -/
def rotated : Session :=
  { (rotating.authenticate .loopback .ann).2 with network := rotating.network, now := ⟨60, 0⟩ }

theorem authenticate_twice_rotating : (rotated.authenticate .loopback .ann).1 = .ok 200 ∧
    List.Forall₂ (Client.Repeats "x-csrftoken")
      (rotating.authenticate .loopback .ann).2.network.history
      (rotated.authenticate .loopback .ann).2.network.history ∧
    ∀ url, ((rotated.authenticate .loopback .ann).2.cookies url).map List.toFinset =
      ((rotating.authenticate .loopback .ann).2.cookies url).map List.toFinset := by
  have hu : urlOf Setup.loopback.loginUrl = .ok Url.loopback := by
    have h : Url.parse Setup.loopback.loginUrl = .ok Url.loopback := by decide +kernel
    rw [urlOf, h]
  have hok : (rotating.authenticate .loopback .ann).1 = .ok 200 :=
    ok_of_toOption (by decide +kernel)
  obtain ⟨page, posts, hpage, htrace, htwice⟩ :=
    authenticate_twice (s := rotating) rfl (.nil : Jar.From [] []) hu hok
  have hstart : rotating.network.history = [] := rfl
  rw [hstart, List.nil_append] at hpage htrace
  have hset : (Jar.heard rotating.now [] page).Holds .loopback Setup.loopback.login.tokenCookie := by
    have h : ((Jar.heard rotating.now [] (rotating.primed .loopback).network.history).any fun c =>
        c.isFor .loopback && c.name = Setup.loopback.login.tokenCookie.toList) = true := by
      decide +kernel
    rw [hpage] at h
    simpa [Jar.Holds] using h
  have hanswers : rotated.network.Answers ((page ++ posts).map fun e => e.2) := by
    have hreplies : (page ++ posts).map (fun e => e.2) = rotating.network.replies := by
      rw [← htrace]
      decide +kernel
    have hsame : rotated.network = rotating.network := by rw [rotated]
    rw [hreplies, hsame]
    intro i reply hi
    rw [Network.reply, List.getD_eq_getElem?_getD, hi, Option.getD_some]
  have hlast : Lasting rotating.now rotated.now (page ++ posts) := by
    have h : ((rotating.authenticate .loopback .ann).2.network.history.all fun e =>
        e.2.setCookies.all fun header => (Jar.setCookie? header).all fun s =>
          s.lifetime.isOver rotated.now == s.lifetime.isOver rotating.now) = true := by
      decide +kernel
    rw [htrace] at h
    intro e he header hh s hs hover
    have hs' := List.all_eq_true.1 (List.all_eq_true.1 h e he) header hh
    rw [hs, Option.all_some, beq_iff_eq] at hs'
    rw [← hs', hover]
  have hjar : rotated.jar = (rotating.authenticate .loopback .ann).2.jar := by rw [rotated]
  have hlater : rotating.now.seconds ≤ rotated.now.seconds := by
    rw [rotated]
    decide
  obtain ⟨hstatus, ⟨again, hagain, hrepeats⟩, hcookies⟩ := htwice hset rotated hjar hanswers hlater hlast
  have hfresh : rotated.network.history = [] := by rw [rotated, hstart]
  rw [hfresh, List.nil_append] at hagain
  rw [← htrace, ← hagain] at hrepeats
  exact ⟨hstatus, hrepeats, hcookies⟩

end Session
end Rehearsal
