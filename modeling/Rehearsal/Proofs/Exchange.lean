import Mathlib.Data.List.Chain
import Rehearsal.Http.Client
import Rehearsal.Proofs.CookieHeader

/-!
# Exchanges

What a client sends for one request, redirects included, and what came of it. `Talks c r trace d`:
for the request `r` the client `c` sends the requests of `trace`, each answered by the reply beside
it, and is `d` after that; `exchange_talks` says that every exchange is of this kind. From it follow
the facts about clients that do not depend on what servers do, collected in `Client.Advances`: the
network grows by the trace, the jar receives its answers in order, and each request shows only
cookies that were set before (`Honest`).
-/

namespace Rehearsal
namespace Http

/-! ## Traces -/

/-- What a reply sets. -/
def Reply.setCookies : Reply → List (List UInt8)
  | .answer a => a.setCookies
  | .dropped => []
  | .unreachable => []

/-- The names and values in the header with cookies of a request. -/
def Request.pairs (r : Request) : List (List Char × List Char) := (r.cookies.map readHeader).getD []

/-- Requests with what came of them, the first one first. -/
abbrev Trace := List (Request × Reply)

/-- The jar after the replies of a trace. -/
def Jar.heard (now : Instant) (jar : Jar) (trace : Trace) : Jar :=
  trace.foldl (fun jar e => jar.receive now e.1.url e.2.setCookies) jar

/-- What happens to a session that concerns cookies. -/
inductive Event where
  /-- A request was sent, and this came of it. -/
  | exchange (e : Request × Reply)
  /-- Cookies were shown to somebody. -/
  | shown (pairs : List (List Char × List Char))
  /-- The session started with an empty jar. -/
  | fresh
  deriving DecidableEq

namespace Event

/-- The cookies that an event shows. -/
def pairs : Event → List (List Char × List Char)
  | .exchange e => e.1.pairs
  | .shown pairs => pairs
  | .fresh => []

/-- The headers that set cookies since the jar was empty, after an event. -/
def since (headers : List (List UInt8)) : Event → List (List UInt8)
  | .exchange e => headers ++ e.2.setCookies
  | .shown _ => headers
  | .fresh => []

end Event

/-- Each event shows only cookies that some headers or the answers before it set. -/
def Honest : List (List UInt8) → List Event → Prop
  | _, [] => True
  | headers, e :: events => (∀ p ∈ e.pairs, Sets headers p) ∧ Honest (e.since headers) events

theorem honest_append {headers : List (List UInt8)} {events more : List Event} :
    Honest headers (events ++ more) ↔
      Honest headers events ∧ Honest (events.foldl Event.since headers) more := by
  induction events generalizing headers with
  | nil => simp [Honest]
  | cons e events ih => simp only [List.cons_append, Honest, List.foldl_cons, ih, and_assoc]

/-- The answers of a trace set cookies beside those that were set before. -/
theorem foldl_since (headers : List (List UInt8)) (trace : Trace) :
    (trace.map Event.exchange).foldl Event.since headers =
      headers ++ trace.flatMap (·.2.setCookies) := by
  induction trace generalizing headers with
  | nil => simp
  | cons e trace ih => simp [ih, Event.since]

theorem Jar.From.heard {headers : List (List UInt8)} {jar : Jar} (h : jar.From headers)
    (now : Instant) (trace : Trace) :
    (jar.heard now trace).From (headers ++ trace.flatMap (·.2.setCookies)) := by
  induction trace generalizing headers jar with
  | nil => exact h.mono (List.subset_append_left _ _)
  | cons e trace ih =>
    have he := ih (h.receive now e.1.url e.2.setCookies)
    rw [List.append_assoc] at he
    exact he

/-! ## One request with its redirects -/

namespace Client

/-- What comes of a request, and the client after it. -/
def hear (c : Client) (r : Request) : Reply × Client :=
  let (reply, network) := c.network.ask r
  (reply, { c with
    network := network
    jar := c.jar.map (Jar.receive c.now r.url reply.setCookies) })

/-- What a client sends for a request, with what came of it, and the client after it. -/
inductive Talks : Client → Request → Trace → Client → Prop
  | astray {c : Client} {r : Request} : r.url.isHttp = false → Talks c r [] c
  | last {c d : Client} {r : Request} {reply : Reply} : r.url.isHttp = true →
    c.hear r = (reply, d) → Talks c r [(r, reply)] d
  | redirect {c d e : Client} {r next : Request} {a : Answer} {trace : Trace} :
    r.url.isHttp = true → c.hear r = (.answer a, d) → nextRequest? r a = some next →
    Talks d (d.dress next) trace e → Talks c r ((r, .answer a) :: trace) e

variable {c d : Client} {r : Request} {reply : Reply} {trace : Trace}

theorem map_receive_nil (jar : Option Jar) (now : Instant) (u : Url) :
    jar.map (Jar.receive now u []) = jar := by
  cases jar <;> rfl

/-- All that can come of one step of an exchange: it goes astray, it ends with a reply, or it goes
on after a redirect. -/
theorem exchange_cases (c : Client) (left : Nat) (r : Request) :
    (r.url.isHttp = false ∧ (c.exchange left r).2 = c) ∨
    (∃ reply d, r.url.isHttp = true ∧ c.hear r = (reply, d) ∧ (c.exchange left r).2 = d) ∨
    (∃ a d next k, r.url.isHttp = true ∧ left = k + 1 ∧ c.hear r = (.answer a, d) ∧
      nextRequest? r a = some next ∧ c.exchange left r = d.exchange k (d.dress next)) := by
  by_cases hr : r.url.isHttp = true
  · right
    rw [exchange, if_neg (by simp [hr])]
    unfold hear
    rcases c.network.ask r with ⟨reply, network⟩
    rcases reply with a | _ | _
    · rcases hn : nextRequest? r a with _ | next
      · exact .inl ⟨_, _, hr, rfl, by simp only [hn]; rfl⟩
      · cases left with
        | zero => exact .inl ⟨_, _, hr, rfl, by simp only [hn]; rfl⟩
        | succ k => exact .inr ⟨a, _, next, k, hr, rfl, rfl, hn, by simp only [hn]; rfl⟩
    · exact .inl ⟨_, _, hr, rfl, by simp only [Reply.setCookies, map_receive_nil]⟩
    · exact .inl ⟨_, _, hr, rfl, by simp only [Reply.setCookies, map_receive_nil]⟩
  · left
    have hf : r.url.isHttp = false := by simpa using hr
    rw [exchange, if_pos (by simp [hf])]
    exact ⟨hf, rfl⟩

/-- Every exchange sends a request and its redirects one after the other. -/
theorem exchange_talks (c : Client) (left : Nat) (r : Request) :
    ∃ trace, Talks c r trace (c.exchange left r).2 := by
  rcases exchange_cases c left r with
    ⟨hr, he⟩ | ⟨reply, d, hr, hh, he⟩ | ⟨a, d, next, k, hr, hk, hh, hn, he⟩
  · rw [he]
    exact ⟨[], .astray hr⟩
  · rw [he]
    exact ⟨[(r, reply)], .last hr hh⟩
  -- One redirect fewer is left for what follows.
  · obtain ⟨trace, ht⟩ := exchange_talks d k (d.dress next)
    rw [he]
    exact ⟨(r, .answer a) :: trace, .redirect hr hh hn ht⟩
termination_by left
decreasing_by omega

theorem hear_eq (h : c.hear r = (reply, d)) :
    d.network.history = c.network.history ++ [(r, reply)] ∧ d.now = c.now ∧
      d.jar = c.jar.map (Jar.receive c.now r.url reply.setCookies) := by
  unfold hear Network.ask at h
  rcases hn : c.network.replies with _ | ⟨first, rest⟩ <;> rw [hn] at h <;> cases h <;>
    exact ⟨rfl, rfl, rfl⟩

/-! ## What holds of every exchange -/

theorem Talks.history (h : Talks c r trace d) :
    d.network.history = c.network.history ++ trace := by
  induction h with
  | astray => rw [List.append_nil]
  | last _ hh => exact (hear_eq hh).1
  | redirect _ hh _ _ ih => rw [ih, (hear_eq hh).1, List.append_assoc]; rfl

theorem Talks.now (h : Talks c r trace d) : d.now = c.now := by
  induction h with
  | astray => rfl
  | last _ hh => exact (hear_eq hh).2.1
  | redirect _ hh _ _ ih => rw [ih, (hear_eq hh).2.1]

theorem Talks.jar (h : Talks c r trace d) : d.jar = c.jar.map (Jar.heard c.now · trace) := by
  induction h with
  | @astray c => cases c.jar <;> rfl
  | last _ hh => exact (hear_eq hh).2.2
  | redirect _ hh _ _ ih =>
    rw [ih, (hear_eq hh).2.2, (hear_eq hh).2.1, Option.map_map]
    rfl

/-- If anything can be sent, the request itself is sent first. -/
theorem Talks.head (h : Talks c r trace d) (hr : r.url.isHttp = true) :
    ∃ reply rest, trace = (r, reply) :: rest := by
  cases h with
  | astray hf => rw [hr] at hf; cases hf
  | last => exact ⟨_, [], rfl⟩
  | redirect => exact ⟨_, _, rfl⟩

/-- The second of two exchanges follows a redirect of the first: it differs from what the redirect
asks for in its cookies only. -/
def Follows (e f : Request × Reply) : Prop :=
  ∃ a next cookies, e.2 = .answer a ∧ nextRequest? e.1 a = some next ∧
    f.1 = { next with cookies := cookies }

/-- A client changes nothing but the cookies of a request. -/
theorem dress_eq (c : Client) (r : Request) :
    c.dress r = { r with cookies := (c.jar.bind (Jar.header? · r.url)).or r.cookies } := by
  unfold dress
  rcases c.jar with _ | jar <;> rfl

theorem Talks.chain (h : Talks c r trace d) : trace.IsChain Follows := by
  induction h with
  | astray => exact .nil
  | last => exact .singleton _
  | @redirect _ d _ r next a trace _ _ hn ht ih =>
    refine List.isChain_cons.2 ⟨fun f hf => ?_, ih⟩
    cases ht with
    | astray => cases hf
    | last => cases hf; exact ⟨a, next, _, rfl, hn, d.dress_eq next⟩
    | redirect => cases hf; exact ⟨a, next, _, rfl, hn, d.dress_eq next⟩

end Client

/-! ## Redirects -/

theorem Request.leadTo_eq (r : Request) (v : Url) : (r.leadTo v).method = r.method ∧
    ((r.leadTo v).cookies = r.cookies ∨ (r.leadTo v).cookies = none) := by
  unfold leadTo
  split <;> split <;> simp [Request.replaceHeader, Request.without]

theorem redirected?_ok {r again : Request} {status : Nat} (h : redirected? r status = some again) :
    (r.method = .get → again.method = .get) ∧ again.cookies = r.cookies := by
  unfold redirected? at h
  split at h
  · cases h
    exact ⟨fun _ => rfl, rfl⟩
  · split at h
    · cases h
      exact ⟨id, rfl⟩
    · cases h

/-- A page is not followed by a form, and a redirect brings no cookies of its own. -/
theorem nextRequest?_ok {r next : Request} {a : Answer} (h : nextRequest? r a = some next) :
    (r.method = .get → next.method = .get) ∧ (next.cookies = r.cookies ∨ next.cookies = none) := by
  obtain ⟨again, ha, h⟩ := Option.bind_eq_some_iff.1 h
  obtain ⟨v, -, h⟩ := Option.bind_eq_some_iff.1 h
  cases h
  obtain ⟨hm, hc⟩ := redirected?_ok ha
  obtain ⟨hl, hk⟩ := again.leadTo_eq v
  rw [hl, ← hc]
  exact ⟨hm, hk⟩

namespace Client

variable {c d : Client} {r next : Request} {a : Answer} {trace : Trace}

theorem Talks.get (h : Talks c r trace d) (hr : r.method = .get) :
    ∀ e ∈ trace, e.1.method = .get := by
  induction h with
  | astray => simp
  | last => simpa using hr
  | @redirect _ d _ _ next _ _ _ _ hn _ ih =>
    refine List.forall_mem_cons.2 ⟨hr, ih ?_⟩
    rw [dress_eq]
    exact (nextRequest?_ok hn).1 hr

/-! ## Where cookies come from -/

section
variable {headers : List (List UInt8)}

theorem sets_of_nextRequest? (h : nextRequest? r a = some next)
    (hr : ∀ p ∈ r.pairs, Sets headers p) : ∀ p ∈ next.pairs, Sets headers p := by
  unfold Request.pairs at hr ⊢
  rcases (nextRequest?_ok h).2 with hc | hc <;> rw [hc]
  · exact hr
  · simp

/-- A client adds only cookies of its jar to a request. -/
theorem sets_of_dress (hc : (c.jar.getD []).From headers) (hr : ∀ p ∈ r.pairs, Sets headers p) :
    ∀ p ∈ (c.dress r).pairs, Sets headers p := by
  unfold Request.pairs at hr ⊢
  rw [dress_eq]
  rcases hb : c.jar.bind (Jar.header? · r.url) with _ | bytes
  · exact hr
  · obtain ⟨jar, hj, hb⟩ := Option.bind_eq_some_iff.1 hb
    rw [hj] at hc
    exact hc.sets_of_mem_header hb

theorem from_map {jar : Option Jar} {more : List (List UInt8)} {f : Jar → Jar}
    (hj : (jar.getD []).From headers) (hf : ∀ j : Jar, j.From headers → (f j).From more) :
    ((jar.map f).getD []).From more := by
  cases jar with
  | none => exact .nil
  | some j => exact hf j hj

/-- Each request of an exchange shows only cookies that were set before. -/
theorem Talks.honest (h : Talks c r trace d) (hc : (c.jar.getD []).From headers)
    (hr : ∀ p ∈ r.pairs, Sets headers p) : Honest headers (trace.map Event.exchange) := by
  induction h generalizing headers with
  | astray => trivial
  | last => exact ⟨hr, trivial⟩
  | @redirect _ d _ r _ a _ _ hh hn _ ih =>
    -- If the jar has nothing for the next URL, the header of this request stays: so the induction
    -- is about the cookies of the request as well as those of the jar.
    have hd : (d.jar.getD []).From (headers ++ a.setCookies) := by
      rw [(hear_eq hh).2.2]
      exact from_map hc fun _ hj => hj.receive _ _ _
    refine ⟨hr, ih hd (sets_of_dress hd ?_)⟩
    exact sets_of_nextRequest? hn fun p hp => (hr p hp).mono (List.subset_append_left _ _)

end

/-- From one moment to another a client sent the requests of a trace and got the replies beside
them, with only cookies in the requests that were set before. -/
structure Advances (c : Client) (trace : Trace) (d : Client) : Prop where
  history : d.network.history = c.network.history ++ trace
  now : d.now = c.now
  jar : d.jar = c.jar.map (Jar.heard c.now · trace)
  honest : ∀ headers, (c.jar.getD []).From headers → Honest headers (trace.map Event.exchange)

theorem Advances.refl (c : Client) : c.Advances [] c where
  history := by rw [List.append_nil]
  now := rfl
  jar := by cases c.jar <;> rfl
  honest _ _ := trivial

theorem Advances.from (h : c.Advances trace d) {headers : List (List UInt8)}
    (hc : (c.jar.getD []).From headers) :
    (d.jar.getD []).From (headers ++ trace.flatMap (·.2.setCookies)) := by
  rw [h.jar]
  exact from_map hc fun _ hj => hj.heard c.now trace

theorem Advances.trans {e : Client} {more : Trace} (h : c.Advances trace d)
    (hm : d.Advances more e) : c.Advances (trace ++ more) e where
  history := by rw [hm.history, h.history, List.append_assoc]
  now := hm.now.trans h.now
  jar := by
    rw [hm.jar, h.jar, h.now, Option.map_map]
    congr 1
    funext jar
    exact (List.foldl_append ..).symm
  honest headers hc := by
    rw [List.map_append, honest_append, foldl_since]
    exact ⟨h.honest headers hc, hm.honest _ (h.from hc)⟩

theorem Talks.advances (h : Talks c (c.dress r) trace d) (hr : r.cookies = none) :
    c.Advances trace d where
  history := h.history
  now := h.now
  jar := h.jar
  honest _ hc := h.honest hc (sets_of_dress hc (by simp [Request.pairs, hr]))

/-- A request that cannot be sent leaves the client as it is; any other one is exchanged. -/
theorem send_cases (c : Client) (r : Request) :
    ((r.url.isHttp = false ∨ Request.isNameable r.url = false) ∧ (c.send r).2 = c) ∨
      (r.url.isHttp = true ∧ Request.isNameable r.url = true ∧
        c.send r = c.exchange redirectLimit (c.dress r)) := by
  unfold send
  rcases hu : r.url.isHttp
  · exact .inl ⟨.inl rfl, rfl⟩
  · rcases hn : Request.isNameable r.url
    · exact .inl ⟨.inr rfl, rfl⟩
    · exact .inr ⟨rfl, rfl, rfl⟩

theorem send_advances (c : Client) (hr : r.cookies = none) :
    ∃ trace, c.Advances trace (c.send r).2 := by
  rcases c.send_cases r with ⟨-, he⟩ | ⟨-, -, he⟩
  · rw [he]
    exact ⟨[], .refl c⟩
  · obtain ⟨trace, h⟩ := c.exchange_talks redirectLimit (c.dress r)
    rw [he]
    exact ⟨trace, h.advances hr⟩

theorem sendIfOk_advances (c : Client) {r : Except Fault Request}
    (hr : ∀ q, r = .ok q → q.cookies = none) : ∃ trace, c.Advances trace (c.sendIfOk r).2 := by
  rcases r with f | q
  · exact ⟨[], .refl c⟩
  · exact c.send_advances (hr q rfl)

end Client

end Http

/-! ## The host of a URL -/

namespace Url

variable {u : Url} {scheme s : List Char}

theorem fromAuthority_ok (h : fromAuthority scheme s = .ok u) : u.host.isSome = true := by
  simp only [fromAuthority, bind, Except.bind] at h
  split at h
  · cases h
  · split at h
    · cases h
    · split at h <;> cases h
      rfl

theorem ofFile_ok (h : ofFile scheme s = .ok u) : u.scheme = scheme := by
  simp only [ofFile, bind, Except.bind] at h
  split at h
  · split at h
    · split at h
      · cases h; rfl
      · split at h
        · cases h; rfl
        · split at h <;> cases h
          rfl
    · cases h; rfl
  · cases h; rfl

theorem isHttp_iff : u.isHttp = true ↔ u.scheme = "http".toList ∨ u.scheme = "https".toList := by
  simp [isHttp]

/-- A URL that is fetched over HTTP has a host. -/
theorem parse_host {text : String} (h : parse text = .ok u) (hu : u.isHttp = true) :
    u.host.isSome = true := by
  have hspecial : ∀ scheme, isFileScheme scheme = true ∨ isSpecial scheme = false →
      u.scheme ≠ scheme := by
    rintro scheme hs rfl
    rcases isHttp_iff.1 hu with he | he <;> rw [he] at hs <;> revert hs <;> decide
  simp only [parse, parseFrom] at h
  split at h
  · rename_i scheme r _
    unfold afterScheme at h
    split at h
    · exact absurd (ofFile_ok h) (hspecial _ (.inl ‹_›))
    · split at h
      · exact fromAuthority_ok h
      · rename_i hn
        have hs : u.scheme ≠ scheme := hspecial _ (.inr (by simpa using hn))
        split at h
        · exact fromAuthority_ok h
        · cases h; exact absurd rfl hs
        · cases h; exact absurd rfl hs
  · cases h

end Url

namespace Http

/-! ## Requests for texts -/

/-- The URL under which another one is asked for: credentials that can be read become a header. -/
def addressed (u : Url) : Url :=
  if (userOf? u).isSome then { u with username := [], password := none } else u

/-- The request for a URL before anything is added. -/
def Request.plain (method : Method) (u : Url) : Request where
  method := method
  url := addressed u
  headers := (userOf? u).toList.map fun (name, password) =>
    ("authorization", authorization name password)

theorem addressed_eq (u : Url) : (addressed u).scheme = u.scheme ∧ (addressed u).host = u.host ∧
    (addressed u).path = u.path := by
  unfold addressed
  split <;> exact ⟨rfl, rfl, rfl⟩

theorem Request.ofText_eq {u : Url} {text : String} (h : Url.parse text = .ok u)
    (hu : u.isHttp = true) (method : Method) : ofText method text = .ok (plain method u) := by
  have hhost : u.host.isNone = false := by
    simpa [Option.isSome_iff_ne_none] using Url.parse_host h hu
  unfold ofText plain addressed
  rw [h]
  simp only [hhost]
  rcases userOf? u with _ | ⟨name, password⟩ <;> rfl

theorem Request.ofText_cookies {method : Method} {text : String} {r : Request}
    (h : ofText method text = .ok r) : r.cookies = none := by
  unfold ofText at h
  split at h
  · cases h
  · split at h
    · cases h
    · split at h <;> cases h <;> rfl

namespace Client

theorem get_advances (c : Client) (text : String) : ∃ trace, c.Advances trace (c.get text).2 :=
  c.sendIfOk_advances fun _ => Request.ofText_cookies

end Client
end Http
end Rehearsal
