import Rehearsal.Runner
import Rehearsal.Proofs.LoginHandshake
import Rehearsal.Proofs.Verdict

/-!
# Sessions are isolated

Everything that a session shows of its cookies, in a request, in an answer about its jar or in what
it hands over to the browser, was set by an answer that the same session received since its jar was
empty. `SessionOp.performAll` runs operations on a session and keeps a log of what concerns cookies;
each operation keeps the log honest (`SessionOp.perform_logs`), and so does a run. A suite gives
each scenario a session of its own, so the log of a suite is honest too, with each scenario
beginning afresh (`Runner.log`). `Session.isolation` puts both together.
-/

namespace Rehearsal

open Http

/-! ## Operations advance a session -/

namespace Session

theorem status_advances (s : Session) (url : String) :
    ∃ trace, s.Advances trace (s.status url).2 := by
  rw [status, outcome_snd]
  exact s.get_advances url

theorem addHeader_cookies {r q : Request} {name value : String}
    (h : r.addHeader name value = .ok q) : q.cookies = r.cookies := by
  unfold Request.addHeader at h
  split at h
  · cases h
  · split at h <;> cases h
    rfl

theorem loginRequest_cookies {setup : Setup} {c : Credentials} {token : String} {q : Request}
    (h : loginRequest setup c token = .ok q) : q.cookies = none := by
  obtain ⟨q₀, h₀, h⟩ := bind_ok.1 h
  obtain ⟨q₁, h₁, h⟩ := bind_ok.1 h
  obtain ⟨q₂, h₂, h⟩ := bind_ok.1 h
  cases h
  change q₂.cookies = none
  rw [addHeader_cookies h₂, addHeader_cookies h₁, Request.ofText_cookies h₀]

theorem authenticate_advances (s : Session) (setup : Setup) (c : Credentials) :
    ∃ trace, s.Advances trace (s.authenticate setup c).2 := by
  obtain ⟨page, hpage⟩ := s.get_advances setup.loginUrl
  rw [authenticate_eq]
  split
  · exact ⟨page, hpage⟩
  · exact ⟨page, hpage⟩
  · rename_i token _
    have hq : ∀ q, loginRequest setup c token = .ok q → q.cookies = none :=
      fun q => loginRequest_cookies
    obtain ⟨posts, hposts⟩ := (s.get setup.loginUrl).2.sendIfOk_advances hq
    rw [outcome_snd]
    exact ⟨page ++ posts, hpage.trans hposts⟩

theorem perform?_advances {s t : Session} {setup : Setup} {c : Command} {name : String}
    {r : Except Failure Nat} (h : c.perform? setup s = some (name, r, t)) :
    ∃ trace, s.Advances trace t := by
  cases c <;> simp only [Command.perform?, Option.some.injEq, Prod.mk.injEq, reduceCtorEq] at h
  case login role =>
    obtain rfl : (s.logIn setup role).2 = t := congrArg Prod.snd h.2
    exact s.authenticate_advances setup (setup.credentials role)
  case loginWith email password =>
    obtain rfl : (s.authenticate setup ⟨email, password⟩).2 = t := congrArg Prod.snd h.2
    exact s.authenticate_advances setup ⟨email, password⟩
  case logout =>
    obtain rfl : (s.logOut setup).2 = t := congrArg Prod.snd h.2
    exact s.status_advances setup.logoutUrl

theorem takeSessionSteps_advances (setup : Setup) (s : Session) (steps : List ScenarioStep) :
    ∃ trace, s.Advances trace (takeSessionSteps setup s steps).session := by
  induction steps generalizing s with
  | nil => exact ⟨[], .refl s⟩
  | cons step steps ih =>
    cases step with
    | browser b => exact ⟨[], .refl s⟩
    | command c =>
      rcases hp : c.perform? setup s with _ | ⟨name, f | status, t⟩ <;>
        simp only [takeSessionSteps, hp]
      · exact ⟨[], .refl s⟩
      · exact perform?_advances hp
      · obtain ⟨first, hfirst⟩ := perform?_advances hp
        obtain ⟨rest, hrest⟩ := ih t
        exact ⟨first ++ rest, hfirst.trans hrest⟩

/-! ## What a session shows -/

section
variable {s : Session} {headers : List (List UInt8)}

/-- A name and a value as characters. -/
def textPair (p : String × String) : List Char × List Char := (p.1.toList, p.2.toList)

/-- The pair of a cookie for the browser. -/
def browserPair (c : BrowserCookie) : List Char × List Char := textPair (c.name, c.value)

theorem sets_of_cookies {url : String} {pairs : List (String × String)}
    (hs : (s.jar.getD []).From headers) (h : s.cookies url = .ok pairs) :
    ∀ p ∈ pairs, Sets headers (textPair p) := by
  obtain ⟨u, hu, -⟩ := bind_ok.1 h
  rw [s.cookies_eq hu hs] at h
  cases h
  intro p hp
  obtain ⟨c, hc, rfl⟩ := List.mem_map.1 hp
  simpa [textPair] using hs c (List.mem_filter.1 hc).1

theorem sets_of_cookie {url name value : String} (hs : (s.jar.getD []).From headers)
    (h : s.cookie url name = .ok (some value)) : Sets headers (textPair (name, value)) := by
  obtain ⟨pairs, hp, h⟩ := bind_ok.1 h
  obtain ⟨p, hf, rfl⟩ := Option.map_eq_some_iff.1 (Except.ok.inj h)
  have hname : p.1 = name := by simpa using List.find?_some hf
  rw [← hname]
  exact sets_of_cookies hs hp p (List.mem_of_find?_eq_some hf)

theorem mem_addCookies {origin : String} {known : List BrowserCookie}
    {pairs : List (String × String)} {c : BrowserCookie} (h : c ∈ addCookies origin known pairs) :
    c ∈ known ∨ (c.name, c.value) ∈ pairs := by
  induction pairs generalizing known with
  | nil => exact .inl h
  | cons p pairs ih =>
    obtain ⟨name, value⟩ := p
    unfold addCookies at h
    split at h
    · exact (ih h).imp_right (List.mem_cons_of_mem _)
    · rcases ih h with h | h
      · rcases List.mem_append.1 h with h | h
        · exact .inl h
        · rw [List.mem_singleton.1 h]
          exact .inr List.mem_cons_self
      · exact .inr (List.mem_cons_of_mem _ h)

theorem sets_of_collectCookies {urls : List String} {known out : List BrowserCookie}
    (hs : (s.jar.getD []).From headers) (hk : ∀ c ∈ known, Sets headers (browserPair c))
    (h : s.collectCookies known urls = .ok out) : ∀ c ∈ out, Sets headers (browserPair c) := by
  induction urls generalizing known with
  | nil =>
    cases h
    exact hk
  | cons url urls ih =>
    obtain ⟨u, -, h⟩ := bind_ok.1 h
    obtain ⟨pairs, hp, h⟩ := bind_ok.1 h
    refine ih (fun c hc => ?_) h
    rcases mem_addCookies hc with hc | hc
    · exact hk c hc
    · exact sets_of_cookies hs hp _ hc

theorem sets_of_browserCookies {urls : List String} {out : List BrowserCookie}
    (hs : (s.jar.getD []).From headers) (h : s.browserCookies urls = .ok out) :
    ∀ c ∈ out, Sets headers (browserPair c) :=
  sets_of_collectCookies hs (by simp) h

end

end Session

/-! ## Runs of operations -/

/-- The exchanges by which a network grew. -/
def exchanged (old new : Network) : List Event :=
  (new.history.drop old.history.length).map Event.exchange

theorem exchanged_eq {s t : Session} {trace : Trace} (h : s.Advances trace t) :
    exchanged s.network t.network = trace.map Event.exchange := by
  rw [exchanged, h.history, List.drop_left]

/-- What a log says was sent, with what came of it. -/
def exchanges (events : List Event) : Trace := events.filterMap fun
  | .exchange e => some e
  | _ => none

theorem exchanges_append (events more : List Event) :
    exchanges (events ++ more) = exchanges events ++ exchanges more := List.filterMap_append ..

theorem exchanges_map (trace : Trace) : exchanges (trace.map Event.exchange) = trace := by
  rw [exchanges, List.filterMap_map]
  exact List.filterMap_some

/-- What an operation on a session can be. -/
inductive SessionOp where
  | status (url : String)
  | logIn (setup : Setup) (role : Role)
  | authenticate (setup : Setup) (c : Credentials)
  | logOut (setup : Setup)
  | cookies (url : String)
  | cookie (url name : String)
  | browserCookies (urls : List String)
  | reset

namespace SessionOp

/-- An operation that may send requests, from a session to the one after it. -/
def sending (s t : Session) : List Event × Session := (exchanged s.network t.network, t)

/-- What happens in an operation, and the session after it. An operation that fails shows nothing
but the requests that it sent. -/
def perform (s : Session) : SessionOp → List Event × Session
  | .status url => sending s (s.status url).2
  | .logIn setup role => sending s (s.logIn setup role).2
  | .authenticate setup c => sending s (s.authenticate setup c).2
  | .logOut setup => sending s (s.logOut setup).2
  | .cookies url => ([.shown (((s.cookies url).toOption.getD []).map Session.textPair)], s)
  | .cookie url name =>
    let value := (s.cookie url name).toOption.join
    ([.shown (value.toList.map fun v => Session.textPair (name, v))], s)
  | .browserCookies urls =>
    ([.shown (((s.browserCookies urls).toOption.getD []).map Session.browserPair)], s)
  | .reset => ([.fresh], s.reset)

/-- What happens in operations one after the other, and the session after them. -/
def performAll (s : Session) : List SessionOp → List Event × Session
  | [] => ([], s)
  | op :: ops =>
    let (events, t) := op.perform s
    let (more, u) := performAll t ops
    (events ++ more, u)

section
variable {s : Session} {headers : List (List UInt8)}

/-- A log says all that was sent, shows only cookies that were set, and leaves no other cookie in
the session. -/
structure Logs (headers : List (List UInt8)) (s : Session) (r : List Event × Session) : Prop where
  history : r.2.network.history = s.network.history ++ exchanges r.1
  honest : Honest headers r.1
  jar : (r.2.jar.getD []).From (r.1.foldl Event.since headers)

theorem logs_sending {t : Session} (h : ∃ trace, s.Advances trace t)
    (hs : (s.jar.getD []).From headers) : Logs headers s (sending s t) := by
  obtain ⟨trace, h⟩ := h
  rw [sending, exchanged_eq h]
  exact {
    history := by rw [exchanges_map, h.history]
    honest := h.honest headers hs
    jar := by rw [foldl_since]; exact h.from hs }

theorem logs_shown {pairs : List (List Char × List Char)} (hs : (s.jar.getD []).From headers)
    (hp : ∀ p ∈ pairs, Sets headers p) : Logs headers s ([.shown pairs], s) where
  history := (List.append_nil _).symm
  honest := ⟨hp, trivial⟩
  jar := hs

/-- Each operation keeps an honest log. -/
theorem perform_logs (op : SessionOp) (hs : (s.jar.getD []).From headers) :
    Logs headers s (op.perform s) := by
  cases op with
  | status url => exact logs_sending (s.status_advances url) hs
  | logIn setup role =>
    exact logs_sending (s.authenticate_advances setup (setup.credentials role)) hs
  | authenticate setup c => exact logs_sending (s.authenticate_advances setup c) hs
  | logOut setup => exact logs_sending (s.status_advances setup.logoutUrl) hs
  | cookies url =>
    refine logs_shown hs fun p hp => ?_
    rcases hc : s.cookies url with f | pairs <;> rw [hc] at hp
    · cases hp
    · obtain ⟨q, hq, rfl⟩ := List.mem_map.1 hp
      exact Session.sets_of_cookies hs hc q hq
  | cookie url name =>
    refine logs_shown hs fun p hp => ?_
    rcases hc : s.cookie url name with f | _ | value <;> rw [hc] at hp
    · cases hp
    · cases hp
    · obtain rfl := List.mem_singleton.1 hp
      exact Session.sets_of_cookie hs hc
  | browserCookies urls =>
    refine logs_shown hs fun p hp => ?_
    rcases hc : s.browserCookies urls with f | out <;> rw [hc] at hp
    · cases hp
    · obtain ⟨c, hm, rfl⟩ := List.mem_map.1 hp
      exact Session.sets_of_browserCookies hs hc c hm
  | reset =>
    exact {
      history := (List.append_nil _).symm
      honest := ⟨by simp [Event.pairs], trivial⟩
      jar := .nil }

/-- So does a run of operations. -/
theorem performAll_logs (ops : List SessionOp) (hs : (s.jar.getD []).From headers) :
    Logs headers s (performAll s ops) := by
  induction ops generalizing s headers with
  | nil => exact ⟨(List.append_nil _).symm, trivial, hs⟩
  | cons op ops ih =>
    -- What was set so far grows with the log, or is forgotten by a reset: hence for all `headers`.
    have hop := op.perform_logs hs
    have hops := ih hop.jar
    unfold performAll
    exact {
      history := by
        rw [hops.history, hop.history, List.append_assoc]
        exact congrArg _ (exchanges_append ..).symm
      honest := honest_append.2 ⟨hop.honest, hops.honest⟩
      jar := by
        rw [List.foldl_append]
        exact hops.jar }

end

end SessionOp

/-! ## Scenarios -/

theorem Page.run_network (p : Page) (stage : Stage) :
    (p.run stage).2.network = stage.network := by
  unfold Page.run
  split
  · rfl
  · simp only
    split <;> rfl

namespace Scenario

/-- What the page of a scenario is handed over by its session: nothing if there is no page. -/
def handed (sc : Scenario) (setup : Setup) (settings : BrowserSettings) (stage : Stage) :
    List Event :=
  match (sc.sessionOutcome setup stage).failure, sc.planned setup settings stage with
  | none, some (.ok plan, _) => [.shown (plan.page.cookies.map Session.browserPair)]
  | _, _ => []

/-- What happens in a scenario that concerns cookies: a fresh session takes its steps and hands its
cookies over to the page. -/
def log (sc : Scenario) (setup : Setup) (settings : BrowserSettings) (stage : Stage) :
    List Event :=
  .fresh :: exchanged stage.network (sc.sessionOutcome setup stage).session.network ++
    sc.handed setup settings stage

section
variable {sc : Scenario} {setup : Setup} {settings : BrowserSettings} {stage after : Stage}
  {r : ScenarioReport} {headers : List (List UInt8)}

theorem log_eq (sc : Scenario) (setup : Setup) (settings : BrowserSettings) (stage : Stage) :
    ∃ trace, (Session.start stage.network stage.now).Advances trace
        (sc.sessionOutcome setup stage).session ∧
      sc.log setup settings stage =
        .fresh :: (trace.map .exchange ++ sc.handed setup settings stage) := by
  obtain ⟨trace, h⟩ :=
    Session.takeSessionSteps_advances setup (.start stage.network stage.now) sc.steps
  exact ⟨trace, h, by rw [← exchanged_eq h]; rfl⟩

theorem handed_cases (sc : Scenario) (setup : Setup) (settings : BrowserSettings) (stage : Stage) :
    sc.handed setup settings stage = [] ∨ ∃ plan words,
      sc.planned setup settings stage = some (.ok plan, words) ∧
      sc.handed setup settings stage = [.shown (plan.page.cookies.map Session.browserPair)] := by
  unfold handed
  split
  · rename_i plan words _ hp
    exact .inr ⟨plan, words, hp, rfl⟩
  · exact .inl rfl

theorem handed_honest
    (hs : ((sc.sessionOutcome setup stage).session.jar.getD []).From headers) :
    Honest headers (sc.handed setup settings stage) := by
  rcases sc.handed_cases setup settings stage with he | ⟨plan, words, hp, he⟩ <;> rw [he]
  · trivial
  · obtain ⟨_, _, _, _, hcookies, -⟩ := plan_ok hp
    refine ⟨fun p hm => ?_, trivial⟩
    obtain ⟨c, hc, rfl⟩ := List.mem_map.1 hm
    exact Session.sets_of_browserCookies hs hcookies c hc

/-- Whatever was before it, a scenario shows only cookies that its own answers set. -/
theorem log_honest (headers : List (List UInt8)) :
    Honest headers (sc.log setup settings stage) := by
  obtain ⟨trace, h, he⟩ := sc.log_eq setup settings stage
  have hstart : ((Session.start stage.network stage.now).jar.getD []).From [] := .nil
  rw [he]
  -- The first event empties the jar, so nothing of `headers` counts after it.
  refine ⟨by simp [Event.pairs], honest_append.2 ⟨h.honest [] hstart, handed_honest ?_⟩⟩
  rw [foldl_since]
  exact h.from hstart

theorem perform_network (h : sc.perform setup settings stage = some (r, after)) :
    after.network = (sc.sessionOutcome setup stage).session.network := by
  cases perform_cases h with
  | session | unplanned | idle => rfl
  | browser _ _ _ hr =>
    obtain rfl : _ = after := congrArg Prod.snd hr
    rw [Page.run_network]

theorem log_history (h : sc.perform setup settings stage = some (r, after)) :
    after.network.history =
      stage.network.history ++ exchanges (sc.log setup settings stage) := by
  obtain ⟨trace, ha, he⟩ := sc.log_eq setup settings stage
  have hhanded : exchanges (sc.handed setup settings stage) = [] := by
    rcases sc.handed_cases setup settings stage with hc | ⟨_, _, -, hc⟩ <;> rw [hc] <;> rfl
  have hlog : exchanges (sc.log setup settings stage) = trace := by
    rw [he]
    change exchanges (trace.map .exchange ++ _) = trace
    rw [exchanges_append, exchanges_map, hhanded, List.append_nil]
  rw [perform_network h, ha.history, hlog]
  rfl

end
end Scenario

/-! ## Suites -/

namespace Runner

/-- What happens in scenarios one after the other that concerns cookies. -/
def log (s : RunnerSettings) : List Scenario → Stage → List Event
  | [], _ => []
  | sc :: r, stage =>
    sc.log s.setup s.browser stage ++
      match sc.perform s.setup s.browser stage with
      | some (_, stage) => log s r stage
      | none => []

theorem log_honest (s : RunnerSettings) (scenarios : List Scenario) (stage : Stage)
    (headers : List (List UInt8)) : Honest headers (log s scenarios stage) := by
  induction scenarios generalizing stage headers with
  | nil => trivial
  | cons sc r ih =>
    unfold log
    refine honest_append.2 ⟨sc.log_honest headers, ?_⟩
    split
    · exact ih _ _
    · trivial

theorem performAll_history {s : RunnerSettings} {scenarios : List Scenario} {stage after : Stage}
    {reports : List ScenarioReport} (h : performAll s scenarios stage = some (reports, after)) :
    after.network.history = stage.network.history ++ exchanges (log s scenarios stage) := by
  induction scenarios generalizing stage reports with
  | nil =>
    cases h
    exact (List.append_nil _).symm
  | cons sc r ih =>
    obtain ⟨⟨report, mid⟩, hp, h⟩ := Option.bind_eq_some_iff.1 h
    obtain ⟨⟨rest, last⟩, hr, h⟩ := Option.bind_eq_some_iff.1 h
    cases h
    unfold log
    rw [hp, exchanges_append, ← List.append_assoc, ← Scenario.log_history hp]
    exact ih hr

/-- Each report is that of one scenario, which met what those before it left. -/
theorem performAll_reports {s : RunnerSettings} {scenarios : List Scenario} {stage after : Stage}
    {reports : List ScenarioReport} (h : performAll s scenarios stage = some (reports, after)) :
    List.Forall₂ (fun sc report => ∃ before later,
      sc.perform s.setup s.browser before = some (report, later)) scenarios reports := by
  induction scenarios generalizing stage reports with
  | nil =>
    cases h
    exact .nil
  | cons sc r ih =>
    obtain ⟨⟨report, mid⟩, hp, h⟩ := Option.bind_eq_some_iff.1 h
    obtain ⟨⟨rest, last⟩, hr, h⟩ := Option.bind_eq_some_iff.1 h
    cases h
    exact .cons ⟨stage, mid, hp⟩ (ih hr)

theorem runScenarios_ok {r s : Runner} {scenarios : List Scenario} {stage after : Stage}
    {report : SuiteReport} (h : r.runScenarios scenarios stage = some (.ok report, s, after)) :
    ∃ ready reports, r.ensure scenarios stage = (.ok (), s, ready) ∧
      performAll s.settings scenarios ready = some (reports, after) ∧
      report = .ofResults after.now reports := by
  unfold runScenarios at h
  split at h
  · cases h
  · rename_i t ready he
    obtain ⟨⟨reports, last⟩, hr, h⟩ := Option.bind_eq_some_iff.1 h
    cases h
    exact ⟨ready, reports, he, hr, rfl⟩

end Runner

/-! ## Isolation -/

/-- The headers of the answers that were received since the jar was empty. -/
def received (events : List Event) : List (List UInt8) := events.foldl Event.since []

/-- Each cookie that is shown was set by an answer that was received before, since the jar was
empty. -/
def Isolated (events : List Event) : Prop :=
  ∀ before e after, events = before ++ e :: after → ∀ p ∈ e.pairs, Sets (received before) p

theorem isolated_of_honest {events : List Event} (h : Honest [] events) : Isolated events := by
  rintro before e after rfl
  exact (honest_append.1 h).2.1

/-- **Sessions are isolated.** A log of operations on a session has all requests that were sent, and
each cookie in a request, in an answer about the jar or in what is handed over to the browser was
set by an answer that the session received since it started or was reset. The log of a suite has
all requests of its scenarios, each of which starts afresh: so each cookie that is sent in a
scenario or handed over to its page was set by an answer received within that scenario. -/
theorem Session.isolation :
    (∀ (network : Network) (now : Instant) (ops : List SessionOp),
      (SessionOp.performAll (.start network now) ops).2.network.history =
        network.history ++ exchanges (SessionOp.performAll (.start network now) ops).1 ∧
      Isolated (SessionOp.performAll (.start network now) ops).1) ∧
    (∀ (r s : Runner) (scenarios : List Scenario) (stage after : Stage) (report : SuiteReport),
      r.runScenarios scenarios stage = some (.ok report, s, after) →
      ∃ ready : Stage, r.ensure scenarios stage = (.ok (), s, ready) ∧
        after.network.history =
          ready.network.history ++ exchanges (Runner.log s.settings scenarios ready) ∧
        Isolated (Runner.log s.settings scenarios ready)) := by
  refine ⟨fun network now ops => ?_, fun r s scenarios stage after report h => ?_⟩
  · have hstart : ((Session.start network now).jar.getD []).From [] := .nil
    have hlog := SessionOp.performAll_logs ops hstart
    exact ⟨hlog.history, isolated_of_honest hlog.honest⟩
  · obtain ⟨ready, reports, he, hr, -⟩ := Runner.runScenarios_ok h
    exact ⟨ready, he, Runner.performAll_history hr,
      isolated_of_honest (Runner.log_honest s.settings scenarios ready [])⟩

/-- A scenario that logs in. -/
def Scenario.signIn : Scenario where
  name := "sign in"
  description := ""
  tags := []
  viewport := ⟨1280, 720⟩
  steps := [.command (.login .staff)]

/-- A stage with an application whose login page hands out a token. -/
def Stage.granting : Stage where
  files := ⟨.folder [], []⟩
  network := Session.granting.network
  tools := { outcomes := [] }
  words := List.replicate 20 5
  now := ⟨0, 0⟩
  year := 2026

/-- A runner that waits for nothing. -/
def Runner.prompt : Runner := { settings := { setup := .loopback, readinessPath := none } }

theorem Session.isolation_granting :
    (∃ before, (SessionOp.performAll .granting
        [.authenticate .loopback .ann, .cookies "http://[::1]/"]).1 =
          before ++ [.shown [("csrftoken".toList, "tok".toList)]] ∧
      Sets (received before) ("csrftoken".toList, "tok".toList)) ∧
    ∃ (s : Runner) (after : Stage) (report : SuiteReport) (ready : Stage),
      Runner.prompt.runScenarios [.signIn] .granting = some (.ok report, s, after) ∧
      report.passed = 1 ∧
      after.network.history =
        ready.network.history ++ exchanges (Runner.log s.settings [.signIn] ready) ∧
      Isolated (Runner.log s.settings [.signIn] ready) := by
  obtain ⟨hsession, hsuite⟩ := isolation
  constructor
  · have he : (SessionOp.performAll .granting
        [.authenticate .loopback .ann, .cookies "http://[::1]/"]).1.getLast? =
          some (.shown [("csrftoken".toList, "tok".toList)]) := by decide +kernel
    obtain ⟨before, he⟩ := List.getLast?_eq_some_iff.1 he
    exact ⟨before, he, (hsession _ _ _).2 before _ [] he _ List.mem_cons_self⟩
  · have hd : (Runner.prompt.runScenarios [.signIn] .granting).any
        (fun x => x.1.toOption.any (·.passed = 1)) = true := by decide +kernel
    rcases hr : Runner.prompt.runScenarios [.signIn] .granting with
      _ | ⟨f | report, s, after⟩ <;> rw [hr] at hd
    · cases hd
    · cases hd
    · obtain ⟨ready, -, hh, hi⟩ := hsuite _ _ _ _ _ _ hr
      exact ⟨s, after, report, ready, rfl, of_decide_eq_true hd, hh, hi⟩

end Rehearsal
