import Rehearsal.Proofs.Passwords

/-!
# A scenario stops at its first failure

A session step fails if its last request got no answer that it can end with, or if a login has
nothing to post; no status of an answer is a failure (`Session.perform?_settles`). If a session step
fails, `takeSessionSteps` has the reports of the steps before it, and one more
(`takeSessionSteps_of_taken`), and the scenario ends there. `Scenario.fail_stop` says so, and that
each scenario that does not pass has an error.
-/

namespace Rehearsal

open Http

/-! ## What a request comes to -/

namespace Http

/-- The last reply of a trace is an answer that leads nowhere else. -/
def Ends (trace : Trace) (a : Answer) : Prop :=
  ∃ r, trace.getLast? = some (r, .answer a) ∧ nextRequest? r a = none

/-- Something is posted in a trace. -/
def Posts (trace : Trace) : Prop := ∃ e ∈ trace, e.1.method = .post

variable {trace more : Trace} {a : Answer}

theorem not_ends_nil : ¬ Ends [] a := by
  rintro ⟨r, h, -⟩
  cases h

theorem ends_singleton {r : Request} {reply : Reply} :
    Ends [(r, reply)] a ↔ reply = .answer a ∧ nextRequest? r a = none := by
  simp [Ends]

/-- A redirect is not the end. -/
theorem ends_redirect {r next : Request} {b : Answer} (h : nextRequest? r b = some next) :
    Ends ((r, .answer b) :: trace) a ↔ Ends trace a := by
  rcases trace with _ | ⟨e, trace⟩
  · refine iff_of_false (fun he => ?_) not_ends_nil
    obtain ⟨hb, hn⟩ := ends_singleton.1 he
    cases hb
    rw [h] at hn
    cases hn
  · unfold Ends
    rw [List.getLast?_cons_cons]

theorem ends_append (h : more ≠ []) : Ends (trace ++ more) a ↔ Ends more a := by
  unfold Ends
  rw [List.getLast?_append_of_ne_nil _ h]

theorem not_posts (h : ∀ e ∈ trace, e.1.method = .get) : ¬ Posts trace := by
  rintro ⟨e, he, hp⟩
  rw [h e he] at hp
  cases hp

namespace Client

/-- One step of an exchange, by what the client hears. -/
theorem exchange_hear (c : Client) (left : Nat) {r : Request} (hr : r.url.isHttp = true) :
    c.exchange left r = match c.hear r with
      | (.unreachable, d) => (.error (.unreachable r.url), d)
      | (.dropped, d) => (.error (.dropped r.url), d)
      | (.answer a, d) =>
        match nextRequest? r a, left with
        | none, _ => (.ok a, d)
        | some _, 0 => (.error (.tooManyRedirects r.url), d)
        | some next, left + 1 => d.exchange left (d.dress next) := by
  rw [exchange, if_neg (by simp [hr])]
  unfold hear
  rcases c.network.ask r with ⟨a | _ | _, network⟩
  · rfl
  · simp only [Reply.setCookies, map_receive_nil]
  · simp only [Reply.setCookies, map_receive_nil]

/-- An exchange comes to an answer exactly if that is what its requests end with. -/
theorem exchange_ends (c : Client) (left : Nat) (r : Request) :
    ∃ trace, Talks c r trace (c.exchange left r).2 ∧
      ∀ a, (c.exchange left r).1 = .ok a ↔ Ends trace a := by
  by_cases hr : r.url.isHttp = true
  · rw [exchange_hear c left hr]
    rcases hh : c.hear r with ⟨b | _ | _, d⟩ <;> simp only
    · rcases hn : nextRequest? r b with _ | next
      · refine ⟨[(r, .answer b)], .last hr hh, fun a => ?_⟩
        rw [ends_singleton]
        constructor
        · intro h
          cases h
          exact ⟨rfl, hn⟩
        · rintro ⟨h, -⟩
          cases h
          rfl
      · cases left with
        | zero =>
          refine ⟨[(r, .answer b)], .last hr hh, fun a => iff_of_false (by simp) fun h => ?_⟩
          exact absurd ((ends_redirect hn).1 h) not_ends_nil
        -- One redirect fewer is left for what follows, and what follows has the last word.
        | succ left =>
          obtain ⟨trace, ht, hends⟩ := exchange_ends d left (d.dress next)
          refine ⟨(r, .answer b) :: trace, .redirect hr hh hn ht, fun a => ?_⟩
          exact (hends a).trans (ends_redirect hn).symm
    · refine ⟨[(r, .dropped)], .last hr hh, fun a => iff_of_false (by simp) fun h => ?_⟩
      cases (ends_singleton.1 h).1
    · refine ⟨[(r, .unreachable)], .last hr hh, fun a => iff_of_false (by simp) fun h => ?_⟩
      cases (ends_singleton.1 h).1
  · have hf : r.url.isHttp = false := by simpa using hr
    rw [exchange, if_pos (by simp [hf])]
    exact ⟨[], .astray hf, fun a => iff_of_false (by simp) not_ends_nil⟩

/-- Nothing is sent before the request itself. -/
theorem Talks.first {c d : Client} {r : Request} {trace : Trace} (h : Talks c r trace d) :
    ∀ e ∈ trace.head?, e.1 = r := by
  intro e he
  cases h with
  | astray => cases he
  | last => cases he; rfl
  | redirect => cases he; rfl

/-- What a client sends for a request that may not have come about: it comes to an answer exactly if
that is what it ends with, the request itself goes first, and all that follows a page are pages. -/
structure Sends (c : Client) (r : Except Fault Request) (trace : Trace) : Prop where
  history : (c.sendIfOk r).2.network.history = c.network.history ++ trace
  ok : ∀ a, (c.sendIfOk r).1 = .ok a ↔ Ends trace a
  first : ∀ e ∈ trace.head?, ∃ q, r = .ok q ∧ e.1.method = q.method
  get : (∀ q, r = .ok q → q.method = .get) → ∀ e ∈ trace, e.1.method = .get

theorem sends_nil {c : Client} {r : Except Fault Request} {f : Fault}
    (h : c.sendIfOk r = (.error f, c)) : c.Sends r [] where
  history := by rw [h, List.append_nil]
  ok a := by
    rw [h]
    exact ⟨nofun, fun he => absurd he not_ends_nil⟩
  first e he := by cases he
  get _ e he := by cases he

theorem exists_sends (c : Client) (r : Except Fault Request) : ∃ trace, c.Sends r trace := by
  rcases r with f | q
  · exact ⟨[], sends_nil rfl⟩
  rcases hu : q.url.isHttp
  · have hf : c.sendIfOk (.ok q) = (.error (.schemeNotAllowed q.url), c) := by
      simp [sendIfOk, send, hu]
    exact ⟨[], sends_nil hf⟩
  rcases hn : Request.isNameable q.url
  · have hf : c.sendIfOk (.ok q) = (.error (.notNameable q.url), c) := by
      simp [sendIfOk, send, hu, hn]
    exact ⟨[], sends_nil hf⟩
  · have hsend : c.sendIfOk (.ok q) = c.exchange redirectLimit (c.dress q) := by
      simp [sendIfOk, send, hu, hn]
    have hmethod : (c.dress q).method = q.method := by rw [dress_eq]
    obtain ⟨trace, ht, hends⟩ := c.exchange_ends redirectLimit (c.dress q)
    rw [← hsend] at ht hends
    refine ⟨trace, ht.history, hends, fun e he => ⟨q, rfl, ?_⟩, fun hget => ?_⟩
    · rw [ht.first e he, hmethod]
    · exact ht.get (hmethod.trans (hget q rfl))

end Client
end Http

/-! ## What a session step comes to -/

namespace Session

variable {s t : Session} {setup : Setup}

theorem outcome_ok {x : Except Fault Answer × Http.Client} {status : Nat} :
    (outcome x).1 = .ok status ↔ ∃ a, x.1 = .ok a ∧ a.status = status := by
  rcases x with ⟨f | a, c⟩ <;> simp [outcome]

/-- A page is a success exactly if its requests end with an answer, whatever its status is. -/
theorem status_settles (s : Session) (url : String) :
    ∃ trace, (s.status url).2.network.history = s.network.history ++ trace ∧
      ∀ status, (s.status url).1 = .ok status ↔ ∃ a, Ends trace a ∧ a.status = status := by
  obtain ⟨trace, h⟩ := s.exists_sends (Request.ofText .get url)
  refine ⟨trace, ?_, fun status => ?_⟩
  · rw [Session.status, outcome_snd]
    exact h.history
  · rw [Session.status, outcome_ok]
    exact exists_congr fun a => and_congr_left' (h.ok a)

/-- A login is a success exactly if it posts something and its requests end with an answer,
whatever its status is. -/
theorem authenticate_settles (s : Session) (setup : Setup) (c : Credentials) :
    ∃ trace, (s.authenticate setup c).2.network.history = s.network.history ++ trace ∧
      ∀ status, (s.authenticate setup c).1 = .ok status ↔
        (∃ a, Ends trace a ∧ a.status = status) ∧ Posts trace := by
  obtain ⟨page, hpage⟩ := s.exists_sends (Request.ofText .get setup.loginUrl)
  have hget : ¬ Posts page := not_posts (hpage.get fun _ => ofText_method)
  rw [authenticate_eq]
  split
  · exact ⟨page, hpage.history, fun status => ⟨nofun, fun h => absurd h.2 hget⟩⟩
  · exact ⟨page, hpage.history, fun status => ⟨nofun, fun h => absurd h.2 hget⟩⟩
  · rename_i token _
    obtain ⟨posts, hposts⟩ := (s.get setup.loginUrl).2.exists_sends (loginRequest setup c token)
    refine ⟨page ++ posts, ?_, fun status => ?_⟩
    · rw [outcome_snd, hposts.history, ← List.append_assoc]
      exact congrArg (· ++ posts) hpage.history
    rw [outcome_ok]
    rcases posts with _ | ⟨e, posts⟩
    · -- Nothing could be posted, so the page is all there is.
      rw [List.append_nil]
      refine ⟨?_, fun h => absurd h.2 hget⟩
      rintro ⟨a, ha, -⟩
      exact absurd ((hposts.ok a).1 ha) not_ends_nil
    · have hpost : Posts (page ++ e :: posts) := by
        obtain ⟨q, hq, hm⟩ := hposts.first e rfl
        refine ⟨e, by simp, ?_⟩
        rw [loginRequest_eq_frame] at hq
        rcases hf : loginFrame setup token with f | frame <;> rw [hf] at hq <;> cases hq
        rw [hm]
        change frame.method = .post
        exact loginFrame_method hf
      rw [and_iff_left hpost]
      refine exists_congr fun a => and_congr_left' ?_
      rw [hposts.ok, ends_append (List.cons_ne_nil e posts)]

/-- What a session step comes to: it is a success exactly if its requests end with an answer,
whatever its status is, and a login has posted something. -/
theorem perform?_settles {c : Command} {name : String} {result : Except Failure Nat}
    (h : c.perform? setup s = some (name, result, t)) :
    ∃ trace, t.network.history = s.network.history ++ trace ∧
      ∀ status, result = .ok status ↔
        (∃ a, Ends trace a ∧ a.status = status) ∧ (c = .logout ∨ Posts trace) := by
  have hlogin : ∀ credentials : Credentials, c ≠ .logout →
      s.authenticate setup credentials = (result, t) →
      ∃ trace, t.network.history = s.network.history ++ trace ∧
        ∀ status, result = .ok status ↔
          (∃ a, Ends trace a ∧ a.status = status) ∧ (c = .logout ∨ Posts trace) := by
    intro credentials hc he
    obtain ⟨trace, hh, hs⟩ := s.authenticate_settles setup credentials
    rw [he] at hh hs
    refine ⟨trace, hh, fun status => ?_⟩
    rw [hs status, or_iff_right hc]
  cases c <;> simp only [Command.perform?, Option.some.injEq, Prod.mk.injEq, reduceCtorEq] at h
  case login role => exact hlogin (setup.credentials role) (fun hc => by cases hc) h.2
  case loginWith email password => exact hlogin ⟨email, password⟩ (fun hc => by cases hc) h.2
  case logout =>
    obtain ⟨trace, hh, hs⟩ := s.status_settles setup.logoutUrl
    have he : s.status setup.logoutUrl = (result, t) := h.2
    rw [he] at hh hs
    refine ⟨trace, hh, fun status => ?_⟩
    rw [hs status, and_iff_left (.inl rfl)]

end Session

/-! ## Up to the first failure -/

section
variable {setup : Setup} {s t u : Session} {front : List ScenarioStep}
  {reports : List StepReport}

theorem Taken.history (h : Taken setup s front reports t) :
    ∃ trace, t.network.history = s.network.history ++ trace := by
  induction h with
  | nil => exact ⟨[], (List.append_nil _).symm⟩
  | cons hp _ ih =>
    obtain ⟨first, hfirst, -⟩ := Session.perform?_settles hp
    obtain ⟨later, hlater⟩ := ih
    exact ⟨first ++ later, by rw [hlater, hfirst, List.append_assoc]⟩

/-- If a step fails after others that did not, no step after it is taken. -/
theorem takeSessionSteps_of_taken (h : Taken setup s front reports t) {c : Command} {name : String}
    {f : Failure} (hc : c.perform? setup t = some (name, .error f, u)) (back : List ScenarioStep) :
    takeSessionSteps setup s (front ++ .command c :: back) =
      ⟨reports ++ [⟨false, name, 0, some f.message, none⟩], some f, u⟩ := by
  induction h with
  | nil => simp only [List.nil_append, takeSessionSteps, hc]
  | cons hp _ ih => simp only [List.cons_append, takeSessionSteps, hp, ih hc]

end

/-! ## Errors -/

/-- If the run of a page does not succeed, there is an error, if only that the script failed. -/
theorem Scenario.error_of_concludePage {sc : Scenario} {steps : List StepReport}
    {courses : List String} {r : Except Failure PageReport}
    (h : (sc.concludePage steps courses r).success = false) :
    (sc.concludePage steps courses r).error ≠ none := by
  rcases r with f | r
  · exact nofun
  · have hr : r.success = false := h
    simp [concludePage, hr]

/-- A scenario that does not pass has an error. -/
theorem Scenario.error_of_perform {sc : Scenario} {setup : Setup} {settings : BrowserSettings}
    {stage after : Stage} {report : ScenarioReport}
    (h : sc.perform setup settings stage = some (report, after)) (hs : report.success = false) :
    report.error ≠ none := by
  cases perform_cases h with
  | session | unplanned => exact nofun
  | idle => cases hs
  | browser => exact error_of_concludePage hs

theorem Runner.error_of_runScenarios {r s : Runner} {scenarios : List Scenario}
    {stage after : Stage} {report : SuiteReport}
    (h : r.runScenarios scenarios stage = some (.ok report, s, after)) :
    ∀ result ∈ report.results, result.success = false → result.error ≠ none := by
  obtain ⟨ready, reports, -, hr, rfl⟩ := runScenarios_ok h
  intro result hm
  obtain ⟨sc, -, before, later, hp⟩ := exists_of_forall₂ (performAll_reports hr) hm
  exact sc.error_of_perform hp

/-! ## Stopping -/

/-- **A scenario stops at its first failure.** Take a valid scenario, and let the steps before one
of its session steps succeed and that one fail. Then there is one report for each step up to it, all
but the last successful and without an error; the last one has the error that the scenario has too;
the scenario does not pass and has no courses. Nothing but the network has changed, and that is as
the failing step left it. What the session steps behind it are, and what there is to do in the
browser, does not matter. A session step fails unless its requests end with an answer and, for a
login, something was posted; the status of the answer does not matter. And no scenario that is
performed, by itself or in a suite, fails without an error. -/
theorem Scenario.fail_stop (setup : Setup) (settings : BrowserSettings) (stage : Stage) :
    (∀ (sc : Scenario) (front back : List ScenarioStep) (c : Command) (reports : List StepReport)
        (s t : Session) (name : String) (f : Failure),
      sc.validate = .ok () → sc.front = front ++ .command c :: back →
      Taken setup (.start stage.network stage.now) front reports s →
      c.perform? setup s = some (name, .error f, t) →
      sc.perform setup settings stage = some (
        { name := sc.name
          success := false
          duration := 0
          steps := reports ++ [⟨false, name, 0, some f.message, none⟩]
          courses := []
          error := some f.message },
        { stage with network := t.network }) ∧
      reports.length = front.length ∧ (∀ r ∈ reports, r.success = true ∧ r.error = none) ∧
      ∃ early last : Trace, s.network.history = stage.network.history ++ early ∧
        t.network.history = s.network.history ++ last) ∧
    (∀ (c : Command) (s t : Session) (name : String) (result : Except Failure Nat),
      c.perform? setup s = some (name, result, t) →
      ∃ trace, t.network.history = s.network.history ++ trace ∧
        ∀ status, result = .ok status ↔
          (∃ a, Ends trace a ∧ a.status = status) ∧ (c = .logout ∨ Posts trace)) ∧
    (∀ (sc : Scenario) (report : ScenarioReport) (after : Stage),
      sc.perform setup settings stage = some (report, after) → report.success = false →
      report.error ≠ none) ∧
    (∀ (r s : Runner) (scenarios : List Scenario) (report : SuiteReport) (after : Stage),
      r.runScenarios scenarios stage = some (.ok report, s, after) →
      ∀ result ∈ report.results, result.success = false → result.error ≠ none) := by
  refine ⟨?_, fun c s t name result => Session.perform?_settles,
    fun sc report after => error_of_perform,
    fun r s scenarios report after => Runner.error_of_runScenarios⟩
  intro sc front back c reports s t name f hv hfront htaken hc
  have hsteps : sc.steps = front ++ .command c :: (back ++ sc.rest) := by
    rw [(steps_of_validate hv).2, hfront, List.append_assoc, List.cons_append]
  have hout : sc.sessionOutcome setup stage =
      ⟨reports ++ [⟨false, name, 0, some f.message, none⟩], some f, t⟩ := by
    unfold sessionOutcome
    rw [hsteps, takeSessionSteps_of_taken htaken hc]
  obtain ⟨early, hearly⟩ := htaken.history
  obtain ⟨last, hlast, -⟩ := Session.perform?_settles hc
  refine ⟨?_, htaken.length, htaken.success, early, last, hearly, hlast⟩
  rw [perform_eq, hout]
  rfl

/-- A scenario that logs in, out, and in again before it waits in the browser. -/
def Scenario.signInAgain : Scenario where
  name := "sign in again"
  description := ""
  tags := []
  viewport := ⟨1280, 720⟩
  steps := [.command (.login .staff), .command .logout, .command (.login .learner),
    .browser (.sleep 1)]

/-- A stage with an application that hands out a token, rejects the login with it, and then drops
all connections. -/
def Stage.dropping : Stage :=
  { Stage.granting with network := { Session.granting.network with
    replies := Session.granting.network.replies ++ [.answer ⟨403, [], none⟩]
    otherwise := .dropped } }

/-- A rejected login is no failure, but a dropped connection is. -/
theorem Scenario.fail_stop_signInAgain : ∃ (s t : Session) (f : Failure),
    (Command.login .staff).perform? .loopback (.start Stage.dropping.network ⟨0, 0⟩) =
      some ("login:staff", .ok 403, s) ∧
    Command.logout.perform? .loopback s = some ("logout", .error f, t) ∧
    signInAgain.perform .loopback {} .dropping =
      some (⟨"sign in again", false, 0, [⟨true, "login:staff", 0, none, none⟩,
        ⟨false, "logout", 0, some f.message, none⟩], [], some f.message⟩,
        { Stage.dropping with network := t.network }) := by
  have hlogin : ((Session.start Stage.dropping.network ⟨0, 0⟩).logIn .loopback .staff).1.toOption =
      some 403 := by decide +kernel
  rcases hs : (Session.start Stage.dropping.network ⟨0, 0⟩).logIn .loopback .staff with
    ⟨f | status, s⟩ <;> rw [hs] at hlogin <;> cases hlogin
  have hlogout : (((Session.start Stage.dropping.network ⟨0, 0⟩).logIn .loopback .staff).2.logOut
      .loopback).1.toOption = none := by decide +kernel
  rw [hs] at hlogout
  rcases ht : s.logOut .loopback with ⟨f | status, t⟩ <;> rw [ht] at hlogout <;> cases hlogout
  have hp : (Command.login .staff).perform? .loopback (.start Stage.dropping.network ⟨0, 0⟩) =
      some ("login:staff", .ok 403, s) := by
    simp only [Command.perform?, hs]
    rfl
  have hc : Command.logout.perform? .loopback s = some ("logout", .error f, t) := by
    simp only [Command.perform?, ht]
  obtain ⟨hstop, -⟩ := fail_stop .loopback {} .dropping
  exact ⟨s, t, f, hp, hc, (hstop signInAgain [.command (.login .staff)] _ .logout _ s t "logout" f
    rfl rfl (.cons hp .nil) hc).1⟩

end Rehearsal
