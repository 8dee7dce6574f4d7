import Rehearsal.Session
import Rehearsal.Setup

/-!
# Logging in without a browser

The login page is fetched once, so that it hands out a cookie with a token; then the credentials
are posted to it together with that token. Whether the login was granted is not looked at: a
refused one shows up later. The cookies are looked at twice, once for the token and once for the
request that posts it, and some may end by the clock before either look: `Session.authenticateLosing`
is a login that loses them, and `Session.authenticate` one that loses none.
-/

namespace Rehearsal

namespace Session

/-- The fields of the login form. -/
def loginForm (c : Credentials) : List (String × String) :=
  [("email", c.email), ("password", c.password), ("remember", "false")]

/-- The request that posts credentials with a token. -/
def loginRequest (setup : Setup) (c : Credentials) (token : String) :
    Except Http.Fault Http.Request := do
  let r ← Http.Request.ofText .post setup.loginUrl
  let r ← r.addHeader "referer" setup.loginReferer
  let r ← r.addHeader setup.login.tokenHeader token
  return r.withForm (loginForm c)

/-- A session without the cookies that have ended. -/
def losing (s : Session) (ended : Http.Cookie → Bool) : Session :=
  { s with jar := s.jar.map (·.losing ended) }

theorem losing_none (s : Session) : s.losing (fun _ => false) = s := by
  obtain ⟨_ | jar, network, now⟩ := s <;> simp [losing, Http.Jar.losing]

/-- Logs in with credentials, when some cookies end before the token is read, and some after that;
gives the status of the login page, and the session after it. That the page could not be fetched at
first is no failure by itself. -/
def authenticateLosing (before after : Http.Cookie → Bool) (s : Session) (setup : Setup)
    (c : Credentials) : Except Failure Nat × Session :=
  let url := setup.loginUrl
  let s : Session := losing (s.get url).2 before
  match s.cookie url setup.login.tokenCookie with
  | .error f => (.error f, s)
  | .ok none => (.error (.tokenMissing setup.login.tokenCookie url), s)
  | .ok (some token) => outcome ((s.losing after).sendIfOk (loginRequest setup c token))

/-- Logs in with credentials. -/
def authenticate (s : Session) (setup : Setup) (c : Credentials) : Except Failure Nat × Session :=
  s.authenticateLosing (fun _ => false) (fun _ => false) setup c

/-- If no cookie ends, the credentials are posted in the session in which the token was found. -/
theorem authenticate_eq (s : Session) (setup : Setup) (c : Credentials) : s.authenticate setup c =
    match cookie (s.get setup.loginUrl).2 setup.loginUrl setup.login.tokenCookie with
    | .error f => (.error f, (s.get setup.loginUrl).2)
    | .ok none => (.error (.tokenMissing setup.login.tokenCookie setup.loginUrl),
        (s.get setup.loginUrl).2)
    | .ok (some token) =>
      outcome ((s.get setup.loginUrl).2.sendIfOk (loginRequest setup c token)) := by
  simp only [authenticate, authenticateLosing, losing_none]

/-- Logs in with the credentials of a role. -/
def logIn (s : Session) (setup : Setup) (role : Role) : Except Failure Nat × Session :=
  s.authenticate setup (setup.credentials role)

/-- Ends the session at the application. -/
def logOut (s : Session) (setup : Setup) : Except Failure Nat × Session := s.status setup.logoutUrl

end Session
end Rehearsal
