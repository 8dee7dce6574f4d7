import Rehearsal.Course.Settings
import Rehearsal.Failure
import Rehearsal.Text.Blank

/-!
# Setup

Where the application under test is found, who logs in and how, and the settings of course creation
and uploads. A setup is read from YAML, overlaid with values of the environment, and valid if all
of its addresses are URLs.
-/

namespace Rehearsal

open Data

/-! ## Addresses -/

/-- Whether a path is an address of its own. -/
def isAbsoluteAddress (path : List Char) : Bool :=
  "http://".toList.isPrefixOf path || "https://".toList.isPrefixOf path

/-- A text without the slashes at its end. -/
def trimTrailingSlashes (s : List Char) : List Char := (s.reverse.dropWhile (· = '/')).reverse

/-- An address with a path below it, with one slash between them; a path that is an address of its
own stays as it is. -/
def joinAddressText (base path : List Char) : List Char :=
  if isAbsoluteAddress path then path
  else trimTrailingSlashes base ++ '/' :: path.dropWhile (· = '/')

/-- An address with a path below it. -/
def joinAddress (base path : String) : String :=
  String.ofList (joinAddressText base.toList path.toList)

/-! ## Roles and credentials -/

/-- A role with credentials of its own. -/
inductive Role where
  | staff
  | learner
  deriving DecidableEq

/-- The name of a role. -/
def Role.name : Role → String
  | .staff => "staff"
  | .learner => "learner"

instance : ToString Role := ⟨Role.name⟩

/-- The role that a text names, in any case. -/
def Role.ofName? (text : String) : Except Failure Role :=
  let lower := String.ofList (text.toList.map Char.toLower)
  if lower = "staff" then .ok .staff
  else if lower = "learner" then .ok .learner
  else .error (.invalidSetup s!"unknown role: {lower}")

/-- The decoder of roles. -/
def Role.decoder : Decoder Role := .choice [("staff", .staff), ("learner", .learner)]

/-- An address of mail and a password. -/
structure Credentials where
  email : String
  password : String
  deriving DecidableEq

/-- Credentials as diagnostics show them, without the password. -/
def Credentials.describe (c : Credentials) : String :=
  s!"Credentials \x7b email: {Text.quote c.email}, password: \"<redacted>\" \x7d"

/-- The decoder of credentials. -/
def Credentials.decoder : Decoder Credentials :=
  .record "struct Credentials" ⟨"", ""⟩
    [field "email" .required .text fun v c => { c with email := v },
     field "password" .required .text fun v c => { c with password := v }]

/-- Credentials as a dynamic value. -/
def Credentials.toValue (c : Credentials) : Value :=
  .record [("email", .text c.email), ("password", .text c.password)]

/-! ## Settings of login and uploads -/

/-- How to log in. -/
structure LoginSettings where
  /-- The login page, if it is not at its usual place. -/
  endpoint : Option String := none
  /-- A query for the requests to the login page. -/
  query : Option String := none
  referer : Option String := none
  /-- The cookie in which the token is handed out. -/
  tokenCookie : String := "csrftoken"
  /-- The header in which the token is sent back. -/
  tokenHeader : String := "X-CSRFToken"
  logoutPath : String := "/logout"
  deriving DecidableEq

/-- The decoder of login settings. -/
def LoginSettings.decoder : Decoder LoginSettings :=
  .record "struct LoginConfig" {}
    [field "endpoint" .free (.option .text) fun v s => { s with endpoint := v },
     field "query" .free (.option .text) fun v s => { s with query := v },
     field "referer" .free (.option .text) fun v s => { s with referer := v },
     field "csrf_cookie" .free .text fun v s => { s with tokenCookie := v },
     field "csrf_header" .free .text fun v s => { s with tokenHeader := v },
     field "logout_path" .free .text fun v s => { s with logoutPath := v }]

/-- A text that may be absent, as a dynamic value. -/
def optionalText (s : Option String) : Value := .orNull (s.map .text)

/-- Login settings as a dynamic value. -/
def LoginSettings.toValue (s : LoginSettings) : Value :=
  .record [("endpoint", optionalText s.endpoint), ("query", optionalText s.query),
    ("referer", optionalText s.referer), ("csrf_cookie", .text s.tokenCookie),
    ("csrf_header", .text s.tokenHeader), ("logout_path", .text s.logoutPath)]

/-- How a fixture is handed over. -/
inductive FixtureEncoding where
  | base64
  | binary
  deriving DecidableEq

/-- The name of an encoding. -/
def FixtureEncoding.name : FixtureEncoding → String
  | .base64 => "base64"
  | .binary => "binary"

/-- The decoder of encodings. -/
def FixtureEncoding.decoder : Decoder FixtureEncoding := .choice [("base64", .base64), ("binary", .binary)]

/-- The settings of uploads. -/
structure UploadSettings where
  /-- A file input, or an element around one. -/
  inputSelector : String := "#fileupload"
  mimeType : String := "application/tar+gzip"
  /-- The name of the file, if it is not the one of the fixture. -/
  filename : Option String := none
  encoding : FixtureEncoding := .base64
  deriving DecidableEq

/-- The decoder of upload settings. -/
def UploadSettings.decoder : Decoder UploadSettings :=
  .record "struct UploadConfig" {}
    [field "input_selector" .free .text fun v s => { s with inputSelector := v },
     field "mime_type" .free .text fun v s => { s with mimeType := v },
     field "filename" .free (.option .text) fun v s => { s with filename := v },
     field "encoding" .free FixtureEncoding.decoder fun v s => { s with encoding := v }]

/-- Upload settings as a dynamic value. -/
def UploadSettings.toValue (s : UploadSettings) : Value :=
  .record [("input_selector", .text s.inputSelector), ("mime_type", .text s.mimeType),
    ("filename", optionalText s.filename), ("encoding", .text s.encoding.name)]

/-! ## The setup -/

/-- The setup of a suite. -/
structure Setup where
  /-- Where learners find the application. -/
  lms : String := "http://localhost:4700"
  /-- Where courses are made. -/
  cms : String := "http://localhost:4800"
  login : LoginSettings := {}
  demoCourse : Option String := none
  /-- Where captured mail is shown. -/
  mail : Option String := none
  staff : Credentials := ⟨"staff@example.com", "secret"⟩
  learner : Credentials := ⟨"learner@example.com", "secret"⟩
  fixturesDir : Path := "fixtures"
  course : CourseSettings := {}
  upload : UploadSettings := {}
  /-- How many seconds a request may take. -/
  requestTimeout : Nat := 30
  deriving DecidableEq

namespace Setup

/-- The decoder of setups. -/
def decoder : Decoder Setup :=
  .record "struct HarnessConfig" {}
    [field "lms_url" .free .text fun v s => { s with lms := v },
     field "cms_url" .free .text fun v s => { s with cms := v },
     field "login" .free LoginSettings.decoder fun v s => { s with login := v },
     field "demo_course_id" .free (.option .text) fun v s => { s with demoCourse := v },
     field "mail_capture_url" .free (.option .text) fun v s => { s with mail := v },
     field "staff" .free Credentials.decoder fun v s => { s with staff := v },
     field "learner" .free Credentials.decoder fun v s => { s with learner := v },
     field "fixtures_dir" .free .path fun v s => { s with fixturesDir := v },
     field "course" .free CourseSettings.decoder fun v s => { s with course := v },
     field "upload" .free UploadSettings.decoder fun v s => { s with upload := v },
     field "request_timeout_secs" .free .nat64 fun v s => { s with requestTimeout := v }]

/-- A setup as a dynamic value. -/
def toValue (s : Setup) : Value :=
  .record [("lms_url", .text s.lms), ("cms_url", .text s.cms), ("login", s.login.toValue),
    ("demo_course_id", optionalText s.demoCourse), ("mail_capture_url", optionalText s.mail),
    ("staff", s.staff.toValue), ("learner", s.learner.toValue), ("fixtures_dir", .text s.fixturesDir),
    ("course", s.course.toValue), ("upload", s.upload.toValue),
    ("request_timeout_secs", .nat s.requestTimeout)]

/-- The setup that a YAML text denotes. -/
def ofYaml (text : String) : Except Failure Setup :=
  match decoder.readYaml text with
  | .ok s => .ok s
  | .error t => .error (.yaml t)

/-- An environment gives texts for names. -/
abbrev Environment := String → Option String

/-- The value of a name in an environment, if it is not blank. -/
def given (env : Environment) (name : String) : Option String :=
  (env name).filter fun v => !Text.allBlank v.toList

/-- A setup with the values that an environment gives. -/
def overlay (s : Setup) (env : Environment) : Setup :=
  { s with
    lms := (given env "APP_PRIMARY_URL").getD s.lms
    cms := (given env "APP_SECONDARY_URL").getD s.cms
    login := { s.login with endpoint := (given env "LOGIN_ENDPOINT_URL").or s.login.endpoint }
    demoCourse := (given env "DEMO_OBJECT_ID").or s.demoCourse
    mail := (given env "MAIL_CAPTURE_URL").or s.mail
    staff :=
      { email := (given env "STAFF_EMAIL").getD s.staff.email
        password := (given env "STAFF_PASSWORD").getD s.staff.password }
    learner :=
      { email := (given env "LEARNER_EMAIL").getD s.learner.email
        password := (given env "LEARNER_PASSWORD").getD s.learner.password }
    fixturesDir := (given env "FIXTURES_DIR").getD s.fixturesDir }

/-- The address of a path of the application. -/
def lmsAddress (s : Setup) (path : String) : String := joinAddress s.lms path

/-- The address of a path where courses are made. -/
def cmsAddress (s : Setup) (path : String) : String := joinAddress s.cms path

/-- The login page. -/
def loginEndpoint (s : Setup) : String := s.login.endpoint.getD (s.lmsAddress "/login_ajax")

/-- The page that a login names as the one it comes from. -/
def loginReferer (s : Setup) : String := s.login.referer.getD s.loginEndpoint

/-- The address of the requests of a login: the login page with the query. -/
def loginUrl (s : Setup) : String :=
  match s.login.query with
  | none => s.loginEndpoint
  | some q =>
    if q.isEmpty then s.loginEndpoint
    else s.loginEndpoint ++ (if s.loginEndpoint.toList.contains '?' then "&" else "?") ++ q

/-- The address that ends a session. -/
def logoutUrl (s : Setup) : String := s.lmsAddress s.login.logoutPath

/-- The credentials of a role. -/
def credentials (s : Setup) : Role → Credentials
  | .staff => s.staff
  | .learner => s.learner

/-- The failure of the first address that is not a URL. -/
def validate (s : Setup) : Except Failure Unit := do
  let _ ← urlOf s.lms
  let _ ← urlOf s.cms
  let _ ← urlOf s.loginEndpoint
  match s.mail with
  | some m => do
    let _ ← urlOf m
    return ()
  | none => return ()

/-- The setup of a file, if one is given, overlaid with an environment and valid. -/
def load (files : FileTree) (path : Option Path) (env : Environment) : Except Failure Setup := do
  let s ←
    match path with
    | none => pure {}
    | some p =>
      match files.readText p with
      | .ok text => ofYaml text
      | .error e => .error (.file e)
  let s := s.overlay env
  s.validate
  return s

end Setup
end Rehearsal
