import Rehearsal.Base64
import Rehearsal.Browser.Page
import Rehearsal.Browser.Script
import Rehearsal.Browser.Settings
import Rehearsal.Browser.Step
import Rehearsal.CommandLine
import Rehearsal.Course.Basic
import Rehearsal.Course.Draw
import Rehearsal.Course.Form
import Rehearsal.Course.Generator
import Rehearsal.Course.Settings
import Rehearsal.Data.Mistake
import Rehearsal.Data.Value
import Rehearsal.Decimal.Shortest
import Rehearsal.Decimal.Text
import Rehearsal.Decoder.Basic
import Rehearsal.Decoder.Choice
import Rehearsal.Decoder.Record
import Rehearsal.Failure
import Rehearsal.FileTree
import Rehearsal.Fixture
import Rehearsal.Http.Client
import Rehearsal.Http.Cookie
import Rehearsal.Http.Date
import Rehearsal.Http.Fault
import Rehearsal.Http.Jar
import Rehearsal.Http.Network
import Rehearsal.Http.Request
import Rehearsal.Instant
import Rehearsal.Json.Document
import Rehearsal.Json.Literal
import Rehearsal.Json.Printer
import Rehearsal.Login
import Rehearsal.Main
import Rehearsal.Path
import Rehearsal.Pattern.Basic
import Rehearsal.Pattern.Class
import Rehearsal.Pattern.Reader
import Rehearsal.Performance
import Rehearsal.Placeholder
import Rehearsal.Plan
import Rehearsal.Proofs.Base64Text
import Rehearsal.Proofs.BrowserReports
import Rehearsal.Proofs.CookieExport
import Rehearsal.Proofs.CookieHeader
import Rehearsal.Proofs.CourseKeys
import Rehearsal.Proofs.Exchange
import Rehearsal.Proofs.Expansion
import Rehearsal.Proofs.FailStop
import Rehearsal.Proofs.FormText
import Rehearsal.Proofs.Gating
import Rehearsal.Proofs.Literal
import Rehearsal.Proofs.JarUpdates
import Rehearsal.Proofs.LoginAgain
import Rehearsal.Proofs.LoginHandshake
import Rehearsal.Proofs.Lowering
import Rehearsal.Proofs.Occurrence
import Rehearsal.Proofs.Passwords
import Rehearsal.Proofs.Places
import Rehearsal.Proofs.PlanFailures
import Rehearsal.Proofs.RecordReading
import Rehearsal.Proofs.Runs
import Rehearsal.Proofs.ScriptCalls
import Rehearsal.Proofs.ScriptCut
import Rehearsal.Proofs.ScriptText
import Rehearsal.Proofs.ScenarioLanguage
import Rehearsal.Proofs.SessionFirst
import Rehearsal.Proofs.SessionIsolation
import Rehearsal.Proofs.SinglePass
import Rehearsal.Proofs.DerivedAddresses
import Rehearsal.Proofs.EventLines
import Rehearsal.Proofs.UploadExact
import Rehearsal.Proofs.Verdict
import Rehearsal.Readiness
import Rehearsal.Runner
import Rehearsal.Scenario
import Rehearsal.Session
import Rehearsal.Setup
import Rehearsal.Sha256
import Rehearsal.Suite
import Rehearsal.Text.Blank
import Rehearsal.Text.Lines
import Rehearsal.Text.Numeral
import Rehearsal.Text.Property
import Rehearsal.Text.Quoted
import Rehearsal.Text.Substitution
import Rehearsal.Text.Utf8
import Rehearsal.Upload
import Rehearsal.Url.Address
import Rehearsal.Url.Basic
import Rehearsal.Url.Domain
import Rehearsal.Url.Percent
import Rehearsal.Url.Punycode
import Rehearsal.Yaml.Cursor
import Rehearsal.Yaml.Event
import Rehearsal.Yaml.Node
import Rehearsal.Yaml.Reader
import Rehearsal.Yaml.Scalar
import Rehearsal.Yaml.Stream
import Rehearsal.Yaml.Token
import Rehearsal.Proofs.Confinement
import Rehearsal.Proofs.StepTexts
import Rehearsal.Proofs.SuiteResults
import Rehearsal.Proofs.Walks
import Rehearsal.Proofs.ScenarioFolders
import Rehearsal.Proofs.ValidScenarios
import Rehearsal.Proofs.Listings
import Rehearsal.Proofs.LoadingOrder
import Rehearsal.Proofs.CourseDraws
import Rehearsal.Proofs.CourseCandidates
import Rehearsal.Proofs.CourseSupply
import Rehearsal.Proofs.CanonicalBase64
import Rehearsal.Proofs.Overlays
import Rehearsal.Proofs.Screenshots
import Rehearsal.Proofs.JsonLayout
import Rehearsal.Proofs.FileWrites
import Rehearsal.Proofs.ResultsFile
import Rehearsal.Proofs.JoinedAddresses
import Rehearsal.Proofs.PlaceholderAddresses
import Rehearsal.Proofs.ReadinessPolls
import Rehearsal.Proofs.UploadNames
