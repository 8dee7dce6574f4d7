import Rehearsal.Course.Settings

/-!
# Browser steps

What a browser is told to do, one step after the other. A file that is put into a file input has a
step of its own, which no document can hold.
-/

namespace Rehearsal

open Data

/-- What is waited for of an element. -/
inductive ElementState where
  | visible
  | hidden
  | attached
  | detached
  deriving DecidableEq

/-- The name of a state. -/
def ElementState.name : ElementState → String
  | .visible => "visible"
  | .hidden => "hidden"
  | .attached => "attached"
  | .detached => "detached"

/-- A step of a browser. Times are in milliseconds. -/
inductive BrowserStep where
  /-- Go to an address, and possibly wait for an element. -/
  | navigate (url : String) (waitFor : Option String)
  | click (selector : String) (force : Bool) (timeout : Option Nat)
  /-- Replace the value of an input. -/
  | fill (selector value : String)
  /-- Type a text key by key. -/
  | type (selector text : String) (delay : Option Nat)
  | press (selector : Option String) (key : String)
  | select (selector value : String)
  | wait (selector : String) (timeout : Nat) (state : ElementState)
  /-- Wait until the address contains a text. -/
  | urlContains (fragment : String) (timeout : Nat)
  | assert (selector : String) (visible : Option Bool) (text textContains : Option String)
    (count : Option Nat)
  /-- Fetch an address with the cookies of the browser and check the status. -/
  | expectStatus (url : String) (status : Nat)
  | screenshot (name : String) (selector : Option String) (fullPage : Bool)
  | sleep (time : Nat)
  | log (message : String)
  /-- Put a file, in base64, into a file input. -/
  | injectFile (selector filename mimeType content : String)
  deriving DecidableEq

namespace BrowserStep

/-- The name of a step in reports. -/
def name : BrowserStep → String
  | .navigate url _ => s!"navigate:{url}"
  | .click selector _ _ => s!"click:{selector}"
  | .fill selector _ => s!"fill:{selector}"
  | .type selector _ _ => s!"type:{selector}"
  | .press _ key => s!"press:{key}"
  | .select selector _ => s!"select:{selector}"
  | .wait selector _ _ => s!"wait:{selector}"
  | .urlContains fragment _ => s!"url_contains:{fragment}"
  | .assert selector _ _ _ _ => s!"assert:{selector}"
  | .expectStatus url status => s!"expect_status:{status}:{url}"
  | .screenshot name _ _ => s!"screenshot:{name}"
  | .sleep time => s!"sleep:{time}ms"
  | .log message => "log:" ++ String.ofList (message.toList.take 30)
  | .injectFile selector filename _ _ => s!"inject_file:{selector}:{filename}"

/-! ## Reading -/

/-- How long to wait if nothing is said. -/
def defaultWait : Nat := 5000

/-- The decoder of element states. -/
def stateDecoder : Decoder ElementState :=
  .choice [("visible", .visible), ("hidden", .hidden), ("attached", .attached), ("detached", .detached)]

/-- An alternative whose fields are put one after the other into a step. -/
def alternative (variant name : String) (init : BrowserStep) (fields : List (Field BrowserStep)) :
    Alternative BrowserStep :=
  .record s!"struct variant BrowserStep::{variant}" name init fields fun s => s

/-- The selector of a step. -/
def putSelector (v : String) : BrowserStep → BrowserStep
  | .click _ f t => .click v f t
  | .fill _ x => .fill v x
  | .type _ x d => .type v x d
  | .select _ x => .select v x
  | .wait _ t s => .wait v t s
  | .assert _ a b c d => .assert v a b c d
  | s => s

/-- A selector that may be absent. -/
def putOptionalSelector (v : Option String) : BrowserStep → BrowserStep
  | .press _ k => .press v k
  | .screenshot n _ f => .screenshot n v f
  | s => s

/-- The address of a step. -/
def putUrl (v : String) : BrowserStep → BrowserStep
  | .navigate _ w => .navigate v w
  | .expectStatus _ s => .expectStatus v s
  | s => s

/-- The value of an input. -/
def putValue (v : String) : BrowserStep → BrowserStep
  | .fill s _ => .fill s v
  | .select s _ => .select s v
  | s => s

/-- How long to wait at most. -/
def putTimeout (v : Nat) : BrowserStep → BrowserStep
  | .wait s _ x => .wait s v x
  | .urlContains f _ => .urlContains f v
  | s => s

/-- The field of a required selector. -/
def selectorField : Field BrowserStep := field "selector" .required .text putSelector

/-- The field of a required address. -/
def urlField : Field BrowserStep := field "url" .required .text putUrl

/-- The steps that a document can hold. -/
def alternatives : List (Alternative BrowserStep) :=
  [alternative "Navigate" "navigate" (.navigate "" none)
    [urlField,
     field "wait_for_selector" .free (.option .text) fun v s => match s with
      | .navigate u _ => .navigate u v
      | s => s],
   alternative "Click" "click" (.click "" false none)
    [selectorField,
     field "force" .free .flag fun v s => match s with
      | .click x _ t => .click x v t
      | s => s,
     field "timeout_ms" .free (.option .nat64) fun v s => match s with
      | .click x f _ => .click x f v
      | s => s],
   alternative "Fill" "fill" (.fill "" "") [selectorField, field "value" .required .text putValue],
   alternative "Type" "type" (.type "" "" none)
    [selectorField,
     field "text" .required .text fun v s => match s with
      | .type x _ d => .type x v d
      | s => s,
     field "delay_ms" .free (.option .nat64) fun v s => match s with
      | .type x t _ => .type x t v
      | s => s],
   alternative "Press" "press" (.press none "")
    [field "selector" .free (.option .text) putOptionalSelector,
     field "key" .required .text fun v s => match s with
      | .press x _ => .press x v
      | s => s],
   alternative "Select" "select" (.select "" "") [selectorField, field "value" .required .text putValue],
   alternative "Wait" "wait" (.wait "" defaultWait .visible)
    [selectorField, field "timeout_ms" .free .nat64 putTimeout,
     field "state" .free stateDecoder fun v s => match s with
      | .wait x t _ => .wait x t v
      | s => s],
   alternative "UrlContains" "url_contains" (.urlContains "" defaultWait)
    [field "fragment" .required .text fun v s => match s with
      | .urlContains _ t => .urlContains v t
      | s => s,
     field "timeout_ms" .free .nat64 putTimeout],
   alternative "Assert" "assert" (.assert "" none none none none)
    [selectorField,
     field "visible" .free (.option .flag) fun v s => match s with
      | .assert x _ t c n => .assert x v t c n
      | s => s,
     field "text" .free (.option .text) fun v s => match s with
      | .assert x b _ c n => .assert x b v c n
      | s => s,
     field "text_contains" .free (.option .text) fun v s => match s with
      | .assert x b t _ n => .assert x b t v n
      | s => s,
     field "count" .free (.option .count) fun v s => match s with
      | .assert x b t c _ => .assert x b t c v
      | s => s],
   alternative "ExpectStatus" "expect_status" (.expectStatus "" 0)
    [urlField,
     field "status" .required (.nat (Nat.pow 2 16) "u16") fun v s => match s with
      | .expectStatus u _ => .expectStatus u v
      | s => s],
   alternative "Screenshot" "screenshot" (.screenshot "" none false)
    [field "name" .required .text fun v s => match s with
      | .screenshot _ x f => .screenshot v x f
      | s => s,
     field "selector" .free (.option .text) putOptionalSelector,
     field "full_page" .free .flag fun v s => match s with
      | .screenshot n x _ => .screenshot n x v
      | s => s],
   alternative "Sleep" "sleep" (.sleep 0) [field "ms" .required .nat64 fun v _ => .sleep v],
   alternative "Log" "log" (.log "") [field "message" .required .text fun v _ => .log v]]

/-- The decoder of browser steps. -/
def decoder : Decoder BrowserStep := .tagged "BrowserStep" "action" alternatives

/-! ## Writing -/

/-- A number that may be absent, as a dynamic value. -/
def optionalNat (n : Option Nat) : Value := .orNull (n.map .nat)

/-- A text that may be absent, as a dynamic value. -/
def optionalText (s : Option String) : Value := .orNull (s.map .text)

/-- The action of a step as documents name it. -/
def action : BrowserStep → String
  | .navigate _ _ => "navigate"
  | .click _ _ _ => "click"
  | .fill _ _ => "fill"
  | .type _ _ _ => "type"
  | .press _ _ => "press"
  | .select _ _ => "select"
  | .wait _ _ _ => "wait"
  | .urlContains _ _ => "url_contains"
  | .assert _ _ _ _ _ => "assert"
  | .expectStatus _ _ => "expect_status"
  | .screenshot _ _ _ => "screenshot"
  | .sleep _ => "sleep"
  | .log _ => "log"
  | .injectFile _ _ _ _ => "inject_file"

/-- The fields of a step besides its action. -/
def fields : BrowserStep → List (String × Value)
  | .navigate url waitFor => [("url", .text url), ("wait_for_selector", optionalText waitFor)]
  | .click selector force timeout =>
    [("selector", .text selector), ("force", .flag force), ("timeout_ms", optionalNat timeout)]
  | .fill selector value => [("selector", .text selector), ("value", .text value)]
  | .type selector text delay =>
    [("selector", .text selector), ("text", .text text), ("delay_ms", optionalNat delay)]
  | .press selector key => [("selector", optionalText selector), ("key", .text key)]
  | .select selector value => [("selector", .text selector), ("value", .text value)]
  | .wait selector timeout state =>
    [("selector", .text selector), ("timeout_ms", .nat timeout), ("state", .text state.name)]
  | .urlContains fragment timeout => [("fragment", .text fragment), ("timeout_ms", .nat timeout)]
  | .assert selector visible text textContains count =>
    [("selector", .text selector), ("visible", .orNull (visible.map .flag)), ("text", optionalText text),
      ("text_contains", optionalText textContains), ("count", optionalNat count)]
  | .expectStatus url status => [("url", .text url), ("status", .nat status)]
  | .screenshot name selector fullPage =>
    [("name", .text name), ("selector", optionalText selector), ("full_page", .flag fullPage)]
  | .sleep time => [("ms", .nat time)]
  | .log message => [("message", .text message)]
  | .injectFile selector filename mimeType content =>
    [("selector", .text selector), ("filename", .text filename), ("mime_type", .text mimeType),
      ("content_base64", .text content)]

/-- A step as a dynamic value. -/
def toValue (s : BrowserStep) : Value := .record (("action", .text s.action) :: s.fields)

end BrowserStep
end Rehearsal
