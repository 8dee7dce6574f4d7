import Rehearsal.Browser.Settings
import Rehearsal.Json.Printer

/-!
# Browser scripts

The script that carries out steps in one browser and reports each of them in a line of its output.
A script is a list of chunks: fixed text, and literals, which alone hold text from outside. The
literals are JSON strings, so nothing in them can end them (`Script.render`).
-/

namespace Rehearsal

/-- A cookie as a browser takes it. -/
structure BrowserCookie where
  name : String
  value : String
  url : String
  deriving DecidableEq

/-- The decoder of cookies. -/
def BrowserCookie.decoder : Decoder BrowserCookie :=
  .record "struct BrowserCookie" ⟨"", "", ""⟩
    [field "name" .required .text fun v c => { c with name := v },
     field "value" .required .text fun v c => { c with value := v },
     field "url" .required .text fun v c => { c with url := v }]

/-- A cookie as a dynamic value. -/
def BrowserCookie.toValue (c : BrowserCookie) : Data.Value :=
  .record [("name", .text c.name), ("value", .text c.value), ("url", .text c.url)]

/-- A piece of a script. -/
inductive Chunk where
  | code (s : String)
  | literal (s : String)
  deriving DecidableEq

/-- A script in pieces. -/
abbrev Script := List Chunk

namespace Script

/-- The text of a piece. -/
def renderChunk : Chunk → List Char
  | .code s => s.toList
  | .literal s => Json.literalText s.toList

/-- The text of a script. -/
def render (s : Script) : String := String.ofList (s.flatMap renderChunk)

/-- What starts the line of an event. -/
def eventPrefix : String := "__E2E__"

/-- A number in a script. -/
def number (n : Nat) : Chunk := .code s!"{n}"

/-- A boolean in a script. -/
def flag (b : Bool) : Chunk := .code (if b then "true" else "false")

/-- The part of a script before the first step, up to the settings. -/
def preamble : String :=
  "const \x7b chromium, firefox, webkit \x7d = require('playwright');
const \x7b expect \x7d = require('@playwright/test');

const emit = (event) => console.log("

/-- The part of a script that carries out a step and reports it. -/
def stepRunner : String :=
  " + JSON.stringify(event));

async function step(index, name, body) \x7b
  const started = Date.now();
  try \x7b
    await body();
    emit(\x7b index, name, success: true, duration_ms: Date.now() - started \x7d);
  \x7d catch (error) \x7b
    emit(\x7b index, name, success: false, duration_ms: Date.now() - started, error: error.message \x7d);
    throw error;
  \x7d
\x7d

(async () => \x7b
  const browser = await "

/-- The part of a script after the last step. -/
def ending : String :=
  "  \x7d catch (error) \x7b
    failed = true;
  \x7d finally \x7b
    await browser.close();
  \x7d
  process.exit(failed ? 1 : 0);
\x7d)();
"

/-- What runs in the page to put a file into a file input. -/
def injectionBody : String :=
  "(target, file) => \x7b
        const input = target.matches('input[type=file]') ? target : target.querySelector('input[type=file]');
        if (!input) throw new Error('no file input at ' + file.selector);
        const binary = atob(file.content);
        const bytes = new Uint8Array(binary.length);
        for (let i = 0; i < binary.length; i++) \x7b
          bytes[i] = binary.charCodeAt(i);
        \x7d
        const transfer = new DataTransfer();
        transfer.items.add(new File([bytes], file.name, \x7b type: file.mime \x7d));
        input.files = transfer.files;
        input.dispatchEvent(new Event('change', \x7b bubbles: true \x7d));
      \x7d"

/-- Pieces with a separator between neighbours. -/
def separated (separator : String) : List Script → Script
  | [] => []
  | [s] => s
  | s :: t :: r => s ++ .code separator :: separated separator (t :: r)

/-- A cookie. -/
def ofCookie (c : BrowserCookie) : Script :=
  [.code "\x7b", .literal "name", .code ":", .literal c.name, .code ",", .literal "url", .code ":",
    .literal c.url, .code ",", .literal "value", .code ":", .literal c.value, .code "\x7d"]

/-- A list of cookies. -/
def ofCookies (cs : List BrowserCookie) : Script :=
  .code "[" :: separated "," (cs.map ofCookie) ++ [.code "]"]

/-- The call of a function in its own line. -/
def call (function : String) (arguments : Script) : Script :=
  .code s!"      await {function}(" :: arguments ++ [.code ");"]

/-- Assertions about an element; without any it has to be there. -/
def assertions (selector : String) (visible : Option Bool) (text textContains : Option String)
    (count : Option Nat) : List Script :=
  let expectation (suffix : Script) : Script :=
    [.code "      await expect(page.locator(", .literal selector, .code "))"] ++ suffix
  let visibility := visible.map fun b =>
    expectation [.code (if b then ".toBeVisible();" else ".toBeHidden();")]
  let exact := text.map fun t => expectation [.code ".toHaveText(", .literal t, .code ");"]
  let part := textContains.map fun t => expectation [.code ".toContainText(", .literal t, .code ");"]
  let counted := count.map fun n => expectation [.code ".toHaveCount(", number n, .code ");"]
  let all := visibility.toList ++ exact.toList ++ part.toList ++ counted.toList
  if all.isEmpty then
    [[.code "      await expect(page.locator(", .literal selector, .code ").first()).toBeAttached();"]]
  else all

/-- The body of a step. -/
def ofStep (settings : BrowserSettings) : BrowserStep → Script
  | .navigate url waitFor =>
    call "page.goto" [.literal url] ++
      match waitFor with
      | some s => .code "\n" :: call "page.waitForSelector" [.literal s]
      | none => []
  | .click selector force timeout =>
    [.code "      await page.locator(", .literal selector, .code ").first().click(\x7b force: ", flag force] ++
      (match timeout with
      | some t => [.code ", timeout: ", number t]
      | none => []) ++ [.code " \x7d);"]
  | .fill selector value => call "page.fill" [.literal selector, .code ", ", .literal value]
  | .type selector text delay =>
    call "page.type" [.literal selector, .code ", ", .literal text, .code ", \x7b delay: ",
      number (delay.getD 50), .code " \x7d"]
  | .press (some selector) key =>
    [.code "      await page.locator(", .literal selector, .code ").press(", .literal key, .code ");"]
  | .press none key => call "page.keyboard.press" [.literal key]
  | .select selector value => call "page.selectOption" [.literal selector, .code ", ", .literal value]
  | .wait selector timeout state =>
    call "page.waitForSelector" [.literal selector, .code s!", \x7b state: '{state.name}', timeout: ",
      number timeout, .code " \x7d"]
  | .urlContains fragment timeout =>
    [.code "      await page.waitForURL((url) => url.href.includes(", .literal fragment,
      .code "), \x7b timeout: ", number timeout, .code " \x7d);"]
  | .assert selector visible text textContains count =>
    separated "\n" (assertions selector visible text textContains count)
  | .expectStatus url status =>
    [.code "      const response = await context.request.get(", .literal url,
      .code ", \x7b failOnStatusCode: false, maxRedirects: 0 \x7d);\n      if (response.status() !== ",
      number status,
      .code ") \x7b\n        throw new Error(`expected ", number status,
      .code " from $\x7bresponse.url()\x7d, got $\x7bresponse.status()\x7d`);\n      \x7d"]
  | .screenshot name (some selector) _ =>
    [.code "      await page.locator(", .literal selector, .code ").first().screenshot(\x7b path: ",
      .literal (settings.screenshotPath name).shown, .code " \x7d);"]
  | .screenshot name none fullPage =>
    call "page.screenshot" [.code "\x7b path: ", .literal (settings.screenshotPath name).shown,
      .code ", fullPage: ", flag fullPage, .code " \x7d"]
  | .sleep time => call "page.waitForTimeout" [number time]
  | .log message => [.code "      console.log(", .literal ("[TEST] " ++ message), .code ");"]
  | .injectFile selector filename mimeType content =>
    [.code "      await page.locator(", .literal selector, .code s!").first().evaluate(",
      .code injectionBody, .code ", \x7b selector: ", .literal selector, .code ", name: ",
      .literal filename, .code ", mime: ", .literal mimeType, .code ", content: ", .literal content,
      .code " \x7d);"]

/-- A step with its number and name. -/
def ofNumbered (settings : BrowserSettings) (index : Nat) (s : BrowserStep) : Script :=
  [.code "    await step(", number index, .code ", ", .literal s.name, .code ", async () => \x7b\n"] ++
    ofStep settings s ++ [.code "\n    \x7d);\n"]

/-- Steps with their numbers from one on. -/
def ofSteps (settings : BrowserSettings) (index : Nat) : List BrowserStep → Script
  | [] => []
  | s :: r => ofNumbered settings index s ++ ofSteps settings (index + 1) r

/-- The part of a script that starts the browser. -/
def start (settings : BrowserSettings) (cookies : List BrowserCookie) : Script :=
  [.code preamble, .literal eventPrefix, .code stepRunner, .code settings.engine.name,
    .code ".launch(\x7b headless: ", flag settings.headless,
    .code " \x7d);\n  const context = await browser.newContext(\x7b\n    viewport: \x7b width: ",
    number settings.width, .code ", height: ", number settings.height, .code " \x7d,\n    baseURL: ",
    .literal settings.baseUrl,
    .code ",\n    ignoreHTTPSErrors: true,\n  \x7d);\n  context.setDefaultTimeout(",
    number settings.defaultTimeout, .code ");\n  await context.addCookies("] ++
  ofCookies cookies ++
  [.code ");\n  const page = await context.newPage();\n  let failed = false;\n\n  try \x7b\n"]

/-- The script of some steps, in a browser with some cookies. -/
def of (settings : BrowserSettings) (cookies : List BrowserCookie) (steps : List BrowserStep) :
    Script :=
  start settings cookies ++ ofSteps settings 0 steps ++ [.code ending]

end Script
end Rehearsal
