import Rehearsal.Browser.Page
import Rehearsal.Proofs.ScriptCalls

/-!
# The text of a page's script

No text that a page holds can break or alter its script (`Page.script_text`): the literals of the
script's text are the page's texts in order (`Page.texts`), the code around them is that of any page
of the same `Page.outline`, and it calls the step function once for each step, in order. The parts
follow the templates: each has its texts (`texts_ofStep`), its outline (`outline_ofStep`), and tidy
code (`tidy_ofStep`); the induction is on the queue.
-/

namespace Rehearsal

/-! ## What a script is made of -/

/-- The texts in the call that carries out a step, in order. -/
def BrowserStep.arguments (settings : BrowserSettings) : BrowserStep → List String
  | .navigate url waitFor => url :: waitFor.toList
  | .click selector _ _ => [selector]
  | .fill selector value => [selector, value]
  | .type selector text _ => [selector, text]
  | .press selector key => selector.toList ++ [key]
  | .select selector value => [selector, value]
  | .wait selector _ _ => [selector]
  | .urlContains fragment _ => [fragment]
  | .assert selector visible text textContains count =>
    let parts : List (List String) :=
      visible.toList.map (fun _ => [selector]) ++ text.toList.map (fun t => [selector, t]) ++
        textContains.toList.map (fun t => [selector, t]) ++ count.toList.map (fun _ => [selector])
    if parts.isEmpty then [selector] else parts.flatten
  | .expectStatus url _ => [url]
  | .screenshot name selector _ => selector.toList ++ [(settings.screenshotPath name).shown]
  | .sleep _ => []
  | .log message => ["[TEST] " ++ message]
  | .injectFile selector filename mimeType content =>
    [selector, selector, filename, mimeType, content]

/-- A step without its texts: its kind, its numbers and flags, and which of its options it has. -/
def BrowserStep.outline : BrowserStep → BrowserStep
  | .navigate _ waitFor => .navigate "" (waitFor.map fun _ => "")
  | .click _ force timeout => .click "" force timeout
  | .fill _ _ => .fill "" ""
  | .type _ _ delay => .type "" "" delay
  | .press selector _ => .press (selector.map fun _ => "") ""
  | .select _ _ => .select "" ""
  | .wait _ timeout state => .wait "" timeout state
  | .urlContains _ timeout => .urlContains "" timeout
  | .assert _ visible text textContains count =>
    .assert "" visible (text.map fun _ => "") (textContains.map fun _ => "") count
  | .expectStatus _ status => .expectStatus "" status
  | .screenshot _ selector fullPage => .screenshot "" (selector.map fun _ => "") fullPage
  | .sleep time => .sleep time
  | .log _ => .log ""
  | .injectFile _ _ _ _ => .injectFile "" "" "" ""

/-- Settings without their texts. -/
def BrowserSettings.outline (s : BrowserSettings) : BrowserSettings :=
  { s with baseUrl := "", screenshotDir := "", nodeBinary := "", projectDir := "" }

namespace Page

/-- A page without its texts. -/
def outline (p : Page) : Page :=
  ⟨p.settings.outline, p.cookies.map fun _ => ⟨"", "", ""⟩, p.steps.map BrowserStep.outline⟩

/-- The texts that a page's script holds, in order. -/
def texts (p : Page) : List String :=
  [Script.eventPrefix, p.settings.baseUrl] ++
    p.cookies.flatMap (fun c => ["name", c.name, "url", c.url, "value", c.value]) ++
    p.steps.flatMap fun s => s.name :: s.arguments p.settings

end Page

namespace Script

open Text

/-- The numbers with which a text calls the step function, in order. -/
def stepNumbers (t : List Char) : List (List Char) :=
  (following stepCall t).map (·.takeWhile (· ≠ ','))

/-! ## Texts -/

theorem texts_separated (x : String) (ss : List Script) :
    (separated x ss).texts = ss.flatMap texts := by
  induction ss with
  | nil => rfl
  | cons s ss ih =>
    cases ss with
    | nil => simp [separated]
    | cons t r => simp only [separated, texts_append, texts_code, ih, List.flatMap_cons]

theorem texts_ofStep (settings : BrowserSettings) (s : BrowserStep) :
    (ofStep settings s).texts = s.arguments settings := by
  cases s with
  | navigate url waitFor => cases waitFor <;> simp [ofStep, call, BrowserStep.arguments]
  | click selector force timeout =>
    cases timeout <;> simp [ofStep, number, flag, BrowserStep.arguments]
  | press selector key => cases selector <;> simp [ofStep, call, BrowserStep.arguments]
  | assert selector visible text textContains count =>
    simp only [ofStep, texts_separated, BrowserStep.arguments, assertions]
    cases visible <;> cases text <;> cases textContains <;> cases count <;> simp [number]
  | screenshot name selector fullPage =>
    cases selector <;> simp [ofStep, call, flag, BrowserStep.arguments]
  | _ => simp [ofStep, call, number, BrowserStep.arguments]

theorem texts_ofSteps (settings : BrowserSettings) (i : Nat) (ss : List BrowserStep) :
    (ofSteps settings i ss).texts = ss.flatMap fun s => s.name :: s.arguments settings := by
  induction ss generalizing i with
  | nil => rfl
  | cons s ss ih => simp [ofSteps, ofNumbered, number, texts_ofStep, ih]

theorem texts_ofCookies (cs : List BrowserCookie) : (ofCookies cs).texts =
    cs.flatMap fun c => ["name", c.name, "url", c.url, "value", c.value] := by
  simp [ofCookies, texts_separated, List.flatMap_map, ofCookie]

theorem texts_of (settings : BrowserSettings) (cookies : List BrowserCookie)
    (steps : List BrowserStep) :
    (Script.of settings cookies steps).texts = (Page.mk settings cookies steps).texts := by
  simp [Script.of, start, number, flag, texts_ofCookies, texts_ofSteps, Page.texts]

/-! ## Outlines -/

theorem outline_separated (x : String) (ss : List Script) :
    (separated x ss).outline = separated x (ss.map outline) := by
  induction ss with
  | nil => rfl
  | cons s ss ih =>
    cases ss with
    | nil => rfl
    | cons t r => simp only [separated, outline_append, outline_code, ih, List.map_cons]

theorem outline_ofStep (settings : BrowserSettings) (s : BrowserStep) :
    (ofStep settings s).outline = (ofStep settings.outline s.outline).outline := by
  cases s with
  | navigate url waitFor => cases waitFor <;> simp [ofStep, call, BrowserStep.outline]
  | click selector force timeout =>
    cases timeout <;> simp [ofStep, number, flag, BrowserStep.outline]
  | press selector key => cases selector <;> simp [ofStep, call, BrowserStep.outline]
  | assert selector visible text textContains count =>
    simp only [ofStep, outline_separated, BrowserStep.outline, assertions]
    cases visible <;> cases text <;> cases textContains <;> cases count <;> simp [number]
  | screenshot name selector fullPage =>
    cases selector <;> simp [ofStep, call, flag, BrowserStep.outline]
  | _ => simp [ofStep, call, number, BrowserStep.outline]

theorem outline_ofSteps (settings : BrowserSettings) (i : Nat) (ss : List BrowserStep) :
    (ofSteps settings i ss).outline =
      (ofSteps settings.outline i (ss.map BrowserStep.outline)).outline := by
  induction ss generalizing i with
  | nil => rfl
  | cons s ss ih =>
    simp only [ofSteps, ofNumbered, number, List.map_cons, outline_append, outline_code,
      outline_literal, outline_nil, outline_ofStep settings s, ih (i + 1)]

theorem outline_ofCookies (cs : List BrowserCookie) :
    (ofCookies cs).outline = (ofCookies (cs.map fun _ => ⟨"", "", ""⟩)).outline := by
  simp [ofCookies, outline_separated, Function.comp_def, ofCookie]

/-- The outline of a page's script is that of the script of its outline. -/
theorem outline_script (p : Page) : p.script.outline = p.outline.script.outline := by
  simp only [Page.script, Script.of, start, outline_append, outline_code, outline_literal,
    outline_nil, number, flag, outline_ofCookies p.cookies, outline_ofSteps p.settings 0 p.steps]
  rfl

/-! ## Code -/

theorem tidy_flag (b : Bool) : Tidy (if b then "true" else "false").toList := by
  cases b <;> exact .fixed

theorem tidy_state (s : ElementState) :
    Tidy (s!", \x7b state: '{s.name}', timeout: ").toList := by
  cases s
  · exact .fixed (l := ", \x7b state: 'visible', timeout: ".toList)
  · exact .fixed (l := ", \x7b state: 'hidden', timeout: ".toList)
  · exact .fixed (l := ", \x7b state: 'attached', timeout: ".toList)
  · exact .fixed (l := ", \x7b state: 'detached', timeout: ".toList)

/-- The call of a function is tidy if its head and its arguments are. -/
theorem tidy_call {function : String} (head : String) (he : s!"      await {function}(" = head)
    (hh : Tidy head.toList) {s : Script} (hs : s.AllCode Tidy) :
    (call function s).AllCode Tidy := by
  simp only [call, List.cons_append, allCode_code, allCode_append, allCode_nil, and_true, he]
  exact ⟨hh, hs, .fixed⟩

set_option maxRecDepth 4000 in
theorem tidy_injectionBody : Tidy injectionBody.toList := .fixed

theorem tidy_assertions (selector : String) (visible : Option Bool)
    (text textContains : Option String) (count : Option Nat) :
    ∀ s ∈ assertions selector visible text textContains count, s.AllCode Tidy := by
  have head (suffix : Script) (h : suffix.AllCode Tidy) : AllCode Tidy
      ([.code "      await expect(page.locator(", .literal selector, .code "))"] ++ suffix) := by
    simp only [List.cons_append, allCode_code, allCode_literal]
    exact ⟨.fixed, .fixed, h⟩
  have visibility (b : Bool) : AllCode Tidy
      [.code (if b then ".toBeVisible();" else ".toBeHidden();")] := by
    simp only [allCode_code, allCode_nil, and_true]
    cases b <;> exact .fixed
  intro s hs
  simp only [assertions] at hs
  split at hs
  · simp only [List.mem_singleton] at hs
    subst hs
    simp only [allCode_code, allCode_literal, allCode_nil, and_true]
    exact ⟨.fixed, .fixed⟩
  · simp only [List.mem_append, Option.mem_toList, Option.map_eq_some_iff] at hs
    rcases hs with ((⟨b, -, rfl⟩ | ⟨t, -, rfl⟩) | ⟨t, -, rfl⟩) | ⟨n, -, rfl⟩
    · exact head _ (visibility b)
    all_goals
      refine head _ ?_
      simp only [number, allCode_code, allCode_literal, allCode_nil, and_true]
    · exact ⟨.fixed, .fixed⟩
    · exact ⟨.fixed, .fixed⟩
    · exact ⟨.fixed, tidy_number n, .fixed⟩

theorem tidy_ofStep (settings : BrowserSettings) (s : BrowserStep) :
    (ofStep settings s).AllCode Tidy := by
  cases s with
  | navigate url waitFor =>
    have goto : (call "page.goto" [.literal url]).AllCode Tidy :=
      tidy_call "      await page.goto(" rfl .fixed (by simp)
    cases waitFor with
    | none => exact allCode_append.2 ⟨goto, allCode_nil⟩
    | some s =>
      refine allCode_append.2 ⟨goto, allCode_code.2 ⟨.fixed, ?_⟩⟩
      exact tidy_call "      await page.waitForSelector(" rfl .fixed (by simp)
  | fill selector value =>
    refine tidy_call "      await page.fill(" rfl .fixed ?_
    simp only [allCode_code, allCode_literal, allCode_nil, and_true]
    exact .fixed
  | type selector text delay =>
    refine tidy_call "      await page.type(" rfl .fixed ?_
    simp only [number, allCode_code, allCode_literal, allCode_nil, and_true]
    exact ⟨.fixed, .fixed, tidy_number _, .fixed⟩
  | select selector value =>
    refine tidy_call "      await page.selectOption(" rfl .fixed ?_
    simp only [allCode_code, allCode_literal, allCode_nil, and_true]
    exact .fixed
  | wait selector timeout state =>
    refine tidy_call "      await page.waitForSelector(" rfl .fixed ?_
    simp only [number, allCode_code, allCode_literal, allCode_nil, and_true]
    exact ⟨tidy_state state, tidy_number _, .fixed⟩
  | sleep time =>
    refine tidy_call "      await page.waitForTimeout(" rfl .fixed ?_
    simp only [number, allCode_code, allCode_nil, and_true]
    exact tidy_number _
  | press selector key =>
    cases selector with
    | none =>
      exact tidy_call "      await page.keyboard.press(" rfl .fixed (by simp)
    | some s =>
      simp only [ofStep, allCode_code, allCode_literal, allCode_nil, and_true]
      and_intros <;> exact .fixed
  | screenshot name selector fullPage =>
    cases selector with
    | none =>
      refine tidy_call "      await page.screenshot(" rfl .fixed ?_
      simp only [flag, allCode_code, allCode_literal, allCode_nil, and_true]
      exact ⟨.fixed, .fixed, tidy_flag _, .fixed⟩
    | some s =>
      simp only [ofStep, allCode_code, allCode_literal, allCode_nil, and_true]
      and_intros <;> exact .fixed
  | click selector force timeout =>
    cases timeout with
    | none =>
      simp only [ofStep, flag, allCode_append, allCode_code, allCode_literal, allCode_nil, and_true]
      exact ⟨⟨.fixed, .fixed, tidy_flag force⟩, .fixed⟩
    | some t =>
      simp only [ofStep, flag, number, allCode_append, allCode_code, allCode_literal, allCode_nil,
        and_true]
      exact ⟨⟨⟨.fixed, .fixed, tidy_flag force⟩, .fixed, tidy_number t⟩, .fixed⟩
  | urlContains fragment timeout =>
    simp only [ofStep, number, allCode_code, allCode_literal, allCode_nil, and_true]
    exact ⟨.fixed, .fixed, tidy_number _, .fixed⟩
  | assert selector visible text textContains count =>
    exact allCode_separated .fixed (tidy_assertions selector visible text textContains count)
  | expectStatus url status =>
    simp only [ofStep, number, allCode_code, allCode_literal, allCode_nil, and_true]
    exact ⟨.fixed, .fixed, tidy_number _, .fixed, tidy_number _, .fixed⟩
  | log message =>
    simp only [ofStep, allCode_code, allCode_literal, allCode_nil, and_true]
    exact ⟨.fixed, .fixed⟩
  | injectFile selector filename mimeType content =>
    simp only [ofStep, allCode_code, allCode_literal, allCode_nil, and_true]
    exact ⟨.fixed, .fixed, tidy_injectionBody, .fixed, .fixed, .fixed, .fixed, .fixed⟩

/-! ## The parts of a script -/

theorem tidy_ofCookies (cs : List BrowserCookie) : (ofCookies cs).AllCode Tidy := by
  have cookie : ∀ s ∈ cs.map ofCookie, s.AllCode Tidy := by
    intro s hs
    obtain ⟨c, -, rfl⟩ := List.mem_map.1 hs
    simp only [ofCookie, allCode_code, allCode_literal, allCode_nil, and_true]
    and_intros <;> exact .fixed
  simp only [ofCookies, List.cons_append, allCode_code, allCode_append, allCode_nil, and_true]
  exact ⟨.fixed, allCode_separated .fixed cookie, .fixed⟩

/-- The part of the start before the step function. -/
def opening : Script := [.code preamble, .literal eventPrefix]

/-- The part of the start after the name of the browser. -/
def launch (settings : BrowserSettings) (cookies : List BrowserCookie) : Script :=
  [.code ".launch(\x7b headless: ", flag settings.headless,
    .code " \x7d);\n  const context = await browser.newContext(\x7b\n    viewport: \x7b width: ",
    number settings.width, .code ", height: ", number settings.height,
    .code " \x7d,\n    baseURL: ", .literal settings.baseUrl,
    .code ",\n    ignoreHTTPSErrors: true,\n  \x7d);\n  context.setDefaultTimeout(",
    number settings.defaultTimeout, .code ");\n  await context.addCookies("] ++
  ofCookies cookies ++
  [.code ");\n  const page = await context.newPage();\n  let failed = false;\n\n  try \x7b\n"]

theorem start_eq (settings : BrowserSettings) (cookies : List BrowserCookie) :
    start settings cookies =
      opening ++ ([.code stepRunner, .code settings.engine.name] ++ launch settings cookies) := rfl

set_option maxRecDepth 4000 in
theorem tidy_opening : opening.AllCode Tidy := by
  simp only [opening, allCode_code, allCode_literal, allCode_nil, and_true]
  exact .fixed

theorem tidy_launch (settings : BrowserSettings) (cookies : List BrowserCookie) :
    (launch settings cookies).AllCode Tidy := by
  simp only [launch, number, flag, allCode_append, allCode_code, allCode_literal, allCode_nil,
    and_true]
  exact ⟨⟨⟨.fixed, tidy_flag _, .fixed, tidy_number _, .fixed, tidy_number _, .fixed, .fixed,
    tidy_number _, .fixed⟩, tidy_ofCookies cookies⟩, .fixed⟩

set_option maxRecDepth 4000 in
/-- The step function and the name of the browser: only together do they add no call. -/
theorem tidy_stepRunner (e : Engine) : Tidy (stepRunner.toList ++ e.name.toList) := by
  have chars {l : List Char} {x : List Char}
      (h : ((l ++ x).contains '"' || mayStart stepCall (l ++ x)) = false) :
      Tidy ((String.ofList l).toList ++ x) := by
    rw [String.toList_ofList]
    exact Tidy.of_check h
  cases e <;> exact chars (by decide +kernel)

/-- What follows the number in the call of a step. -/
def callBody (settings : BrowserSettings) (s : BrowserStep) : Script :=
  [.literal s.name, .code ", async () => \x7b\n"] ++ ofStep settings s ++ [.code "\n    \x7d);\n"]

theorem ofNumbered_eq (settings : BrowserSettings) (i : Nat) (s : BrowserStep) :
    ofNumbered settings i s =
      [.code "    await step(", number i, .code ", "] ++ callBody settings s := by
  simp [ofNumbered, callBody]

theorem tidy_callBody (settings : BrowserSettings) (s : BrowserStep) :
    (callBody settings s).AllCode Tidy := by
  simp only [callBody, allCode_append, allCode_code, allCode_literal, allCode_nil, and_true]
  exact ⟨⟨.fixed, tidy_ofStep settings s⟩, .fixed⟩

theorem plain_ofSteps (settings : BrowserSettings) (i : Nat) (ss : List BrowserStep) :
    (ofSteps settings i ss).IsPlain := by
  induction ss generalizing i with
  | nil => exact allCode_nil
  | cons s ss ih =>
    have body := (tidy_callBody settings s).imp fun _ h => h.plain
    simp only [ofSteps, ofNumbered_eq, number, allCode_append, allCode_code, allCode_nil, and_true]
    exact ⟨⟨⟨by decide, (tidy_number i).plain, by decide⟩, body⟩, ih (i + 1)⟩

set_option maxRecDepth 4000 in
theorem tidy_ending : Tidy ending.toList := .fixed

theorem plain_script (p : Page) : p.script.IsPlain := by
  have runner := tidy_stepRunner p.settings.engine
  simp only [Page.script, Script.of, start_eq, allCode_append, allCode_code, allCode_nil, and_true]
  refine ⟨⟨⟨tidy_opening.imp fun _ h => h.plain, ⟨?_, ?_⟩, ?_⟩, plain_ofSteps _ _ _⟩,
    tidy_ending.plain⟩
  · exact fun h => runner.plain (List.mem_append_left _ h)
  · exact fun h => runner.plain (List.mem_append_right _ h)
  · exact (tidy_launch p.settings p.cookies).imp fun _ h => h.plain

/-! ## The calls of a script -/

theorem stepNumbers_append {x : List Char} (h : Quiet stepCall x) (t : List Char) :
    stepNumbers (x ++ t) = stepNumbers t := by
  rw [stepNumbers, stepNumbers, h t]

theorem stepNumbers_call (n : Nat) (t : List Char) :
    stepNumbers (stepCall ++ (decimal n ++ ',' :: ' ' :: t)) = decimal n :: stepNumbers t := by
  have hself := @following_self stepCall (by decide) (Quiet.of_not_mayStart (by decide))
  have hd : Quiet stepCall (decimal n) := by
    rw [← toList_number]
    exact (tidy_number n).quiet
  have hc : Quiet stepCall [',', ' '] := Quiet.of_not_mayStart (by decide)
  have hn : (decimal n ++ ',' :: ' ' :: t).takeWhile (· ≠ ',') = decimal n := by
    rw [List.takeWhile_append_of_pos]
    · simp
    · intro c hc
      have := isDigit_decimal hc
      simp only [ne_eq, decide_not, Bool.not_eq_eq_eq_not, Bool.not_true, decide_eq_false_iff_not]
      rintro rfl
      exact absurd this (by decide)
  have hrest := stepNumbers_append (hd.append hc) t
  rw [List.append_assoc] at hrest
  rw [stepNumbers, hself, List.map_cons, hn]
  exact congrArg _ hrest

theorem stepNumbers_ofNumbered (settings : BrowserSettings) (i : Nat) (s : BrowserStep)
    (t : List Char) :
    stepNumbers ((ofNumbered settings i s).outline.flatMap renderChunk ++ t) =
      decimal i :: stepNumbers t := by
  have hb := quiet_of_tidy (tidy_callBody settings s)
  have hsp : Quiet stepCall [' ', ' ', ' ', ' '] := Quiet.of_not_mayStart (by decide)
  have he : (ofNumbered settings i s).outline.flatMap renderChunk ++ t =
      [' ', ' ', ' ', ' '] ++ (stepCall ++ (decimal i ++ ',' :: ' ' ::
        ((callBody settings s).outline.flatMap renderChunk ++ t))) := by
    simp [ofNumbered_eq, number, renderChunk, stepCall, decimal]
  rw [he, stepNumbers_append hsp, stepNumbers_call, stepNumbers_append hb]

theorem stepNumbers_ofSteps (settings : BrowserSettings) (i : Nat) (ss : List BrowserStep)
    (t : List Char) :
    stepNumbers ((ofSteps settings i ss).outline.flatMap renderChunk ++ t) =
      (List.range' i ss.length).map decimal ++ stepNumbers t := by
  induction ss generalizing i with
  | nil => rfl
  | cons s ss ih =>
    rw [ofSteps, outline_append, List.flatMap_append, List.append_assoc, stepNumbers_ofNumbered, ih]
    simp [List.range'_succ]

theorem stepNumbers_script (p : Page) :
    stepNumbers p.script.cut.erased = (List.range p.steps.length).map decimal := by
  have hs := quiet_of_tidy tidy_opening
  have hr := (tidy_stepRunner p.settings.engine).quiet
  have hl := quiet_of_tidy (tidy_launch p.settings p.cookies)
  have he : Quiet stepCall ending.toList := tidy_ending.quiet
  have hn : stepNumbers ending.toList = [] := by
    have := stepNumbers_append he []
    rwa [List.append_nil] at this
  rw [cut_erased, Page.script, Script.of, start_eq]
  simp only [outline_append, outline_code, outline_nil, List.flatMap_append, List.flatMap_cons,
    List.flatMap_nil, List.append_nil, renderChunk, List.append_assoc]
  rw [stepNumbers_append hs, ← List.append_assoc stepRunner.toList, stepNumbers_append hr,
    stepNumbers_append hl, stepNumbers_ofSteps, hn, List.append_nil, List.range_eq_range']

end Script

/-- **No text can break or alter a script.** Read from left to right, the script of a page holds
exactly the literals that denote the page's texts, in order; the code around them is the same for
every page of the same outline; and without the literals' contents it calls the step function once
for each step, with the numbers from zero on. -/
theorem Page.script_text (p : Page) :
    ∃ t, cutCode p.script.render.toList = some t ∧
      t.bodies.map literalOf? = p.texts.map some ∧
      (∀ q : Page, q.outline = p.outline →
        ∃ u, cutCode q.script.render.toList = some u ∧ u.codes = t.codes) ∧
      Script.stepNumbers t.erased = (List.range p.steps.length).map Text.decimal := by
  refine ⟨p.script.cut, Script.cutCode_render (Script.plain_script p), ?_, fun q hq => ?_,
    Script.stepNumbers_script p⟩
  · rw [Script.cut_bodies, Page.script, Script.texts_of]
  · refine ⟨q.script.cut, Script.cutCode_render (Script.plain_script q), ?_⟩
    rw [Script.cut_codes, Script.cut_codes p.script, Script.outline_script q,
      Script.outline_script p, hq]

end Rehearsal
