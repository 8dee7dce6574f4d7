import Rehearsal.Proofs.RecordReading
import Rehearsal.Scenario

/-!
# The language of scenarios

Scenarios are written with all their fields and read with a list of actions that tells commands from
browser steps. The two fit together (`Scenario.language`): a scenario whose numbers fit into
documents is read back as it was written exactly if it puts no file into a page, and a step that is
read has the action of the value it was read from, is a command exactly if that action is on the
list, and puts no file into a page. Each alternative is settled once, for all that its fields may
hold (`BrowserStep.ofValue_toValue`, `Command.ofValue_toValue`, `BrowserStep.action_of_ofValue`).
-/

namespace Rehearsal

open Data Decoder

/-- The action that a value names, below all tags. -/
def Data.Value.action? (v : Value) : Option String :=
  (v.untagged.get? "action").bind (·.untagged.text?)

theorem action?_record (action : String) (fields : List (String × Value)) :
    (Value.record (("action", .text action) :: fields)).action? = some action := by
  simp [Value.action?, Value.record, Value.untagged, Tagged.get?_cons_of_tag, Value.text?]

theorem canSetAside_orNull {α : Type} {write : α → Value}
    (h : ∀ a, Tagged.canSetAside (write a) = true) (a : Option α) :
    Tagged.canSetAside (.orNull (a.map write)) = true := by
  cases a with
  | none => rfl
  | some a => exact h a

/-- An alternative with fields reads back what is written with all of them. -/
theorem Alternative.read_written {α σ : Type} {typeName name : String} {init r : σ}
    {fields : List (Field σ)} {make : σ → α} {entries : List (String × Value)}
    (hn : (fields.map (·.name)).Nodup) (h : Record.Written true fields entries init r) :
    (Alternative.record typeName name init fields make).read (.record entries) = .ok (make r) := by
  have he : (Alternative.record typeName name init fields make).read (.record entries) =
    (Record.ofValue typeName init fields true (.record entries)).map make := rfl
  rw [he, Record.ofValue_written typeName hn h]
  rfl

/-- What an alternative with fields reads is made of a record that has what all fields keep. -/
theorem Alternative.read_ok {α σ : Type} {typeName name : String} {init : σ}
    {fields : List (Field σ)} {make : σ → α} {P : σ → Prop} {v : Value} {a : α}
    (hk : ∀ f ∈ fields, Record.Keeps P f) (hp : P init)
    (h : (Alternative.record typeName name init fields make).read v = .ok a) :
    ∃ r, P r ∧ make r = a := by
  have he : (Alternative.record typeName name init fields make).read v =
    (Record.ofValue typeName init fields true v).map make := rfl
  rw [he] at h
  rcases hr : Record.ofValue typeName init fields true v with m | r <;> rw [hr] at h
  · cases h
  · cases h
    exact ⟨r, Record.ofValue_keeps hk hp hr, rfl⟩

/-! ## Browser steps -/

namespace BrowserStep

/-- The numbers of a step are such that documents can hold them. -/
def Fits : BrowserStep → Prop
  | .click _ _ timeout => ∀ t ∈ timeout, t < bound64
  | .type _ _ delay => ∀ t ∈ delay, t < bound64
  | .wait _ timeout _ => timeout < bound64
  | .urlContains _ timeout => timeout < bound64
  | .assert _ _ _ _ count => ∀ n ∈ count, n < bound64
  | .expectStatus _ status => status < Nat.pow 2 16
  | .sleep time => time < bound64
  | _ => True

/-- Whether a step puts a file into a file input. -/
def injects : BrowserStep → Bool
  | .injectFile _ _ _ _ => true
  | _ => false

theorem injects_iff {s : BrowserStep} : s.injects = true ↔ s.action = "inject_file" := by
  cases s <;> simp [injects, action]

theorem canSetAside_fields (s : BrowserStep) :
    ∀ e ∈ s.fields, e.1 ≠ "action" ∧ Tagged.canSetAside e.2 = true := by
  have htext (o : Option String) : Tagged.canSetAside (optionalText o) = true :=
    canSetAside_orNull (fun _ => rfl) o
  have hnat (o : Option Nat) : Tagged.canSetAside (optionalNat o) = true :=
    canSetAside_orNull (fun _ => rfl) o
  have hflag (o : Option Bool) : Tagged.canSetAside (.orNull (o.map .flag)) = true :=
    canSetAside_orNull (fun _ => rfl) o
  cases s <;> simp [fields, htext, hnat, hflag, Tagged.canSetAside, Value.nat]

theorem nodup_alternatives : (alternatives.map (·.name)).Nodup := by
  simp [alternatives, alternative, Alternative.record]

variable {setAside : Bool}

theorem ofValue_optionalText (s : Option String) :
    (option Decoder.text).ofValue setAside (optionalText s) = .ok s :=
  ofValue_option fun x _ => ⟨ofValue_text x, nofun⟩

theorem ofValue_optionalNat {n : Option Nat} {type : String} (h : ∀ x ∈ n, x < bound64) :
    (option (Decoder.nat bound64 type)).ofValue setAside (optionalNat n) = .ok n :=
  ofValue_option fun x hx => ⟨ofValue_nat (h x hx), nofun⟩

theorem ofValue_state (s : ElementState) :
    stateDecoder.ofValue setAside (.text s.name) = .ok s := by
  cases s <;> exact ofValue_choice (by simp [ElementState.name])

/-- A step whose fields are those of the alternative at a place is read back. -/
theorem ofValue_nth {s init : BrowserStep} {variant : String} {fs : List (Field BrowserStep)} (i : Nat)
    (hi : alternatives[i]? = some (alternative variant s.action init fs))
    (hn : (fs.map (·.name)).Nodup) (h : Record.Written true fs s.fields init s) :
    decoder.ofValue setAside s.toValue = .ok s :=
  (Tagged.ofValue_written "BrowserStep" nodup_alternatives (List.mem_of_getElem? hi)
    s.canSetAside_fields).trans (Alternative.read_written hn h)

/-- Every step but one that puts a file into a page is read back. -/
theorem ofValue_toValue {s : BrowserStep} (hfits : s.Fits) (hs : s.injects = false) :
    decoder.ofValue setAside s.toValue = .ok s := by
  cases s with
  | navigate url waitFor =>
    exact ofValue_nth 0 rfl (by simp [urlField, field])
      (.field (ofValue_text url) (.field (ofValue_optionalText waitFor) .nil))
  | click selector force timeout =>
    exact ofValue_nth 1 rfl (by simp [selectorField, field])
      (.field (ofValue_text selector) (.field (ofValue_flag force)
        (.field (ofValue_optionalNat hfits) .nil)))
  | fill selector value =>
    exact ofValue_nth 2 rfl (by simp [selectorField, field])
      (.field (ofValue_text selector) (.field (ofValue_text value) .nil))
  | type selector text delay =>
    exact ofValue_nth 3 rfl (by simp [selectorField, field])
      (.field (ofValue_text selector) (.field (ofValue_text text)
        (.field (ofValue_optionalNat hfits) .nil)))
  | press selector key =>
    exact ofValue_nth 4 rfl (by simp [field])
      (.field (ofValue_optionalText selector) (.field (ofValue_text key) .nil))
  | select selector value =>
    exact ofValue_nth 5 rfl (by simp [selectorField, field])
      (.field (ofValue_text selector) (.field (ofValue_text value) .nil))
  | wait selector timeout state =>
    exact ofValue_nth 6 rfl (by simp [selectorField, field])
      (.field (ofValue_text selector) (.field (ofValue_nat hfits)
        (.field (ofValue_state state) .nil)))
  | urlContains fragment timeout =>
    exact ofValue_nth 7 rfl (by simp [field])
      (.field (ofValue_text fragment) (.field (ofValue_nat hfits) .nil))
  | assert selector visible text textContains count =>
    have hvisible : (option Decoder.flag).ofValue true (.orNull (visible.map .flag)) =
      .ok visible := ofValue_option fun x _ => ⟨ofValue_flag x, nofun⟩
    exact ofValue_nth 8 rfl (by simp [selectorField, field])
      (.field (ofValue_text selector) (.field hvisible (.field (ofValue_optionalText text)
        (.field (ofValue_optionalText textContains) (.field (ofValue_optionalNat hfits) .nil)))))
  | expectStatus url status =>
    exact ofValue_nth 9 rfl (by simp [urlField, field])
      (.field (ofValue_text url) (.field (ofValue_nat hfits) .nil))
  | screenshot name selector fullPage =>
    exact ofValue_nth 10 rfl (by simp [field])
      (.field (ofValue_text name) (.field (ofValue_optionalText selector)
        (.field (ofValue_flag fullPage) .nil)))
  | sleep time =>
    exact ofValue_nth 11 rfl (by simp [field]) (.field (ofValue_nat hfits) .nil)
  | log message =>
    exact ofValue_nth 12 rfl (by simp [field]) (.field (ofValue_text message) .nil)
  | injectFile selector filename mimeType content => cases hs

/-! ### The action of what is read -/

/-- Whatever is put into a step by this field, a step with an action keeps it. -/
theorem keeps_action {α : Type} {name fieldName : String} {presence : Presence} {d : Decoder α}
    {put : α → BrowserStep → BrowserStep}
    (h : ∀ a s, s.action = name → (put a s).action = name) :
    Record.Keeps (fun s => s.action = name) (field fieldName presence d put) :=
  Record.keeps_field fun _ _ a _ => h a

/-- All alternatives start with their action, and all their fields keep it. -/
theorem alternatives_keep_action : ∀ a ∈ alternatives, ∃ variant init fs,
    a = alternative variant a.name init fs ∧ init.action = a.name ∧
      ∀ f ∈ fs, Record.Keeps (fun s => s.action = a.name) f := by
  unfold alternatives
  simp only [List.forall_mem_cons, List.not_mem_nil, false_implies, implies_true, and_true]
  refine ⟨?_, ?_, ?_, ?_, ?_, ?_, ?_, ?_, ?_, ?_, ?_, ?_, ?_⟩ <;>
    refine ⟨_, _, _, rfl, rfl, ?_⟩ <;>
    simp only [selectorField, urlField, List.forall_mem_cons, List.not_mem_nil, false_implies,
      implies_true, and_true] <;>
    repeat' apply And.intro
  -- What is left are the fields, and for each of them the steps into which it is put.
  all_goals
    refine keeps_action fun a s hs => ?_
    cases s <;> first | rfl | exact hs

/-- An alternative reads only steps whose action is its name. -/
theorem action_of_read {a : Alternative BrowserStep} (ha : a ∈ alternatives) {v : Value}
    {s : BrowserStep} (h : a.read v = .ok s) : s.action = a.name := by
  obtain ⟨variant, init, fs, he, hinit, hk⟩ := alternatives_keep_action a ha
  rw [he] at h
  obtain ⟨r, hr, rfl⟩ := Alternative.read_ok hk hinit h
  exact hr

theorem name_ne_of_mem {a : Alternative BrowserStep} (ha : a ∈ alternatives) :
    a.name ≠ "inject_file" := by
  have hall : ∀ n ∈ alternatives.map (·.name), n ≠ "inject_file" := by
    simp [alternatives, alternative, Alternative.record]
  exact hall a.name (List.mem_map_of_mem ha)

/-- A step that is read has the action that was found, and puts no file into a page. -/
theorem action_of_ofValue {v found : Value} {action : String} {s : BrowserStep}
    (hget : v.untagged.get? "action" = some found) (htext : found.untagged.text? = some action)
    (h : decoder.ofValue setAside v = .ok s) : s.action = action ∧ s.injects = false := by
  obtain ⟨a, ha, hname, content, hread⟩ := Tagged.ofValue_ok hget h
  rw [htext] at hname
  cases hname
  have hact := action_of_read ha hread
  refine ⟨hact, ?_⟩
  by_contra hi
  exact name_ne_of_mem ha (hact.symm.trans (injects_iff.1 (by simpa using hi)))

end BrowserStep

/-! ## Commands -/

namespace Command

variable {setAside : Bool}

theorem canSetAside_fields (c : Command) :
    ∀ e ∈ c.fields, e.1 ≠ "action" ∧ Tagged.canSetAside e.2 = true := by
  have htext (o : Option String) : Tagged.canSetAside (optionalText o) = true :=
    canSetAside_orNull (fun _ => rfl) o
  cases c <;> simp [fields, htext, Tagged.canSetAside]

theorem nodup_alternatives : (alternatives.map (·.name)).Nodup := by
  simp [alternatives, alternative, Alternative.record, Alternative.bare]

theorem ofValue_role (role : Role) :
    Role.decoder.ofValue setAside (.text role.name) = .ok role := by
  cases role <;> exact ofValue_choice (by simp [Role.name])

theorem ofValue_encoding (e : Option FixtureEncoding) :
    (option FixtureEncoding.decoder).ofValue setAside
      (optionalText (e.map FixtureEncoding.name)) = .ok e := by
  have he : optionalText (e.map FixtureEncoding.name) =
      .orNull (e.map fun x => .text x.name) := by
    rw [optionalText, Option.map_map]
    rfl
  rw [he]
  refine ofValue_option fun x _ => ⟨?_, nofun⟩
  cases x <;> exact ofValue_choice (by simp [FixtureEncoding.name])

/-- A command that the alternative at a place reads is read back. -/
theorem ofValue_nth {c : Command} {a : Alternative Command} (i : Nat)
    (hi : alternatives[i]? = some a) (hname : a.name = c.action)
    (h : a.read (.record c.fields) = .ok c) : decoder.ofValue setAside c.toValue = .ok c := by
  have hw := Tagged.ofValue_written "HarnessCommand" nodup_alternatives
    (List.mem_of_getElem? hi) c.canSetAside_fields
  rw [hname, h] at hw
  exact hw

/-- Every command is read back. -/
theorem ofValue_toValue (c : Command) : decoder.ofValue setAside c.toValue = .ok c := by
  cases c with
  | login role =>
    exact ofValue_nth 0 rfl rfl (Alternative.read_written (by simp [field])
      (.field (ofValue_role role) .nil))
  | loginWith email password =>
    exact ofValue_nth 1 rfl rfl (Alternative.read_written (by simp [field])
      (.field (ofValue_text email) (.field (ofValue_text password) .nil)))
  | logout => exact ofValue_nth 2 rfl rfl rfl
  | createCourse nextUrl =>
    exact ofValue_nth 3 rfl rfl (Alternative.read_written (by simp [field])
      (.field (BrowserStep.ofValue_optionalText nextUrl) .nil))
  | uploadFile fixture selector encoding =>
    exact ofValue_nth 4 rfl rfl (Alternative.read_written (by simp [field])
      (.field (ofValue_text fixture) (.field (BrowserStep.ofValue_optionalText selector)
        (.field (ofValue_encoding encoding) .nil))))

/-- An alternative reads only commands whose action is its name. -/
theorem action_of_read {a : Alternative Command} (ha : a ∈ alternatives) {v : Value} {c : Command}
    (h : a.read v = .ok c) : c.action = a.name := by
  have made {σ : Type} {variant name : String} {init : σ} {fs : List (Field σ)}
      {make : σ → Command} (hmake : ∀ r, (make r).action = name)
      (h : (alternative variant name init fs make).read v = .ok c) : c.action = name := by
    obtain ⟨r, -, rfl⟩ := Alternative.read_ok (P := fun _ => True)
      (fun _ _ _ _ _ _ _ _ => trivial) trivial h
    exact hmake r
  simp only [alternatives, List.mem_cons, List.not_mem_nil, or_false] at ha
  rcases ha with rfl | rfl | rfl | rfl | rfl
  · exact made (fun _ => rfl) h
  · exact made (fun _ => rfl) h
  · simp only [Alternative.bare] at h
    split at h
    · split at h
      · cases h
        rfl
      · cases h
    · cases h
      rfl
  · exact made (fun _ => rfl) h
  · exact made (fun _ => rfl) h

theorem action_of_ofValue {v found : Value} {action : String} {c : Command}
    (hget : v.untagged.get? "action" = some found) (htext : found.untagged.text? = some action)
    (h : decoder.ofValue setAside v = .ok c) : c.action = action := by
  obtain ⟨a, ha, hname, content, hread⟩ := Tagged.ofValue_ok hget h
  rw [htext] at hname
  cases hname
  exact action_of_read ha hread

theorem action_mem (c : Command) : c.action ∈ actions := by
  cases c <;> simp [action, actions]

end Command

/-- No browser step has an action of the list. -/
theorem BrowserStep.action_not_mem (s : BrowserStep) : s.action ∉ Command.actions := by
  cases s <;> simp [action, Command.actions]

/-! ## Steps of scenarios -/

namespace ScenarioStep

/-- The action of a step as documents name it. -/
def action : ScenarioStep → String
  | .command c => c.action
  | .browser s => s.action

/-- The numbers of a step are such that documents can hold them. -/
def Fits : ScenarioStep → Prop
  | .command _ => True
  | .browser s => s.Fits

/-- Whether a step puts a file into a file input by itself. -/
def injects : ScenarioStep → Bool
  | .command _ => false
  | .browser s => s.injects

theorem action?_toValue (s : ScenarioStep) : s.toValue.action? = some s.action := by
  cases s with
  | command c => exact action?_record c.action c.fields
  | browser b => exact action?_record b.action b.fields

theorem ofValue_toValue {s : ScenarioStep} (hfits : s.Fits) (hs : s.injects = false) :
    ofValue s.toValue = .ok s := by
  cases s with
  | command c =>
    have hget : c.toValue.untagged.get? "action" = some (.text c.action) :=
      Tagged.get?_cons_of_tag _ _
    have hlist : Command.actions.contains c.action = true := by
      simpa using c.action_mem
    simp only [ofValue, toValue, hget, Value.untagged, Value.text?, hlist, if_true,
      Command.ofValue_toValue]
    rfl
  | browser b =>
    have hget : b.toValue.untagged.get? "action" = some (.text b.action) :=
      Tagged.get?_cons_of_tag _ _
    have hlist : Command.actions.contains b.action = false := by
      simpa using b.action_not_mem
    simp only [ofValue, toValue, hget, Value.untagged, Value.text?, hlist,
      BrowserStep.ofValue_toValue hfits hs]
    rfl

/-- What a step that is read says about the value: it names the action of the step. -/
theorem ofValue_ok {v : Value} {s : ScenarioStep} (h : ofValue v = .ok s) :
    v.action? = some s.action ∧ s.injects = false := by
  unfold ofValue at h
  split at h
  · cases h
  · rename_i found hget
    split at h
    · cases h
    · rename_i action htext
      have hact : v.action? = some action := by
        rw [Value.action?, hget]
        exact htext
      simp only at h
      split at h
      · rcases hc : Command.decoder.ofValue false v with m | c <;> rw [hc] at h
        · cases h
        · cases h
          exact ⟨hact.trans (congrArg some (Command.action_of_ofValue hget htext hc).symm), rfl⟩
      · rcases hb : BrowserStep.decoder.ofValue false v with m | b <;> rw [hb] at h
        · cases h
        · cases h
          obtain ⟨ha, hi⟩ := BrowserStep.action_of_ofValue hget htext hb
          exact ⟨hact.trans (congrArg some ha.symm), hi⟩

theorem isCommand_iff (s : ScenarioStep) :
    (∃ c, s = .command c) ↔ s.action ∈ Command.actions := by
  cases s with
  | command c => exact ⟨fun _ => c.action_mem, fun _ => ⟨c, rfl⟩⟩
  | browser b => exact ⟨fun ⟨_, he⟩ => (nomatch he), fun hm => absurd hm b.action_not_mem⟩

end ScenarioStep

/-! ## Scenarios -/

namespace Scenario

/-- The numbers of a scenario are such that documents can hold them. -/
structure Fits (sc : Scenario) : Prop where
  width : sc.viewport.width < Nat.pow 2 32
  height : sc.viewport.height < Nat.pow 2 32
  steps : ∀ s ∈ sc.steps, s.Fits

variable {setAside : Bool}

theorem ofValue_viewport {p : Viewport} (hw : p.width < Nat.pow 2 32)
    (hh : p.height < Nat.pow 2 32) :
    Viewport.decoder.ofValue setAside
      (.record [("width", .nat p.width), ("height", .nat p.height)]) = .ok p :=
  Record.ofValue_written "struct Viewport" (by simp [field])
    (.field (ofValue_nat hw) (.field (ofValue_nat hh) .nil))

theorem ofValue_toValue {sc : Scenario} (hfits : sc.Fits)
    (hs : ∀ s ∈ sc.steps, s.injects = false) : decoder.ofValue setAside sc.toValue = .ok sc := by
  have hsteps : (list ScenarioStep.decoder).ofValue setAside
      (.list (sc.steps.map ScenarioStep.toValue)) = .ok sc.steps :=
    ofValue_list fun s hm => ScenarioStep.ofValue_toValue (hfits.steps s hm) (hs s hm)
  have htags : (list Decoder.text).ofValue setAside (.list (sc.tags.map .text)) = .ok sc.tags :=
    ofValue_list fun s _ => ofValue_text s
  exact Record.ofValue_written "struct TestSpec" (by simp [field])
    (.field (ofValue_text sc.name) (.field (ofValue_text sc.description) (.field htags
      (.field (ofValue_viewport hfits.width hfits.height) (.field hsteps .nil)))))

/-- No step of a scenario that is read puts a file into a page by itself. -/
theorem injects_of_ofValue {v : Value} {sc : Scenario} (h : decoder.ofValue setAside v = .ok sc) :
    ∀ s ∈ sc.steps, s.injects = false := by
  have hsteps : ∀ setAside v (as : List ScenarioStep),
      (list ScenarioStep.decoder).ofValue setAside v = .ok as → ∀ s ∈ as, s.injects = false := by
    intro setAside v as hread
    cases v with
    | list items =>
      intro s hm
      obtain ⟨v, -, hv⟩ := exists_of_mapM hread hm
      exact (ScenarioStep.ofValue_ok hv).2
    | _ => cases hread
  refine Record.ofValue_keeps (P := fun sc => ∀ s ∈ sc.steps, s.injects = false) ?_ nofun h
  simp only [List.forall_mem_cons, List.not_mem_nil, false_implies, implies_true, and_true]
  refine ⟨?_, ?_, ?_, ?_, ?_⟩
  · exact Record.keeps_field fun _ _ _ _ _ hr => hr
  · exact Record.keeps_field fun _ _ _ _ _ hr => hr
  · exact Record.keeps_field fun _ _ _ _ _ hr => hr
  · exact Record.keeps_field fun _ _ _ _ _ hr => hr
  · exact Record.keeps_field fun setAside v as hread _ _ => hsteps setAside v as hread

/-- **The language of scenarios.** A scenario whose numbers documents can hold is read back as it
was written, unless a step puts a file into a page; then it is not. A step that is read from any
value has the action that the value names, which is also the one that it is written with; it is a
command exactly if that action is on the list of commands; and it puts no file into a page. -/
theorem language :
    (∀ (sc : Scenario) (setAside : Bool), sc.Fits →
      (decoder.ofValue setAside sc.toValue = .ok sc ↔ ∀ s ∈ sc.steps, s.injects = false)) ∧
    ∀ (v : Value) (setAside : Bool) (s : ScenarioStep),
      ScenarioStep.decoder.ofValue setAside v = .ok s →
      ∃ action, v.action? = some action ∧ s.toValue.action? = some action ∧
        ((∃ c, s = .command c) ↔ action ∈ Command.actions) ∧ s.injects = false := by
  refine ⟨fun sc setAside hfits => ⟨injects_of_ofValue, ofValue_toValue hfits⟩,
    fun v setAside s h => ?_⟩
  obtain ⟨hact, hi⟩ := ScenarioStep.ofValue_ok h
  exact ⟨s.action, hact, s.action?_toValue, s.isCommand_iff, hi⟩

/-- A scenario with a command, and with a step that has fields of all kinds. -/
def inspection : Scenario where
  name := "inspection"
  description := ""
  tags := ["cms"]
  viewport := ⟨1280, 720⟩
  steps := [.command (.uploadFile "a.tar.gz" none (some .binary)),
    .browser (.assert "h1" (some true) none (some "T\n\"e") (some 2)), .browser (.sleep 5)]

theorem language_inspection :
    inspection.Fits ∧ decoder.ofValue false inspection.toValue = .ok inspection ∧
    ScenarioStep.decoder.ofValue false (ScenarioStep.browser (.sleep 5)).toValue =
      .ok (.browser (.sleep 5)) ∧
    ∃ action, (ScenarioStep.browser (.sleep 5)).toValue.action? = some action ∧
      ((∃ c, ScenarioStep.browser (.sleep 5) = .command c) ↔ action ∈ Command.actions) := by
  have hsleep : (ScenarioStep.browser (.sleep 5)).Fits := by
    show 5 < bound64
    decide
  have hfits : inspection.Fits := by
    refine ⟨by decide, by decide, ?_⟩
    simp only [inspection, List.forall_mem_cons, List.not_mem_nil, false_implies, implies_true,
      and_true]
    exact ⟨trivial, fun n hn => (Option.some.inj hn) ▸ (by decide), hsleep⟩
  have hs : ∀ s ∈ inspection.steps, s.injects = false := by decide
  have hstep : ScenarioStep.decoder.ofValue false (ScenarioStep.browser (.sleep 5)).toValue =
      .ok (.browser (.sleep 5)) :=
    ScenarioStep.ofValue_toValue hsleep rfl
  obtain ⟨action, hact, -, hc, -⟩ := language.2 _ false _ hstep
  exact ⟨hfits, (language.1 inspection false hfits).2 hs, hstep, action, hact, hc⟩

end Scenario
end Rehearsal
