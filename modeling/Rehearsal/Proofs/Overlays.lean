import Mathlib.Data.List.TakeWhile
import Rehearsal.Setup

/-!
# Overlays

A setup has ten settings that an environment may give, each under a name of its own
(`Setting.key`, `Setup.setting`), and a rest (`Setup.rest`); the settings and the rest make up the
setup (`Setup.eq_of_settings`). An overlay takes a setting from the environment if there is a value
for it that is not blank, leaves it as it is if there is none (`Setup.setting_overlay`), and keeps
the rest (`Setup.rest_overlay`). The laws of overlays follow from these two equations
(`Setup.overlay_laws`): two environments one after the other are one environment, the second one on
top of the first.
-/

namespace Rehearsal

/-- A text is blank if trimming leaves nothing of it. -/
theorem Text.allBlank_iff {s : List Char} : allBlank s = true ↔ trim s = [] := by
  rw [allBlank, List.all_eq_true]
  constructor
  · intro h
    have hstart : trimStart s = [] := List.dropWhile_eq_nil_iff.2 h
    rw [trim, hstart]
    rfl
  · intro h
    have hend : (trimStart s).reverse.dropWhile isBlank = [] := List.reverse_eq_nil_iff.1 h
    have hblank : ∀ c ∈ trimStart s, isBlank c = true := fun c hc =>
      List.dropWhile_eq_nil_iff.1 hend c (List.mem_reverse.2 hc)
    cases hs : trimStart s with
    | nil => exact List.dropWhile_eq_nil_iff.1 hs
    | cons c r =>
      have hc := isBlank_head_dropWhile (s := s) (c := c) (by rw [← trimStart, hs]; rfl)
      rw [hblank c (by rw [hs]; exact List.mem_cons_self)] at hc
      cases hc

/-- A setting that an environment may give. -/
inductive Setting where
  | lms
  | cms
  | loginEndpoint
  | demoCourse
  | mail
  | staffEmail
  | staffPassword
  | learnerEmail
  | learnerPassword
  | fixturesDir
  deriving DecidableEq

/-- The name under which an environment gives a setting. -/
def Setting.key : Setting → String
  | .lms => "APP_PRIMARY_URL"
  | .cms => "APP_SECONDARY_URL"
  | .loginEndpoint => "LOGIN_ENDPOINT_URL"
  | .demoCourse => "DEMO_OBJECT_ID"
  | .mail => "MAIL_CAPTURE_URL"
  | .staffEmail => "STAFF_EMAIL"
  | .staffPassword => "STAFF_PASSWORD"
  | .learnerEmail => "LEARNER_EMAIL"
  | .learnerPassword => "LEARNER_PASSWORD"
  | .fixturesDir => "FIXTURES_DIR"

theorem Setting.key_inj {k l : Setting} (h : k.key = l.key) : k = l := by
  cases k <;> cases l <;> simp [key] at h ⊢

namespace Setup

/-- The value of a setting, if there is one. -/
def setting (s : Setup) : Setting → Option String
  | .lms => some s.lms
  | .cms => some s.cms
  | .loginEndpoint => s.login.endpoint
  | .demoCourse => s.demoCourse
  | .mail => s.mail
  | .staffEmail => some s.staff.email
  | .staffPassword => some s.staff.password
  | .learnerEmail => some s.learner.email
  | .learnerPassword => some s.learner.password
  | .fixturesDir => some s.fixturesDir

/-- A setup without the settings that an environment may give. -/
def rest (s : Setup) : Setup :=
  { s with
    lms := "", cms := "", login := { s.login with endpoint := none }, demoCourse := none
    mail := none, staff := ⟨"", ""⟩, learner := ⟨"", ""⟩, fixturesDir := "" }

/-- The setup of some settings and a rest. -/
def ofSettings (value : Setting → Option String) (rest : Setup) : Setup :=
  { rest with
    lms := (value .lms).getD "", cms := (value .cms).getD ""
    login := { rest.login with endpoint := value .loginEndpoint }
    demoCourse := value .demoCourse, mail := value .mail
    staff := ⟨(value .staffEmail).getD "", (value .staffPassword).getD ""⟩
    learner := ⟨(value .learnerEmail).getD "", (value .learnerPassword).getD ""⟩
    fixturesDir := (value .fixturesDir).getD "" }

theorem ofSettings_setting (s : Setup) : ofSettings s.setting s.rest = s := rfl

/-- A setup is made up of its settings and the rest. -/
theorem eq_of_settings {s t : Setup} (h : ∀ k, s.setting k = t.setting k)
    (hrest : s.rest = t.rest) : s = t := by
  rw [← ofSettings_setting s, ← ofSettings_setting t, funext h, hrest]

/-! ## Environments -/

namespace Environment

/-- Whether an environment has no value for a name, or a blank one. -/
def Lacks (e : Environment) (name : String) : Prop := ∀ v ∈ e name, Text.trim v.toList = []

instance (e : Environment) (name : String) : Decidable (e.Lacks name) :=
  inferInstanceAs (Decidable (∀ v ∈ e name, Text.trim v.toList = []))

/-- An environment with another one on top of it, whose values count where it does not lack them. -/
def topped (below top : Environment) : Environment := fun name =>
  if top.Lacks name then below name else top name

theorem topped_self (e : Environment) : e.topped e = e := by
  funext name
  exact ite_self _

end Environment

section
variable {e : Environment} {name : String}

theorem given_of_lacks (h : e.Lacks name) : given e name = none := by
  unfold given
  rcases hv : e name with _ | v
  · rfl
  · rw [Option.filter_some, Text.allBlank_iff.2 (h v hv)]
    rfl

theorem given_of_not_lacks (h : ¬e.Lacks name) : ∃ v, e name = some v ∧ given e name = some v := by
  unfold given
  rcases hv : e name with _ | v
  · exact absurd (fun v hv' => by rw [hv] at hv'; cases hv') h
  · refine ⟨v, rfl, ?_⟩
    have hb : Text.allBlank v.toList = false := Bool.eq_false_iff.2 fun hb =>
      h fun w hw => by
        rw [hv] at hw
        cases hw
        exact Text.allBlank_iff.1 hb
    rw [Option.filter_some, hb]
    rfl

end

theorem given_topped (below top : Environment) (name : String) :
    given (below.topped top) name = (given top name).or (given below name) := by
  by_cases ht : top.Lacks name
  · have he : below.topped top name = below name := if_pos ht
    rw [given_of_lacks ht, Option.none_or, given, given, he]
  · have he : below.topped top name = top name := if_neg ht
    obtain ⟨v, -, hv⟩ := given_of_not_lacks ht
    have hsame : given (below.topped top) name = given top name := by rw [given, given, he]
    rw [hsame, hv, Option.some_or]

/-! ## Overlays -/

section
variable (s : Setup) (e e' : Environment)

/-- An overlay takes a setting from the environment if it gives one. -/
theorem setting_overlay (k : Setting) :
    (s.overlay e).setting k = (given e k.key).or (s.setting k) := by
  have hgetD (a : Option String) (x : String) : some (a.getD x) = a.or (some x) := by
    cases a <;> rfl
  cases k with
  | loginEndpoint | demoCourse | mail => rfl
  | _ => exact hgetD _ _

/-- An overlay changes nothing but settings. -/
theorem rest_overlay : (s.overlay e).rest = s.rest := rfl

theorem overlay_overlay : (s.overlay e).overlay e' = s.overlay (e.topped e') := by
  refine eq_of_settings (fun k => ?_) rfl
  rw [setting_overlay, setting_overlay, setting_overlay, given_topped, Option.or_assoc]

variable {s e e'}

theorem setting_overlay_of_lacks {k : Setting} (h : e.Lacks k.key) :
    (s.overlay e).setting k = s.setting k := by
  rw [setting_overlay, given_of_lacks h, Option.none_or]

theorem setting_overlay_of_not_lacks {k : Setting} (h : ¬e.Lacks k.key) :
    (s.overlay e).setting k = e k.key := by
  obtain ⟨v, hv, hgiven⟩ := given_of_not_lacks h
  rw [setting_overlay, hgiven, hv, Option.some_or]

/-- Environments that agree on the name of a setting give it the same value. -/
theorem setting_overlay_of_agree {k : Setting} (h : e k.key = e' k.key) :
    (s.overlay e).setting k = (s.overlay e').setting k := by
  rw [setting_overlay, setting_overlay, given, given, h]

end

/-- **Laws of overlays.** Two environments one after the other are one, the second on top of the
first, and one environment twice is the same as once. An environment that lacks all ten settings
changes nothing, and names that are not those of settings do not matter. Each setting is the one of
the environment, or stays if the environment lacks it; environments that differ in its name only
differ in no other setting; and all that is no setting stays in any case. -/
theorem overlay_laws (s : Setup) (e₁ e₂ : Environment) :
    (s.overlay e₁).overlay e₂ = s.overlay (e₁.topped e₂) ∧
    (s.overlay e₁).overlay e₁ = s.overlay e₁ ∧
    ((∀ k : Setting, e₁.Lacks k.key) → s.overlay e₁ = s) ∧
    ((∀ k : Setting, e₁ k.key = e₂ k.key) → s.overlay e₁ = s.overlay e₂) ∧
    (∀ k : Setting,
      (s.overlay e₁).setting k = (if e₁.Lacks k.key then s.setting k else e₁ k.key) ∧
      ((∀ name, name ≠ k.key → e₁ name = e₂ name) →
        ∀ l, l ≠ k → (s.overlay e₁).setting l = (s.overlay e₂).setting l)) ∧
    (s.overlay e₁).rest = s.rest := by
  refine ⟨overlay_overlay s e₁ e₂, ?_, fun h => ?_, fun h => ?_, fun k => ⟨?_, fun h l hl => ?_⟩,
    rest_overlay s e₁⟩
  · rw [overlay_overlay, Environment.topped_self]
  · exact eq_of_settings (fun k => setting_overlay_of_lacks (h k)) rfl
  · exact eq_of_settings (fun k => setting_overlay_of_agree (h k)) rfl
  · split
    · exact setting_overlay_of_lacks ‹_›
    · exact setting_overlay_of_not_lacks ‹_›
  · exact setting_overlay_of_agree (h _ fun he => hl (Setting.key_inj he))

end Setup
end Rehearsal
