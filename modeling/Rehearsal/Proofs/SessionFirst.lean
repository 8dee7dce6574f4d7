import Mathlib.Data.List.TakeWhile
import Rehearsal.Performance
import Rehearsal.Proofs.Lowering

/-!
# Session steps come first

Three definitions split the steps of a scenario: its validation looks for session steps behind
others, the session takes the steps in front, and the plan passes over session steps wherever they
are. For a valid scenario they agree (`Scenario.session_first`): each session step is taken once,
each other step is lowered once, both in order. The parts: a valid scenario is its session steps and
then the others (`Scenario.steps_of_validate`), what the session makes of the steps in front
(`takeSessionSteps_cases`), and a plan without the session steps (`Scenario.plan_rest`).
-/

namespace Rehearsal

/-! ## The split of a valid scenario -/

/-- The session steps of a scenario, in order. -/
def Scenario.front (sc : Scenario) : List ScenarioStep := sc.steps.filter ScenarioStep.isSession

/-- The other steps of a scenario, in order. -/
def Scenario.rest (sc : Scenario) : List ScenarioStep := sc.steps.filter fun s => !s.isSession

namespace Scenario

/-- No session step is late if all steps after those in front are of the browser. -/
theorem lateSessionStep?_eq_none {steps : List ScenarioStep} : lateSessionStep? steps = none ↔
    ∀ s ∈ steps.dropWhile ScenarioStep.isSession, s.isSession = false := by
  unfold lateSessionStep?
  simp only [ite_eq_right_iff, reduceCtorEq, imp_false, Nat.not_lt]
  constructor
  · intro h s hs
    have he := (List.takeWhile_prefix fun s : ScenarioStep => !s.isSession).eq_of_length_le h
    have := List.takeWhile_eq_self_iff.1 he s hs
    simpa using this
  · intro h
    rw [List.takeWhile_eq_self_iff.2 fun s hs => by simpa using h s hs]

theorem validate_ok {sc : Scenario} (h : sc.validate = .ok ()) :
    sc.steps ≠ [] ∧ lateSessionStep? sc.steps = none := by
  unfold validate at h
  split at h
  · cases h
  · rename_i hne
    refine ⟨by simpa using hne, ?_⟩
    split at h
    · assumption
    · cases h

theorem ofYaml_ok {text : String} {sc : Scenario} (h : ofYaml text = .ok sc) :
    sc.validate = .ok () := by
  unfold ofYaml at h
  split at h
  · cases h
  · rename_i s _
    rcases hv : s.validate with _ | ⟨⟩ <;> simp only [hv, bind, Except.bind] at h
    · cases h
    · cases h
      exact hv

/-- The session steps of a valid scenario are those in front, and the others are those after. -/
theorem steps_of_validate {sc : Scenario} (h : sc.validate = .ok ()) :
    sc.steps.takeWhile ScenarioStep.isSession = sc.front ∧ sc.steps = sc.front ++ sc.rest := by
  have hlate := lateSessionStep?_eq_none.1 (validate_ok h).2
  have hs : sc.steps.takeWhile ScenarioStep.isSession ++
    sc.steps.dropWhile ScenarioStep.isSession = sc.steps := List.takeWhile_append_dropWhile
  have ht : ∀ s ∈ sc.steps.takeWhile ScenarioStep.isSession, s.isSession = true :=
    fun s hs => List.mem_takeWhile_imp hs
  have hf : sc.front = sc.steps.takeWhile ScenarioStep.isSession := by
    unfold front
    conv => lhs; rw [← hs]
    rw [List.filter_append, List.filter_eq_self.2 ht, List.filter_eq_nil_iff.2, List.append_nil]
    intro s hm
    simp [hlate s hm]
  have hr : sc.rest = sc.steps.dropWhile ScenarioStep.isSession := by
    unfold rest
    conv => lhs; rw [← hs]
    rw [List.filter_append, List.filter_eq_nil_iff.2, List.nil_append, List.filter_eq_self.2]
    · intro s hm
      simp [hlate s hm]
    · intro s hm
      simp [ht s hm]
  rw [hf, hr, hs]
  exact ⟨rfl, rfl⟩

end Scenario

/-! ## What the session takes -/

/-- Steps that a session takes one after the other, each once and with success, with their reports
and the session after them. -/
inductive Taken (setup : Setup) : Session → List ScenarioStep → List StepReport → Session → Prop
  | nil {s : Session} : Taken setup s [] [] s
  | cons {s t u : Session} {c : Command} {name : String} {status : Nat}
    {steps : List ScenarioStep} {reports : List StepReport} :
    c.perform? setup s = some (name, .ok status, t) → Taken setup t steps reports u →
    Taken setup s (.command c :: steps) (⟨true, name, 0, none, none⟩ :: reports) u

section
variable {setup : Setup} {s t : Session} {steps : List ScenarioStep} {reports : List StepReport}

theorem Taken.length (h : Taken setup s steps reports t) : reports.length = steps.length := by
  induction h with
  | nil => rfl
  | cons _ _ ih => simp [ih]

theorem Taken.success (h : Taken setup s steps reports t) :
    ∀ r ∈ reports, r.success = true ∧ r.error = none := by
  induction h with
  | nil => simp
  | cons _ _ ih =>
    intro r hr
    rcases List.mem_cons.1 hr with rfl | hr
    · exact ⟨rfl, rfl⟩
    · exact ih r hr

theorem perform?_eq_none {c : Command} : c.perform? setup s = none ↔ c.isSession = false := by
  cases c <;> simp [Command.perform?, Command.isSession]

/-- The session takes all session steps in front, or those before the first one that fails. -/
theorem takeSessionSteps_cases (setup : Setup) (s : Session) (steps : List ScenarioStep) :
    (∃ reports t, takeSessionSteps setup s steps = ⟨reports, none, t⟩ ∧
      Taken setup s (steps.takeWhile ScenarioStep.isSession) reports t) ∨
    (∃ done c later reports t name f u, steps = done ++ .command c :: later ∧
      Taken setup s done reports t ∧ c.perform? setup t = some (name, .error f, u) ∧
      takeSessionSteps setup s steps =
        ⟨reports ++ [⟨false, name, 0, some f.message, none⟩], some f, u⟩) := by
  induction steps generalizing s with
  | nil => exact .inl ⟨[], s, rfl, .nil⟩
  | cons step steps ih =>
    cases step with
    | browser b => exact .inl ⟨[], s, rfl, .nil⟩
    | command c =>
      rcases hp : c.perform? setup s with _ | ⟨name, f | status, t⟩
      · have hc : (ScenarioStep.command c).isSession = false := perform?_eq_none.1 hp
        refine .inl ⟨[], s, by simp only [takeSessionSteps, hp], ?_⟩
        rw [List.takeWhile_cons_of_neg (by simp [hc])]
        exact .nil
      · refine .inr ⟨[], c, steps, [], s, name, f, t, rfl, .nil, hp, ?_⟩
        simp only [takeSessionSteps, hp, List.nil_append]
      · have hc : (ScenarioStep.command c).isSession = true := by
          by_contra hn
          rw [perform?_eq_none.2 (Bool.eq_false_iff.2 hn)] at hp
          cases hp
        rcases ih t with
          ⟨reports, u, hr, ht⟩ | ⟨done, d, later, reports, u, n, f, v, he, ht, hd, hr⟩
        · refine .inl ⟨⟨true, name, 0, none, none⟩ :: reports, u, ?_, ?_⟩
          · simp only [takeSessionSteps, hp, hr]
          · rw [List.takeWhile_cons_of_pos hc]
            exact .cons hp ht
        · refine .inr ⟨.command c :: done, d, later, ⟨true, name, 0, none, none⟩ :: reports, u, n,
            f, v, by rw [he]; rfl, .cons hp ht, hd, ?_⟩
          simp only [takeSessionSteps, hp, hr, List.cons_append]

theorem taken_of_failure_eq_none (h : (takeSessionSteps setup s steps).failure = none) :
    Taken setup s (steps.takeWhile ScenarioStep.isSession) (takeSessionSteps setup s steps).steps
      (takeSessionSteps setup s steps).session := by
  rcases takeSessionSteps_cases setup s steps with
    ⟨reports, t, he, ht⟩ | ⟨done, c, later, reports, t, name, f, u, -, -, -, he⟩
  · rw [he]
    exact ht
  · rw [he] at h
    cases h

end

/-! ## What the plan passes over -/

namespace Planner

variable {p : Planner} {s : ScenarioStep}

theorem lower_of_isSession (h : s.isSession = true) (o : Outlook) :
    p.lower o s = pure (⟨[], none⟩, o) := by
  cases s with
  | browser b => cases h
  | command c => cases c <;> first | rfl | cases h

theorem lowerAll_filter (o : Outlook) (steps : List ScenarioStep) :
    p.lowerAll o (steps.filter fun s => !s.isSession) = p.lowerAll o steps := by
  induction steps generalizing o with
  | nil => rfl
  | cons s steps ih =>
    by_cases hs : s.isSession = true
    · rw [List.filter_cons_of_neg (by simpa using hs), ih]
      simp only [lowerAll, lower_of_isSession hs, pure_bind, Option.toList_none, List.nil_append]
      exact (bind_pure _).symm
    · rw [List.filter_cons_of_pos (by simpa using hs)]
      simp only [lowerAll, ih]

theorem Lowers.ne_nil {v : Placeholders} {latest : Option Course} {image : List BrowserStep}
    (h : p.Lowers v latest s image) (hs : s.isSession = false) : image ≠ [] := by
  cases h with
  | session hc => exact absurd hs (by simpa [ScenarioStep.isSession] using hc)
  | create nextUrl h => simp
  | upload fixture selector encoding h => simp
  | browser b => simp

end Planner

namespace Scenario

theorem plan_rest (sc : Scenario) (p : Planner) (settings : BrowserSettings) (session : Session) :
    sc.plan p settings session = { sc with steps := sc.rest }.plan p settings session := by
  unfold plan
  simp only [rest, Planner.lowerAll_filter]
  rfl

/-- **Every step runs once, and session steps come first.** A valid scenario is its session steps
and then the others. If no session step fails, the session takes exactly the session steps, with one
report each, and the plan is that of the others alone: its queue has an image for each of them, in
order, and none of the images is empty. -/
theorem session_first {sc : Scenario} {setup : Setup} {session : Session}
    (hv : sc.validate = .ok () ∨ ∃ text, ofYaml text = .ok sc)
    (hs : (takeSessionSteps setup session sc.steps).failure = none) :
    sc.steps = sc.front ++ sc.rest ∧
    Taken setup session sc.front (takeSessionSteps setup session sc.steps).steps
      (takeSessionSteps setup session sc.steps).session ∧
    (takeSessionSteps setup session sc.steps).steps.length = sc.front.length ∧
    ∀ (p : Planner) (settings : BrowserSettings) (later : Session),
      sc.plan p settings later = { sc with steps := sc.rest }.plan p settings later ∧
      ∀ plan words left, (sc.plan p settings later).run words = some (.ok plan, left) →
        ∃ images : List (List BrowserStep), plan.page.steps = images.flatten ∧
          images.length = sc.rest.length ∧
          ∀ (i : Nat) (s : ScenarioStep), sc.rest[i]? = some s →
            ∃ image v latest, images[i]? = some image ∧ image ≠ [] ∧
              p.Lowers v latest s image := by
  have hvalid : sc.validate = .ok () := by
    rcases hv with hv | ⟨text, hv⟩
    · exact hv
    · exact ofYaml_ok hv
  obtain ⟨hfront, hsplit⟩ := steps_of_validate hvalid
  have htaken := taken_of_failure_eq_none hs
  rw [hfront] at htaken
  refine ⟨hsplit, htaken, htaken.length, fun p settings later => ?_⟩
  refine ⟨plan_rest sc p settings later, fun plan words left hp => ?_⟩
  rw [plan_rest] at hp
  obtain ⟨_, _, _, images, -, -, -, -, hq, hall⟩ := plan_ok hp
  refine ⟨images, hq, hall.length, fun i s hi => ?_⟩
  obtain ⟨image, hx, hl⟩ := hall.image i s hi
  have hrest : s.isSession = false := by
    have := (List.mem_filter.1 (List.mem_of_getElem? hi)).2
    simpa using this
  exact ⟨image, _, _, hx, hl.ne_nil hrest, hl⟩

/-- A session with an application that answers every request. -/
def answered : Session := .start ⟨[], .answer ⟨200, [], none⟩, []⟩ ⟨0, 0⟩

theorem session_first_visit :
    visit.steps = visit.front ++ visit.rest ∧
    (takeSessionSteps Planner.loopback.setup answered visit.steps).steps.length =
      visit.front.length ∧
    ∃ plan left images, (visit.plan .loopback {} answered).run (List.replicate 40 5) =
        some (.ok plan, left) ∧
      plan.page.steps = List.flatten images ∧ images.length = visit.rest.length := by
  have hs : (takeSessionSteps Planner.loopback.setup answered visit.steps).failure = none := by
    decide +kernel
  obtain ⟨hsplit, -, hlen, hplan⟩ := session_first (.inl rfl) hs
  have hd : ((visit.plan .loopback {} answered).run (List.replicate 40 5)).any
      (·.1.isOk) = true := by decide +kernel
  obtain ⟨plan, left, h⟩ := Planned.exists_ok hd
  obtain ⟨images, hq, hi, -⟩ := (hplan .loopback {} answered).2 plan _ left h
  exact ⟨hsplit, hlen, plan, left, images, h, hq, hi⟩

end Scenario
end Rehearsal
