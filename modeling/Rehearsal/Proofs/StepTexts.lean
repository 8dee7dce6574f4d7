import Rehearsal.Proofs.SinglePass

/-!
# Placeholders in the texts of browser steps

What expanding a step does to its document. `BrowserStep.Mapped` compares two steps by their
documents: the same action, the same fields, and a function applied to each field that is a text.
Expanded steps are mapped by `Placeholders.expand`, but for those of the verbatim actions, which are
left as they are (`Placeholders.expandStep_texts`); so a step fails to be mapped exactly if its
action is one of them and one of its texts has a placeholder that would be replaced
(`Placeholders.Skips`). The proof is by cases on the step, with one equation for each kind of field.
-/

namespace Rehearsal

open Data Text

/-! ## Texts in documents -/

/-- A value with a function applied to it if it is a text. -/
def Data.Value.onText (f : String → String) : Value → Value
  | .text s => .text (f s)
  | v => v

section
variable (f : String → String)

@[simp] theorem onText_text (s : String) : (Value.text s).onText f = .text (f s) := rfl

@[simp] theorem onText_nat (n : Nat) : (Value.nat n).onText f = .nat n := rfl

@[simp] theorem onText_flag (b : Bool) : (Value.flag b).onText f = .flag b := rfl

@[simp] theorem onText_optionalText (s : Option String) :
    (BrowserStep.optionalText s).onText f = BrowserStep.optionalText (s.map f) := by
  cases s <;> rfl

@[simp] theorem onText_optionalNat (n : Option Nat) :
    (BrowserStep.optionalNat n).onText f = BrowserStep.optionalNat n := by
  cases n <;> rfl

@[simp] theorem onText_optionalFlag (b : Option Bool) :
    (Value.orNull (b.map Value.flag)).onText f = .orNull (b.map Value.flag) := by
  cases b <;> rfl

end

namespace BrowserStep

/-- A step is another with a function applied to the texts: it has the same action and the same
fields, of which those that are texts are mapped. -/
structure Mapped (f : String → String) (s t : BrowserStep) : Prop where
  action : t.action = s.action
  fields : t.fields = s.fields.map fun e => (e.1, e.2.onText f)

/-- The actions whose steps are not expanded. -/
def verbatim : List String := ["press", "screenshot", "log", "inject_file"]

/-- A step is its own image exactly if none of its texts changes. -/
theorem mapped_self_iff {f : String → String} {s : BrowserStep} :
    s.Mapped f s ↔ ∀ e ∈ s.fields, e.2.onText f = e.2 := by
  constructor
  · rintro ⟨-, h⟩ e he
    have hmap : s.fields.map id = s.fields.map fun e => (e.1, e.2.onText f) := by
      rw [List.map_id, ← h]
    exact (congrArg Prod.snd (List.map_inj_left.1 hmap e he)).symm
  · intro h
    refine ⟨rfl, ?_⟩
    calc s.fields = s.fields.map id := (List.map_id _).symm
      _ = s.fields.map fun e => (e.1, e.2.onText f) :=
        List.map_congr_left fun e he => by rw [h e he, id]

end BrowserStep

/-! ## Expanded steps -/

namespace Placeholders

/-- A text without an opening brace has no placeholder. -/
theorem expand_of_not_mem (p : Placeholders) {s : String} (h : '\x7b' ∉ s.toList) :
    p.expand s = s := by
  have hput : ∀ (values : List (String × Option String)),
      values.foldl put s.toList = s.toList := by
    intro values
    induction values with
    | nil => rfl
    | cons e values ih =>
      obtain ⟨name, _ | v⟩ := e
      · exact ih
      · have hr : replaceAll (token name) v.toList (s.toList ++ []) =
            s.toList ++ replaceAll (token name) v.toList [] := by
          rw [token_eq]
          exact replaceAll_of_not_mayStart (mayStart_of_not_mem h) []
        rw [List.append_nil] at hr
        rw [List.foldl_cons, put, hr]
        simpa [replaceAll, replaceFrom] using ih
  rw [expand, expandText_eq, hput, String.ofList_toList]

theorem expand_state (p : Placeholders) (state : ElementState) :
    p.expand state.name = state.name :=
  p.expand_of_not_mem (by cases state <;> decide)

theorem expandStep_of_verbatim (p : Placeholders) {s : BrowserStep}
    (h : s.action ∈ BrowserStep.verbatim) : p.expandStep s = s := by
  cases s <;> first | rfl | simp [BrowserStep.action, BrowserStep.verbatim] at h

/-- The steps of all other actions have all their texts expanded. -/
theorem mapped_expandStep (p : Placeholders) {s : BrowserStep}
    (h : s.action ∉ BrowserStep.verbatim) : s.Mapped p.expand (p.expandStep s) := by
  cases s with
  | press _ _ | screenshot _ _ _ | log _ | injectFile _ _ _ _ =>
    exact absurd (by simp [BrowserStep.action, BrowserStep.verbatim]) h
  | wait selector timeout state =>
    exact ⟨rfl, by simp [expandStep, BrowserStep.fields, p.expand_state]⟩
  | _ => exact ⟨rfl, by simp [expandStep, BrowserStep.fields]⟩

/-- A step that is left as it is though one of its texts has a placeholder. -/
structure Skips (p : Placeholders) (s : BrowserStep) : Prop where
  verbatim : s.action ∈ BrowserStep.verbatim
  changed : ∃ e ∈ s.fields, e.2.onText p.expand ≠ e.2

/-- **Texts of expanded steps.** Expanding a step keeps its action and all fields that are no texts,
and expands each text, required or not, for all steps but those that are skipped: keys, screenshots,
messages and files with a placeholder in one of their texts. These go on as they are. -/
theorem expandStep_texts (p : Placeholders) (s : BrowserStep) :
    (s.Mapped p.expand (p.expandStep s) ↔ ¬ p.Skips s) ∧ (p.Skips s → p.expandStep s = s) := by
  refine ⟨?_, fun h => p.expandStep_of_verbatim h.verbatim⟩
  by_cases hv : s.action ∈ BrowserStep.verbatim
  · rw [p.expandStep_of_verbatim hv, BrowserStep.mapped_self_iff]
    constructor
    · rintro h ⟨-, e, he, hne⟩
      exact hne (h e he)
    · intro h e he
      by_contra hne
      exact h ⟨hv, e, he, hne⟩
  · exact ⟨fun _ hs => hv hs.verbatim, fun _ => p.mapped_expandStep hv⟩

/-- The selector of a key, the name of a screenshot and a message are not expanded. -/
theorem expandStep_skips :
    ofDemo.expand "#\x7bunique\x7d" = "#abcdefghij" ∧
    ¬ (BrowserStep.press (some "#\x7bunique\x7d") "a").Mapped ofDemo.expand
      (ofDemo.expandStep (.press (some "#\x7bunique\x7d") "a")) ∧
    ¬ (BrowserStep.screenshot "#\x7bunique\x7d" none false).Mapped ofDemo.expand
      (ofDemo.expandStep (.screenshot "#\x7bunique\x7d" none false)) ∧
    ¬ (BrowserStep.log "#\x7bunique\x7d").Mapped ofDemo.expand
      (ofDemo.expandStep (.log "#\x7bunique\x7d")) := by
  have he : ofDemo.expand "#\x7bunique\x7d" = "#abcdefghij" := by decide +kernel
  have hne : Value.text (ofDemo.expand "#\x7bunique\x7d") ≠ .text "#\x7bunique\x7d" := by
    rw [he]
    exact fun h => absurd (Value.text.inj h) (by decide)
  refine ⟨he, fun h => hne ?_, fun h => hne ?_, fun h => hne ?_⟩
  · exact BrowserStep.mapped_self_iff.1 h _ List.mem_cons_self
  · exact BrowserStep.mapped_self_iff.1 h _ List.mem_cons_self
  · exact BrowserStep.mapped_self_iff.1 h _ List.mem_cons_self

end Placeholders
end Rehearsal
