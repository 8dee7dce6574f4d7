import Rehearsal.Browser.Page
import Rehearsal.Proofs.JsonText

/-!
# Events are told line by line

An event is told on one line: a fixed beginning, then a JSON object (`StepEvent.line`). Whatever
texts it has, its line is one line, since a literal has no control characters
(`Json.control_not_mem_literalText`), and it starts and ends with characters that trimming leaves.
So events are told in an output, between any other lines and with either kind of line end, one by
one and in order: `StepEvent.ofOutput_outputOf`.

An output is cut into lines at its line feeds; a carriage return at the end of a line is a blank
there, so the events depend on the fields between line feeds only (`StepEvent.ofOutput_eq`).
-/

namespace Rehearsal

open Data

/-! ## Texts on one line -/

namespace Text

theorem trim_append_of_isBlank {c : Char} (h : isBlank c = true) (s : List Char) :
    trim (s ++ [c]) = trim s := by
  have hend : ∀ t : List Char, trimEnd (t ++ [c]) = trimEnd t := by
    intro t
    simp [trimEnd, h]
  have hstart : trimStart (s ++ [c]) = trimStart s ++ [c] ∨
      trimStart s = [] ∧ trimStart (s ++ [c]) = [] := by
    unfold trimStart
    rw [List.dropWhile_append]
    split
    · rename_i he
      exact .inr ⟨List.isEmpty_iff.1 he, by simp [h]⟩
    · exact .inl rfl
  rcases hstart with he | ⟨he, he'⟩
  · rw [trim, he, hend, ← trim]
  · rw [trim, trim, he, he']

theorem trim_dropReturn (line : List Char) : trim (dropReturn line) = trim line := by
  unfold dropReturn
  split
  · rename_i h
    obtain ⟨s, rfl⟩ := List.getLast?_eq_some_iff.1 h
    rw [List.dropLast_concat, trim_append_of_isBlank (by decide)]
  · rfl

end Text

namespace Json

/-- No control character stands in a literal. -/
theorem control_not_mem_literalText {c : Char} (hc : c.toNat < 32) (s : List Char) :
    c ∉ literalText s := by
  have codes : ∀ n < 32, ('\\' :: 'u' :: fourHex n).all (fun d => 32 ≤ d.toNat) = true := by decide
  have hescape : ∀ x, c ∉ escapeChar x := by
    intro x hx
    rcases escapeChar_cases x with ⟨e, he, -, hs⟩ | ⟨hx', he⟩ | ⟨-, -, hx', he⟩ <;> rw [he] at hx
    · have letters : ∀ n < 32, simpleEscape? (Char.ofNat n) = none := by decide
      have := letters c.toNat hc
      rw [Char.ofNat_toNat] at this
      rcases List.mem_cons.1 hx with rfl | hx
      · exact absurd hc (by decide)
      · rw [List.mem_singleton.1 hx, hs] at this
        cases this
    · have := List.all_eq_true.1 (codes _ hx') c hx
      rw [decide_eq_true_eq] at this
      omega
    · rw [List.mem_singleton.1 hx] at hc
      omega
  intro h
  rcases List.mem_cons.1 h with rfl | h
  · exact absurd hc (by decide)
  · rcases List.mem_append.1 h with h | h
    · obtain ⟨x, -, hx⟩ := List.mem_flatMap.1 h
      exact hescape x hx
    · rw [List.mem_singleton.1 h] at hc
      exact absurd hc (by decide)

theorem ne_of_control {c : Char} (hc : c.toNat < 32) {d : Char} (hd : 32 ≤ d.toNat) : c ≠ d := by
  rintro rfl
  omega

theorem control_not_mem_compactEntries {c : Char} (hc : c.toNat < 32)
    {entries : List (String × Value)} (h : ∀ e ∈ entries, c ∉ compact e.2) :
    c ∉ compactEntries (entries.map fun (k, v) => (.text k, v)) := by
  induction entries with
  | nil => exact List.not_mem_nil
  | cons e entries ih =>
    obtain ⟨he, h⟩ := List.forall_mem_cons.1 h
    have hkey := control_not_mem_literalText hc e.1.toList
    have hcolon : c ≠ ':' := ne_of_control hc (by decide)
    have hcomma : c ≠ ',' := ne_of_control hc (by decide)
    cases entries with
    | nil => simp [compactEntries, keyText, hkey, he, hcolon]
    | cons e' entries =>
      have hrest := ih h
      simp only [List.map_cons] at hrest ⊢
      simp [compactEntries, keyText, hkey, he, hcolon, hcomma, hrest]

/-- Nor does one stand in a record on one line, if there is none in its values. -/
theorem control_not_mem_compact {c : Char} (hc : c.toNat < 32) {entries : List (String × Value)}
    (h : ∀ e ∈ entries, c ∉ compact e.2) : c ∉ compact (.record entries) := by
  simpa [Value.record, compact] using ⟨ne_of_control hc (d := '\x7b') (by decide),
    control_not_mem_compactEntries hc h, ne_of_control hc (d := '\x7d') (by decide)⟩

end Json

namespace StepEvent

/-! ## The line of an event -/

/-- An event as a dynamic value; an error that there is not is left out. -/
def toValue (e : StepEvent) : Value :=
  .record ([("index", .nat e.index), ("name", .text e.name), ("success", .flag e.success),
    ("duration_ms", .nat e.duration)] ++ e.error.toList.map fun s => ("error", .text s))

/-- The line on which an event is told. -/
def line (e : StepEvent) : List Char := Script.eventPrefix.toList ++ Json.compact e.toValue

/-- The numbers of an event have 64 bits. -/
structure Fits (e : StepEvent) : Prop where
  index : e.index < bound64
  duration : e.duration < bound64

variable {e : StepEvent}

theorem agrees_decoder : decoder.Agrees := by
  refine Record.agrees ?_
  simp only [List.forall_mem_cons, List.not_mem_nil, false_imp_iff, implies_true, and_true]
  exact ⟨Record.agrees_field (Decoder.agrees_nat _ _) _ _ _,
    Record.agrees_field Decoder.agrees_text _ _ _, Record.agrees_field Decoder.agrees_flag _ _ _,
    Record.agrees_field (Decoder.agrees_nat _ _) _ _ _,
    Record.agrees_field Decoder.agrees_text.option _ _ _⟩

theorem ofValue_toValue (h : e.Fits) : decoder.ofValue false e.toValue = .ok e := by
  obtain ⟨index, name, success, duration, error⟩ := e
  have hindex : Decoder.count.ofValue false (.nat index) = .ok index := Decoder.ofValue_nat h.index
  have hduration : Decoder.nat64.ofValue false (.nat duration) = .ok duration :=
    Decoder.ofValue_nat h.duration
  cases error with
  | none =>
    refine Record.ofValue_written_sublist "struct StepEvent" (by decide)
      (List.sublist_append_left [_, _, _, _] [_]) ?_
      (.field hindex (.field rfl (.field rfl (.field hduration .nil))))
    simp [field]
  | some s =>
    exact Record.ofValue_written "struct StepEvent" (by decide)
      (.field hindex (.field rfl (.field rfl (.field hduration (.field rfl .nil)))))

theorem reads_toValue (h : e.Fits) :
    Json.Reads Json.levelLimit e.toValue (Json.compact e.toValue) := by
  refine Json.Reads.compact (List.append_ne_nil_of_left_ne_nil (List.cons_ne_nil _ _) _) ?_
  simp only [List.forall_mem_append, List.forall_mem_cons, List.not_mem_nil, false_imp_iff,
    implies_true, and_true]
  refine ⟨⟨.nat h.index, .text e.name, .flag e.success, .nat h.duration⟩, fun x hx => ?_⟩
  obtain ⟨s, -, rfl⟩ := List.mem_map.1 hx
  exact .text s

theorem newline_not_mem_line (e : StepEvent) : '\n' ∉ e.line := by
  have hnat : ∀ n : Nat, '\n' ∉ Json.compact (.nat n) := fun n h =>
    absurd (Text.isDigit_of_mem_decimal (n := n) h) (by decide)
  have htext : ∀ s : String, '\n' ∉ Json.compact (.text s) := fun s =>
    Json.control_not_mem_literalText (by decide) s.toList
  have hflag : ∀ b : Bool, '\n' ∉ Json.compact (.flag b) := by decide
  have hjson : '\n' ∉ Json.compact e.toValue := by
    refine Json.control_not_mem_compact (by decide) ?_
    simp only [List.forall_mem_append, List.forall_mem_cons, List.not_mem_nil, false_imp_iff,
      implies_true, and_true]
    refine ⟨⟨hnat _, htext _, hflag _, hnat _⟩, fun x hx => ?_⟩
    obtain ⟨s, -, rfl⟩ := List.mem_map.1 hx
    exact htext s
  intro h
  rcases List.mem_append.1 h with h | h
  · exact absurd h (by decide)
  · exact hjson h

theorem trim_line (e : StepEvent) : Text.trim e.line = e.line := by
  refine Text.trim_eq_self (fun c hc => ?_) fun c hc => ?_
  · have hfirst : e.line.head? = some '_' := rfl
    obtain rfl : '_' = c := Option.some.inj (hfirst.symm.trans hc)
    decide
  · have hlast : e.line.getLast? = some '\x7d' := by
      rw [line, toValue, Value.record, Json.compact, ← List.append_assoc,
        List.getLast?_concat]
    obtain rfl : '\x7d' = c := Option.some.inj (hlast.symm.trans hc)
    decide

/-- The line of an event tells that event. -/
theorem ofLine?_line (h : e.Fits) : ofLine? e.line = some e := by
  have hjson : Text.dropBeginning? Script.eventPrefix.toList (Text.trim e.line) =
      some (Json.compact e.toValue) := by
    rw [trim_line]
    exact Text.dropBeginning?_eq_some.2 rfl
  have hread := Decoder.readJson_reads agrees_decoder (reads_toValue h) (ofValue_toValue h)
  simp only [ofLine?, hjson, hread, bind, Option.bind]

/-! ## Outputs -/

/-- Blanks at the ends of a line do not matter. -/
theorem ofLine?_eq_of_trim {l l' : List Char} (h : Text.trim l = Text.trim l') :
    ofLine? l = ofLine? l' := by
  rw [ofLine?, ofLine?, h]

/-- The events of an output are those of the fields between its line feeds. -/
theorem ofOutput_eq (output : List Char) :
    ofOutput output = (Text.splitOn '\n' output).filterMap ofLine? := by
  have hended : ∀ fields : List (List Char),
      (fields.map Text.dropReturn).filterMap ofLine? = fields.filterMap ofLine? := by
    intro fields
    rw [List.filterMap_map]
    exact List.filterMap_congr fun l _ => ofLine?_eq_of_trim (Text.trim_dropReturn l)
  have hnone : ofLine? [] = none := rfl
  obtain ⟨fields, last, he⟩ : ∃ fields last, Text.splitOn '\n' output = fields ++ [last] :=
    ⟨_, _, (List.dropLast_append_getLast (Text.splitOn_ne_nil '\n' output)).symm⟩
  rw [ofOutput, Text.lines, he]
  simp only [List.dropLast_concat, List.getLast?_concat]
  cases last with
  | nil => simp [hended, hnone]
  | cons c last => simp [hended]

end StepEvent

/-- A line of an output: one on which an event is told, or any other. -/
inductive OutputLine where
  | event (e : StepEvent)
  | other (text : List Char)

/-- How a line ends. -/
inductive LineEnd where
  | feed
  | returnFeed

/-- The characters of the end of a line. -/
def LineEnd.text : LineEnd → List Char
  | .feed => ['\n']
  | .returnFeed => ['\r', '\n']

namespace OutputLine

/-- A line without its end. -/
def text : OutputLine → List Char
  | .event e => e.line
  | .other s => s

/-- The event that is told on a line. -/
def event? : OutputLine → Option StepEvent
  | .event e => some e
  | .other _ => none

/-- The numbers of an event have 64 bits; another line is one line and, trimmed, does not have the
beginning of the line of an event. -/
def Fits : OutputLine → Prop
  | .event e => e.Fits
  | .other s => '\n' ∉ s ∧ ¬ Script.eventPrefix.toList <+: Text.trim s

theorem newline_not_mem_text {l : OutputLine} (h : l.Fits) : '\n' ∉ l.text := by
  cases l with
  | event e => exact e.newline_not_mem_line
  | other s => exact h.1

theorem ofLine?_text {l : OutputLine} (h : l.Fits) : StepEvent.ofLine? l.text = l.event? := by
  cases l with
  | event e => exact StepEvent.ofLine?_line h
  | other s =>
    cases hd : Text.dropBeginning? Script.eventPrefix.toList (Text.trim s) with
    | none => simp only [text, StepEvent.ofLine?, hd, bind, Option.bind, event?]
    | some json => exact absurd ⟨json, (Text.dropBeginning?_eq_some.1 hd).symm⟩ h.2

end OutputLine

/-- The output that consists of some lines with their ends, and of a last line that is not ended,
if there is one. -/
def outputOf (lines : List (OutputLine × LineEnd)) (last : Option OutputLine) : List Char :=
  lines.flatMap (fun (l, ending) => l.text ++ ending.text) ++ (last.map (·.text)).getD []

namespace StepEvent

/-- **Events are read as they are told.** The events of an output are those of its lines, in order,
whatever the other lines are and however the lines end. -/
theorem ofOutput_outputOf (lines : List (OutputLine × LineEnd)) (last : Option OutputLine)
    (hlines : ∀ l ∈ lines, l.1.Fits) (hlast : ∀ l ∈ last, l.Fits) :
    ofOutput (outputOf lines last) =
      (lines.map (·.1) ++ last.toList).filterMap OutputLine.event? := by
  rw [ofOutput_eq]
  induction lines with
  | nil =>
    cases last with
    | none => rfl
    | some l =>
      have hl := hlast l rfl
      have he : outputOf [] (some l) = l.text := rfl
      rw [he, Text.splitOn_of_not_mem (l.newline_not_mem_text hl), List.filterMap_cons,
        l.ofLine?_text hl]
      rfl
  | cons x lines ih =>
    obtain ⟨l, ending⟩ := x
    obtain ⟨hl, hlines⟩ := List.forall_mem_cons.1 hlines
    obtain ⟨field, hfield, hnew, htrim⟩ : ∃ field, l.text ++ ending.text = field ++ ['\n'] ∧
        '\n' ∉ field ∧ Text.trim field = Text.trim l.text := by
      have hnew := l.newline_not_mem_text hl
      cases ending with
      | feed => exact ⟨l.text, rfl, hnew, rfl⟩
      | returnFeed =>
        exact ⟨l.text ++ ['\r'], by simp [LineEnd.text], by simp [hnew],
          Text.trim_append_of_isBlank (by decide) _⟩
    have he : outputOf ((l, ending) :: lines) last = field ++ '\n' :: outputOf lines last := by
      simp only [outputOf, List.flatMap_cons, hfield, List.append_assoc, List.cons_append,
        List.nil_append]
    rw [he, Text.splitOn_append hnew, List.filterMap_cons, ofLine?_eq_of_trim htrim,
      l.ofLine?_text hl, ih hlines, List.map_cons, List.cons_append, List.filterMap_cons]

/-- Two events with the largest numbers, and with line feeds, quotes and the beginning of another
event in their texts, between other lines. -/
theorem ofOutput_outputOf_mixed :
    let e₁ : StepEvent := ⟨0, "say \"a\"\n__E2E__\x7b\x7d", true, bound64 - 1, none⟩
    let e₂ : StepEvent := ⟨bound64 - 1, "é🦀\\", false, 5000, some "\r\n__E2E__\t"⟩
    ofOutput (outputOf [(.other "noise".toList, .feed), (.event e₁, .returnFeed),
      (.other " E2E__".toList, .returnFeed), (.other [], .feed)] (some (.event e₂))) = [e₁, e₂] := by
  refine ofOutput_outputOf _ _ ?_ ?_
  · simp only [List.forall_mem_cons, List.not_mem_nil, false_imp_iff, implies_true, and_true]
    exact ⟨⟨by decide, by decide⟩, ⟨by decide, by decide⟩, ⟨by decide, by decide⟩,
      ⟨by decide, by decide⟩⟩
  · rintro l ⟨⟩
    exact ⟨by decide, by decide⟩

end StepEvent
end Rehearsal
