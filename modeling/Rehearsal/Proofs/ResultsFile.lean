import Rehearsal.Proofs.FileWrites
import Rehearsal.Proofs.JsonLayout
import Rehearsal.Proofs.Utf8Text
import Rehearsal.Suite

/-!
# Results are kept in a file

The report of a suite is written as a JSON text on lines, and no part of it is lost. For the reports
of steps, of scenarios and of suites alike: the dynamic value of a report is plain
(`plain_toValue`), its decoder reads a text as it reads the value (`agrees_decoder`), and what it
reads of the value is the report (`ofValue_toValue`). A report of a suite is therefore read back
from its text, and from the file into which it is put: `SuiteReport.readJson_write`.
-/

namespace Rehearsal

open Data

theorem Json.plain_optionalText {levels : Nat} (s : Option String) :
    Plain levels (BrowserStep.optionalText s) :=
  .orNull fun x _ => .text x

/-! ## Reports of steps -/

namespace StepReport

/-- A report of a step can be written: its time has 64 bits, and the path of its screenshot is a
text. -/
structure Fits (r : StepReport) : Prop where
  duration : r.duration < bound64
  screenshot : ∀ path ∈ r.screenshot, path.isText = true

variable {r : StepReport}

theorem plain_toValue (h : r.Fits) {levels : Nat} : Json.Plain (levels + 1) r.toValue :=
  .record (List.forall_iff_forall_mem.1 ⟨.flag _, .text _, .nat h.duration,
    Json.plain_optionalText _, Json.plain_optionalText _⟩)

theorem agrees_decoder : decoder.Agrees :=
  Record.agrees (List.forall_iff_forall_mem.1
    ⟨Record.agrees_field Decoder.agrees_flag _ _ _,
      Record.agrees_field Decoder.agrees_text _ _ _,
      Record.agrees_field (Decoder.agrees_nat _ _) _ _ _,
      Record.agrees_field Decoder.agrees_text.option _ _ _,
      Record.agrees_field Decoder.agrees_path.option _ _ _⟩)

theorem ofValue_toValue (h : r.Fits) : decoder.ofValue false r.toValue = .ok r := by
  have hduration : Decoder.nat64.ofValue false (.nat r.duration) = .ok r.duration :=
    Decoder.ofValue_nat h.duration
  have herror : (Decoder.option .text).ofValue false (BrowserStep.optionalText r.error) =
      .ok r.error := Decoder.ofValue_option fun s _ => ⟨Decoder.ofValue_text s, nofun⟩
  have hshot : (Decoder.option .path).ofValue false
      (BrowserStep.optionalText (r.screenshot.map SystemPath.shown)) =
        .ok (r.screenshot.map SystemPath.shown) := Decoder.ofValue_option fun _ _ => ⟨rfl, nofun⟩
  have hread : decoder.ofValue false r.toValue =
      .ok { r with screenshot := (r.screenshot.map SystemPath.shown).map SystemPath.ofPath } :=
    Record.ofValue_written "struct StepResult" (by decide)
      (.field rfl (.field rfl (.field hduration (.field herror (.field hshot .nil)))))
  have hback : (r.screenshot.map SystemPath.shown).map SystemPath.ofPath = r.screenshot := by
    rw [Option.map_map]
    exact (Option.map_congr fun path hpath =>
      (SystemPath.isText_iff.1 (h.screenshot path hpath)).symm).trans Option.map_id'
  rw [hread, hback]

end StepReport

/-! ## Reports of scenarios -/

namespace ScenarioReport

/-- A report of a scenario can be written: its time has 64 bits, and its steps can be written. -/
structure Fits (r : ScenarioReport) : Prop where
  duration : r.duration < bound64
  steps : ∀ s ∈ r.steps, s.Fits

variable {r : ScenarioReport}

theorem plain_toValue (h : r.Fits) {levels : Nat} : Json.Plain (levels + 3) r.toValue := by
  have hsteps : Json.Plain (levels + 2) (.list (r.steps.map StepReport.toValue)) :=
    .list (List.forall_mem_map.2 fun s hs => s.plain_toValue (h.steps s hs))
  have hcourses : Json.Plain (levels + 2) (.list (r.courses.map .text)) :=
    .list (List.forall_mem_map.2 fun key _ => .text key)
  exact .record (List.forall_iff_forall_mem.1
    ⟨.text _, .flag _, .nat h.duration, hsteps, hcourses, Json.plain_optionalText _⟩)

theorem agrees_decoder : decoder.Agrees :=
  Record.agrees (List.forall_iff_forall_mem.1
    ⟨Record.agrees_field Decoder.agrees_text _ _ _,
      Record.agrees_field Decoder.agrees_flag _ _ _,
      Record.agrees_field (Decoder.agrees_nat _ _) _ _ _,
      Record.agrees_field StepReport.agrees_decoder.list _ _ _,
      Record.agrees_field Decoder.agrees_text.list _ _ _,
      Record.agrees_field Decoder.agrees_text.option _ _ _⟩)

theorem ofValue_toValue (h : r.Fits) : decoder.ofValue false r.toValue = .ok r := by
  have hduration : Decoder.nat64.ofValue false (.nat r.duration) = .ok r.duration :=
    Decoder.ofValue_nat h.duration
  have hsteps : StepReport.decoder.list.ofValue false (.list (r.steps.map StepReport.toValue)) =
      .ok r.steps := Decoder.ofValue_list fun s hs => s.ofValue_toValue (h.steps s hs)
  have hcourses : Decoder.text.list.ofValue false (.list (r.courses.map .text)) = .ok r.courses :=
    Decoder.ofValue_list fun key _ => Decoder.ofValue_text key
  have herror : (Decoder.option .text).ofValue false (BrowserStep.optionalText r.error) =
      .ok r.error := Decoder.ofValue_option fun s _ => ⟨Decoder.ofValue_text s, nofun⟩
  exact Record.ofValue_written "struct TestResult" (by decide)
    (.field rfl (.field rfl (.field hduration (.field hsteps (.field hcourses
      (.field herror .nil))))))

end ScenarioReport

/-! ## Reports of suites -/

namespace SuiteReport

/-- A report of a suite can be written: its numbers have 64 bits, and its scenarios can be written. -/
structure Fits (r : SuiteReport) : Prop where
  total : r.total < bound64
  passed : r.passed < bound64
  failed : r.failed < bound64
  skipped : r.skipped < bound64
  duration : r.duration < bound64
  results : ∀ s ∈ r.results, s.Fits

variable {r : SuiteReport}

theorem plain_toValue (h : r.Fits) {levels : Nat} : Json.Plain (levels + 5) r.toValue := by
  have hresults : Json.Plain (levels + 4) (.list (r.results.map ScenarioReport.toValue)) :=
    .list (List.forall_mem_map.2 fun s hs => s.plain_toValue (h.results s hs))
  exact .record (List.forall_iff_forall_mem.1 ⟨.text _, .nat h.total, .nat h.passed,
    .nat h.failed, .nat h.skipped, .nat h.duration, hresults⟩)

theorem agrees_decoder : decoder.Agrees := by
  have count (name : String) (put : Nat → SuiteReport → SuiteReport) :
      (field name .required .count put).read.Agrees :=
    Record.agrees_field (Decoder.agrees_nat _ _) _ _ _
  exact Record.agrees (List.forall_iff_forall_mem.1
    ⟨Record.agrees_field (Decoder.agrees_parsed _ _) _ _ _, count _ _, count _ _, count _ _,
      count _ _, Record.agrees_field (Decoder.agrees_nat _ _) _ _ _,
      Record.agrees_field ScenarioReport.agrees_decoder.list _ _ _⟩)

theorem ofValue_instant {t : Instant} (h : Instant.parse t.text = .ok t) :
    instantDecoder.ofValue false (.text (String.ofList t.text)) = .ok t := by
  simp only [instantDecoder, Decoder.parsed, Decoder.ofScalar, String.toList_ofList, h]

theorem ofValue_toValue (h : r.Fits) (ht : Instant.parse r.startedAt.text = .ok r.startedAt) :
    decoder.ofValue false r.toValue = .ok r := by
  have hcount {n : Nat} (hn : n < bound64) : Decoder.count.ofValue false (.nat n) = .ok n :=
    Decoder.ofValue_nat hn
  have hduration : Decoder.nat64.ofValue false (.nat r.duration) = .ok r.duration :=
    Decoder.ofValue_nat h.duration
  have hresults : ScenarioReport.decoder.list.ofValue false
      (.list (r.results.map ScenarioReport.toValue)) = .ok r.results :=
    Decoder.ofValue_list fun s hs => s.ofValue_toValue (h.results s hs)
  exact Record.ofValue_written "struct TestSuiteResult" (by decide)
    (.field (ofValue_instant ht) (.field (hcount h.total) (.field (hcount h.passed)
      (.field (hcount h.failed) (.field (hcount h.skipped) (.field hduration
        (.field hresults .nil)))))))

theorem readJson_text (h : r.Fits) (ht : Instant.parse r.startedAt.text = .ok r.startedAt) :
    decoder.readJson r.text = .ok r :=
  Decoder.readJson_pretty agrees_decoder (plain_toValue h) (ofValue_toValue h ht)

/-- A report is put into a folder, and read back from its file there. -/
def Kept (r : SuiteReport) (files : FileTree) (dir : Path) : Prop :=
  ∃ after text, r.write files dir = .ok (Path.join dir fileName, after) ∧
    after.readText (Path.join dir fileName) = .ok text ∧ decoder.readJson text.toList = .ok r

theorem hasTextPaths_of_fits (h : r.Fits) : r.hasTextPaths = true := by
  unfold hasTextPaths
  simp only [List.all_eq_true, Option.all_eq_true]
  exact fun s hs step hstep => ((h.results s hs).steps step hstep).screenshot

/-- A report is kept if the folder can be made and its file written. -/
theorem kept_of_write (hr : r.Fits) (h : decoder.readJson r.text = .ok r)
    {files made after : FileTree} {dir : Path} (hmade : files.makeFolders dir = .ok made)
    (hwrite : made.write (Path.join dir fileName) (Text.utf8 r.text) = .ok after) :
    r.Kept files dir := by
  refine ⟨after, String.ofList r.text, ?_, FileTree.readText_write hwrite, ?_⟩
  · simp only [write, hmade, hasTextPaths_of_fits hr, if_true, hwrite]
    rfl
  · rw [String.toList_ofList]
    exact h

/-- **Results are kept.** A report whose numbers have 64 bits and whose paths are texts, and whose
instant can be read, is read back from its text. It is kept in a folder, or the files refuse whatever
report with such paths is put there; they do not refuse any in a folder that is there, unless another
folder has the name of the file or its path is too long. -/
theorem readJson_write (r : SuiteReport) (hr : r.Fits)
    (ht : Instant.parse r.startedAt.text = .ok r.startedAt) :
    decoder.readJson r.text = .ok r ∧ ∀ (files : FileTree) (dir : Path),
      (r.Kept files dir ∨ ∃ f, ∀ s : SuiteReport, s.hasTextPaths = true →
        s.write files dir = .error (.file f)) ∧
      (files.isFolder dir = true → files.isFolder (Path.join dir fileName) = false →
        FileTree.isTooLong (Path.join dir fileName) = false → r.Kept files dir) := by
  have hread := readJson_text hr ht
  refine ⟨hread, fun files dir => ⟨?_, fun hdir hno hshort => ?_⟩⟩
  · rcases hmade : files.makeFolders dir with f | made
    · refine .inr ⟨f, fun s _ => ?_⟩
      simp only [write, hmade]
      rfl
    obtain ⟨f, hf⟩ | ⟨place, -, -, -, -, hput⟩ := made.write_cases (Path.join dir fileName)
    · refine .inr ⟨f, fun s hs => ?_⟩
      simp only [write, hmade, hs, if_true, hf]
      rfl
    · exact .inl (kept_of_write hr hread hmade (hput (Text.utf8 r.text)))
  · obtain ⟨entries, hfound⟩ := FileTree.isFolder_iff.1 hdir
    obtain ⟨after, hwrite⟩ :=
      FileTree.write_join hfound (by decide) hshort hno (Text.utf8 r.text)
    exact kept_of_write hr hread (FileTree.makeFolders_of_find hfound) hwrite

/-- A suite with the largest numbers, with characters of all lengths, quotes and control characters
in its texts, and with empty lists, kept in a folder that is there. -/
theorem readJson_write_unicode :
    let r : SuiteReport := ⟨⟨1767225599, 999999999⟩, bound64 - 1, 0, bound64 - 1, 0, bound64 - 1,
      [⟨"say \"a\"\n🦀", false, bound64 - 1,
          [⟨true, "screenshot:é", 0, none, some ("shots/é\\🦀.png" : Path)⟩,
            ⟨false, "click:#\x08", bound64 - 1, some "\r\n\x7f\u2028", none⟩],
          ["course-v1:Ω+1+\\n"], some ""⟩,
        ⟨"", true, 0, [], [], none⟩]⟩
    decoder.readJson r.text = .ok r ∧ r.Kept ⟨.folder [("out", .folder [])], []⟩ "/out" := by
  intro r
  have hinstant : Instant.parse (Instant.text ⟨1767225599, 999999999⟩) =
      .ok ⟨1767225599, 999999999⟩ := by rfl
  have hresults : ∀ s ∈ r.results, s.Fits := by
    simp only [r, List.forall_mem_cons, List.not_mem_nil, false_imp_iff, implies_true, and_true]
    refine ⟨⟨by decide, ?_⟩, by decide, nofun⟩
    simp only [List.forall_mem_cons, List.not_mem_nil, false_imp_iff, implies_true, and_true]
    exact ⟨⟨by decide, by rintro _ ⟨⟩; exact SystemPath.isText_ofPath _⟩, ⟨by decide, nofun⟩⟩
  obtain ⟨hread, hkept⟩ := readJson_write r
    ⟨by decide, by decide, by decide, by decide, by decide, hresults⟩ hinstant
  exact ⟨hread, (hkept _ _).2 (by decide +kernel) (by decide +kernel) (by decide +kernel)⟩

end SuiteReport
end Rehearsal
