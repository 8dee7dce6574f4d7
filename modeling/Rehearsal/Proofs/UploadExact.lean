import Rehearsal.Browser.Page
import Rehearsal.Proofs.Base64Text
import Rehearsal.Proofs.Places

/-!
# Uploads are exact

An upload puts the bytes of one file into a page, or leaves the page as it is (`Page.upload_exact`).
The bytes go through two encodings on their way: the fixture may be handed over in base64, and the
step holds them in base64. Both are read back without loss, so that it makes no difference how the
fixture is handed over (`EncodedFixture.decode_encode`).
-/

namespace Rehearsal

/-! ## Fixtures -/

/-- A fixture is read back from any encoding. -/
theorem EncodedFixture.decode_encode (encoding : FixtureEncoding) (name : String)
    (bytes : List UInt8) : (encode encoding name bytes).decode = .ok bytes := by
  cases encoding with
  | binary => rfl
  | base64 => simp only [encode, decode, Base64.trim_encode, Base64.decode_encode]

namespace FixtureStore

/-- A name stands for a file with some bytes: all its steps stay inside the store, and it leads to
that file. -/
structure Holds (store : FixtureStore) (files : FileTree) (name : String) (bytes : List UInt8) :
    Prop where
  inside : ∀ c ∈ Path.components name, staysInside c = true
  file : files.find (Path.join store.root name) = .ok (.file bytes)

variable {store : FixtureStore} {files : FileTree} {name : String} {bytes : List UInt8}

theorem path_ok {p : Path} : store.path files name = .ok p ↔
    (∀ c ∈ Path.components name, staysInside c = true) ∧ p = Path.join store.root name ∧
      files.isFile p = true := by
  unfold path
  rw [← List.all_eq_true]
  split
  · rename_i hs
    simp only [hs, true_and]
    split
    · rename_i hf
      constructor
      · intro h
        cases h
        exact ⟨rfl, hf⟩
      · rintro ⟨rfl, -⟩
        rfl
    · rename_i hf
      constructor
      · intro h
        cases h
      · rintro ⟨rfl, h⟩
        exact absurd h hf
  · rename_i hs
    simp [hs]

theorem isFile_iff {p : Path} : files.isFile p = true ↔ ∃ b, files.find p = .ok (.file b) := by
  unfold FileTree.isFile
  split
  · rename_i b h
    exact ⟨fun _ => ⟨b, h⟩, fun _ => rfl⟩
  · rename_i h
    exact ⟨fun hc => absurd hc (by simp), fun ⟨b, hb⟩ => absurd hb (h b)⟩

theorem read_ok : store.read files name = .ok bytes ↔ store.Holds files name bytes := by
  constructor
  · intro h
    unfold read at h
    rcases hp : store.path files name with _ | p <;> simp only [hp, bind, Except.bind] at h
    · cases h
    · obtain ⟨hs, rfl, hf⟩ := path_ok.1 hp
      obtain ⟨b, hb⟩ := isFile_iff.1 hf
      rw [FileTree.read_ok.2 hb] at h
      cases h
      exact ⟨hs, hb⟩
  · intro h
    have hp : store.path files name = .ok (Path.join store.root name) :=
      path_ok.2 ⟨h.inside, rfl, isFile_iff.2 ⟨bytes, h.file⟩⟩
    simp only [read, hp, bind, Except.bind, FileTree.read_ok.2 h.file, pure, Except.pure]

end FixtureStore

/-- How a fixture is handed over makes no difference to the file that is made of it. -/
theorem Blob.prepare_eq (store : FixtureStore) (settings : UploadSettings) (files : FileTree)
    (fixture : String) (encoding : FixtureEncoding) :
    prepare store settings files fixture encoding = (store.read files fixture).map fun bytes =>
      ⟨bytes, settings.filename.getD (uploadName fixture), settings.mimeType⟩ := by
  unfold prepare FixtureStore.load
  rcases store.read files fixture with f | bytes
  · rfl
  · simp only [bind, Except.bind, pure, Except.pure, EncodedFixture.decode_encode, Except.map]

/-! ## Pages -/

/-- **Uploads are exact.** If the name of a fixture stands for a file, its upload puts one step at
the end of the queue, with the given selector, the name and the type of the settings, and a text
from which exactly the bytes of that file are read; otherwise it fails, and the page is as it was.
Both are the same for all encodings in which the fixture may be handed over. -/
theorem Page.upload_exact (page : Page) (store : FixtureStore) (settings : UploadSettings)
    (files : FileTree) (selector fixture : String) :
    (∃ bytes content, store.Holds files fixture bytes ∧
      Base64.decode content.toList = .ok bytes ∧
      ∀ encoding, page.upload store settings files selector fixture encoding =
        (.ok (), { page with steps := page.steps ++ [.injectFile selector
          (settings.filename.getD (uploadName fixture)) settings.mimeType content] })) ∨
    ((∀ bytes, ¬store.Holds files fixture bytes) ∧
      ∃ f, ∀ encoding, page.upload store settings files selector fixture encoding =
        (.error f, page)) := by
  rcases hr : store.read files fixture with f | bytes
  · refine .inr ⟨fun bytes hb => ?_, f, fun encoding => ?_⟩
    · rw [FixtureStore.read_ok.2 hb] at hr
      cases hr
    · simp only [upload, uploadTo, Blob.prepare_eq, hr, Except.map]
  · refine .inl ⟨bytes, String.ofList (Base64.encode bytes), FixtureStore.read_ok.1 hr, ?_,
      fun encoding => ?_⟩
    · rw [String.toList_ofList, Base64.decode_encode]
    · simp only [upload, uploadTo, Blob.prepare_eq, hr, Except.map]
      rfl

end Rehearsal
