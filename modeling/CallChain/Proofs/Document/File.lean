import CallChain.Document.File
import CallChain.Proofs.Document.Json
import CallChain.Proofs.FileTree

/-! Saved documents: a file holds the form that its path asks for, and is loaded from that form. -/

namespace CallChain

/-- The text of the bytes of a text is the text, so nothing of it is replaced. -/
theorem Text.ofBytesLossy_toBytes (text : String) :
    Text.ofBytesLossy (Text.toBytes text) = text := by
  rw [Text.ofBytesLossy, Text.ofBytes?_toBytes]

namespace Document

variable {document loaded : Document}

/-- Whatever is loaded from bytes is valid. -/
theorem validate_of_ofBytes {bytes : Bytes} (read : ofBytes bytes = .ok loaded) :
    loaded.validate = .ok () := by
  unfold ofBytes at read
  split at read
  next => cases read
  next document _ _ =>
    obtain ⟨valid, rfl⟩ := accepted_eq_ok_iff.mp read
    exact valid

/-- A document in memory is loaded from its binary form exactly when it is valid. -/
theorem ofBytes_toBytes_eq_ok_iff (addressable : document.Addressable) :
    ofBytes document.toBytes = .ok document ↔ document.validate = .ok () := by
  constructor
  -- Whatever the bytes hold, only valid documents come out of them.
  · exact validate_of_ofBytes
  · intro valid
    simpa using ofBytes_toBytes_append valid addressable []

/-- Whatever is loaded from a file is valid. -/
theorem validate_of_load {path : String} {files : FileTree} (read : load path files = .ok loaded) :
    loaded.validate = .ok () := by
  unfold load at read
  split at read
  next => cases read
  next content _ =>
    -- Both forms end in the same check.
    unfold ofContent at read
    split at read
    next => exact (ofText_eq_ok_iff.mp read).2
    next => exact validate_of_ofBytes read

/-- A document that was saved is loaded from the form that it was saved in. -/
theorem load_of_save {path : String} {files written : FileTree}
    (saved : document.save path files = .ok written) :
    load path written = ofContent path (document.contentFor path) := by
  unfold save at saved
  split at saved
  next => cases saved
  next after done =>
    obtain rfl := Except.ok.inj saved
    rw [load, FileTree.read_write done]

/-- Whether a document in memory has all that the form for a path can hold: a text holds no
infinities and no NaNs, and it changes floats that do not come back from their digits. -/
def SuitsPath (document : Document) (path : String) : Prop :=
  document.Addressable ∧
    (isJsonPath path → ∀ x ∈ document.floats, x.isFinite ∧ x.Stable)

instance (path : String) : Decidable (document.SuitsPath path) :=
  inferInstanceAs (Decidable (_ ∧
    (isJsonPath path → ∀ x ∈ document.floats, x.isFinite ∧ x.Stable)))

/-- A document that was saved is loaded exactly when it is valid. -/
theorem load_of_save_eq_ok_iff {path : String} {files written : FileTree}
    (suits : document.SuitsPath path) (saved : document.save path files = .ok written) :
    load path written = .ok document ↔ document.validate = .ok () := by
  rw [load_of_save saved, ofContent, contentFor]
  -- The path that is loaded is the one that was saved to, so it asks for the same form.
  by_cases json : isJsonPath path = true
  · have floats := suits.2 json
    rw [if_pos json, if_pos json, Text.ofBytesLossy_toBytes]
    exact ofText_toText_eq_ok_iff (fun x own => (floats x own).1) fun x own => (floats x own).2
  · rw [if_neg json, if_neg json]
    exact ofBytes_toBytes_eq_ok_iff suits.1

end Document

end CallChain
