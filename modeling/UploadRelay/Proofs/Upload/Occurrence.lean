import UploadRelay.Proofs.Upload.Broken
import UploadRelay.Proofs.Upload.Saving
-- Forms that are read to their end: under each name the first file and the first text, whatever other parts say. Asking
-- what a form holds, and whether it is an upload, leaves it as it is for all later questions and for saving.

namespace UploadRelay.Upload

open Multipart Work

def sentAsFile (name : Text) (p : Part) : Bool :=
  match p.name?, p.fileName? with
  | .ok (some partName), .ok (some (_ :: _)) => partName == name
  | _, _ => false

def sentAsText (name : Text) (p : Part) : Bool :=
  match p.name?, p.fileName? with
  | .ok (some partName), .ok none => partName == name
  | .ok (some partName), .ok (some []) => partName == name
  | _, _ => false

def fileOf (p : Part) : FilePart :=
  match p.fileName? with
  | .ok (some fileName) => ⟨fileName, p.body⟩
  | _ => ⟨[], p.body⟩

def textOf (p : Part) : Text :=
  match p.text with
  | .ok t => t
  | .error _ => []

theorem sentAsText_iff {name : Text} {p : Part} : sentAsText name p = true ↔ p.name? = .ok (some name) ∧ Unfiled p := by
  constructor
  · intro sent
    unfold sentAsText at sent
    split at sent
    · rename_i named fileNamed
      cases beq_iff_eq.mp sent
      exact ⟨named, Or.inl fileNamed⟩
    · rename_i named fileNamed
      cases beq_iff_eq.mp sent
      exact ⟨named, Or.inr fileNamed⟩
    · cases sent
  · rintro ⟨named, fileNamed | fileNamed⟩ <;> simp [sentAsText, named, fileNamed]

theorem IsValue.sent {name t : Text} {p : Part} (isValue : IsValue name p t) : sentAsText name p = true :=
  sentAsText_iff.mpr ⟨isValue.name, isValue.unfiled⟩

variable {trouble : Nat → Option (List UInt8 × Fault)}

-- A form in which the first part of each kind and name is the one that counts.
structure FirstWins (parts : List Part) (form : Form) : Prop where
  files : ∀ name, form.file? name = (parts.find? (sentAsFile name)).map fileOf
  values : ∀ name, form.value? name = (parts.find? (sentAsText name)).map textOf
  texts : ∀ name p, parts.find? (sentAsText name) = some p → p.text = .ok (textOf p)

theorem FirstWins.isUpload_iff {parts : List Part} {form : Form} (wins : FirstWins parts form) : isUpload form = true ↔
    (∃ p, parts.find? (sentAsFile fileField) = some p) ∧
      ∃ p, parts.find? (sentAsText payloadField) = some p ∧ textOf p ≠ [] := by
  rw [Upload.isUpload_iff, wins.files, wins.values]
  cases parts.find? (sentAsFile fileField) <;> cases parts.find? (sentAsText payloadField) <;> simp

variable {N : Type}

inductive Question where
  | matching
  | reading

inductive Answer where
  | matching (isUpload : Bool)
  | reading (form : Form)

def Question.answer (form : Form) : Question → Answer
  | .matching => .matching (isUpload form)
  | .reading => .reading form

end UploadRelay.Upload
