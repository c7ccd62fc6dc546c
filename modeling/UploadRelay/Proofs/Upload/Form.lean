import UploadRelay.Upload.Form
-- The file under a name in a form is the first part of that name that is sent as a file.

namespace UploadRelay.Upload

structure IsFile (name : Text) (p : Multipart.Part) (file : FilePart) : Prop where
  name : p.name? = .ok (some name)
  fileName : p.fileName? = .ok (some file.fileName)
  nonempty : file.fileName ≠ []
  content : p.body = file.content

def FirstFile (name : Text) (parts : List Multipart.Part) (file : FilePart) : Prop :=
  ∃ before p after, parts = before ++ p :: after ∧ IsFile name p file ∧
    ∀ q ∈ before, ∀ other, ¬ IsFile name q other

theorem Form.file?_addFile_same {f : Form} {name : Text} (absent : f.file? name = none) (file : FilePart) :
    (f.addFile name file).file? name = some file := by
  have none : f.files.find? (fun e => e.1 == name) = none := Option.map_eq_none_iff.mp absent
  simp [file?, addFile, List.find?_append, none]

theorem Form.file?_addFile_other (f : Form) {name other : Text} (apart : other ≠ name) (file : FilePart) :
    (f.addFile name file).file? other = f.file? other := by
  have none : [(name, file)].find? (fun e => e.1 == other) = none := by simp [Ne.symm apart]
  simp [file?, addFile, List.find?_append, none]

-- What a part that is read does to a form: it has no name, it is no file, there is a file under
-- its name already, or its file is added.
inductive Adds (form : Form) (p : Multipart.Part) : Form → Prop where
  | unnamed (named : p.name? = .ok none) : Adds form p form
  | value {form' : Form} {partName : Text} {found : Option Text} (named : p.name? = .ok (some partName))
      (fileNamed : p.fileName? = .ok found) (empty : found = none ∨ found = some [])
      (same : form'.files = form.files) : Adds form p form'
  | taken {partName : Text} (named : p.name? = .ok (some partName)) (taken : (form.file? partName).isSome) :
      Adds form p form
  | file {partName fileName : Text} (named : p.name? = .ok (some partName))
      (fileNamed : p.fileName? = .ok (some fileName)) (nonempty : fileName ≠ [])
      (absent : form.file? partName = none) : Adds form p (form.addFile partName ⟨fileName, p.body⟩)

def Unfiled (p : Multipart.Part) : Prop := p.fileName? = .ok none ∨ p.fileName? = .ok (some [])

inductive PartStep (trouble : Nat → Option (List UInt8 × Fault)) (form : Form) (copies : Nat) (p : Multipart.Part) :
    Except Ending Form × Nat → Prop where
  | nameFault {why : Multipart.PartFault} (failed : p.name? = .error why) :
      PartStep trouble form copies p (.error (partFault why), copies)
  | unnamed (named : p.name? = .ok none) : PartStep trouble form copies p (.ok form, copies)
  | fileNameFault {why : Multipart.PartFault} (failed : p.fileName? = .error why) :
      PartStep trouble form copies p (.error (partFault why), copies)
  | fileKnown {name fileName : Text} (named : p.name? = .ok (some name)) (fileNamed : p.fileName? = .ok (some fileName))
      (nonempty : fileName ≠ []) (known : (form.file? name).isSome) : PartStep trouble form copies p (.ok form, copies)
  | copyFault {written : List UInt8} {fault : Fault} (fails : trouble copies = some (written, fault)) :
      PartStep trouble form copies p (.error (.fault fault), copies + 1)
  | file {name fileName : Text} (named : p.name? = .ok (some name)) (fileNamed : p.fileName? = .ok (some fileName))
      (nonempty : fileName ≠ []) (absent : form.file? name = none) :
      PartStep trouble form copies p (.ok (form.addFile name ⟨fileName, p.body⟩), copies + 1)
  | valueKnown {name : Text} (named : p.name? = .ok (some name)) (unfiled : Unfiled p) (known : (form.value? name).isSome) :
      PartStep trouble form copies p (.ok form, copies)
  | textFault {why : Multipart.PartFault} (failed : p.text = .error why) :
      PartStep trouble form copies p (.error (partFault why), copies)
  | value {name t : Text} (named : p.name? = .ok (some name)) (unfiled : Unfiled p) (absent : form.value? name = none)
      (text : p.text = .ok t) : PartStep trouble form copies p (.ok (form.addValue name t), copies)

theorem addPart_step (trouble : Nat → Option (List UInt8 × Fault)) (form : Form) (copies : Nat) (p : Multipart.Part) :
    PartStep trouble form copies p (addPart trouble form copies p) := by
  unfold addPart
  split
  · rename_i failed
    exact .nameFault failed
  · rename_i unnamed
    exact .unnamed unnamed
  · rename_i name named
    split
    · rename_i failed
      exact .fileNameFault failed
    · rename_i c rest fileNamed
      split
      · rename_i known
        exact .fileKnown named fileNamed (List.cons_ne_nil c rest) known
      · rename_i absent
        split
        · rename_i fails
          exact .copyFault fails
        · exact .file named fileNamed (List.cons_ne_nil c rest) (Option.not_isSome_iff_eq_none.mp absent)
    · rename_i found notFile fileNamed
      have unfiled : Unfiled p := by
        rcases found with _ | _ | ⟨c, rest⟩
        · exact Or.inl fileNamed
        · exact Or.inr fileNamed
        · exact absurd rfl (notFile c rest)
      split
      · rename_i known
        exact .valueKnown named unfiled known
      · rename_i absent
        split
        · rename_i failed
          exact .textFault failed
        · rename_i t text
          exact .value named unfiled (Option.not_isSome_iff_eq_none.mp absent) text

theorem Unfiled.found {p : Multipart.Part} (unfiled : Unfiled p) :
    ∃ found, p.fileName? = .ok found ∧ (found = none ∨ found = some []) := by
  rcases unfiled with none | empty
  · exact ⟨_, none, Or.inl rfl⟩
  · exact ⟨_, empty, Or.inr rfl⟩

theorem addPart_adds {trouble : Nat → Option (List UInt8 × Fault)} {form form' : Form} {copies copies' : Nat}
    {p : Multipart.Part} (added : addPart trouble form copies p = (.ok form', copies')) : Adds form p form' := by
  have step := addPart_step trouble form copies p
  rw [added] at step
  cases step with
  | unnamed named => exact .unnamed named
  | fileKnown named _ _ known => exact .taken named known
  | file named fileNamed nonempty absent => exact .file named fileNamed nonempty absent
  | valueKnown named unfiled _ =>
    obtain ⟨found, fileNamed, empty⟩ := unfiled.found
    exact .value named fileNamed empty rfl
  | value named unfiled _ _ =>
    obtain ⟨found, fileNamed, empty⟩ := unfiled.found
    exact .value named fileNamed empty rfl

theorem Form.file?_of_files {f f' : Form} (same : f'.files = f.files) (name : Text) : f'.file? name = f.file? name := by
  rw [file?, file?, same]

theorem Adds.absent {form form' : Form} {p : Multipart.Part} {name : Text} (adds : Adds form p form')
    (absent : form.file? name = none) :
    (form'.file? name = none ∧ ∀ file, ¬ IsFile name p file) ∨ ∃ file, form'.file? name = some file ∧ IsFile name p file := by
  cases adds with
  | unnamed named =>
    refine Or.inl ⟨absent, ?_⟩
    intro file isFile
    cases named.symm.trans isFile.name
  | value named fileNamed empty same =>
    refine Or.inl ⟨(Form.file?_of_files same name).trans absent, ?_⟩
    intro file isFile
    cases fileNamed.symm.trans isFile.fileName
    rcases empty with none | blank
    · cases none
    · exact isFile.nonempty (Option.some.inj blank)
  | taken named taken =>
    refine Or.inl ⟨absent, ?_⟩
    intro file isFile
    cases named.symm.trans isFile.name
    rw [absent] at taken
    cases taken
  | @file partName fileName named fileNamed nonempty free =>
    by_cases same : partName = name
    · subst same
      exact Or.inr ⟨_, form.file?_addFile_same absent _, ⟨named, fileNamed, nonempty, rfl⟩⟩
    · refine Or.inl ⟨(form.file?_addFile_other (Ne.symm same) _).trans absent, ?_⟩
      intro file isFile
      cases named.symm.trans isFile.name
      exact same rfl

theorem Adds.present {form form' : Form} {p : Multipart.Part} {name : Text} {file : FilePart} (adds : Adds form p form')
    (present : form.file? name = some file) : form'.file? name = some file := by
  cases adds with
  | unnamed _ => exact present
  | value _ _ _ same => exact (Form.file?_of_files same name).trans present
  | taken _ _ => exact present
  | @file partName fileName named fileNamed nonempty free =>
    have apart : name ≠ partName := by
      intro same
      rw [same, free] at present
      cases present
    exact (form.file?_addFile_other apart _).trans present

theorem addParts_present {trouble : Nat → Option (List UInt8 × Fault)} {last : Ending} {form : Form} {copies : Nat}
    {parts : List Multipart.Part} {name : Text} {file : FilePart} (present : form.file? name = some file) :
    (addParts trouble last form copies parts).form.file? name = some file := by
  induction parts generalizing form copies with
  | nil => exact present
  | cons p rest ih =>
    unfold addParts
    split
    · exact present
    · rename_i added
      exact ih ((addPart_adds added).present present)

theorem addParts_first {trouble : Nat → Option (List UInt8 × Fault)} {last : Ending} {form : Form} {copies : Nat}
    {parts : List Multipart.Part} {name : Text} {file : FilePart} (absent : form.file? name = none)
    (found : (addParts trouble last form copies parts).form.file? name = some file) : FirstFile name parts file := by
  induction parts generalizing form copies with
  | nil =>
    rw [addParts, absent] at found
    cases found
  | cons p rest ih =>
    unfold addParts at found
    split at found
    · rw [absent] at found
      cases found
    · rename_i form' copies' added
      rcases (addPart_adds added).absent absent with ⟨still, notFile⟩ | ⟨file', present, isFile⟩
      · obtain ⟨before, q, after, shape, isFile, none⟩ := ih still found
        refine ⟨p :: before, q, after, by rw [shape]; rfl, isFile, ?_⟩
        intro x member
        rcases List.mem_cons.mp member with here | there
        · exact here ▸ notFile
        · exact none x there
      · have same : file' = file := Option.some.inj ((addParts_present present).symm.trans found)
        subst same
        exact ⟨[], p, rest, rfl, isFile, fun x member => by cases member⟩

theorem readForm_first {trouble : Nat → Option (List UInt8 × Fault)} {copies : Nat} {r : Http.Request} {name : Text}
    {file : FilePart} (found : (readForm trouble copies r).form.file? name = some file) :
    ∃ boundary, boundary? r.contentType = some boundary ∧
      FirstFile name (Multipart.parts (Utf8.encode boundary) r.body).parts file := by
  have none : ∀ {ending copies}, ¬ (Reading.mk .empty ending copies).form.file? name = some file := by
    intro ending copies there
    cases there
  unfold readForm at found
  split at found
  · exact absurd found none
  · split at found
    · exact absurd found none
    · split at found
      · exact absurd found none
      · split at found
        · exact absurd found none
        · unfold readParts at found
          split at found
          · exact absurd found none
          · rename_i boundary bounded
            split at found
            · exact absurd found none
            · split at found
              · exact absurd found none
              · exact ⟨boundary, bounded, addParts_first rfl found⟩

end UploadRelay.Upload
