import UploadRelay.Proofs.Upload.Form
import UploadRelay.Proofs.Upload.Save
-- Bodies whose reading stops before they are a form: what is taken for an upload depends on the
-- parts in front of that place only, and on the first of each field among them.

namespace UploadRelay.Upload

open Multipart Work

structure IsValue (name : Text) (p : Part) (t : Text) : Prop where
  name : p.name? = .ok (some name)
  unfiled : Unfiled p
  text : p.text = .ok t

def First {α : Type} (Is : Part → α → Prop) (parts : List Part) (a : α) : Prop :=
  ∃ before p after, parts = before ++ p :: after ∧ Is p a ∧ ∀ q ∈ before, ∀ other, ¬ Is q other

def FirstValue (name : Text) (parts : List Part) (t : Text) : Prop := First (IsValue name) parts t

theorem first_cons_apart {α : Type} {Is : Part → α → Prop} {p : Part} (apart : ∀ other, ¬ Is p other) (parts : List Part)
    (a : α) : First Is (p :: parts) a ↔ First Is parts a := by
  constructor
  · rintro ⟨before, q, after, shape, isOne, none⟩
    cases before with
    | nil =>
      cases shape
      exact absurd isOne (apart a)
    | cons x before =>
      cases shape
      exact ⟨before, q, after, rfl, isOne, fun y member => none y (List.mem_cons_of_mem _ member)⟩
  · rintro ⟨before, q, after, rfl, isOne, none⟩
    exact ⟨p :: before, q, after, rfl, isOne, List.forall_mem_cons.mpr ⟨apart, none⟩⟩

theorem first_cons_here {α : Type} {Is : Part → α → Prop} {p : Part} {a : α} (isOne : Is p a)
    (unique : ∀ {p a b}, Is p a → Is p b → a = b) (parts : List Part) (b : α) : First Is (p :: parts) b ↔ a = b := by
  constructor
  · rintro ⟨before, q, after, shape, isOther, none⟩
    cases before with
    | nil =>
      cases shape
      exact unique isOne isOther
    | cons x before =>
      cases shape
      exact absurd isOne (none _ List.mem_cons_self a)
  · rintro rfl
    exact ⟨[], p, parts, rfl, isOne, fun q member => (List.not_mem_nil member).elim⟩

theorem Form.value?_addValue_same {f : Form} {name : Text} (absent : f.value? name = none) (t : Text) :
    (f.addValue name t).value? name = some t := by
  have none : f.values.find? (fun e => e.1 == name) = none := Option.map_eq_none_iff.mp absent
  simp [value?, addValue, List.find?_append, none]

theorem Form.value?_addValue_other (f : Form) {name other : Text} (apart : other ≠ name) (t : Text) :
    (f.addValue name t).value? other = f.value? other := by
  have none : [(name, t)].find? (fun e => e.1 == other) = none := by simp [Ne.symm apart]
  simp [value?, addValue, List.find?_append, none]

variable {trouble : Nat → Option (List UInt8 × Fault)}

-- What a part that is read does to the texts of a form: it is no text, or one of a name that is
-- there already, or its text is added.
inductive AddsValue (form : Form) (p : Part) : Form → Prop where
  | apart {form' : Form} (apart : ∀ name t, ¬ IsValue name p t) (same : form'.values = form.values) : AddsValue form p form'
  | known {name : Text} (named : p.name? = .ok (some name)) (known : (form.value? name).isSome) : AddsValue form p form
  | value {name t : Text} (isValue : IsValue name p t) (absent : form.value? name = none) :
      AddsValue form p (form.addValue name t)

theorem addPart_addsValue {form form' : Form} {copies copies' : Nat} {p : Part}
    (added : addPart trouble form copies p = (.ok form', copies')) : AddsValue form p form' := by
  have filed : ∀ {fileName}, p.fileName? = .ok (some fileName) → fileName ≠ [] → ∀ name t, ¬ IsValue name p t := by
    intro fileName fileNamed nonempty name t isValue
    rcases isValue.unfiled with none | empty
    · cases fileNamed.symm.trans none
    · cases fileNamed.symm.trans empty
      exact nonempty rfl
  have step := addPart_step trouble form copies p
  rw [added] at step
  cases step with
  | unnamed unnamed =>
    refine .apart ?_ rfl
    intro name t isValue
    cases unnamed.symm.trans isValue.name
  | fileKnown _ fileNamed nonempty _ => exact .apart (filed fileNamed nonempty) rfl
  | file _ fileNamed nonempty _ => exact .apart (filed fileNamed nonempty) rfl
  | valueKnown named _ known => exact .known named known
  | value named unfiled absent text => exact .value ⟨named, unfiled, text⟩ absent

structure Keeps {α : Type} (trouble : Nat → Option (List UInt8 × Fault)) (look : Form → Option α) (Is : Part → α → Prop) :
    Prop where
  absent : ∀ {form form' copies copies' p}, addPart trouble form copies p = (.ok form', copies') → look form = none →
    (look form' = none ∧ ∀ a, ¬ Is p a) ∨ ∃ a, look form' = some a ∧ Is p a
  present : ∀ {form form' copies copies' p a}, addPart trouble form copies p = (.ok form', copies') → look form = some a →
    look form' = some a
  unique : ∀ {p a b}, Is p a → Is p b → a = b

theorem keeps_file (name : Text) : Keeps trouble (fun form => form.file? name) (IsFile name) where
  absent := fun added => (addPart_adds added).absent
  present := fun added => (addPart_adds added).present
  unique := by
    intro p a b first second
    obtain ⟨fileName, content⟩ := a
    obtain ⟨otherName, otherContent⟩ := b
    have names : some fileName = some otherName := Except.ok.inj (first.fileName.symm.trans second.fileName)
    have contents : content = otherContent := first.content.symm.trans second.content
    rw [Option.some.inj names, contents]

theorem Form.value?_of_values {f f' : Form} (same : f'.values = f.values) (name : Text) : f'.value? name = f.value? name := by
  rw [value?, value?, same]

theorem keeps_value (name : Text) : Keeps trouble (fun form => form.value? name) (IsValue name) where
  absent := by
    intro form form' copies copies' p added absent
    cases addPart_addsValue added with
    | apart apart same => exact Or.inl ⟨(Form.value?_of_values same name).trans absent, apart name⟩
    | @known other named known =>
      refine Or.inl ⟨absent, ?_⟩
      intro t isValue
      cases named.symm.trans isValue.name
      rw [absent] at known
      cases known
    | @value other t isValue free =>
      by_cases same : other = name
      · subst same
        exact Or.inr ⟨t, form.value?_addValue_same absent t, isValue⟩
      · refine Or.inl ⟨(form.value?_addValue_other (Ne.symm same) t).trans absent, ?_⟩
        intro u isOther
        cases isValue.name.symm.trans isOther.name
        exact same rfl
  present := by
    intro form form' copies copies' p t added present
    cases addPart_addsValue added with
    | apart apart same => exact (Form.value?_of_values same name).trans present
    | known named known => exact present
    | @value other u isValue free =>
      have apart : name ≠ other := by
        rintro rfl
        cases free.symm.trans present
      exact (form.value?_addValue_other apart u).trans present
  unique := by
    intro p t u first second
    exact Except.ok.inj (first.text.symm.trans second.text)

inductive Takes (trouble : Nat → Option (List UInt8 × Fault)) : Form → Nat → List Part → Form → Nat → Prop where
  | nil (form : Form) (copies : Nat) : Takes trouble form copies [] form copies
  | cons {form form' form'' : Form} {copies copies' copies'' : Nat} {p : Part} {parts : List Part}
      (added : addPart trouble form copies p = (.ok form', copies'))
      (rest : Takes trouble form' copies' parts form'' copies'') : Takes trouble form copies (p :: parts) form'' copies''

section Fields

variable {α : Type} {look : Form → Option α} {Is : Part → α → Prop}

theorem Takes.keeps (keeps : Keeps trouble look Is) {form form' : Form} {copies copies' : Nat} {parts : List Part}
    (takes : Takes trouble form copies parts form' copies') {a : α} (present : look form = some a) : look form' = some a := by
  induction takes with
  | nil => exact present
  | cons added _ ih => exact ih (keeps.present added present)

theorem Takes.first (keeps : Keeps trouble look Is) {form form' : Form} {copies copies' : Nat} {parts : List Part}
    (takes : Takes trouble form copies parts form' copies') (absent : look form = none) (a : α) :
    look form' = some a ↔ First Is parts a := by
  induction takes with
  | nil =>
    constructor
    · intro found
      cases absent.symm.trans found
    · rintro ⟨before, p, after, shape, -⟩
      cases before <;> cases shape
  | cons added rest ih =>
    rcases keeps.absent added absent with ⟨still, apart⟩ | ⟨b, here, isOne⟩
    · exact (ih still).trans (first_cons_apart apart _ a).symm
    · rw [first_cons_here isOne keeps.unique, rest.keeps keeps here]
      exact ⟨Option.some.inj, congrArg some⟩

end Fields

def bodyParts (r : Http.Request) : List Part :=
  match boundary? r.contentType with
  | none => []
  | some boundary => (parts (Utf8.encode boundary) r.body).parts

def partsOf (r : Http.Request) : List Part :=
  if !isMultipart r then []
  else
    match typeOf? r.contentType with
    | none => []
    | some type =>
      if type = documentType then []
      else if type = pairsType then []
      else bodyParts r

-- The parts in front of the place where reading stops: taken one after the other, and the next one,
-- if there is one, is not read.
structure ReadTo (trouble : Nat → Option (List UInt8 × Fault)) (copies : Nat) (parts taken : List Part) (form : Form) :
    Prop where
  front : taken <+: parts
  takes : ∃ copies', Takes trouble .empty copies taken form copies' ∧
    ∀ p, taken ++ [p] <+: parts → ∃ ending, (addPart trouble form copies' p).1 = .error ending

theorem addParts_takes (last : Ending) (form : Form) (copies : Nat) (parts : List Part) :
    ∃ taken copies', taken <+: parts ∧ Takes trouble form copies taken (addParts trouble last form copies parts).form copies' ∧
      ∀ p, taken ++ [p] <+: parts →
        ∃ ending, (addPart trouble (addParts trouble last form copies parts).form copies' p).1 = .error ending := by
  induction parts generalizing form copies with
  | nil =>
    refine ⟨[], copies, List.prefix_refl _, .nil form copies, ?_⟩
    intro p more
    cases List.prefix_nil.mp more
  | cons p rest ih =>
    cases added : addPart trouble form copies p with
    | mk outcome copies₁ =>
      cases outcome with
      | error ending =>
        have stops : (addParts trouble last form copies (p :: rest)).form = form := by
          unfold addParts
          rw [added]
        rw [stops]
        refine ⟨[], copies, List.nil_prefix, .nil form copies, ?_⟩
        intro q next
        have same : q = p := (List.cons_prefix_cons.mp next).1
        exact ⟨ending, by rw [same, added]⟩
      | ok form₁ =>
        have goes : addParts trouble last form copies (p :: rest) = addParts trouble last form₁ copies₁ rest := by
          rw [addParts, added]
        rw [goes]
        obtain ⟨taken, copies', front, takes, stops⟩ := ih form₁ copies₁
        refine ⟨p :: taken, copies', List.cons_prefix_cons.mpr ⟨rfl, front⟩, .cons added takes, ?_⟩
        intro q next
        exact stops q (List.cons_prefix_cons.mp next).2

theorem readTo_none (copies : Nat) : ReadTo trouble copies [] [] .empty := by
  refine ⟨List.prefix_refl _, copies, .nil _ _, ?_⟩
  intro p more
  cases List.prefix_nil.mp more

-- What reading a form with these parts comes to: there are none and nothing is read, a fault is met in front of them,
-- or they are gone through.
inductive Reads (trouble : Nat → Option (List UInt8 × Fault)) (copies : Nat) : List Part → Reading → Prop where
  | none (ending : Ending) : Reads trouble copies [] ⟨.empty, ending, copies⟩
  | fault (parts : List Part) (fault : Fault) : Reads trouble copies parts ⟨.empty, .fault fault, copies⟩
  | parts (last : Ending) (parts : List Part) : Reads trouble copies parts (addParts trouble last .empty copies parts)

theorem readForm_reads (trouble : Nat → Option (List UInt8 × Fault)) (copies : Nat) (r : Http.Request) :
    Reads trouble copies (partsOf r) (readForm trouble copies r) := by
  unfold readForm partsOf
  cases isMultipart r with
  | false => exact .none _
  | true =>
    cases typeOf? r.contentType with
    | none => exact .none _
    | some type =>
      simp only [Bool.not_true, Bool.false_eq_true, if_false]
      split
      · exact .none _
      · split
        · exact .none _
        · unfold readParts bodyParts
          cases boundary? r.contentType with
          | none => exact .none _
          | some boundary =>
            simp only
            split
            · exact .fault _ _
            · split
              · exact .fault _ _
              · exact .parts _ _

theorem readForm_readTo {copies : Nat} {r : Http.Request} (ended : ∀ fault, (readForm trouble copies r).ending ≠ .fault fault) :
    ∃ taken, ReadTo trouble copies (partsOf r) taken (readForm trouble copies r).form := by
  have reads := readForm_reads trouble copies r
  generalize partsOf r = parts at reads ⊢
  generalize readForm trouble copies r = reading at reads ended ⊢
  cases reads with
  | none ending => exact ⟨[], readTo_none copies⟩
  | fault _ fault => exact absurd rfl (ended fault)
  | parts last =>
    obtain ⟨taken, copies', front, takes, stops⟩ := @addParts_takes trouble last .empty copies parts
    exact ⟨taken, front, copies', takes, stops⟩

theorem isUpload_iff (form : Form) : isUpload form = true ↔
    (∃ file, form.file? fileField = some file) ∧ ∃ t, t ≠ [] ∧ form.value? payloadField = some t := by
  unfold isUpload Form.value
  cases form.file? fileField with
  | none => simp
  | some file =>
    cases form.value? payloadField with
    | none => simp
    | some t => cases t <;> simp

section Taken

variable {copies : Nat} {parts taken : List Part} {form : Form}

theorem ReadTo.file?_iff (readTo : ReadTo trouble copies parts taken form) (name : Text) (file : FilePart) :
    form.file? name = some file ↔ FirstFile name taken file := by
  obtain ⟨copies', takes, -⟩ := readTo.takes
  exact takes.first (keeps_file name) rfl file

theorem ReadTo.value?_iff (readTo : ReadTo trouble copies parts taken form) (name t : Text) :
    form.value? name = some t ↔ FirstValue name taken t := by
  obtain ⟨copies', takes, -⟩ := readTo.takes
  exact takes.first (keeps_value name) rfl t

theorem ReadTo.isUpload_iff (readTo : ReadTo trouble copies parts taken form) : isUpload form = true ↔
    (∃ file, FirstFile fileField taken file) ∧ ∃ t, t ≠ [] ∧ FirstValue payloadField taken t := by
  rw [Upload.isUpload_iff]
  simp only [readTo.file?_iff, readTo.value?_iff]

end Taken

variable {N : Type}

theorem canHandle_unreadable {s : Site N} (unread : s.form = none) {r : Http.Request} {why : Unreadable}
    (broken : (readForm s.trouble.copy s.copies r).ending = .unreadable why) :
    ∃ s', canHandle r s = (.ok (isUpload (readForm s.trouble.copy s.copies r).form), s') ∧
      s'.form = some (readForm s.trouble.copy s.copies r).form ∧ Local s s' ∧ s'.tree = s.tree := by
  have outcome := formOf_outcome unread r
  obtain ⟨aside, tree, kept⟩ := formOf_run r s
  rw [broken] at outcome
  refine ⟨(formOf r s).2, ?_, kept _ outcome, aside, tree⟩
  unfold canHandle
  rw [bind_run]
  cases read : formOf r s with
  | mk found s' =>
    rw [read] at outcome
    subst outcome
    rfl

end UploadRelay.Upload
