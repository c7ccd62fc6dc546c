import UploadRelay.Proofs.Backend.Receiving
import UploadRelay.Proofs.Site.Outcomes
import UploadRelay.Proofs.Upload.Form
import UploadRelay.Proofs.Upload.Save
-- What goes wrong while the form of a request is read and its file is saved. Most bodies that are
-- no form leave one that is incomplete; what ends the reading instead is listed here.

namespace UploadRelay.Upload

open Work

-- What ends the reading of a form: a boundary without bytes, a body of unknown length, a part whose
-- headers are no text, a copy that fails, or a body of another type that cannot stand for a form.
inductive FormFault (trouble : Nat → Option (List UInt8 × Fault)) (r : Http.Request) : Fault → Prop where
  | boundary {boundary : Text} {fault : Fault} (given : boundary? r.contentType = some boundary)
      (unwritable : Fault.unwritable? "utf-8" "surrogates not allowed" (fun c => !c.isSurrogate) boundary = some fault) :
      FormFault trouble r fault
  | unmeasured {boundary : Text} (given : boundary? r.contentType = some boundary) (unmeasured : r.length? = none) :
      FormFault trouble r (.other "AssertionError" [])
  | header {boundary : Text} {p : Multipart.Part} {why : DecodeFault} (given : boundary? r.contentType = some boundary)
      (member : p ∈ (Multipart.parts (Utf8.encode boundary) r.body).parts)
      (unread : p.disposition = .error (.undecodable why) ∨ p.text = .error (.undecodable why)) :
      FormFault trouble r (.undecodable why)
  | copy {n : Nat} {written : List UInt8} {fault : Fault} (fails : trouble n = some (written, fault)) :
      FormFault trouble r fault
  | document {fault : Fault} (typed : typeOf? r.contentType = some documentType)
      (unread : readDocument r.body = .fault fault) : FormFault trouble r fault
  | pairs {fault : Fault} (typed : typeOf? r.contentType = some pairsType) (unread : readPairs r.body = .fault fault) :
      FormFault trouble r fault

def PartsFault (trouble : Nat → Option (List UInt8 × Fault)) (parts : List Multipart.Part) (fault : Fault) : Prop :=
  (∃ p ∈ parts, ∃ why, fault = .undecodable why ∧
    (p.disposition = .error (.undecodable why) ∨ p.text = .error (.undecodable why))) ∨
  ∃ n written, trouble n = some (written, fault)

theorem name_error {p : Multipart.Part} {why : Multipart.PartFault} (failed : p.name? = .error why) :
    p.disposition = .error why := by
  unfold Multipart.Part.name? at failed
  cases read : p.disposition with
  | ok d =>
    rw [read] at failed
    cases failed
  | error other =>
    rw [read] at failed
    cases failed
    rfl

theorem fileName_error {p : Multipart.Part} {why : DecodeFault} (failed : p.fileName? = .error (.undecodable why)) :
    p.disposition = .error (.undecodable why) := by
  unfold Multipart.Part.fileName? at failed
  cases read : p.disposition with
  | ok d =>
    rw [read] at failed
    simp only [bind, Except.bind] at failed
    split at failed
    · split at failed <;> cases failed
    · cases failed
  | error other =>
    rw [read] at failed
    cases failed
    rfl

theorem partFault_fault {found : Multipart.PartFault} {fault : Fault} (same : partFault found = .fault fault) :
    ∃ why, found = .undecodable why ∧ fault = .undecodable why := by
  cases found with
  | undecodable why =>
    cases same
    exact ⟨why, rfl, rfl⟩
  | malformed => cases same

theorem addPart_fault {trouble : Nat → Option (List UInt8 × Fault)} {form : Form} {copies copies' : Nat}
    {p : Multipart.Part} {fault : Fault} (failed : addPart trouble form copies p = (.error (.fault fault), copies')) :
    PartsFault trouble [p] fault := by
  have undecoded : ∀ {found}, partFault found = .fault fault →
      (∀ why, found = .undecodable why → p.disposition = .error (.undecodable why) ∨ p.text = .error (.undecodable why)) →
        PartsFault trouble [p] fault := by
    intro found same read
    obtain ⟨why, rfl, rfl⟩ := partFault_fault same
    exact Or.inl ⟨p, List.mem_singleton_self p, why, rfl, read why rfl⟩
  have step := addPart_step trouble form copies p
  generalize ran : addPart trouble form copies p = outcome at step
  rw [failed] at ran
  cases step with
  | nameFault unread =>
    refine undecoded (Except.error.inj (congrArg Prod.fst ran)).symm fun why same => ?_
    exact Or.inl (name_error (same ▸ unread))
  | fileNameFault unread =>
    refine undecoded (Except.error.inj (congrArg Prod.fst ran)).symm fun why same => ?_
    exact Or.inl (fileName_error (same ▸ unread))
  | textFault unread =>
    refine undecoded (Except.error.inj (congrArg Prod.fst ran)).symm fun why same => ?_
    exact Or.inr (same ▸ unread)
  | copyFault fails =>
    cases ran
    exact Or.inr ⟨_, _, fails⟩
  | _ => cases ran

theorem addParts_fault {trouble : Nat → Option (List UInt8 × Fault)} {last : Ending} {form : Form} {copies : Nat}
    {parts : List Multipart.Part} {fault : Fault} (unended : ∀ fault, last ≠ .fault fault)
    (ended : (addParts trouble last form copies parts).ending = .fault fault) : PartsFault trouble parts fault := by
  induction parts generalizing form copies with
  | nil => exact absurd ended (unended fault)
  | cons p rest ih =>
    unfold addParts at ended
    split at ended
    · rename_i ending copies' failed
      have faulty : ending = .fault fault := ended
      subst faulty
      rcases addPart_fault failed with ⟨q, member, found⟩ | copied
      · exact Or.inl ⟨q, List.mem_singleton.mp member ▸ List.mem_cons_self, found⟩
      · exact Or.inr copied
    · rcases ih ended with ⟨q, member, found⟩ | copied
      · exact Or.inl ⟨q, List.mem_cons_of_mem p member, found⟩
      · exact Or.inr copied

theorem readParts_fault {trouble : Nat → Option (List UInt8 × Fault)} {copies : Nat} {r : Http.Request} {fault : Fault}
    (ended : (readParts trouble copies r).ending = .fault fault) : FormFault trouble r fault := by
  unfold readParts at ended
  split at ended
  · cases ended
  · rename_i boundary given
    split at ended
    · rename_i unwritable
      cases ended
      exact .boundary given unwritable
    · split at ended
      · rename_i unmeasured
        cases ended
        exact .unmeasured given (Option.isNone_iff_eq_none.mp unmeasured)
      · have unended : ∀ (last : Multipart.Ending) fault, lastEnding last ≠ .fault fault := by
          intro last fault same
          cases last <;> cases same
        rcases addParts_fault (unended _) ended with ⟨p, member, why, rfl, unread⟩ | ⟨n, written, fails⟩
        · exact .header given member unread
        · exact .copy fails

theorem readForm_fault {trouble : Nat → Option (List UInt8 × Fault)} {copies : Nat} {r : Http.Request} {fault : Fault}
    (ended : (readForm trouble copies r).ending = .fault fault) : FormFault trouble r fault := by
  unfold readForm at ended
  split at ended
  · cases ended
  · split at ended
    · cases ended
    · rename_i type typed
      split at ended
      · rename_i isDocument
        exact .document (isDocument ▸ typed) ended
      · split at ended
        · rename_i arePairs
          exact .pairs (arePairs ▸ typed) ended
        · exact readParts_fault ended

structure OuterTrouble (trouble : Trouble) : Prop where
  create : ∀ fault, trouble.create = some fault → fault.Uncoded
  copy : ∀ n written fault, trouble.copy n = some (written, fault) → fault.Uncoded
  seek : ∀ fault, trouble.seek = some fault → fault.Uncoded
  close : ∀ fault, trouble.close = some fault → fault.Uncoded

theorem outerTrouble_none : OuterTrouble {} where
  create := by
    intro fault fails
    cases fails
  copy := by
    intro n written fault fails
    cases fails
  seek := by
    intro fault fails
    cases fails
  close := by
    intro fault fails
    cases fails

theorem own_notPart {kind : Text} {fault : Fault} (ended : notPart kind = .fault fault) : fault.Own := by
  cases ended
  exact Fault.own_other (by decide) _

theorem own_documentEnding {v : Json} {fault : Fault} (ended : documentEnding v = .fault fault) : fault.Own := by
  unfold documentEnding at ended
  split at ended
  · cases ended
  · exact own_notPart ended
  · split at ended
    · cases ended
    · exact own_notPart ended
  · split at ended
    · cases ended
    · exact own_notPart ended
  · cases ended
    exact Fault.own_type _

theorem own_readDocument {body : List UInt8} {fault : Fault} (ended : readDocument body = .fault fault) : fault.Own := by
  unfold readDocument at ended
  split at ended
  · cases ended
  · split at ended
    · cases ended
    · split at ended
      · exact own_documentEnding ended
      · rename_i why _
        simp only at ended
        split at ended
        · cases ended
        · cases ended
          exact Fault.own_ofJson why

theorem own_readPairs {body : List UInt8} {fault : Fault} (ended : readPairs body = .fault fault) : fault.Own := by
  unfold readPairs at ended
  simp only at ended
  split at ended
  · cases ended
  · split at ended
    · cases ended
    · exact own_notPart ended

structure FaultsOf (trouble : Trouble) (E : Fault → Prop) : Prop where
  own : ∀ fault : Fault, fault.Own → E fault
  create : ∀ fault, trouble.create = some fault → E fault
  copy : ∀ n written fault, trouble.copy n = some (written, fault) → E fault
  seek : ∀ fault, trouble.seek = some fault → E fault
  close : ∀ fault, trouble.close = some fault → E fault

theorem OuterTrouble.uncoded {trouble : Trouble} (outer : OuterTrouble trouble) : FaultsOf trouble Fault.Uncoded :=
  ⟨fun _ own => own.uncoded, outer.create, outer.copy, outer.seek, outer.close⟩

theorem FaultsOf.ended {trouble : Trouble} {E : Fault → Prop} (kinds : FaultsOf trouble E) {α : Type} {e : Except Fault α}
    (fails : FailsOwn e) : Ended E (fun _ => True) e := by
  cases e with
  | ok a => trivial
  | error fault => exact kinds.own fault fails

theorem FormFault.kind {trouble : Trouble} {E : Fault → Prop} (kinds : FaultsOf trouble E) {r : Http.Request} {fault : Fault}
    (faulty : FormFault trouble.copy r fault) : E fault := by
  cases faulty with
  | boundary _ unwritable => exact kinds.own _ (Fault.own_unwritableRun unwritable)
  | unmeasured => exact kinds.own _ (Fault.own_other (by decide) _)
  | header => exact kinds.own _ (Fault.own_undecodable _)
  | copy fails => exact kinds.copy _ _ _ fails
  | document _ unread => exact kinds.own _ (own_readDocument unread)
  | pairs _ unread => exact kinds.own _ (own_readPairs unread)

variable {N : Type} {terms : Backend.Terms N}

theorem steady_local {s s' : Site N} (aside : Local s s') (steady : Backend.Steady terms s) : Backend.Steady terms s' where
  turns := aside.turns ▸ steady.turns
  cached := aside.cache ▸ steady.cached
  settings := aside.cache ▸ steady.settings
  trouble := aside.trouble.trans steady.trouble
  requestId := aside.requestId.trans steady.requestId
  clock := aside.clock.trans steady.clock

theorem formOf_gives (r : Http.Request) :
    Gives (Backend.Steady terms) (FormFault terms.trouble.copy r) (fun _ => True) (formOf r) := by
  intro s steady
  refine ⟨steady_local (formOf_run r s).1 steady, ?_⟩
  rw [← steady.trouble]
  cases known : s.form with
  | some form =>
    rw [formOf_known known]
    trivial
  | none =>
    rw [formOf_outcome known]
    cases ended : (readForm s.trouble.copy s.copies r).ending with
    | complete => trivial
    | unreadable why => trivial
    | fault fault => exact readForm_fault ended

theorem own_unwritablePath {path : Path} {fault : Fault} (unwritable : Tree.unwritablePath? path = some fault) :
    fault.Own := by
  unfold Tree.unwritablePath? at unwritable
  split at unwritable
  · rename_i found
    exact Option.some.inj unwritable ▸ Fault.own_unwritableRun found
  · split at unwritable
    · exact Option.some.inj unwritable ▸ Fault.own_value _
    · split at unwritable
      · exact Option.some.inj unwritable ▸ Fault.own_ofErrno _ _ _
      · cases unwritable

theorem makeDirectories_own (t : Tree) (told here : Path) (names : List Text) :
    FailsOwn (t.makeDirectories told here names).1 := by
  induction names generalizing t told here with
  | nil => trivial
  | cons name rest ih =>
    unfold Tree.makeDirectories
    simp only
    split
    · rename_i unwritable
      exact own_unwritablePath unwritable
    · split
      · exact ih _ _ _
      · split
        · exact ih _ _ _
        · split <;> exact Fault.own_ofErrno _ _ _
        · split
          · exact Fault.own_ofErrno _ _ _
          · exact ih _ _ _

theorem freePath_own (t : Tree) (directory : Path) (name : Text) (draw : Nat → Text) (fuel drawn : Nat) :
    FailsOwn (Scratch.freePath t directory name draw fuel drawn) := by
  induction fuel generalizing drawn with
  | zero => exact ⟨rfl, show Text.ofString _ ≠ [] by decide⟩
  | succ fuel ih =>
    unfold Scratch.freePath
    simp only
    split
    · rename_i unwritable
      exact own_unwritablePath unwritable
    · split
      · exact ih _
      · split
        · exact Fault.own_ofErrno _ _ _
        · trivial

theorem checkName_own (name : Text) : FailsOwn (Scratch.checkName name) := by
  unfold Scratch.checkName
  split
  · exact Fault.own_ofErrno _ _ _
  · split
    · exact Fault.own_ofErrno _ _ _
    · trivial

theorem copyPieces_own (fuel : Nat) (bytes : List UInt8) (f : ScratchFile) : FailsOwn (copyPieces fuel bytes f) := by
  induction fuel generalizing bytes f with
  | zero => trivial
  | succ fuel ih =>
    unfold copyPieces
    split
    · trivial
    · unfold ScratchFile.write
      split
      · rename_i wrote
        split at wrote
        · exact ih _ _
        · exact ih _ _
      · rename_i refused
        split at refused
        · cases refused
        · cases refused
          exact Fault.own_value _

theorem aside_gives {E : Fault → Prop} {α : Type} {A : α → Prop} {f : Site N → Site N} {w : Unit → Work N α}
    (aside : ∀ s, Local s (f s)) (next : Gives (Backend.Steady terms) E A (w ())) :
    Gives (Backend.Steady terms) E A (update f >>= w) := by
  have updates : Gives (Backend.Steady terms) E (fun _ => True) (update f) :=
    gives_update fun s steady => steady_local (aside s) steady
  exact updates.bind fun _ _ => next

variable {E : Fault → Prop}

theorem failIf_gives {fault : Option Fault} (kind : ∀ f, fault = some f → E f) :
    Gives (Backend.Steady terms) E (fun _ => True) (failIf fault : Work N Unit) := by
  cases fault with
  | none => exact gives_pure trivial
  | some f => exact gives_throw (kind f rfl)

theorem create_gives (kinds : FaultsOf terms.trouble E) (store : Store) (user : UserId) (name : Text) :
    Gives (Backend.Steady terms) E (fun _ => True) (Scratch.create store user name) := by
  intro s steady
  have own : FailsOwn (s.tree.reachDirectory (store.userDirectory user) s.directory).1 := makeDirectories_own _ _ _ _
  have moved : ∀ s' : Site N, Local s s' → Backend.Steady terms s' := fun _ aside => steady_local aside steady
  generalize ran : Scratch.create store user name s = outcome
  cases ran ▸ Scratch.create_creates store user name s with
  | troubled fails => exact ⟨steady, kinds.create _ (steady.trouble ▸ fails)⟩
  | refused _ checked =>
    have own := checkName_own name
    rw [checked] at own
    exact ⟨steady, kinds.own _ own⟩
  | homeless _ _ home =>
    rw [home] at own
    exact ⟨moved _ ⟨rfl, rfl, rfl, rfl, rfl, rfl, rfl, rfl⟩, kinds.own _ own⟩
  | @unnamed fault t _ _ _ unnamed =>
    have own := freePath_own t (store.home s.directory user) name s.draw Scratch.drawLimit s.drawn
    rw [unnamed] at own
    exact ⟨moved _ ⟨rfl, rfl, rfl, rfl, rfl, rfl, rfl, rfl⟩, kinds.own _ own⟩
  | created => exact ⟨moved _ ⟨rfl, rfl, rfl, rfl, rfl, rfl, rfl, rfl⟩, trivial⟩

theorem copy_gives (kinds : FaultsOf terms.trouble E) (bytes : List UInt8) (f : ScratchFile) :
    Gives (Backend.Steady terms) E (fun _ => True) (copy bytes f) := by
  apply gives_site_bind
  intro s steady
  refine aside_gives (fun _ => ⟨rfl, rfl, rfl, rfl, rfl, rfl, rfl, rfl⟩) ?_
  cases fails : s.trouble.copy s.copies with
  | none => exact gives_ofExcept (kinds.ended (copyPieces_own _ _ _))
  | some broken =>
    rw [steady.trouble] at fails
    exact aside_gives (fun _ => ⟨rfl, rfl, rfl, rfl, rfl, rfl, rfl, rfl⟩) (gives_throw (kinds.copy _ _ _ fails))

theorem fill_gives (kinds : FaultsOf terms.trouble E) (bytes : List UInt8) (f : ScratchFile) :
    Gives (Backend.Steady terms) E (fun _ => True) (fill bytes f) := by
  apply gives_site_bind
  intro s steady
  rw [steady.trouble]
  refine (failIf_gives kinds.seek).bind fun _ _ => (copy_gives kinds bytes f).bind fun written _ => ?_
  refine (failIf_gives kinds.close).bind fun _ _ => ?_
  refine Gives.bind (A := fun _ => True) ?_ fun _ _ => gives_pure trivial
  exact aside_gives (fun _ => ⟨rfl, rfl, rfl, rfl, rfl, rfl, rfl, rfl⟩) (gives_pure trivial)

theorem save_gives (kinds : FaultsOf terms.trouble E) (store : Store) (user : UserId) (logger : Log.Logger)
    (r : Http.Request) :
    Gives (Backend.Steady terms) (fun fault => E fault ∨ fault = missingFile) (fun _ => True)
      (save store user logger r) := by
  have weaken : ∀ {α : Type} {w : Work N α}, Gives (Backend.Steady terms) E (fun _ => True) w →
      Gives (Backend.Steady terms) (fun fault => E fault ∨ fault = missingFile) (fun _ => True) w :=
    fun gives => gives.widen (fun _ => Or.inl) fun _ => id
  have reads : Gives (Backend.Steady terms) E (fun _ => True) (formOf r) :=
    (formOf_gives r).widen (fun _ faulty => faulty.kind kinds) fun _ => id
  refine (weaken reads).bind fun form _ => ?_
  split
  · exact gives_throw (Or.inr rfl)
  · refine (weaken (create_gives kinds _ _ _)).bind fun f _ => ?_
    refine aside_gives (fun _ => ⟨rfl, rfl, rfl, rfl, rfl, rfl, rfl, rfl⟩) ?_
    refine (fill_gives kinds _ f).attempt.bind fun outcome ended => ?_
    cases outcome with
    | error fault =>
      exact aside_gives (fun _ => ⟨rfl, rfl, rfl, rfl, rfl, rfl, rfl, rfl⟩) (gives_throw (Or.inl ended))
    | ok written =>
      exact aside_gives (fun _ => ⟨rfl, rfl, rfl, rfl, rfl, rfl, rfl, rfl⟩) (gives_pure trivial)

end UploadRelay.Upload
