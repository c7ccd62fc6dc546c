import UploadRelay.Proofs.Site.Effects
-- What a piece of work ends with. Begun at a site with an invariant, it leaves a site with that
-- invariant behind, and ends with a value of one kind or a fault of another.

namespace UploadRelay.Work

variable {N : Type} {α β : Type}

def Ended (E : Fault → Prop) (A : α → Prop) : Except Fault α → Prop
  | .ok a => A a
  | .error fault => E fault

theorem Ended.bind {E : Fault → Prop} {A : α → Prop} {B : β → Prop} {e : Except Fault α} {f : α → Except Fault β}
    (first : Ended E A e) (next : ∀ a, A a → Ended E B (f a)) : Ended E B (e >>= f) := by
  cases e with
  | ok a => exact next a first
  | error fault => exact first

theorem ended_mapError {ε : Type} {E : Fault → Prop} {f : ε → Fault} (kind : ∀ reason, E (f reason)) (e : Except ε α) :
    Ended E (fun _ => True) (e.mapError f) := by
  cases e with
  | ok a => trivial
  | error reason => exact kind reason

def Gives (I : Site N → Prop) (E : Fault → Prop) (A : α → Prop) (w : Work N α) : Prop :=
  ∀ s, I s → I (w s).2 ∧ Ended E A (w s).1

variable {I : Site N → Prop} {E : Fault → Prop} {A : α → Prop} {B : β → Prop}

theorem Gives.bind {w : Work N α} {f : α → Work N β} (first : Gives I E A w) (next : ∀ a, A a → Gives I E B (f a)) :
    Gives I E B (w >>= f) := by
  intro s holds
  have ran := first s holds
  rw [bind_run]
  cases run : w s with
  | mk outcome s' =>
    rw [run] at ran
    cases outcome with
    | ok a => exact next a ran.2 s' ran.1
    | error fault => exact ran

theorem gives_pure {a : α} (kind : A a) : Gives I E A (pure a : Work N α) := fun _ holds => ⟨holds, kind⟩

theorem gives_throw {fault : Fault} (kind : E fault) : Gives I E A (throw fault : Work N α) := fun _ holds => ⟨holds, kind⟩

theorem gives_ofExcept {e : Except Fault α} (ended : Ended E A e) : Gives I E A (ofExcept e : Work N α) :=
  fun _ holds => ⟨holds, ended⟩

theorem gives_update {f : Site N → Site N} (keeps : ∀ s, I s → I (f s)) : Gives I E (fun _ => True) (update f) :=
  fun s holds => ⟨keeps s holds, trivial⟩

theorem gives_site_bind {f : Site N → Work N β} (next : ∀ s, I s → Gives I E B (f s)) : Gives I E B (site >>= f) :=
  fun s holds => next s holds s holds

theorem Gives.attempt {E' : Fault → Prop} {w : Work N α} (gives : Gives I E A w) : Gives I E' (Ended E A) (attempt w) :=
  gives

theorem Gives.widen {E' : Fault → Prop} {A' : α → Prop} {w : Work N α} (gives : Gives I E A w)
    (faults : ∀ fault, E fault → E' fault) (values : ∀ a, A a → A' a) : Gives I E' A' w := by
  intro s holds
  obtain ⟨left, ended⟩ := gives s holds
  refine ⟨left, ?_⟩
  cases outcome : (w s).1 with
  | ok a =>
    rw [outcome] at ended
    exact values a ended
  | error fault =>
    rw [outcome] at ended
    exact faults fault ended

theorem Gives.thenAlways {w : Work N α} {after : Work N Unit} (first : Gives I E A w)
    (second : Gives I E (fun _ => True) after) : Gives I E A (thenAlways w after) :=
  first.attempt.bind fun _ ended => second.bind fun _ _ => gives_ofExcept ended

theorem gives_leaves {R : Site N → Site N → Prop} {w : Work N α} (leaves : Leaves R w)
    (keeps : ∀ {s s'}, R s s' → I s → I s') : Gives I (fun _ => True) (fun _ => True) w := by
  intro s holds
  refine ⟨keeps (leaves s) holds, ?_⟩
  cases (w s).1 <;> trivial

theorem gives_ends {R : Site N → Site N → Prop} {w : Work N α} (leaves : Leaves R w)
    (keeps : ∀ {s s'}, R s s' → I s → I s') (ends : Ends w) : Gives I E (fun _ => True) w := by
  intro s holds
  obtain ⟨a, s', run⟩ := ends s
  refine ⟨keeps (leaves s) holds, ?_⟩
  rw [run]
  trivial

theorem Gives.run {w : Work N α} (gives : Gives I (fun _ => False) A w) {s : Site N} (holds : I s) :
    ∃ a s', w s = (.ok a, s') ∧ A a ∧ I s' := by
  obtain ⟨left, ended⟩ := gives s holds
  cases run : w s with
  | mk outcome s' =>
    rw [run] at left ended
    cases outcome with
    | ok a => exact ⟨a, s', rfl, ended, left⟩
    | error fault => exact ended.elim

end UploadRelay.Work

-- Which faults a reply tells in their own words: those that have a code. What comes from outside
-- of the bridge has none, and neither has what the bridge makes of what it cannot take.
namespace UploadRelay

open Work

namespace Fault

def Uncoded (fault : Fault) : Prop := fault.code? = none

def Coded (fault : Fault) : Prop :=
  (∃ n, fault.code? = some (.int n) ∧ (Text.ofNat n.natAbs).length ≤ Json.digitLimit) ∧ fault.data = .null

theorem coded_refusal (kind : Refusal) (message : Text) : Coded (refusal kind message) :=
  ⟨⟨kind.code, rfl, by cases kind <;> decide⟩, rfl⟩

theorem coded_remote (message : Text) (response : Option Rpc.Response) :
    Coded (.remote message (.int Refusal.remoteCode) .null response) := ⟨⟨_, rfl, by decide⟩, rfl⟩

theorem coded_exhausted (status : Int) (preview : Text) (retryAfter : Option Num) :
    Coded (.exhausted status preview retryAfter) := ⟨⟨_, rfl, by decide⟩, rfl⟩

structure Own (fault : Fault) : Prop where
  uncoded : fault.Uncoded
  named : fault.label ≠ []

theorem own_other {label : Text} (named : label ≠ []) (details : List Json) : Own (.other label details) := ⟨rfl, named⟩

theorem own_transport (kind : Transport) (message : Text) : Own (.transport kind message) := by
  refine ⟨rfl, ?_⟩
  show kind.label ≠ []
  cases kind <;> decide

theorem own_ofErrno (number : Int) (reason path : Text) : Own (ofErrno number reason path) := by
  refine ⟨rfl, ?_⟩
  show systemLabel number ≠ []
  unfold systemLabel
  split <;> decide

theorem own_value (message : Text) : Own (value message) := own_other (by decide) _

theorem own_type (message : Text) : Own (type message) := own_other (by decide) _

theorem own_overflow : Own overflow := own_other (by decide) _

theorem own_undecodable (why : DecodeFault) : Own (undecodable why) := own_other (by decide) _

theorem own_ofJson (why : Json.Fault) : Own (ofJson why) := by
  cases why <;> exact own_other (by decide) _

theorem own_unwritableRun {set reason : Text} {lacks isUnusual : CodePoint → Bool} {t : Text} {fault : Fault}
    (found : unwritableRun? set reason lacks isUnusual t = some fault) : fault.Own := by
  unfold unwritableRun? at found
  split at found
  · cases found
  · cases found
    exact own_other (by decide) _

inductive Details : Json → Members → Prop where
  | none : Details .null []
  | given {data : Json} (some : data ≠ .null) : Details data [("data", data)]

inductive Bears : Json → Json → Prop where
  | none : Bears .null (.int 0)
  | given {id : Json} (some : id ≠ .null) : Bears id id

theorem reply_coded {fault : Fault} {code : Json} (coded : fault.code? = some code) (id : Json) :
    ∃ details answered, Details fault.data details ∧ Bears id answered ∧
      fault.reply id = .obj [("jsonrpc", .str Rpc.version),
        ("error", .obj (("code", code) :: ("message", .str fault.message) :: details)), ("id", answered)] := by
  unfold reply
  rw [coded]
  simp only
  split
  · rename_i null
    split
    · exact ⟨[], _, null ▸ .none, .none, rfl⟩
    · rename_i given
      exact ⟨[], _, null ▸ .none, .given given, rfl⟩
  · rename_i some
    split
    · exact ⟨_, _, .given some, .none, rfl⟩
    · rename_i given
      exact ⟨_, _, .given some, .given given, rfl⟩

end Fault

open Fault

def FailsOwn {α : Type} (e : Except Fault α) : Prop := Ended Own (fun _ => True) e

variable {α β : Type}

theorem FailsOwn.bind {e : Except Fault α} {f : α → Except Fault β} (first : FailsOwn e) (next : ∀ a, FailsOwn (f a)) :
    FailsOwn (e >>= f) := Ended.bind first fun a _ => next a

theorem failsOwn_ok (a : α) : FailsOwn (.ok a) := trivial

theorem failsOwn_mapError {ε : Type} {f : ε → Fault} (own : ∀ reason, (f reason).Own) (e : Except ε α) :
    FailsOwn (e.mapError f) := ended_mapError own e

theorem FailsOwn.fault {e : Except Fault α} (fails : FailsOwn e) {fault : Fault} (failed : e = .error fault) :
    fault.Own := by
  subst failed
  exact fails

end UploadRelay
