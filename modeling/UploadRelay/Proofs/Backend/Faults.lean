import UploadRelay.Proofs.Backend.Receiving
import UploadRelay.Proofs.Site.Outcomes
-- Addresses, replies and asked waits fail with faults of the bridge that have no code, so a failed call is
-- told in words of the bridge or in those of the backend's error object.

namespace UploadRelay

open Fault

namespace Backend

theorem addressFault_own (reason : Address.Fault) : reason.fault.Own := by
  cases reason with
  | unpaired c =>
    simp only [Address.Fault.fault]
    cases found : Fault.unwritable? "utf-8" "surrogates not allowed" (fun d => !d.isSurrogate) [c] with
    | none => exact own_transport _ _
    | some fault => exact own_unwritableRun found
  | _ => exact own_transport _ _

theorem nameFault_named (why : Domain.NameFault) : why.kind ≠ [] := by
  cases why with
  | label why =>
    show why.kind ≠ []
    cases why <;> exact List.cons_ne_nil _ _
  | _ => exact List.cons_ne_nil _ _

theorem checkHost_own (a : Address) : FailsOwn a.checkHost := by
  unfold Address.checkHost
  split
  · split
    · trivial
    · rename_i why _
      exact own_other (nameFault_named why) _
  · trivial

theorem addressed_own (m : Message) : FailsOwn (addressed m) := by
  refine (failsOwn_mapError addressFault_own _).bind fun address => ?_
  split
  · rename_i fault found
    obtain ⟨id, -, unwritable⟩ := Option.bind_eq_some_iff.mp found
    exact own_unwritableRun unwritable
  · refine (checkHost_own address).bind fun _ => ?_
    split
    · rename_i fault unwritable
      exact own_unwritableRun unwritable
    · trivial

theorem checkHeaders_own (headers : List (Text × Text)) : FailsOwn (checkHeaders headers) := by
  unfold checkHeaders
  split
  · rename_i fault found
    obtain ⟨header, -, faulty⟩ := List.exists_of_findSome?_eq_some found
    rcases Option.or_eq_some_iff.mp faulty with name | ⟨-, value⟩
    · exact own_unwritableRun name
    · exact own_unwritableRun value
  · trivial

theorem pointedFrom_own (source : Address) (location : Text) : FailsOwn (pointedFrom source location) := by
  refine FailsOwn.bind ?_ fun found => ?_
  · apply failsOwn_mapError
    intro reason
    have own := addressFault_own reason
    split
    · exact own_transport _ _
    · exact own
  · split
    · trivial
    · refine (checkHost_own found).bind fun _ => ?_
      split
      · exact (failsOwn_mapError addressFault_own _).bind fun _ => failsOwn_ok _
      · trivial

theorem checkRedirect_own (source : Address) (r : Reply) : FailsOwn (checkRedirect source r) := by
  unfold checkRedirect
  split
  · exact (pointedFrom_own source _).bind checkHost_own
  · trivial

theorem receive_own (source : Address) (r : Reply) : FailsOwn (receive source r) := by
  have sources : FailsOwn (checkSource source) := by
    unfold checkSource
    split
    · exact own_value _
    · trivial
  refine (checkHeaders_own r.headers).bind fun _ => ?_
  have unpacks : FailsOwn (unpackAll r.packings r.body) := by
    apply failsOwn_mapError
    intro stop
    exact own_transport _ _
  refine unpacks.bind fun body => ?_
  exact sources.bind fun _ => (checkRedirect_own source r).bind fun _ => failsOwn_ok _

theorem secondsAsked_own (now : Calendar.Moment) (value : Text) : FailsOwn (Retry.secondsAsked now value) := by
  unfold Retry.secondsAsked
  split
  · trivial
  · split
    · trivial
    · unfold Retry.untilDate
      split
      · exact own_other (by decide) _
      · trivial
      · split
        · exact own_other (by decide) _
        · split
          · trivial
          · split
            · exact own_other (by decide) _
            · trivial

-- Sending gives up in the end, or it fails with a fault of the bridge or one that a backend's turn raises.
theorem SendFault.kind {N : Type} [Seconds N] {terms : Terms N} {E : Fault → Prop}
    (own : ∀ fault : Fault, fault.Own → E fault)
    (turns : ∀ turn fault, terms.turns turn → turn.outcome = .fails fault → E fault) {policy : Option (Retry.Policy N)}
    {m : Message} {fault : Fault} (failed : SendFault terms policy m fault) :
    (∃ status preview retryAfter, fault = .exhausted status preview retryAfter) ∨ E fault := by
  cases failed with
  | post failed =>
    right
    cases failed with
    | address refused => exact own _ ((addressed_own _).fault refused)
    | raised takes fails => exact turns _ _ takes fails
    | reception _ _ _ refused => exact own _ ((receive_own _ _).fault refused)
  | asked _ _ unread => exact Or.inr (own _ ((secondsAsked_own _ _).fault unread))
  | waiting => exact Or.inr (own _ Fault.own_overflow)
  | exhausted status preview retryAfter => exact Or.inl ⟨status, preview, retryAfter, rfl⟩

end Backend

end UploadRelay
