import UploadRelay.Proofs.Site.Effects
import UploadRelay.Reporter
-- Work for a request that bears its id: what is posted, what is recorded of the access, and what the
-- tracker is told. Most work does none of that.

namespace UploadRelay

open Work

variable {N : Type}

structure Silent (s s' : Site N) : Prop where
  requestId : s'.requestId = s.requestId
  freshIds : s'.freshIds = s.freshIds
  posts : s'.posts = s.posts
  visits : visits s'.records = visits s.records
  trackerCalls : s'.trackerCalls = s.trackerCalls

theorem silent_frame : IsFrame (Silent (N := N)) where
  refl := fun _ => ⟨rfl, rfl, rfl, rfl, rfl⟩
  trans := fun first second =>
    ⟨second.requestId.trans first.requestId, second.freshIds.trans first.freshIds, second.posts.trans first.posts,
      second.visits.trans first.visits, second.trackerCalls.trans first.trackerCalls⟩

theorem log_silent {logger : Text} (other : logger ≠ Log.accessLogger) (level : Log.Level) (message : Text)
    (extra : Members) : Leaves (Silent (N := N)) (log logger level message extra) :=
  fun s => ⟨rfl, rfl, rfl, visits_other other s.records, rfl⟩

theorem logRaised_silent {logger : Text} (other : logger ≠ Log.accessLogger) (level : Log.Level) (message : Text)
    (extra : Members) (fault : Fault) : Leaves (Silent (N := N)) (logRaised logger level message extra fault) :=
  fun s => ⟨rfl, rfl, rfl, visits_other other s.records, rfl⟩

def InContext (settings : Reporter.Settings) (front : List TrackerCall) : Prop :=
  ∃ earlier values tags, front = earlier ++ .opened :: .context settings.contextName values :: tags ∧
    ∀ call ∈ tags, ∃ name value, call = .tag name value

structure Tracked (reporter : Reporter) (id : Text) (calls : List TrackerCall) : Prop where
  contexts : ∀ name values, .context name values ∈ calls → values.lookup ("request_id" : Text) = some id
  captures : ∀ settings, reporter = .tracker settings → settings.recordsContext = true →
    ∀ front label message behind, calls = front ++ .captured label message :: behind → InContext settings front

theorem tracked_nil (reporter : Reporter) (id : Text) : Tracked reporter id [] where
  contexts := fun _ _ there => absurd there List.not_mem_nil
  captures := fun _ _ _ front _ _ _ whole => absurd whole.symm (by simp)

theorem Tracked.append {reporter : Reporter} {id : Text} {calls more : List TrackerCall} (first : Tracked reporter id calls)
    (second : Tracked reporter id more) : Tracked reporter id (calls ++ more) where
  contexts := fun name values there => (List.mem_append.mp there).elim (first.contexts name values) (second.contexts name values)
  captures := by
    intro settings tracks records front label message behind whole
    rcases List.append_eq_append_iff.mp whole with ⟨front', rfl, rest⟩ | ⟨more', here, rest⟩
    · obtain ⟨earlier, values, tags, rfl, plain⟩ := second.captures settings tracks records _ _ _ _ rest
      exact ⟨calls ++ earlier, values, tags, (List.append_assoc ..).symm, plain⟩
    · cases more' with
      | nil =>
        obtain ⟨earlier, values, tags, none, -⟩ := second.captures settings tracks records [] label message behind rest.symm
        simp at none
      | cons call more' =>
        obtain ⟨rfl, -⟩ := List.cons.inj rest
        exact first.captures settings tracks records front label message more' here

structure Traces (reporter : Reporter) (id : Text) (s s' : Site N) : Prop where
  posts : ∃ posts, s'.posts = s.posts ++ posts ∧ ∀ post ∈ posts, post.requestId = some id
  visits : ∃ more, visits s'.records = visits s.records ++ more ∧
    ∀ e ∈ more, Members.get? e.extra "request_id" = some (.str id)
  trackerCalls : ∃ calls, s'.trackerCalls = s.trackerCalls ++ calls ∧ Tracked reporter id calls

theorem Traces.follows {reporter : Reporter} {id : Text} {a b c : Site N} (first : Traces reporter id a b)
    (second : Traces reporter id b c) : Traces reporter id a c := by
  obtain ⟨posts, grown, named⟩ := first.posts
  obtain ⟨posts', grown', named'⟩ := second.posts
  obtain ⟨more, recorded, signed⟩ := first.visits
  obtain ⟨more', recorded', signed'⟩ := second.visits
  obtain ⟨calls, told, tracked⟩ := first.trackerCalls
  obtain ⟨calls', told', tracked'⟩ := second.trackerCalls
  refine ⟨⟨posts ++ posts', ?_, ?_⟩, ⟨more ++ more', ?_, ?_⟩, ⟨calls ++ calls', ?_, tracked.append tracked'⟩⟩
  · rw [grown', grown, List.append_assoc]
  · exact List.forall_mem_append.mpr ⟨named, named'⟩
  · rw [recorded', recorded, List.append_assoc]
  · exact List.forall_mem_append.mpr ⟨signed, signed'⟩
  · rw [told', told, List.append_assoc]

structure Stamped (reporter : Reporter) (id : Text) (s s' : Site N) : Prop where
  requestId : s'.requestId = s.requestId
  freshIds : s'.freshIds = s.freshIds
  traces : Traces reporter id s s'

theorem Silent.stamped {s s' : Site N} (silent : Silent s s') (reporter : Reporter) (id : Text) : Stamped reporter id s s' :=
  ⟨silent.requestId, silent.freshIds, ⟨[], silent.posts.trans (List.append_nil _).symm, by simp⟩,
    ⟨[], silent.visits.trans (List.append_nil _).symm, by simp⟩,
    ⟨[], silent.trackerCalls.trans (List.append_nil _).symm, tracked_nil reporter id⟩⟩

theorem Stamped.follows {reporter : Reporter} {id : Text} {a b c : Site N} (first : Stamped reporter id a b)
    (second : Stamped reporter id b c) : Stamped reporter id a c :=
  ⟨second.requestId.trans first.requestId, second.freshIds.trans first.freshIds, first.traces.follows second.traces⟩

-- Work that names this id as long as it is the one in hand.
def Stamps (reporter : Reporter) (id : Text) (s s' : Site N) : Prop := s.requestId = id → Stamped reporter id s s'

theorem stamps_frame (reporter : Reporter) (id : Text) : IsFrame (Stamps (N := N) reporter id) where
  refl := fun s _ => (silent_frame.refl s).stamped reporter id
  trans := fun first second inHand => (first inHand).follows (second ((first inHand).requestId.trans inHand))

theorem Silent.stamps {reporter : Reporter} {id : Text} {s s' : Site N} (silent : Silent s s') : Stamps reporter id s s' :=
  fun _ => silent.stamped reporter id

end UploadRelay
