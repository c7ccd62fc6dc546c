import UploadRelay.Log.Access
-- What work does to its site. A frame relates the site before to the site after; pieces of
-- work that stay in a frame stay in it one after the other. Most work is calm: it adds to what
-- is observed and leaves everything else as it is.

namespace UploadRelay

variable {N : Type} {α β : Type}

namespace Work

theorem bind_run (w : Work N α) (f : α → Work N β) (s : Site N) :
    (w >>= f) s = match w s with
      | (.ok a, s') => f a s'
      | (.error fault, s') => (.error fault, s') := by
  show ExceptT.bind w f s = _
  unfold ExceptT.bind ExceptT.mk
  show (StateT.bind w (ExceptT.bindCont f)) s = _
  cases run : w s with
  | mk outcome s' => cases outcome <;> simp [StateT.bind, ExceptT.bindCont, run] <;> rfl

theorem pure_run (a : α) (s : Site N) : (pure a : Work N α) s = (.ok a, s) := rfl

theorem site_run (s : Site N) : (site : Work N (Site N)) s = (.ok s, s) := rfl

theorem update_run (f : Site N → Site N) (s : Site N) : update f s = (.ok (), f s) := rfl

theorem ofExcept_run (e : Except Fault α) (s : Site N) : (ofExcept e : Work N α) s = (e, s) := rfl

theorem attempt_run (w : Work N α) (s : Site N) : attempt w s = (.ok (w s).1, (w s).2) := rfl

theorem thenAlways_run (w : Work N α) (after : Work N Unit) (s : Site N) :
    (thenAlways w after s).2 = (after (w s).2).2 := by
  simp only [thenAlways, bind_run, attempt_run]
  cases after (w s).2 with
  | mk outcome s' => cases outcome <;> rfl

theorem thenAlways_outcome (w : Work N α) (after : Work N Unit) (s : Site N) :
    (thenAlways w after s).1 = match (after (w s).2).1 with
      | .ok _ => (w s).1
      | .error fault => .error fault := by
  simp only [thenAlways, bind_run, attempt_run]
  cases after (w s).2 with
  | mk outcome s' => cases outcome <;> rfl

end Work

-- A relation between the site before and the site after that work can be put together in.
structure IsFrame (R : Site N → Site N → Prop) : Prop where
  refl : ∀ s, R s s
  trans : ∀ {a b c}, R a b → R b c → R a c

namespace Work

def Leaves (R : Site N → Site N → Prop) (w : Work N α) : Prop := ∀ s, R s (w s).2

variable {R : Site N → Site N → Prop}

theorem bind_at (frame : IsFrame R) {w : Work N α} {f : α → Work N β} {s : Site N} (first : R s (w s).2)
    (next : ∀ a s', (w s) = (.ok a, s') → R s' (f a s').2) : R s ((w >>= f) s).2 := by
  rw [bind_run]
  cases run : w s with
  | mk outcome s' =>
    rw [run] at first
    cases outcome with
    | ok a => exact frame.trans first (next a s' run)
    | error fault => exact first

theorem Leaves.bind (frame : IsFrame R) {w : Work N α} {f : α → Work N β} (first : Leaves R w)
    (next : ∀ a, Leaves R (f a)) : Leaves R (w >>= f) :=
  fun s => bind_at frame (first s) fun a s' _ => next a s'

theorem leaves_site_bind {f : Site N → Work N β} (next : ∀ s, R s (f s s).2) : Leaves R (site >>= f) := next

theorem leaves_pure (frame : IsFrame R) (a : α) : Leaves R (pure a : Work N α) := fun s => frame.refl s

theorem leaves_throw (frame : IsFrame R) (fault : Fault) : Leaves R (throw fault : Work N α) := fun s => frame.refl s

theorem leaves_site (frame : IsFrame R) : Leaves R (site : Work N (Site N)) := fun s => frame.refl s

theorem leaves_ofExcept (frame : IsFrame R) (e : Except Fault α) : Leaves R (ofExcept e : Work N α) :=
  fun s => frame.refl s

theorem Leaves.attempt {w : Work N α} (leaves : Leaves R w) : Leaves R (attempt w) := leaves

theorem Leaves.thenAlways (frame : IsFrame R) {w : Work N α} {after : Work N Unit} (first : Leaves R w)
    (second : Leaves R after) : Leaves R (thenAlways w after) :=
  Leaves.bind frame first.attempt fun outcome => Leaves.bind frame second fun _ => leaves_ofExcept frame outcome

theorem Leaves.widen {R' : Site N → Site N → Prop} {w : Work N α} (leaves : Leaves R w)
    (wider : ∀ {s s'}, R s s' → R' s s') : Leaves R' w := fun s => wider (leaves s)

end Work

-- Only what is observed may differ: records, reports, the tracker's calls, the access fields, the
-- delays, and how many shares of jitter are left.
inductive Calm (s : Site N) : Site N → Prop where
  | intro (records : List Log.Entry) (reports : List Report) (trackerCalls : List TrackerCall) (access : Access)
      (delays shares : List N) : Calm s { s with records, reports, trackerCalls, access, delays, shares }

theorem calm_frame : IsFrame (Calm (N := N)) where
  refl := fun s => .intro s.records s.reports s.trackerCalls s.access s.delays s.shares
  trans := by
    intro a b c first second
    cases first
    cases second
    exact .intro _ _ _ _ _ _

theorem Calm.tree {s s' : Site N} (calm : Calm s s') : s'.tree = s.tree := by
  cases calm
  rfl

theorem Calm.files {s s' : Site N} (calm : Calm s s') (p : Path) : s'.tree.file? p = s.tree.file? p := by
  cases calm
  rfl

def visits (records : List Log.Entry) : List Log.Entry := records.filter fun e => e.logger == Log.accessLogger

theorem visits_append (records more : List Log.Entry) : visits (records ++ more) = visits records ++ visits more :=
  List.filter_append ..

theorem visits_other {e : Log.Entry} (other : e.logger ≠ Log.accessLogger) (records : List Log.Entry) :
    visits (records ++ [e]) = visits records := by
  rw [visits_append]
  simp [visits, other]

inductive Notes (access : Access) (s : Site N) : Site N → Prop where
  | intro (records : List Log.Entry) (reports : List Report) (trackerCalls : List TrackerCall)
      (quiet : visits records = visits s.records) : Notes access s { s with records, reports, trackerCalls, access }

def Noted (s s' : Site N) : Prop := Notes s.access s s'

theorem Notes.follows {before access : Access} {a b c : Site N} (first : Notes before a b) (second : Notes access b c) :
    Notes access a c := by
  cases first with
  | intro _ _ _ quiet =>
    cases second with
    | intro _ _ _ still => exact .intro _ _ _ (still.trans quiet)

theorem Notes.noted {access : Access} {a b c : Site N} (first : Notes access a b) (second : Noted b c) :
    Notes access a c := by
  have same : b.access = access := by
    cases first
    rfl
  exact first.follows (same ▸ second)

theorem noted_frame : IsFrame (Noted (N := N)) where
  refl := fun s => .intro s.records s.reports s.trackerCalls rfl
  trans := Notes.noted

theorem Notes.calm {access : Access} {s s' : Site N} (notes : Notes access s s') : Calm s s' := by
  cases notes
  exact .intro _ _ _ _ _ _

theorem Noted.calm {s s' : Site N} (noted : Noted s s') : Calm s s' := Notes.calm noted

namespace Work

theorem log_noted {logger : Text} (other : logger ≠ Log.accessLogger) (level : Log.Level) (message : Text)
    (extra : Members) : Leaves (Noted (N := N)) (log logger level message extra) :=
  fun s => .intro _ s.reports s.trackerCalls (visits_other other s.records)

theorem logRaised_noted {logger : Text} (other : logger ≠ Log.accessLogger) (level : Log.Level) (message : Text)
    (extra : Members) (fault : Fault) : Leaves (Noted (N := N)) (logRaised logger level message extra fault) :=
  fun s => .intro _ s.reports s.trackerCalls (visits_other other s.records)

theorem log_calm (logger : Text) (level : Log.Level) (message : Text) (extra : Members) :
    Leaves (Calm (N := N)) (log logger level message extra) := fun _ => .intro _ _ _ _ _ _

theorem logRaised_calm (logger : Text) (level : Log.Level) (message : Text) (extra : Members) (fault : Fault) :
    Leaves (Calm (N := N)) (logRaised logger level message extra fault) := fun _ => .intro _ _ _ _ _ _

theorem logTo_calm (logger : Log.Logger) (level : Log.Level) (message : Text) (extra : Members) :
    Leaves (Calm (N := N)) (logTo logger level message extra) := log_calm _ _ _ _

theorem log_run (logger : Text) (level : Log.Level) (message : Text) (extra : Members) (s : Site N) :
    ∃ s', log logger level message extra s = (.ok (), s') ∧ Calm s s' := ⟨_, rfl, log_calm logger level message extra s⟩

theorem logTo_run (logger : Log.Logger) (level : Log.Level) (message : Text) (extra : Members) (s : Site N) :
    ∃ s', logTo logger level message extra s = (.ok (), s') ∧ Calm s s' := log_run _ _ _ _ s

def Ends (w : Work N α) : Prop := ∀ s, ∃ a s', w s = (.ok a, s')

theorem Ends.bind {w : Work N α} {f : α → Work N β} (first : Ends w) (next : ∀ a, Ends (f a)) : Ends (w >>= f) := by
  intro s
  obtain ⟨a, s', run⟩ := first s
  rw [bind_run, run]
  exact next a s'

theorem Ends.outcome {w : Work N Unit} (ends : Ends w) (s : Site N) : (w s).1 = .ok () := by
  obtain ⟨_, s', run⟩ := ends s
  rw [run]

theorem Ends.bind_outcome {w : Work N α} {f : α → Work N β} {outcome : Except Fault β} (first : Ends w)
    (next : ∀ a s, (f a s).1 = outcome) (s : Site N) : ((w >>= f) s).1 = outcome := by
  obtain ⟨a, s', run⟩ := first s
  rw [bind_run, run]
  exact next a s'

theorem ends_pure (a : α) : Ends (pure a : Work N α) := fun s => ⟨a, s, rfl⟩

theorem ends_site : Ends (site : Work N (Site N)) := fun s => ⟨s, s, rfl⟩

theorem ends_update (f : Site N → Site N) : Ends (update f) := fun s => ⟨(), f s, rfl⟩

theorem ends_attempt (w : Work N α) : Ends (attempt w) := fun s => ⟨(w s).1, (w s).2, rfl⟩

end Work

end UploadRelay
