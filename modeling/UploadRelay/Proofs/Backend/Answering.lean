import UploadRelay.Proofs.Backend.Sending
-- What sending a body does not look at, and what its success says: it never asks what is
-- remembered, and a reply is only had for a post.

namespace UploadRelay

variable {N : Type} {α β : Type}

namespace Work

theorem bind_ok {w : Work N α} {f : α → Work N β} {s s' : Site N} {b : β} (run : (w >>= f) s = (.ok b, s')) :
    ∃ a s₁, w s = (.ok a, s₁) ∧ f a s₁ = (.ok b, s') := by
  rw [bind_run] at run
  cases first : w s with
  | mk outcome s₁ =>
    rw [first] at run
    cases outcome with
    | ok a => exact ⟨a, s₁, rfl, run⟩
    | error fault => cases run

theorem bind_error {w : Work N α} {f : α → Work N β} {s s' : Site N} {fault : Fault}
    (run : (w >>= f) s = (.error fault, s')) :
    w s = (.error fault, s') ∨ ∃ a s₁, w s = (.ok a, s₁) ∧ f a s₁ = (.error fault, s') := by
  rw [bind_run] at run
  cases first : w s with
  | mk outcome s₁ =>
    rw [first] at run
    cases outcome with
    | ok a => exact Or.inr ⟨a, s₁, rfl, run⟩
    | error fault' =>
      cases run
      exact Or.inl rfl

theorem attempt_inv {w : Work N α} {s s' : Site N} {outcome : Except Fault α}
    (run : attempt w s = (.ok outcome, s')) : w s = (outcome, s') := by
  rw [attempt_run] at run
  cases run
  rfl

theorem ofExcept_inv {e outcome : Except Fault α} {s s' : Site N} (run : ofExcept e s = (outcome, s')) :
    e = outcome ∧ s' = s := by
  rw [ofExcept_run] at run
  exact ⟨congrArg Prod.fst run, (congrArg Prod.snd run).symm⟩

def IgnoresCache (w : Work N α) : Prop := ∀ s cache, w { s with cache } = ((w s).1, { (w s).2 with cache })

theorem IgnoresCache.keeps {w : Work N α} (ignores : IgnoresCache w) (s : Site N) : (w s).2.cache = s.cache := by
  have self := ignores s s.cache
  exact congrArg (fun ran => Site.cache ran.2) self

theorem IgnoresCache.bind {w : Work N α} {f : α → Work N β} (first : IgnoresCache w) (next : ∀ a, IgnoresCache (f a)) :
    IgnoresCache (w >>= f) := by
  intro s cache
  rw [bind_run, bind_run, first s cache]
  cases w s with
  | mk outcome s₁ =>
    cases outcome with
    | ok a => exact next a s₁ cache
    | error fault => rfl

theorem ignoresCache_site {f : Site N → Work N β} (same : ∀ (s : Site N) cache, f { s with cache } = f s)
    (next : ∀ s, IgnoresCache (f s)) : IgnoresCache (site >>= f) := by
  intro s cache
  show f { s with cache } { s with cache } = _
  rw [same]
  exact next s s cache

theorem ignoresCache_update {f : Site N → Site N} (same : ∀ (s : Site N) cache, f { s with cache } = { f s with cache }) :
    IgnoresCache (update f) := by
  intro s cache
  rw [update_run, update_run, same]

theorem ignoresCache_ofExcept (e : Except Fault α) : IgnoresCache (N := N) (ofExcept e) := fun _ _ => rfl

theorem ignoresCache_pure (a : α) : IgnoresCache (pure a : Work N α) := fun _ _ => rfl

theorem ignoresCache_throw (fault : Fault) : IgnoresCache (throw fault : Work N α) := fun _ _ => rfl

theorem IgnoresCache.attempt {w : Work N α} (ignores : IgnoresCache w) : IgnoresCache (attempt w) := by
  intro s cache
  rw [attempt_run, attempt_run, ignores]

theorem ignoresCache_log (logger : Text) (level : Log.Level) (message : Text) (extra : Members) :
    IgnoresCache (N := N) (log logger level message extra) := ignoresCache_update fun _ _ => rfl

end Work

namespace Backend

open Work

theorem turn_ignoresCache (post : Post) : IgnoresCache (N := N) (turn post) := by
  apply ignoresCache_site (fun _ _ => rfl)
  intro s
  apply IgnoresCache.bind (ignoresCache_update fun _ _ => rfl)
  intro _
  cases (s.turns.headD defaultTurn).outcome with
  | reply reply => exact ignoresCache_pure reply
  | fails fault => exact ignoresCache_throw fault
  | echo status headers => exact ignoresCache_pure _

theorem post_ignoresCache (m : Message) : IgnoresCache (N := N) (post m) := by
  apply IgnoresCache.bind (ignoresCache_ofExcept _)
  intro address
  apply ignoresCache_site (fun _ _ => rfl)
  intro s
  exact IgnoresCache.bind (turn_ignoresCache _) fun reply => ignoresCache_ofExcept _

theorem askedBy_ignoresCache (r : Reply) : IgnoresCache (N := N) (askedBy r) := by
  unfold askedBy
  cases r.header? "Retry-After" with
  | none => exact ignoresCache_pure _
  | some value => exact ignoresCache_site (fun _ _ => rfl) fun s => ignoresCache_ofExcept _

variable [Seconds N]

theorem pause_ignoresCache (p : Retry.Policy N) (m : Message) (attempt : Int) (what : Text) (asked : Option N) :
    IgnoresCache (pause p m attempt what asked) := by
  have chooses : IgnoresCache (chooseDelay p attempt asked) := by
    apply IgnoresCache.bind (ignoresCache_ofExcept _)
    intro top
    refine IgnoresCache.bind (ignoresCache_site (fun _ _ => rfl) fun s => ?_) fun share => ?_
    · exact IgnoresCache.bind (ignoresCache_update fun _ _ => rfl) fun _ => ignoresCache_pure _
    · exact IgnoresCache.bind (ignoresCache_ofExcept _) fun _ => ignoresCache_pure _
  apply IgnoresCache.bind chooses
  intro seconds
  exact IgnoresCache.bind (ignoresCache_log _ _ _ _) fun _ => ignoresCache_update fun _ _ => rfl

theorem attempts_ignoresCache (p : Retry.Policy N) (m : Message) (remaining : Nat) (attempt : Int) :
    IgnoresCache (attempts p m remaining attempt) := by
  induction remaining generalizing attempt with
  | zero =>
    unfold attempts
    apply IgnoresCache.bind (post_ignoresCache m).attempt
    intro outcome
    cases outcome with
    | error fault => exact ignoresCache_throw fault
    | ok reply =>
      simp only
      split
      · exact ignoresCache_pure reply
      · exact IgnoresCache.bind (askedBy_ignoresCache reply) fun _ => ignoresCache_throw _
  | succ remaining ih =>
    unfold attempts
    apply IgnoresCache.bind (post_ignoresCache m).attempt
    intro outcome
    cases outcome with
    | error fault =>
      simp only
      split
      · exact IgnoresCache.bind (pause_ignoresCache _ _ _ _ _) fun _ => ih _
      · exact ignoresCache_throw fault
    | ok reply =>
      simp only
      split
      · exact ignoresCache_pure reply
      · exact IgnoresCache.bind (askedBy_ignoresCache reply) fun _ =>
          IgnoresCache.bind (pause_ignoresCache _ _ _ _ _) fun _ => ih _

theorem send_ignoresCache (policy : Option (Retry.Policy N)) (m : Message) : IgnoresCache (send policy m) := by
  cases policy with
  | none => exact post_ignoresCache m
  | some p => exact attempts_ignoresCache p m _ 0

inductive Answers (turn : Turn) (body : List UInt8) : Reply → Prop where
  | reply {reply : Reply} (chosen : turn.outcome = .reply reply) : Answers turn body reply
  | echo {status : Int} {headers : List (Text × Text)} (chosen : turn.outcome = .echo status headers) :
      Answers turn body ⟨status, echoBody body, headers⟩

omit [Seconds N] in
theorem turn_ok {post : Post} {s s' : Site N} {reply : Reply} (run : turn post s = (.ok reply, s')) :
    Answers (turnOf s) post.body reply := by
  unfold turn at run
  obtain ⟨before, s₁, looked, run⟩ := bind_ok run
  cases looked
  obtain ⟨-, s₂, -, run⟩ := bind_ok run
  show Answers (s.turns.headD defaultTurn) post.body reply
  cases chosen : (s.turns.headD defaultTurn).outcome with
  | reply r =>
    rw [chosen] at run
    cases run
    exact .reply chosen
  | fails fault =>
    rw [chosen] at run
    cases run
  | echo status headers =>
    rw [chosen] at run
    cases run
    exact .echo chosen

theorem receive_plain {address : Address} {body : List UInt8} {reply : Reply} :
    receive address ⟨200, body, []⟩ = .ok reply ↔ checkSource address = .ok () ∧ reply = ⟨200, body, []⟩ := by
  have steps : receive address ⟨200, body, []⟩ = (do checkSource address; return (⟨200, body, []⟩ : Reply)) := rfl
  rw [steps]
  cases checkSource address with
  | error fault => exact ⟨fun failed => (nomatch failed), fun placed => nomatch placed.1⟩
  | ok _ => exact ⟨fun taken => ⟨rfl, (Except.ok.inj taken).symm⟩, fun placed => placed.2 ▸ rfl⟩

def namesPlace (address : Address) : Bool := !address.scheme.isEmpty

theorem goes_of_named {m : Message} (named : (addressed m).toOption.any namesPlace = true) :
    ∃ address, addressed m = .ok address ∧ checkSource address = .ok () := by
  cases goes : addressed m with
  | error fault =>
    rw [goes] at named
    cases named
  | ok address =>
    rw [goes] at named
    have scheme : address.scheme.isEmpty = false := by simpa [Except.toOption, namesPlace] using named
    exact ⟨address, rfl, if_neg (by simp [scheme])⟩

-- A reply was had: the body was posted, and the backend's answer was taken in.
omit [Seconds N] in
theorem post_ok {m : Message} {s s' : Site N} {reply : Reply} (run : post m s = (.ok reply, s')) :
    ∃ address raw sent, s' = afterPost sent s ∧ Answers (turnOf s) m.body raw ∧ receive address raw = .ok reply := by
  unfold post at run
  obtain ⟨address, s₁, checked, posts⟩ := bind_ok run
  obtain ⟨-, rfl⟩ := ofExcept_inv checked
  obtain ⟨before, s₂, looked, takes⟩ := bind_ok posts
  cases looked
  obtain ⟨raw, s₃, answered, taken⟩ := bind_ok takes
  obtain ⟨received, rfl⟩ := ofExcept_inv taken
  have site := congrArg Prod.snd answered
  rw [turn_run] at site
  exact ⟨address, raw, _, site.symm, turn_ok answered, received⟩

omit [Seconds N] in
theorem post_sent (m : Message) : Leaves (Sent (N := N) m.body) (post m) :=
  post_leaves (sent_frame _) m fun _ _ carries sees => ⟨_, .post carries sees⟩

theorem attempts_ok {p : Retry.Policy N} {m : Message} {remaining : Nat} {attempt : Int} {s s' : Site N} {reply : Reply}
    (run : attempts p m remaining attempt s = (.ok reply, s')) :
    ∃ s₁, Sent m.body s s₁ ∧ post m s₁ = (.ok reply, s') := by
  have frame := sent_frame (N := N) m.body
  induction remaining generalizing attempt s with
  | zero =>
    unfold attempts at run
    obtain ⟨outcome, s₁, tried, run⟩ := bind_ok run
    cases outcome with
    | error fault => cases run
    | ok answer =>
      simp only at run
      split at run
      · cases run
        exact ⟨s, frame.refl s, attempt_inv tried⟩
      · obtain ⟨asked, s₂, -, run⟩ := bind_ok run
        cases run
  | succ remaining ih =>
    unfold attempts at run
    obtain ⟨outcome, s₁, tried, run⟩ := bind_ok run
    have posted := attempt_inv tried
    have first : Sent m.body s s₁ := by
      have sent := post_sent m s
      rwa [posted] at sent
    -- The next attempt begins where the wait behind this one ends.
    have again : ∀ {what asked s₂},
        (pause p m attempt what asked >>= fun _ => attempts p m remaining (attempt + 1)) s₂ = (.ok reply, s') →
          Sent m.body s₁ s₂ → ∃ s₃, Sent m.body s s₃ ∧ post m s₃ = (.ok reply, s') := by
      intro what asked s₂ run between
      obtain ⟨_, s₃, paused, goes⟩ := bind_ok run
      have calm := pause_calm p m attempt what asked s₂
      rw [paused] at calm
      obtain ⟨last, sent, final⟩ := ih goes
      exact ⟨last, frame.trans first (frame.trans between (frame.trans (Sent.ofCalm calm) sent)), final⟩
    cases outcome with
    | error fault =>
      simp only at run
      split at run
      · exact again run (frame.refl s₁)
      · cases run
    | ok answer =>
      simp only at run
      split at run
      · cases run
        exact ⟨s, frame.refl s, posted⟩
      · obtain ⟨asked, s₂, waited, run⟩ := bind_ok run
        have calm := askedBy_calm answer s₁
        rw [waited] at calm
        exact again run (Sent.ofCalm calm)

theorem send_ok {policy : Option (Retry.Policy N)} {m : Message} {s s' : Site N} {reply : Reply}
    (run : send policy m s = (.ok reply, s')) : ∃ s₁, Sent m.body s s₁ ∧ post m s₁ = (.ok reply, s') := by
  cases policy with
  | none => exact ⟨s, (sent_frame m.body).refl s, run⟩
  | some p => exact attempts_ok run

theorem send_posts {policy : Option (Retry.Policy N)} {m : Message} {s s' : Site N} {reply : Reply}
    (run : send policy m s = (.ok reply, s')) : s.posts.length < s'.posts.length := by
  obtain ⟨s₁, ⟨earlier, sends⟩, last⟩ := send_ok run
  obtain ⟨address, raw, sent, rfl, -, -⟩ := post_ok last
  show s.posts.length < (s₁.posts ++ [sent]).length
  rw [sends.posts, List.length_append, List.length_append, List.length_singleton]
  omega

end Backend

end UploadRelay
