import UploadRelay.Proofs.Service.Leftovers
import UploadRelay.Proofs.Service.Marks
-- What handling a request comes to: it ends at the first stage that fails, in the words of that stage and without
-- a trace of the stages behind it, or with the response of the call.

namespace UploadRelay.Service

open Work Backend

variable {N : Type} [Seconds N]

def Visitor.user? : Visitor → Option UserId
  | .known principal => some principal.id
  | _ => none

def Visitor.unharmed (visitor : Visitor) (method : Text) : Access := ⟨visitor.user?, method, none⟩

variable {settings : Settings N} {visitor : Visitor} {r : Http.Request} {s : Site N} {route : Route}

theorem identify_stage (settings : Settings N) (visitor : Visitor) (r : Http.Request) (route : Route) {s s₀ : Site N}
    (begun : Notes Access.blank s s₀) :
    ∃ found s₁, identify visitor s₀ = (.ok found, s₁) ∧ Notes (visitor.unharmed []) s s₁ ∧
      match found with
      | .ok (principal, address) =>
        visitor = .known principal ∧ principal.address = some address ∧ address ≠ []
      | .error fault => ∃ stage code, stage.place < 3 ∧ fault.code? = some code ∧
          First settings visitor r s route stage (.told ⟨code, fault.message, fault.data, .int 0⟩) := by
  cases visitor with
  | unknown =>
    refine ⟨.error _, s₀, rfl, begun, .unauthenticated, _, by decide, rfl, .unknown rfl, past_permitted ?_⟩
    intro fault refused
    cases refused
  | rejected fault =>
    cases denied : fault.isA "PermissionError" with
    | true =>
      have found : identify (.rejected fault) s₀ = (.ok (.error (.refusal .forbidden fault.message)), s₀) := by
        simp only [identify, Visitor.principal, denied, if_true, pure_run]
      have fails : Fails settings (.rejected fault) r s route .rejected
          (.told ⟨.int (-32085), fault.message, .null, .int 0⟩) := .rejected rfl denied
      exact ⟨_, s₀, found, begun, .rejected, _, by decide, rfl, fails, fun _ _ _ => Nat.zero_le _⟩
    | false =>
      have found : identify (.rejected fault) s₀ = (.ok (.error (.refusal .authRequired fault.message)), s₀) := by
        simp only [identify, Visitor.principal, denied, Bool.false_eq_true, if_false, pure_run]
      have fails : Fails settings (.rejected fault) r s route .unauthenticated
          (.told ⟨.int (-32084), fault.message, .null, .int 0⟩) := .wrong rfl denied
      refine ⟨_, s₀, found, begun, .unauthenticated, _, by decide, rfl, fails, past_permitted ?_⟩
      intro other same
      cases same
      exact denied
  | known principal =>
    have noted : Notes ((Visitor.known principal).unharmed []) s (noteUser principal.id s₀).2 := by
      cases begun with
      | intro records reports calls quiet => exact .intro records reports calls quiet
    rcases principal.requireAddress_cases with ⟨c, rest, given, addressed⟩ | ⟨missing, addressed⟩
    · refine ⟨.ok (principal, c :: rest), (noteUser principal.id s₀).2, ?_, noted, rfl, given, List.cons_ne_nil c rest⟩
      simp only [identify, Visitor.principal, bind_run, addressed, pure_run]
      rfl
    · have logged := log_noted (N := N) (by decide : logger ≠ Log.accessLogger) .error
        ("user " ++ principal.id.decimal ++ " does not have sdk address assigned") [("user_id", principal.id.json)]
        (noteUser principal.id s₀).2
      refine ⟨.error (.refusal .internal "user does not have sdk address assigned"), _, ?_, noted.noted logged, .address,
        _, by decide, rfl, .homeless rfl missing, past_known rfl⟩
      simp only [identify, Visitor.principal, bind_run, addressed, pure_run]
      rfl

inductive Named (settings : Settings N) (visitor : Visitor) (r : Http.Request) (s : Site N) (route : Route) :
    Text → Prop where
  | called {caller : Caller N} {request : Rpc.Request} {s' : Site N}
      (calls : Calls settings visitor r s route caller request s') : Named settings visitor r s route request.method
  | uncalled (none : ∀ caller request s', ¬ Calls settings visitor r s route caller request s') :
      Named settings visitor r s route []

-- What a request comes to before its file is deleted: the verdict of the first stage that fails, with no trace of
-- later stages, or the response of its call.
inductive Account (settings : Settings N) (visitor : Visitor) (r : Http.Request) (s : Site N) (route : Route) :
    Except Fault (List UInt8) → Site N → Prop where
  | failed {stage : Stage} {verdict : Verdict} {method : Text} {outcome : Except Fault (List UInt8)} {s' : Site N}
      (first : First settings visitor r s route stage verdict) (named : Named settings visitor r s route method)
      (reached : Reached verdict (visitor.unharmed method) s s' outcome)
      (unsent : stage.place < 6 → s'.posts = s.posts) (untouched : stage.place < 3 → s'.tree = s.tree) :
      Account settings visitor r s route outcome s'
  | answered {caller : Caller N} {request : Rpc.Request} {s₁ s' : Site N} {response : Rpc.Response} {t : Text}
      (calls : Calls settings visitor r s route caller request s₁) (answer : (caller.call request s₁).1 = .ok response)
      (written : response.serialize = .ok t) (past : Past settings visitor r s route 8)
      (marks : Marks (visitor.unharmed request.method) s s') :
      Account settings visitor r s route (.ok (Utf8.encode t)) s'

theorem answer_account {caller : Caller N} {request : Rpc.Request} {s₁ s₂ : Site N} {log : Log.Logger}
    (other : log.name ≠ Log.accessLogger) (calls : Calls settings visitor r s route caller request s₁)
    (past : Past settings visitor r s route 6) {ties : Ties} (twins : Twins ties.loose s₁ s₂)
    (marks : Marks (visitor.unharmed request.method) s s₂) :
    Account settings visitor r s route (answer settings log caller request s₂).1 (answer settings log caller request s₂).2 := by
  have same := (Caller.call_agrees caller request s₁ s₂ twins).1
  cases called : (caller.call request s₁).1 with
  | error fault =>
    have reached := answer_failed settings other (same.symm.trans called)
    exact .failed ⟨.uncalled calls called, past⟩ (.called calls) (reached.after marks) (fun early => absurd early (by decide))
      fun early => absurd early (by decide)
  | ok response =>
    have past' := past_called past calls called
    cases serialized : response.serialize with
    | error fault =>
      have reached := answer_unwritten settings other (same.symm.trans called) serialized
      exact .failed ⟨.unwritten calls called serialized, past'⟩ (.called calls) (reached.after marks)
        (fun early => absurd early (by decide)) fun early => absurd early (by decide)
    | ok t =>
      obtain ⟨outcome, unmarked⟩ := answer_written settings log (same.symm.trans called) serialized
      rw [outcome]
      exact .answered calls called serialized (past_written past' calls called serialized) (marks.unmarked unmarked)

theorem First.uncalled {stage : Stage} {verdict : Verdict} (first : First settings visitor r s route stage verdict)
    (early : stage.place < 5) (caller : Caller N) (request : Rpc.Request) (s' : Site N) :
    ¬ Calls settings visitor r s route caller request s' := fun calls => by
  have least := calls.past _ _ first.fails
  omega

theorem First.account (stage : Stage) {verdict : Verdict} (first : First settings visitor r s route stage verdict)
    (early : stage.place < 5) {s₁ s₂ : Site N} {outcome : Except Fault (List UInt8)}
    (marks : Marks (visitor.unharmed []) s s₁) (unsent : s₁.posts = s.posts) (untouched : stage.place < 3 → s₁.tree = s.tree)
    (reached : Reached verdict s₁.access s₁ s₂ outcome) (calm : Calm s₁ s₂) :
    Account settings visitor r s route outcome s₂ :=
  .failed first (.uncalled (first.uncalled early)) (reached.after marks)
    (fun _ => (Local.ofCalm calm).posts.trans unsent) fun known => calm.tree.trans (untouched known)

theorem First.noted_account (stage : Stage) {verdict : Verdict} (first : First settings visitor r s route stage verdict)
    (early : stage.place < 5) {s₁ s₂ : Site N} {outcome : Except Fault (List UInt8)}
    (noted : Notes (visitor.unharmed []) s s₁) (reached : Reached verdict s₁.access s₁ s₂ outcome) (calm : Calm s₁ s₂) :
    Account settings visitor r s route outcome s₂ :=
  first.account stage early noted.marks (Local.ofCalm noted.calm).posts (fun _ => noted.calm.tree) reached calm

omit [Seconds N] in
theorem noteMethod_notes {access : Access} {s₁ : Site N} (notes : Notes access s s₁) (method : Text) :
    Notes { access with method } s (noteMethod method s₁).2 := by
  cases notes with
  | intro records reports calls quiet => exact .intro records reports calls quiet

theorem proxy_account {s₀ : Site N} (begun : Notes Access.blank s s₀) :
    Account settings visitor r s .proxy (proxy settings visitor r s₀).1 (proxy settings visitor r s₀).2 := by
  obtain ⟨found, s₁, identified, noted, stage⟩ := identify_stage settings visitor r .proxy begun
  unfold proxy
  rw [bind_run, identified]
  cases found with
  | error fault =>
    obtain ⟨stage, code, early, coded, first⟩ := stage
    exact first.noted_account stage (by omega) noted ((refuse_telling fault .null s₁).reached coded)
      (refuse_calm fault .null s₁)
  | ok known =>
    obtain ⟨principal, address⟩ := known
    obtain ⟨known, addressed, given⟩ := stage
    have past : Past settings visitor r s .proxy 3 := past_addressed known addressed given
    simp only [bind_run, site_run]
    cases parts : Upload.isMultipart r with
    | true =>
      simp only [if_true]
      exact First.noted_account .parts ⟨.claimed parts, past⟩ (by decide) noted
        ((refuse_telling multipartRefusal .null s₁).reached rfl) (refuse_calm multipartRefusal .null s₁)
    | false =>
      have past' := past_plain past parts
      simp only [Bool.false_eq_true, if_false]
      cases parsed : Rpc.Request.ofBytes r.body with
      | error rejection =>
        have fails : Fails settings visitor r s .proxy .envelope (envelopeVerdict rejection) := .unparsed parsed
        exact First.noted_account .envelope ⟨fails, past'⟩ (by decide) noted (readEnvelope_reached s₁)
          (readEnvelope_calm rejection _ s₁)
      | ok request =>
        have calls : Calls settings visitor r s .proxy _ request s := .proxy known addressed given parts parsed
        have notes := noteMethod_notes noted request.method
        exact answer_account (boundLogger_other _ _) calls (past_built calls.past (Or.inl rfl))
          (notes.twins settings.store).loosen notes.marks

theorem Account.behind {outcome : Except Fault (List UInt8)} {s₁ s₂ : Site N}
    (account : Account settings visitor r s route outcome s₁) (past : Past settings visitor r s route 3)
    (unmarked : Unmarked s₁ s₂) (posts : s₂.posts = s₁.posts) : Account settings visitor r s route outcome s₂ := by
  cases account with
  | failed first named reached unsent untouched =>
    refine .failed first named (reached.unmarked unmarked) (fun early => posts.trans (unsent early)) fun early => ?_
    have least := first.before past
    omega
  | answered calls answer written past' marks => exact .answered calls answer written past' (marks.unmarked unmarked)

theorem callWithFile_parsed (settings : Settings N) (log : Log.Logger) (user : UserId) (address : Text) (path : Path)
    {r : Http.Request} {form : Upload.Form} {request : Rpc.Request} {s : Site N} (known : s.form = some form)
    (parsed : Rpc.Request.ofText (form.value Upload.payloadField) = .ok request) :
    callWithFile settings log user address path r s = (Upload.failIf s.trouble.buildCall >>= fun _ =>
      answer settings log (callerFor settings address user [Hook.injectFilePath path.text]) request)
        (noteMethod request.method s).2 := by
  unfold callWithFile
  rw [bind_run, Upload.formOf_known known]
  simp only [parsed]
  rfl

theorem callWithFile_unparsed (settings : Settings N) (log : Log.Logger) (user : UserId) (address : Text) (path : Path)
    {r : Http.Request} {form : Upload.Form} {rejection : Rpc.Request.Rejection} {s : Site N} (known : s.form = some form)
    (refused : Rpc.Request.ofText (form.value Upload.payloadField) = .error rejection) :
    ∃ use, callWithFile settings log user address path r s = readEnvelope (.error rejection) use s := by
  unfold callWithFile
  rw [bind_run, Upload.formOf_known known]
  simp only [refused]
  exact ⟨_, rfl⟩

theorem callWithFile_account {principal : Principal} {address : Text} {path : Path} {s₁ s₂ : Site N} {log : Log.Logger}
    (other : log.name ≠ Log.accessLogger) (known : visitor = .known principal) (addressed : principal.address = some address)
    (given : address ≠ []) (saved : savingOf settings r s principal = (.ok path, s₁)) {store : Store}
    {posts₁ posts₂ : List Post} (twins : Twins (unwatched store posts₁ posts₂).loose s₁ s₂)
    (formed : s₂.form = some (Upload.formAt r s)) (aside : Local s s₂) (marks : Marks (visitor.unharmed []) s s₂) :
    Account settings visitor r s .publish (callWithFile settings log principal.id address path r s₂).1
      (callWithFile settings log principal.id address path r s₂).2 := by
  have past : Past settings visitor r s .publish 4 :=
    past_saved (past_addressed known addressed given) known (congrArg Prod.fst saved)
  cases parsed : Rpc.Request.ofText ((Upload.formAt r s).value Upload.payloadField) with
  | error rejection =>
    have fails : Fails settings visitor r s .publish .envelope (envelopeVerdict rejection) := .unparsed parsed
    obtain ⟨use, run⟩ := callWithFile_unparsed settings log principal.id address path (r := r) formed parsed
    rw [run]
    exact First.account .envelope ⟨fails, past⟩ (by decide) marks aside.posts (fun early => absurd early (by decide))
      (readEnvelope_reached s₂) (readEnvelope_calm rejection _ s₂)
  | ok request =>
    have calls : Calls settings visitor r s .publish _ request s₁ := .publish known addressed given saved parsed
    have begun : Notes (visitor.unharmed []) s₂ s₂ := marks.access ▸ noted_frame.refl s₂
    have notes : Notes (visitor.unharmed request.method) s₂ _ := noteMethod_notes begun request.method
    have trouble : s₂.trouble.buildCall = s.trouble.buildCall := congrArg Trouble.buildCall aside.trouble
    rw [callWithFile_parsed settings log principal.id address path formed parsed, trouble]
    cases built : s.trouble.buildCall with
    | some fault =>
      exact .failed ⟨.unbuilt built, calls.past⟩ (.called calls) ⟨rfl, marks.follows notes.marks⟩ (fun _ => aside.posts)
        fun early => absurd early (by decide)
    | none =>
      have twins' : Twins (unwatched store posts₁ posts₂).loose s₁ _ := twins.unobserved notes
      exact answer_account other calls (past_built calls.past (Or.inr built)) twins' (marks.follows notes.marks)

omit [Seconds N] in
theorem release_ended (settings : Settings N) {log : Log.Logger} (other : log.name ≠ Log.accessLogger) (path : Path)
    (s : Site N) : Unmarked s (release settings log path s).2 ∧
      (release settings log path s).1 = match s.trouble.grave with
        | some fault => .error fault
        | none => .ok () := by
  obtain ⟨tree, after, ended⟩ := deleteSaved_ended path s
  have deleted : Unmarked s (deleteSaved path s).2 := by
    rw [after]
    exact ⟨rfl, rfl, rfl⟩
  cases graves : s.trouble.grave with
  | some fault =>
    simp only [graves] at ended
    rw [release_grave settings log ended.1 ended.2]
    exact ⟨deleted, rfl⟩
  | none =>
    simp only [graves] at ended
    obtain ⟨outcome, noted⟩ := release_mild settings log other ended
    exact ⟨deleted.unmarked (Notes.marks noted), outcome⟩

-- What processing a request ends with: what the request comes to, unless its file could not be deleted for a
-- reason that is none of the system.
inductive Processed (settings : Settings N) (visitor : Visitor) (r : Http.Request) (s : Site N) (route : Route) :
    Except Fault (List UInt8) → Site N → Prop where
  | told {outcome : Except Fault (List UInt8)} {s' : Site N} (account : Account settings visitor r s route outcome s')
      (deleted : route = .publish → Past settings visitor r s route 4 → s.trouble.grave = none) :
      Processed settings visitor r s route outcome s'
  | undeleted {outcome : Except Fault (List UInt8)} {fault : Fault} {s' : Site N}
      (account : Account settings visitor r s route outcome s') (upload : route = .publish)
      (saved : Past settings visitor r s route 4) (grave : s.trouble.grave = some fault) :
      Processed settings visitor r s route (.error fault) s'

theorem publish_processed {s₀ : Site N} (begun : Notes Access.blank s s₀) :
    Processed settings visitor r s .publish (publish settings visitor r s₀).1 (publish settings visitor r s₀).2 := by
  have unsaved : ∀ {stage verdict}, First settings visitor r s .publish stage verdict → stage.place < 4 →
      Route.publish = .publish → Past settings visitor r s .publish 4 → s.trouble.grave = none := by
    intro stage verdict first early _ past
    have least := first.before past
    omega
  obtain ⟨found, s₁, identified, noted, stage⟩ := identify_stage settings visitor r .publish begun
  unfold publish
  rw [bind_run, identified]
  cases found with
  | error fault =>
    obtain ⟨stage, code, early, coded, first⟩ := stage
    exact .told (first.noted_account stage (by omega) noted ((refuse_telling fault .null s₁).reached coded)
      (refuse_calm fault .null s₁)) (unsaved first (by omega))
  | ok found =>
    obtain ⟨principal, address⟩ := found
    obtain ⟨known, addressed, given⟩ := stage
    have past : Past settings visitor r s .publish 3 := past_addressed known addressed given
    have sameId : s₁.requestId = s.requestId := (Local.ofCalm noted.calm).requestId
    simp only [bind_run, site_run, attempt_run, sameId]
    have other := boundLogger_other principal.id s.requestId
    obtain ⟨same, twins⟩ := Upload.save_agrees (fun alike => alike) principal.id other other r s s₁ (noted.twins settings.store)
    have unmarked := save_unmarked settings.store principal.id other r s₁
    have saving := Upload.save_run settings.store principal.id (boundLogger principal.id s.requestId) r s₁
    generalize Upload.save settings.store principal.id (boundLogger principal.id s.requestId) r s₁ = ran
      at same twins unmarked saving ⊢
    obtain ⟨outcome, s₂⟩ := ran
    have marks : Marks (visitor.unharmed []) s s₂ := noted.marks.unmarked unmarked
    cases outcome with
    | error fault =>
      have aside := local_frame.trans (.ofCalm noted.calm) saving.1
      have fails : Fails settings visitor r s .publish .saving (savingVerdict fault) := .unsaved known same
      have first : First settings visitor r s .publish .saving (savingVerdict fault) := ⟨fails, past⟩
      exact .told (first.account .saving (by decide) marks aside.posts (fun early => absurd early (by decide))
        (savingFailed_reached settings other fault s₂) (savingFailed_calm settings _ fault s₂)) (unsaved first (by decide))
    | ok path =>
      obtain ⟨form, part, read, formed, -, stored⟩ := saving
      have aside := local_frame.trans (.ofCalm noted.calm) stored.aside
      have known' : form = Upload.formAt r s := (Upload.formOf_ok read).trans (Upload.formAt_calm noted.calm)
      rw [known'] at formed
      have saved : savingOf settings r s principal = (.ok path, (savingOf settings r s principal).2) := Prod.ext same rfl
      have past' : Past settings visitor r s .publish 4 := past_saved past known same
      simp only
      rw [thenAlways_outcome, thenAlways_run]
      have account := callWithFile_account other known addressed given saved twins formed aside marks
      obtain ⟨more, exchanged⟩ :=
        callWithFile_exchanged settings (boundLogger principal.id s.requestId) principal.id address path r s₂
      have troubles := exchanged.trouble.trans aside.trouble
      generalize callWithFile settings (boundLogger principal.id s.requestId) principal.id address path r s₂ = called
        at account troubles
      obtain ⟨outcome, s₃⟩ := called
      obtain ⟨unmarked', ended⟩ := release_ended settings other path s₃
      have kept := (release_only settings (boundLogger principal.id s.requestId) path s₃).aside.posts
      have behind := account.behind past unmarked' kept
      rw [ended, show s₃.trouble = s.trouble from troubles]
      cases graves : s.trouble.grave with
      | none => exact .told behind fun _ _ => graves
      | some fault => exact .undeleted behind rfl past' graves

theorem process_processed {s₀ : Site N} (begun : Notes Access.blank s s₀) :
    Processed settings visitor r s route (process settings visitor r route s₀).1 (process settings visitor r route s₀).2 := by
  cases route with
  | publish => exact publish_processed begun
  | proxy => exact .told (proxy_account begun) fun upload => by cases upload

def Verdict.Names : Verdict → Text → Prop
  | .told _, label => label ≠ []
  | .unexpected fault, label => label = fault.label

inductive Concluded (settings : Settings N) (visitor : Visitor) (r : Http.Request) (s : Site N) (route : Route) :
    List UInt8 → Option Text → Prop where
  | failed {stage : Stage} {verdict : Verdict} {label : Text} (first : First settings visitor r s route stage verdict)
      (deleted : route = .publish → Past settings visitor r s route 4 → s.trouble.grave = none)
      (names : verdict.Names label) : Concluded settings visitor r s route verdict.body (some label)
  | undeleted {fault : Fault} (upload : route = .publish) (saved : Past settings visitor r s route 4)
      (grave : s.trouble.grave = some fault) :
      Concluded settings visitor r s route internalComplaint.body (some fault.label)
  | answered {caller : Caller N} {request : Rpc.Request} {s₁ : Site N} {response : Rpc.Response} {t : Text}
      (calls : Calls settings visitor r s route caller request s₁) (answer : (caller.call request s₁).1 = .ok response)
      (written : response.serialize = .ok t) (past : Past settings visitor r s route 8)
      (deleted : route = .publish → s.trouble.grave = none) :
      Concluded settings visitor r s route (Utf8.encode t) none

-- A request that was handled: its access record was written, and stages behind the first that fails left no trace.
structure Handled (settings : Settings N) (visitor : Visitor) (r : Http.Request) (s : Site N) (route : Route)
    (method : Text) (errorType : Option Text) (s' : Site N) : Prop where
  named : Named settings visitor r s route method
  recorded : ∃ id, visits s'.records = visits s.records ++
    visits (Log.visitEntries s.accessLevel (visitOf route r ⟨visitor.user?, method, errorType⟩) none id)
  unsent : ∀ stage verdict, Fails settings visitor r s route stage verdict → stage.place < 6 → s'.posts = s.posts
  untouched : ∀ stage verdict, Fails settings visitor r s route stage verdict → stage.place < 3 → s'.tree = s.tree

theorem Account.unsent {outcome : Except Fault (List UInt8)} {s' : Site N}
    (account : Account settings visitor r s route outcome s') {stage : Stage} {verdict : Verdict}
    (fails : Fails settings visitor r s route stage verdict) (early : stage.place < 6) : s'.posts = s.posts := by
  cases account with
  | failed first _ _ unsent _ => exact unsent (Nat.lt_of_le_of_lt (first.past _ _ fails) early)
  | answered _ _ _ past _ =>
    have least := past _ _ fails
    omega

theorem Account.untouched {outcome : Except Fault (List UInt8)} {s' : Site N}
    (account : Account settings visitor r s route outcome s') {stage : Stage} {verdict : Verdict}
    (fails : Fails settings visitor r s route stage verdict) (early : stage.place < 3) : s'.tree = s.tree := by
  cases account with
  | failed first _ _ _ untouched => exact untouched (Nat.lt_of_le_of_lt (first.past _ _ fails) early)
  | answered _ _ _ past _ =>
    have least := past _ _ fails
    omega

theorem Account.marked {outcome : Except Fault (List UInt8)} {s' : Site N}
    (account : Account settings visitor r s route outcome s') :
    ∃ access, Marks access s s' ∧ access.user = visitor.user? ∧ Named settings visitor r s route access.method := by
  cases account with
  | @failed _ verdict method _ _ _ named reached _ _ =>
    cases verdict with
    | told complaint =>
      obtain ⟨label, -, -, marks⟩ := reached
      exact ⟨_, marks, rfl, named⟩
    | unexpected fault => exact ⟨_, reached.2, rfl, named⟩
  | answered calls _ _ _ marks => exact ⟨_, marks, rfl, .called calls⟩

theorem Processed.account {outcome : Except Fault (List UInt8)} {s' : Site N}
    (processed : Processed settings visitor r s route outcome s') :
    ∃ told, Account settings visitor r s route told s' := by
  cases processed with
  | told account _ => exact ⟨_, account⟩
  | undeleted account _ _ _ => exact ⟨_, account⟩

theorem Processed.fault {fault : Fault} {s' : Site N} (processed : Processed settings visitor r s route (.error fault) s') :
    Concluded settings visitor r s route internalComplaint.body (some fault.label) := by
  cases processed with
  | told account deleted =>
    cases account with
    | @failed _ verdict _ _ _ first _ reached _ _ =>
      cases verdict with
      | told complaint =>
        obtain ⟨_, _, told, _⟩ := reached
        cases told
      | unexpected other =>
        cases reached.1
        exact .failed first deleted rfl
  | undeleted _ upload saved grave => exact .undeleted upload saved grave

theorem Processed.body {body : List UInt8} {s' : Site N} (processed : Processed settings visitor r s route (.ok body) s') :
    Concluded settings visitor r s route body s'.access.errorType := by
  cases processed with
  | told account deleted =>
    cases account with
    | @failed _ verdict _ _ _ first _ reached _ _ =>
      cases verdict with
      | told complaint =>
        obtain ⟨label, named, told, marks⟩ := reached
        cases told
        rw [marks.access]
        exact .failed first deleted named
      | unexpected other => cases reached.1
    | answered calls answer written past marks =>
      rw [marks.access]
      exact .answered calls answer written past fun upload => deleted upload fun _ _ fails => by
        have least := past _ _ fails
        omega

theorem Processed.handled {outcome : Except Fault (List UInt8)} {s₁ s₂ : Site N}
    (processed : Processed settings visitor r s route outcome s₁) {method : Text} {errorType : Option Text}
    (named : Named settings visitor r s route method) (calm : Calm s₁ s₂)
    (marks : Marks ⟨visitor.user?, method, errorType⟩ s s₂) :
    Handled settings visitor r s route method errorType (recordVisit route r s₂).2 := by
  obtain ⟨told, account⟩ := processed.account
  have calm' : Calm s₁ (recordVisit route r s₂).2 := calm_frame.trans calm (recordVisit_calm route r s₂)
  refine ⟨named, ⟨s₂.requestId, ?_⟩, fun stage verdict fails early => ?_, fun stage verdict fails early => ?_⟩
  · show visits (s₂.records ++ Log.visitEntries s₂.accessLevel (visitOf route r s₂.access) none s₂.requestId) = _
    rw [visits_append, marks.visits, marks.access, marks.level]
  · exact (Local.ofCalm calm').posts.trans (account.unsent fails early)
  · exact calm'.tree.trans (account.untouched fails early)

-- However a request ends, its access record is written, and stages behind the first that fails leave no trace.
theorem handle_concluded (settings : Settings N) (route : Route) (visitor : Visitor) (r : Http.Request) (s : Site N) :
    ∃ body s' method errorType, handle settings route visitor r s = (.ok body, s') ∧
      Concluded settings visitor r s route body errorType ∧ Handled settings visitor r s route method errorType s' := by
  have begun : Notes Access.blank s { s with access := Access.blank } := .intro s.records s.reports s.trackerCalls rfl
  have processed : Processed settings visitor r s route _ _ := process_processed begun
  obtain ⟨told, account⟩ := processed.account
  obtain ⟨access, marks, user, named⟩ := account.marked
  unfold handle
  rw [bind_run, update_run]
  simp only [bind_run, attempt_run]
  generalize process settings visitor r route { s with access := Access.blank } = ran at processed marks
  obtain ⟨outcome, s₁⟩ := ran
  cases outcome with
  | ok body =>
    have same : s₁.access = access := marks.access
    have fields : Marks ⟨visitor.user?, access.method, s₁.access.errorType⟩ s s₁ := by
      rw [← user, same]
      exact marks
    exact ⟨body, _, access.method, s₁.access.errorType, rfl, processed.body,
      processed.handled named (calm_frame.refl s₁) fields⟩
  | error fault =>
    have tells := unexpectedFault_telling settings route fault s₁
    have calm := unexpectedFault_calm settings route fault s₁
    simp only [bind_run]
    generalize unexpectedFault settings route fault s₁ = ended at tells calm
    obtain ⟨outcome, s₂⟩ := ended
    obtain ⟨outcome, behind⟩ := tells
    cases outcome
    have fields : Marks ⟨visitor.user?, access.method, some fault.label⟩ s s₂ := by
      rw [marks.access] at behind
      rw [← user]
      exact marks.follows behind
    exact ⟨internalComplaint.body, _, access.method, some fault.label, rfl, processed.fault,
      processed.handled named calm fields⟩

theorem Concluded.first {body : List UInt8} {errorType : Option Text}
    (concluded : Concluded settings visitor r s route body errorType) {stage : Stage} {verdict : Verdict}
    (first : First settings visitor r s route stage verdict)
    (deleted : stage.place < 4 ∨ route = .proxy ∨ s.trouble.grave = none) : body = verdict.body := by
  cases concluded with
  | failed found =>
    rw [(first.unique found).2]
  | undeleted upload saved grave =>
    rcases deleted with early | plain | none
    · have least := first.before saved
      omega
    · cases upload.symm.trans plain
    · cases grave.symm.trans none
  | answered _ _ _ past _ =>
    have last := first.before past
    cases stage <;> exact absurd last (by decide)

theorem Concluded.undeletable {body : List UInt8} {errorType : Option Text}
    (concluded : Concluded settings visitor r s .publish body errorType) {fault : Fault}
    (grave : s.trouble.grave = some fault) (saved : Past settings visitor r s .publish 4) : body = internalComplaint.body := by
  cases concluded with
  | failed _ deleted => cases grave.symm.trans (deleted rfl saved)
  | undeleted => rfl
  | answered _ _ _ _ deleted => cases grave.symm.trans (deleted rfl)

theorem handle_proxy_exchanged (settings : Settings N) (visitor : Visitor) (r : Http.Request) :
    Leaves Exchanged (handle settings .proxy visitor r) := by
  intro s
  have begun : Exchanged s { s with access := Access.blank } := ⟨[], exchanges_still rfl rfl rfl rfl rfl rfl⟩
  exact exchanged_frame.trans begun (exchanged_frame.trans (proxy_exchanged settings visitor r _)
    (.ofCalm (handle_after settings .proxy visitor r s)))

theorem Concluded.response {body : List UInt8} {errorType : Option Text}
    (concluded : Concluded settings visitor r s route body errorType)
    (deleted : route = .proxy ∨ s.trouble.grave = none)
    (passes : ∀ stage verdict, ¬ Fails settings visitor r s route stage verdict) :
    ∃ caller request s₁ response t, Calls settings visitor r s route caller request s₁ ∧
      (caller.call request s₁).1 = .ok response ∧ response.serialize = .ok t ∧ body = Utf8.encode t := by
  cases concluded with
  | failed first => exact absurd first.fails (passes _ _)
  | undeleted upload saved grave =>
    rcases deleted with plain | none
    · cases upload.symm.trans plain
    · cases grave.symm.trans none
  | answered calls answer written => exact ⟨_, _, _, _, _, calls, answer, written, rfl⟩

-- When several stages fail, the client is told what the first of them says, and those behind it leave no trace;
-- when none does, it is the response of the call. Only a saved file that cannot be deleted, for a reason that is
-- none of the system, takes the place of what was to be told.
theorem handle_tells_first (settings : Settings N) (route : Route) (visitor : Visitor) (r : Http.Request) (s : Site N) :
    ∃ body s', handle settings route visitor r s = (.ok body, s') ∧
      (∀ stage verdict, Fails settings visitor r s route stage verdict →
        (stage.place < 3 → s'.tree = s.tree) ∧ (stage.place < 6 → s'.posts = s.posts) ∧
        ∃ earliest told, First settings visitor r s route earliest told ∧
          (earliest.place < 4 ∨ route = .proxy ∨ s.trouble.grave = none → body = told.body)) ∧
      ((∀ stage verdict, ¬ Fails settings visitor r s route stage verdict) → route = .proxy ∨ s.trouble.grave = none →
        ∃ caller request s₁ response t, Calls settings visitor r s route caller request s₁ ∧
          (caller.call request s₁).1 = .ok response ∧ response.serialize = .ok t ∧ body = Utf8.encode t) ∧
      (∀ fault, s.trouble.grave = some fault → route = .publish → Past settings visitor r s route 4 →
        body = internalComplaint.body) ∧
      (route = .proxy → ∃ more, s'.posts = s.posts ++ more ∧ s'.tree = cleared s.turns more s.tree) := by
  obtain ⟨body, s', method, errorType, run, concluded, handled⟩ := handle_concluded settings route visitor r s
  refine ⟨body, s', run, fun stage verdict fails => ?_, fun passes deleted => concluded.response deleted passes, ?_, ?_⟩
  · obtain ⟨earliest, told, first⟩ := fails.first
    exact ⟨handled.untouched stage verdict fails, handled.unsent stage verdict fails, earliest, told, first,
      concluded.first first⟩
  · rintro fault grave rfl saved
    exact concluded.undeletable grave saved
  · rintro rfl
    obtain ⟨more, exchanges⟩ := handle_proxy_exchanged settings visitor r s
    rw [run] at exchanges
    exact ⟨more, exchanges.posts, exchanges.tree⟩

def homeless : Visitor := .known ⟨.number 7, none⟩

def unbuildingSite : Site Num := { App.sampleSite with trouble := { buildCall := some (.runtime "no call") } }

-- Both of it is wrong, and only the first is told.
theorem handle_tells_first_homeless :
    ∃ body s', handle App.sampleApp.settings .publish homeless App.sampleUpload unbuildingSite = (.ok body, s') ∧
      Fails App.sampleApp.settings homeless App.sampleUpload unbuildingSite .publish .building
        (.unexpected (.runtime "no call")) ∧
      body = Complaint.body ⟨.int (-32080), "user does not have sdk address assigned", .null, .int 0⟩ ∧
      s'.tree = unbuildingSite.tree ∧ s'.posts = [] := by
  have unbuilt : Fails App.sampleApp.settings homeless App.sampleUpload unbuildingSite .publish .building
      (.unexpected (.runtime "no call")) := .unbuilt rfl
  have addressless : Fails App.sampleApp.settings homeless App.sampleUpload unbuildingSite .publish .address _ :=
    .homeless rfl (Or.inl rfl)
  obtain ⟨body, s', run, stages, -, -, -⟩ :=
    handle_tells_first App.sampleApp.settings .publish homeless App.sampleUpload unbuildingSite
  obtain ⟨untouched, unsent, earliest, told, first, same⟩ := stages _ _ addressless
  have known : First App.sampleApp.settings homeless App.sampleUpload unbuildingSite .publish .address _ :=
    ⟨addressless, past_known rfl⟩
  obtain ⟨place, verdict⟩ := known.unique first
  refine ⟨body, s', run, unbuilt, ?_, untouched (by decide), unsent (by decide)⟩
  rw [same (Or.inr (Or.inr rfl)), verdict]
  rfl

end UploadRelay.Service
