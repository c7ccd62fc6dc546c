import UploadRelay.Proofs.Service.Publishing
import UploadRelay.Proofs.Upload.Form
import UploadRelay.Service.App
-- What reaches the backend of an upload: in every post the client's envelope with the path of
-- the saved file in its params, and at that path the bytes of the file part.

namespace UploadRelay.Service

open Work Backend

variable {N : Type}

-- Posts of an upload: one body, which names the path of the saved file, and at that path the
-- bytes of the upload as long as the backend has not deleted it.
structure PostsOf (store : Store) (directory : Text) (principal : Principal) (draw : Nat → Text) (turns : List Turn)
    (part : Upload.FilePart) (request : Rpc.Request) (path : Path) (posts : List Post) : Prop where
  place : ∃ n, path = (store.home directory principal.id).child (Scratch.fileName (draw n) part.fileName)
  bodies : ∀ post ∈ posts, post.body = (withPath path request).body
  seen : ∀ i post, posts[i]? = some post → KeepsFile turns i → post.seen.file? path = some part.content

-- Between these sites the backend got no post, or posts of this upload.
def PostsUpload (settings : Settings N) (visitor : Visitor) (part : Upload.FilePart) (request : Rpc.Request)
    (s s' : Site N) : Prop :=
  ∃ posts, s'.posts = s.posts ++ posts ∧
    (posts = [] ∨ ∃ principal path, visitor.principal = .ok principal ∧
      PostsOf settings.store s.directory principal s.draw s.turns part request path posts)

theorem postsUpload_none {settings : Settings N} {visitor : Visitor} {part : Upload.FilePart} {request : Rpc.Request}
    {s s' : Site N} (same : s'.posts = s.posts) : PostsUpload settings visitor part request s s' :=
  ⟨[], by rw [same, List.append_nil], Or.inl rfl⟩

theorem PostsUpload.between {settings : Settings N} {visitor : Visitor} {part : Upload.FilePart} {request : Rpc.Request}
    {s s₁ s₂ s' : Site N} (before : Local s s₁) (sends : PostsUpload settings visitor part request s₁ s₂)
    (behind : s'.posts = s₂.posts) : PostsUpload settings visitor part request s s' := by
  obtain ⟨posts, grown, what⟩ := sends
  rw [before.posts] at grown
  rw [before.draw, before.directory, before.turns] at what
  exact ⟨posts, behind.trans grown, what⟩

theorem isUpload_parsed {form : Upload.Form} {part : Upload.FilePart} (filed : form.file? Upload.fileField = some part)
    {request : Rpc.Request} (parsed : Rpc.Request.ofText (form.value Upload.payloadField) = .ok request) :
    Upload.isUpload form = true := by
  unfold Upload.isUpload
  rw [filed]
  cases payload : form.value Upload.payloadField with
  | nil =>
    rw [payload] at parsed
    cases parsed
  | cons c rest => rfl

theorem App.visitorOf_known {app : App N} {r : Http.Request} {authenticate : Http.Request → Except Fault Principal}
    (given : app.authenticate = some authenticate) {principal : Principal} (accepted : authenticate r = .ok principal)
    (s : Site N) : app.visitorOf r s = (.ok (.known principal), s) := by
  unfold App.visitorOf
  rw [given]
  simp only [accepted]
  rfl

theorem App.idFor_run (r : Http.Request) (s : Site N) :
    ∃ id freshIds, App.idFor r s = (.ok id, { s with freshIds := freshIds }) := by
  unfold App.idFor
  match r.header? App.idHeader with
  | some (c :: rest) => exact ⟨c :: rest, s.freshIds, rfl⟩
  | some [] => exact ⟨_, s.freshIds.tail, rfl⟩
  | none => exact ⟨_, s.freshIds.tail, rfl⟩

variable [Seconds N]

theorem publish_posts (settings : Settings N) (visitor : Visitor) (r : Http.Request) {s : Site N}
    {form : Upload.Form} (known : s.form = some form) {part : Upload.FilePart}
    (filed : form.file? Upload.fileField = some part) {request : Rpc.Request}
    (parsed : Rpc.Request.ofText (form.value Upload.payloadField) = .ok request) :
    PostsUpload settings visitor part request s (publish settings visitor r s).2 := by
  obtain ⟨found, s₁, identified⟩ := identify_ends visitor s
  have calm := identify_calm visitor s
  rw [identified] at calm
  have aside₁ : Local s s₁ := .ofCalm calm
  cases found with
  | error fault => exact postsUpload_none (Local.ofCalm (publish_refused settings r identified)).posts
  | ok found =>
    obtain ⟨principal, address⟩ := found
    have saving := Upload.save_run settings.store principal.id (boundLogger principal.id s₁.requestId) r s₁
    cases run : Upload.save settings.store principal.id (boundLogger principal.id s₁.requestId) r s₁ with
    | mk outcome s₂ =>
      rw [run] at saving
      cases outcome with
      | error fault =>
        have after := Local.ofCalm (publish_unsaved settings r identified run)
        exact postsUpload_none (after.posts.trans (saving.1.posts.trans aside₁.posts))
      | ok path =>
        obtain ⟨form', part', read, formed, filed', saved⟩ := saving
        have known₁ : s₁.form = some form := by
          cases calm
          exact known
        rw [Upload.formOf_known known₁] at read
        cases read
        have same : part' = part := Option.some.inj (filed'.symm.trans filed)
        subst same
        obtain ⟨posts, sends⟩ := callWithFile_sent settings (boundLogger principal.id s₁.requestId) principal.id
          address path r formed parsed
        have aside := local_frame.trans aside₁ saved.aside
        rw [publish_saved settings r identified run]
        have released := (release_only settings (boundLogger principal.id s₁.requestId) path
          (callWithFile settings (boundLogger principal.id s₁.requestId) principal.id address path r s₂).2).aside
        refine ⟨posts, ?_, Or.inr ⟨principal, path, identify_known identified, ?_, sends.bodies, ?_⟩⟩
        · rw [released.posts, sends.posts, aside.posts]
        · rw [← aside₁.draw, ← aside₁.directory]
          exact saved.place
        · intro i post here keeps
          rw [← aside.turns] at keeps
          rw [sends.seen here keeps]
          exact saved.stored

theorem handle_posts (settings : Settings N) (visitor : Visitor) (r : Http.Request) {s : Site N}
    {form : Upload.Form} (known : s.form = some form) {part : Upload.FilePart}
    (filed : form.file? Upload.fileField = some part) {request : Rpc.Request}
    (parsed : Rpc.Request.ofText (form.value Upload.payloadField) = .ok request) :
    PostsUpload settings visitor part request s (handle settings .publish visitor r s).2 := by
  have sends := publish_posts settings visitor r (s := { s with access := Access.blank }) known filed parsed
  have after := Local.ofCalm (handle_after settings .publish visitor r s)
  exact sends.between ⟨rfl, rfl, rfl, rfl, rfl, rfl, rfl, rfl⟩ after.posts

namespace App

theorem post_posts (app : App N) (visitor : Visitor) {r : Http.Request} {s : Site N} (unread : s.form = none)
    {form : Upload.Form} {copies : Nat} (reads : Upload.readForm s.trouble.copy s.copies r = ⟨form, .complete, copies⟩)
    {part : Upload.FilePart} (filed : form.file? Upload.fileField = some part) {request : Rpc.Request}
    (parsed : Rpc.Request.ofText (form.value Upload.payloadField) = .ok request) :
    PostsUpload app.settings visitor part request s (app.post visitor r s).2 := by
  unfold post
  simp only [Upload.canHandle, bind_run, Upload.formOf_fresh unread reads, pure_run, isUpload_parsed filed parsed, if_true]
  have sends := handle_posts app.settings visitor r (s := { s with form := some form, copies := copies }) rfl filed parsed
  obtain ⟨body, s', run⟩ := handle_ends app.settings .publish visitor r { s with form := some form, copies := copies }
  rw [run] at sends ⊢
  exact sends.between ⟨rfl, rfl, rfl, rfl, rfl, rfl, rfl, rfl⟩ rfl

theorem page_posts {app : App N} {r : Http.Request} {s : Site N} (unread : s.form = none)
    {authenticate : Http.Request → Except Fault Principal} (given : app.authenticate = some authenticate)
    {principal : Principal} (accepted : authenticate r = .ok principal) {form : Upload.Form} {copies : Nat}
    (reads : Upload.readForm s.trouble.copy s.copies r = ⟨form, .complete, copies⟩) {part : Upload.FilePart}
    (filed : form.file? Upload.fileField = some part) {request : Rpc.Request}
    (parsed : Rpc.Request.ofText (form.value Upload.payloadField) = .ok request) :
    PostsUpload app.settings (.known principal) part request s (app.page r s).2 := by
  have none : PostsUpload app.settings (.known principal) part request s s := postsUpload_none rfl
  unfold page
  rw [bind_run, visitorOf_known given accepted]
  simp only [route, bind_run, ofExcept_run]
  cases PathTemplate.read app.path with
  | error fault => exact none
  | ok template =>
    simp only
    split
    · exact none
    · split
      · unfold routed
        split
        · exact none
        · split
          · split
            · exact post_posts app (.known principal) unread reads filed parsed
            · exact none
          · split
            · exact none
            · split
              · exact none
              · exact none
      · exact none

def shown (r : Http.Request) : Except Fault Page → Page
  | .ok p => p
  | .error _ => problem r .failed

theorem serve_identified (app : App N) {r : Http.Request} {s : Site N} {id : Text} {freshIds : List Text}
    (identified : idFor r s = (.ok id, { s with freshIds := freshIds })) :
    app.serve r s =
      (.ok (app.finished r id (shown r (app.page r { s with freshIds := freshIds, requestId := id, form := none }).1)),
        { (app.page r { s with freshIds := freshIds, requestId := id, form := none }).2 with
          requestId := s.requestId, form := none }) := by
  unfold serve
  simp only [bind_run, site_run, identified, update_run, attempt_run]
  cases (app.page r { s with freshIds := freshIds, requestId := id, form := none }).1 <;> rfl

theorem serve_shows (app : App N) (r : Http.Request) (s : Site N) :
    ∃ id freshIds, app.serve r s =
      (.ok (app.finished r id (shown r (app.page r { s with freshIds := freshIds, requestId := id, form := none }).1)),
        { (app.page r { s with freshIds := freshIds, requestId := id, form := none }).2 with
          requestId := s.requestId, form := none }) := by
  obtain ⟨id, freshIds, identified⟩ := idFor_run r s
  exact ⟨id, freshIds, app.serve_identified identified⟩

theorem serve_ends (app : App N) (r : Http.Request) (s : Site N) :
    ∃ response s', app.serve r s = (.ok response, s') ∧ s'.requestId = s.requestId ∧ s'.form = none := by
  obtain ⟨id, freshIds, serves⟩ := app.serve_shows r s
  exact ⟨_, _, serves, rfl, rfl⟩

theorem serve_run (app : App N) (r : Http.Request) (s : Site N) :
    ∃ id freshIds, (app.serve r s).2.posts =
      (app.page r { s with freshIds := freshIds, requestId := id, form := none }).2.posts := by
  obtain ⟨id, freshIds, serves⟩ := app.serve_shows r s
  exact ⟨id, freshIds, by rw [serves]⟩

-- What the backend gets of an upload. The path is told from the top on: the directory of the user stands where the
-- root leads from the working directory.
structure ForwardsUpload (app : App N) (r : Http.Request) (principal : Principal) (file : Upload.FilePart)
    (request : Rpc.Request) (s s' : Site N) (posts : List Post) (path : Path) (params : Members) : Prop where
  grown : s'.posts = s.posts ++ posts
  first : ∃ boundary, Upload.boundary? r.contentType = some boundary ∧
    Upload.FirstFile Upload.fileField (Multipart.parts (Utf8.encode boundary) r.body).parts file
  place : ∃ n, path = ((app.settings.store.root.child principal.id.text).absolute s.directory).child
    (s.draw n ++ "_" ++ file.fileName)
  pathParam : Members.get? params "file_path" = some (.str path.text)
  otherParams : ∀ name : Text, name ≠ "file_path" → Members.get? params name = Members.get? (request.params.getD []) name
  bodies : ∀ post ∈ posts, post.body = Json.writtenBytes (.obj [("jsonrpc", .str request.jsonrpc),
    ("method", .str request.method), ("id", request.id), ("params", .obj params)])
  contents : ∀ i post, posts[i]? = some post → KeepsFile s.turns i → post.seen.file? path = some file.content

-- Every post of an upload carries the client's request with the path of the saved file over
-- whatever the client wrote there, and finds the bytes of the file at that path.
theorem serve_forwards_upload (app : App N) (r : Http.Request) (s : Site N)
    {authenticate : Http.Request → Except Fault Principal} (given : app.authenticate = some authenticate)
    {principal : Principal} (accepted : authenticate r = .ok principal) {form : Upload.Form} {copies : Nat}
    (reads : Upload.readForm s.trouble.copy s.copies r = ⟨form, .complete, copies⟩) {file : Upload.FilePart}
    (filed : form.file? Upload.fileField = some file) {request : Rpc.Request}
    (parsed : Rpc.Request.ofText (form.value Upload.payloadField) = .ok request) :
    ∃ posts path params, ForwardsUpload app r principal file request s (app.serve r s).2 posts path params := by
  have there : (Upload.readForm s.trouble.copy s.copies r).form.file? Upload.fileField = some file := by
    rw [reads]
    exact filed
  have first := Upload.readForm_first there
  obtain ⟨id, freshIds, served⟩ := serve_run app r s
  have sends := page_posts (s := { s with freshIds := freshIds, requestId := id, form := none }) rfl given
    accepted reads filed parsed
  obtain ⟨posts, grown, what⟩ := sends
  have others : ∀ (path : Path) (name : Text), name ≠ "file_path" →
      Members.get? (Members.put "file_path" (.str path.text) (request.params.getD [])) name =
        Members.get? (request.params.getD []) name := fun path name apart => Members.get?_put_other _ _ apart
  rcases what with none | ⟨known, path, same, sent⟩
  · subst none
    refine ⟨[], _, _, served.trans grown, first, ⟨0, rfl⟩, Members.get?_put_same _ _ _, others _, ?_, ?_⟩
    · intro post member
      cases member
    · intro i post here
      cases here
  · cases same
    refine ⟨posts, path, _, served.trans grown, first, sent.place, Members.get?_put_same _ _ _, others _, ?_, sent.seen⟩
    intro post member
    rw [sent.bodies post member]
    rfl

def sampleApp : App Num where
  base := "/pub"
  settings := ⟨⟨Path.ofText "/srv/uploads"⟩, none, .silent⟩
  authenticate := some fun _ => .ok ⟨.number 7, some "http://backend:5279/"⟩
  origins := none

def samplePayload : Text := "\x7b\"method\": \"publish\", \"params\": \x7b\"file_path\": \"/etc/passwd\"\x7d\x7d"

def sampleUpload : Http.Request where
  method := "POST"
  path := "/pub/proxy"
  headers := [("content-type", "multipart/form-data; boundary=b"), ("content-length", "199")]
  body := Utf8.encode ("--b\r\ncontent-disposition: form-data; name=\"json_payload\"\r\n\r\n" ++ samplePayload ++
    "\r\n--b\r\ncontent-disposition: form-data; name=\"file\"; filename=\"a.bin\"\r\n\r\nhi\r\n--b--\r\n")
  remoteAddress := "127.0.0.1"

def sampleSite : Site Num := Site.new .empty (.int 0) 0 fun _ => "k3"

def isSampleForm : Upload.Reading → Bool
  | ⟨form, .complete, _⟩ =>
    (form.file? Upload.fileField).map Upload.FilePart.content == some [104, 105] &&
      form.value Upload.payloadField == samplePayload
  | _ => false

theorem isSampleForm_read {reading : Upload.Reading} (sample : isSampleForm reading = true) :
    ∃ form copies file, reading = ⟨form, .complete, copies⟩ ∧ form.file? Upload.fileField = some file ∧
      file.content = [104, 105] ∧ form.value Upload.payloadField = samplePayload := by
  obtain ⟨form, ending, copies⟩ := reading
  cases ending with
  | complete =>
    simp only [isSampleForm, Bool.and_eq_true, beq_iff_eq] at sample
    obtain ⟨file, filed, content⟩ := Option.map_eq_some_iff.mp sample.1
    exact ⟨form, copies, file, rfl, filed, content, sample.2⟩
  | unreadable why => cases sample
  | fault fault => cases sample

theorem serve_forwards_sampleUpload :
    ∃ file request posts path params,
      file.content = [104, 105] ∧ Rpc.Request.ofText samplePayload = .ok request ∧ posts.length = 1 ∧
      ForwardsUpload sampleApp sampleUpload ⟨.number 7, some "http://backend:5279/"⟩ file request sampleSite
        (sampleApp.serve sampleUpload sampleSite).2 posts path params := by
  have isRequest : (Rpc.Request.ofText samplePayload).toOption.isSome = true := by decide +kernel
  have isPosted : (sampleApp.serve sampleUpload sampleSite).2.posts.length = 1 := by decide +kernel
  have isSample : isSampleForm (Upload.readForm sampleSite.trouble.copy sampleSite.copies sampleUpload) = true := by
    decide +kernel
  obtain ⟨form, copies, file, reads, filed, content, payload⟩ := isSampleForm_read isSample
  cases parsed : Rpc.Request.ofText samplePayload with
  | error rejection =>
    rw [parsed] at isRequest
    cases isRequest
  | ok request =>
    obtain ⟨posts, path, params, forwards⟩ := serve_forwards_upload sampleApp sampleUpload sampleSite rfl rfl reads filed
      (payload ▸ parsed)
    have grown : (sampleApp.serve sampleUpload sampleSite).2.posts = posts := forwards.grown
    exact ⟨file, request, posts, path, params, content, rfl, grown ▸ isPosted, forwards⟩

end App

end UploadRelay.Service
