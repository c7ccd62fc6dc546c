import UploadRelay.Proofs.Service.Fidelity
import UploadRelay.Proofs.Upload.Broken
-- Which posts are handled as uploads when their body stops being a form: those with a file and a
-- payload in front of that place. The others leave no file and send nothing.

namespace UploadRelay.Service

open Work

variable {N : Type} [Seconds N]

theorem proxy_multipart (settings : Settings N) (visitor : Visitor) {r : Http.Request}
    (multipart : Upload.isMultipart r = true) : Leaves (Calm (N := N)) (proxy settings visitor r) := by
  refine Leaves.bind calm_frame (identify_calm visitor) fun found => ?_
  cases found with
  | error fault => exact refuse_calm fault .null
  | ok found =>
    obtain ⟨principal, address⟩ := found
    refine Leaves.bind calm_frame (leaves_site calm_frame) fun s => ?_
    simp only [multipart, if_true]
    exact refuse_calm multipartRefusal .null

theorem handle_multipart (settings : Settings N) (visitor : Visitor) {r : Http.Request}
    (multipart : Upload.isMultipart r = true) (s : Site N) : Calm s (handle settings .proxy visitor r s).2 := by
  have blank : Calm s { s with access := Access.blank } := .intro _ _ _ _ _ _
  have proxied := proxy_multipart settings visitor multipart { s with access := Access.blank }
  exact calm_frame.trans blank (calm_frame.trans proxied (handle_after settings .proxy visitor r s))

theorem isMultipart_unreadable {trouble : Nat → Option (List UInt8 × Fault)} {copies : Nat} {r : Http.Request}
    {why : Upload.Unreadable} (broken : (Upload.readForm trouble copies r).ending = .unreadable why) :
    Upload.isMultipart r = true := by
  cases multipart : Upload.isMultipart r with
  | true => rfl
  | false =>
    unfold Upload.readForm at broken
    rw [multipart] at broken
    cases broken

namespace App

-- What a post comes to when its body stops being a form behind these parts: an upload of the first
-- file in them, however much of it was received, or nothing at all.
structure BrokenOff (app : App N) (visitor : Visitor) (r : Http.Request) (s : Site N) (taken : List Multipart.Part)
    (uploads : Bool) : Prop where
  matched : uploads = true ↔ (∃ file, Upload.FirstFile Upload.fileField taken file) ∧
    ∃ t, t ≠ [] ∧ Upload.FirstValue Upload.payloadField taken t
  forwarded : uploads = true → ∀ file t request, Upload.FirstFile Upload.fileField taken file →
    Upload.FirstValue Upload.payloadField taken t → Rpc.Request.ofText t = .ok request →
      PostsUpload app.settings visitor file request s (app.post visitor r s).2
  refused : uploads = false → (app.post visitor r s).2.tree = s.tree ∧ (app.post visitor r s).2.posts = s.posts

theorem post_handled (app : App N) (visitor : Visitor) {r : Http.Request} {s s' : Site N} {uploads : Bool}
    (handles : Upload.canHandle r s = (.ok uploads, s')) :
    (app.post visitor r s).2 = (handle app.settings (if uploads then .publish else .proxy) visitor r s').2 := by
  obtain ⟨body, after, handled⟩ := handle_ends app.settings (if uploads then .publish else .proxy) visitor r s'
  unfold post
  simp only [bind_run, handles, handled]
  rfl

-- A body that stops being a form is an upload exactly when a file and a payload stand in front of
-- that place.
theorem post_broken (app : App N) (visitor : Visitor) {r : Http.Request} {s : Site N} (unread : s.form = none)
    {why : Upload.Unreadable} (broken : (Upload.readForm s.trouble.copy s.copies r).ending = .unreadable why) :
    ∃ taken uploads s', Upload.ReadTo s.trouble.copy s.copies (Upload.partsOf r) taken
        (Upload.readForm s.trouble.copy s.copies r).form ∧
      Upload.canHandle r s = (.ok uploads, s') ∧ BrokenOff app visitor r s taken uploads := by
  have unfaulted : ∀ fault, (Upload.readForm s.trouble.copy s.copies r).ending ≠ .fault fault := by
    intro fault same
    cases broken.symm.trans same
  obtain ⟨taken, readTo⟩ := Upload.readForm_readTo unfaulted
  obtain ⟨s', handles, known, aside, tree⟩ := Upload.canHandle_unreadable unread broken
  refine ⟨taken, _, s', readTo, handles, readTo.isUpload_iff, ?_, ?_⟩
  · intro uploads file t request first valued parsed
    rw [uploads] at handles
    rw [post_handled app visitor handles]
    have filed := (readTo.file?_iff _ file).mpr first
    have payload := (readTo.value?_iff _ t).mpr valued
    have parsedValue : Rpc.Request.ofText ((Upload.readForm s.trouble.copy s.copies r).form.value Upload.payloadField) =
        .ok request := by
      rw [Upload.Form.value, payload]
      exact parsed
    exact (handle_posts app.settings visitor r known filed parsedValue).between aside rfl
  · intro apart
    rw [apart] at handles
    rw [post_handled app visitor handles]
    have calm := handle_multipart app.settings visitor (isMultipart_unreadable broken) s'
    exact ⟨calm.tree.trans tree, (Local.ofCalm calm).posts.trans aside.posts⟩

def tornUpload : Http.Request :=
  { sampleUpload with
    headers := [("content-type", "multipart/form-data; boundary=b"), ("content-length", "144")]
    body := Utf8.encode ("--b\r\ncontent-disposition: form-data; name=\"json_payload\"\r\n\r\n\x7b\"method\": \"m\"\x7d" ++
      "\r\n--b\r\ncontent-disposition: form-data; name=\"file\"; filename=\"a\"\r\n\r\nh") }

def isTorn : Upload.Reading → Bool
  | ⟨form, .unreadable .malformed, _⟩ => Upload.isUpload form
  | _ => false

theorem isTorn_ending {reading : Upload.Reading} (torn : isTorn reading = true) :
    reading.ending = .unreadable .malformed ∧ Upload.isUpload reading.form = true := by
  unfold isTorn at torn
  split at torn
  · exact ⟨rfl, torn⟩
  · cases torn

theorem tornUpload_torn :
    isTorn (Upload.readForm sampleSite.trouble.copy sampleSite.copies tornUpload) = true := by
  decide +kernel

def sampleVisitor : Visitor := .known ⟨.number 7, some "http://backend:5279/"⟩

theorem post_broken_tornUpload : ∃ taken s', Upload.ReadTo sampleSite.trouble.copy sampleSite.copies
      (Upload.partsOf tornUpload) taken (Upload.readForm sampleSite.trouble.copy sampleSite.copies tornUpload).form ∧
    Upload.canHandle tornUpload sampleSite = (.ok true, s') ∧
    BrokenOff sampleApp sampleVisitor tornUpload sampleSite taken true := by
  obtain ⟨broken, isUpload⟩ := isTorn_ending tornUpload_torn
  obtain ⟨taken, uploads, s', readTo, handles, comes⟩ := post_broken sampleApp sampleVisitor rfl broken
  obtain ⟨after, handled, -⟩ := Upload.canHandle_unreadable rfl broken
  have same : uploads = true := by
    rw [isUpload, handles] at handled
    exact Except.ok.inj (congrArg Prod.fst handled)
  subst same
  exact ⟨taken, s', readTo, handles, comes⟩

-- It is taken for an upload all the same, and forwarded.
theorem tornUpload_forwarded :
    (Upload.readForm sampleSite.trouble.copy sampleSite.copies tornUpload).ending = .unreadable .malformed ∧
      (∃ s', Upload.canHandle tornUpload sampleSite = (.ok true, s')) ∧
      (sampleApp.serve tornUpload sampleSite).2.posts.length = 1 := by
  obtain ⟨broken, uploads⟩ := isTorn_ending tornUpload_torn
  obtain ⟨s', handles, -⟩ := Upload.canHandle_unreadable rfl broken
  refine ⟨broken, ⟨s', uploads ▸ handles⟩, by decide +kernel⟩

end App

end UploadRelay.Service
