import UploadRelay.Proofs.Log.Record
import UploadRelay.Proofs.Rpc.Forwarding
-- Log lines: each one a line of ASCII that reads as one object, begun by the same six members, with the record's own
-- texts in them whatever the extra fields are called.

namespace UploadRelay.Log

open Json

namespace Record

def firstNames : List Text := ["timestamp", "level", "logger", "message", "user_id", "request_id"]

variable {r : Record} {timestamp message current : Text} {raised : Option Text}

theorem names_opening : Members.names (r.opening timestamp message current) = firstNames := rfl

theorem has_iff (members : Members) (name : Text) : Members.has members name = true ↔ name ∈ Members.names members := by
  simp [Members.has, Members.names]

theorem mem_more {m : Text × Json} : m ∈ r.more (r.opening timestamp message current) ↔
    m ∈ r.fields ∧ m.1 ∉ ownNames ∧ m.1 ∉ firstNames ∧ m.1 ∉ lastNames := by
  have absent : Members.has (r.opening timestamp message current) m.1 = false ↔ m.1 ∉ firstNames := by
    rw [← Bool.not_eq_true, has_iff, names_opening]
  simp [more, absent, and_assoc]

def trailer (r : Record) (raised : Option Text) : Members := faultField raised ++ stackField r.stack

theorem trailer_names : (Members.names (r.trailer raised)).Sublist lastNames := by
  unfold trailer faultField stackField
  cases raised <;> cases r.stack.truthy
  · exact List.nil_sublist _
  · exact (List.Sublist.refl _).cons _
  · exact (List.nil_sublist _).cons_cons _
  · exact List.Sublist.refl _

theorem members_shape : r.members (r.opening timestamp message current) raised =
    r.opening timestamp message current ++ (r.more (r.opening timestamp message current) ++ r.trailer raised) := by
  simp [members, trailer, List.append_assoc]

theorem members_distinct (distinct : Members.Distinct r.fields) :
    Members.Distinct (r.members (r.opening timestamp message current) raised) := by
  have first : firstNames.Nodup := by decide
  have last : lastNames.Nodup := by decide
  have apart : ∀ name ∈ firstNames, name ∉ lastNames := by decide
  have kept : (Members.names (r.more (r.opening timestamp message current))).Sublist (Members.names r.fields) :=
    List.filter_sublist.map Prod.fst
  have free : ∀ name ∈ Members.names (r.more (r.opening timestamp message current)),
      name ∉ firstNames ∧ name ∉ lastNames := by
    intro name member
    obtain ⟨m, inside, rfl⟩ := List.mem_map.mp member
    exact (mem_more.mp inside).2.2
  have ended : ∀ name ∈ Members.names (r.trailer raised), name ∈ lastNames := fun name member => trailer_names.subset member
  rw [members_shape]
  unfold Members.Distinct Members.names
  rw [List.map_append, List.map_append]
  refine List.nodup_append.mpr ⟨first, List.nodup_append.mpr ⟨distinct.sublist kept, last.sublist trailer_names, ?_⟩, ?_⟩
  · intro name member other behind same
    exact (free name member).2 (same ▸ ended other behind)
  · intro name member other behind same
    subst same
    rcases List.mem_append.mp behind with extra | end'
    · exact (free name extra).1 member
    · exact apart name member (ended name end')

structure Plain (r : Record) (logger levelName : Text) : Prop where
  logger : r.logger = .str logger
  level : r.levelName = .str levelName
  raised : r.raised = none ∨ ∃ fault, r.raised = some (.fault fault)
  stack : r.stack = .null ∨ ∃ t, r.stack = .str t

theorem plain_record (call : Call) (extras : Members) :
    Plain { call.record with fields := extras } call.logger call.levelName where
  logger := rfl
  level := rfl
  raised := by
    unfold Call.record
    cases call.raised with
    | none => exact Or.inl rfl
    | some fault => exact Or.inr ⟨fault, rfl⟩
  stack := by
    unfold Call.record
    cases call.stack with
    | none => exact Or.inl rfl
    | some t => exact Or.inr ⟨t, rfl⟩

variable {logger levelName : Text}

theorem Plain.raisedText (plain : Plain r logger levelName) : ∃ raised, Record.raisedText r.raised = .ok raised := by
  rcases plain.raised with none | ⟨fault, some⟩
  · exact ⟨_, by rw [none]; rfl⟩
  · exact ⟨_, by rw [some]; rfl⟩

theorem getD_fits {depth : Nat} {members : Members} (fits : ∀ m ∈ members, Fits depth m.2) (name : Text) :
    Fits depth (Members.getD members name .null) := by
  unfold Members.getD
  cases found : Members.get? members name with
  | none => exact .null depth
  | some v => exact fits _ (Members.get?_mem found)

theorem Plain.fits (plain : Plain r logger levelName) {depth : Nat} (fits : Fits depth (.obj r.fields)) :
    Fits depth (.obj (r.members (r.opening timestamp message current) raised)) := by
  cases fits with
  | @obj depth ms each =>
    have own : Fits depth (r.requestId current) := by
      unfold requestId
      simp only
      split
      · exact getD_fits each _
      · split
        · exact .null depth
        · exact .str depth _
    have ended : ∀ m ∈ r.trailer raised, Fits depth m.2 := by
      intro m member
      rcases List.mem_append.mp member with fault | stack
      · cases raised with
        | none => cases fault
        | some t =>
          rw [List.mem_singleton.mp fault]
          exact .str depth t
      · unfold stackField at stack
        split at stack
        · rw [List.mem_singleton.mp stack]
          rcases plain.stack with none | ⟨t, some⟩
          · rw [none]
            exact .null depth
          · rw [some]
            exact .str depth t
        · cases stack
    rw [members_shape]
    refine .obj fun m member => ?_
    rcases List.mem_append.mp member with first | behind
    · simp only [opening, plain.logger, plain.level, List.mem_cons, List.not_mem_nil, or_false] at first
      rcases first with rfl | rfl | rfl | rfl | rfl | rfl
      · exact .str depth _
      · exact .str depth _
      · exact .str depth _
      · exact .str depth _
      · exact getD_fits each _
      · exact own
    · rcases List.mem_append.mp behind with extra | last
      · exact each m (mem_more.mp extra).1
      · exact ended m last

def decoded (r : Record) (timestamp message current : Text) (raised : Option Text) : Members :=
  Members.ofPairs (rereadMembers (r.members (r.opening timestamp message current) raised))

theorem decoded_begins : firstNames <+: Members.names (r.decoded timestamp message current raised) := by
  unfold decoded
  rw [members_shape, rereadMembers_map, List.map_append]
  generalize (List.map (fun m : Text × Json => (paired m.1, reread m.2)) (r.more _ ++ _)) = behind
  have plainly : firstNames.map paired = firstNames := by decide
  have names : Members.names ((r.opening timestamp message current).map fun m => (paired m.1, reread m.2)) = firstNames := by
    rw [← plainly]
    rfl
  have distinct : Members.Distinct ((r.opening timestamp message current).map fun m => (paired m.1, reread m.2)) := by
    unfold Members.Distinct
    rw [names]
    decide
  show _ <+: Members.names (Members.putAll [] _)
  rw [Members.putAll_append]
  have front := Members.names_putAll_front (Members.ofPairs ((r.opening timestamp message current).map fun m =>
    (paired m.1, reread m.2))) behind
  rw [Members.ofPairs_distinct distinct, names] at front
  exact (Members.ofPairs_distinct distinct).symm ▸ front

theorem decoded_first (distinct : Members.Distinct r.fields) {name : Text} {value : Json} (first : name ∈ firstNames)
    (found : Members.get? (r.opening timestamp message current) name = some value) (raised : Option Text) :
    Members.get? (r.decoded timestamp message current raised) name = some (reread value) := by
  have small : ∀ name ∈ firstNames, ∀ c ∈ name, c.val < 0xD800 := by decide
  refine get?_reread (members_distinct distinct) (small name first) ?_
  rw [members_shape, Members.get?_append, found]
  rfl

theorem own_name {own name : Text} (isOwn : own ∈ firstNames ++ lastNames) (same : paired own = paired name) : name = own := by
  have small : ∀ own ∈ firstNames ++ lastNames, ∀ c ∈ own, c.val < 0xD800 := by decide
  have self : paired own = own := paired_of_small (small own isOwn)
  exact paired_small (fun c there => Nat.lt_trans (small own isOwn c there) (by decide)) (same.symm.trans self)

-- An extra field stands under its name, if that is none of the line's own names and no other field's reads back alike.
theorem decoded_extra (distinct : Members.Distinct r.fields) (free : ∀ m ∈ r.fields, m.1 ∉ ownNames) {name : Text} {value : Json}
    (member : (name, value) ∈ r.fields) (notFirst : name ∉ firstNames) (notLast : name ∉ lastNames)
    (alone : ∀ m ∈ r.fields, paired m.1 = paired name → m.1 = name) :
    Members.get? (r.decoded timestamp message current raised) (paired name) = some (reread value) := by
  have inside : (name, value) ∈ r.more (r.opening timestamp message current) :=
    mem_more.mpr ⟨member, free _ member, notFirst, notLast⟩
  have whole : (name, value) ∈ r.members (r.opening timestamp message current) raised := by
    rw [members_shape]
    exact List.mem_append_right _ (List.mem_append_left _ inside)
  have each : Members.Distinct (r.members (r.opening timestamp message current) raised) := members_distinct distinct
  refine get?_reread_alone each (each.get? whole) ?_
  intro m there same
  rw [members_shape] at there
  rcases List.mem_append.mp there with first | behind
  · have isFirst : m.1 ∈ firstNames := by
      rw [← names_opening]
      exact List.mem_map_of_mem first
    exact absurd (own_name (List.mem_append_left _ isFirst) same ▸ isFirst) notFirst
  · rcases List.mem_append.mp behind with extra | last
    · exact alone m (mem_more.mp extra).1 same
    · have isLast : m.1 ∈ lastNames := trailer_names.subset (List.mem_map_of_mem last)
      exact absurd (own_name (List.mem_append_right _ isLast) same ▸ isLast) notLast

-- Nothing else stands in a line.
theorem decoded_only {name : Text} (there : name ∈ Members.names (r.decoded timestamp message current raised)) :
    name ∈ firstNames ∨ name ∈ lastNames ∨ ∃ m ∈ r.fields, paired m.1 = name := by
  have plainly : ∀ own ∈ firstNames ++ lastNames, paired own = own := by decide
  obtain ⟨m, member, rfl⟩ := List.mem_map.mp there
  rw [decoded, rereadMembers_map] at member
  obtain ⟨n, inside, rfl⟩ := List.mem_map.mp (Members.mem_ofPairs member)
  rw [members_shape] at inside
  rcases List.mem_append.mp inside with first | behind
  · have isFirst : n.1 ∈ firstNames := by
      rw [← names_opening]
      exact List.mem_map_of_mem first
    exact Or.inl ((plainly n.1 (List.mem_append_left _ isFirst)).symm ▸ isFirst)
  · rcases List.mem_append.mp behind with extra | last
    · exact Or.inr (Or.inr ⟨n, (mem_more.mp extra).1, rfl⟩)
    · have isLast : n.1 ∈ lastNames := trailer_names.subset (List.mem_map_of_mem last)
      exact Or.inr (Or.inl ((plainly n.1 (List.mem_append_right _ isLast)).symm ▸ isLast))

-- What a line says: it stands on one line of ASCII and reads as one object, which begins with the same names always.
-- Texts are read as they are, but for surrogates that make a pair and are read as one character.
structure Tells (extras : Members) (logger levelName message current line : Text) (members : Members) : Prop where
  visible : ∀ c ∈ line, 32 ≤ c.val ∧ c.val < 127
  reads : Json.read line = .ok (.obj members)
  begins : firstNames <+: Members.names members
  level : Members.get? members "level" = some (.str (paired levelName))
  logger : Members.get? members "logger" = some (.str (paired logger))
  message : Members.get? members "message" = some (.str (paired message))
  ownId : ∀ id, Members.get? extras "request_id" = some id → id.truthy = true →
    Members.get? members "request_id" = some (reread id)
  currentId : (∀ id, Members.get? extras "request_id" = some id → id.truthy = false) → current ≠ [] →
    Members.get? members "request_id" = some (.str (paired current))
  noId : (∀ id, Members.get? extras "request_id" = some id → id.truthy = false) → current = [] →
    Members.get? members "request_id" = some .null
  extra : ∀ name value, (name, value) ∈ extras → name ∉ firstNames → name ∉ lastNames →
    (∀ m ∈ extras, paired m.1 = paired name → m.1 = name) → Members.get? members (paired name) = some (reread value)
  only : ∀ name ∈ Members.names members, name ∈ firstNames ∨ name ∈ lastNames ∨ ∃ m ∈ extras, paired m.1 = name

theorem requestId_own {id : Json} (own : Members.get? r.fields "request_id" = some id) (truthy : id.truthy = true)
    (current : Text) : r.requestId current = id := by
  simp [requestId, Members.getD, own, truthy]

theorem requestId_other (falsy : ∀ id, Members.get? r.fields "request_id" = some id → id.truthy = false) (current : Text) :
    r.requestId current = if current = [] then .null else .str current := by
  have none : (Members.getD r.fields "request_id" .null).truthy = false := by
    unfold Members.getD
    cases found : Members.get? r.fields "request_id" with
    | none => rfl
    | some id => exact falsy id found
  simp [requestId, none]

theorem Plain.tells (plain : Plain r logger levelName) (taken : Extras r.fields) (fits : Fits nestingLimit (.obj r.fields)) :
    Tells r.fields logger levelName message current
      (written (.obj (r.members (r.opening timestamp message current) raised))) (r.decoded timestamp message current raised) where
  visible := written_visible _
  reads := by rw [read_written (plain.fits fits), reread, decoded]
  begins := decoded_begins
  level := by
    have found : Members.get? (r.opening timestamp message current) "level" = some r.levelName := rfl
    have reads := decoded_first taken.distinct (by decide) found raised
    rwa [plain.level] at reads
  logger := by
    have found : Members.get? (r.opening timestamp message current) "logger" = some r.logger := rfl
    have reads := decoded_first taken.distinct (by decide) found raised
    rwa [plain.logger] at reads
  message := by
    have found : Members.get? (r.opening timestamp message current) "message" = some (.str message) := rfl
    exact decoded_first taken.distinct (by decide) found raised
  ownId := by
    intro id own truthy
    have found : Members.get? (r.opening timestamp message current) "request_id" = some (r.requestId current) := rfl
    rw [requestId_own own truthy] at found
    exact decoded_first taken.distinct (by decide) found raised
  currentId := by
    intro falsy some
    have found : Members.get? (r.opening timestamp message current) "request_id" = Option.some (r.requestId current) := rfl
    rw [requestId_other falsy, if_neg some] at found
    exact decoded_first taken.distinct (by decide) found raised
  noId := by
    intro falsy none
    have found : Members.get? (r.opening timestamp message current) "request_id" = some (r.requestId current) := rfl
    rw [requestId_other falsy, if_pos none] at found
    exact decoded_first taken.distinct (by decide) found raised
  extra := fun name value member notFirst notLast alone => decoded_extra taken.distinct taken.free member notFirst notLast alone
  only := fun _ there => decoded_only there

theorem Plain.jsonLine (plain : Plain r logger levelName) (clocked : Clocked r.created r.millis) (taken : Extras r.fields)
    (fits : Fits nestingLimit (.obj r.fields)) (current : Text) :
    match r.message with
    | .ok message => ∃ line members, r.jsonLine current = .ok line ∧
        Tells r.fields logger levelName message current line members
    | .error fault => r.jsonLine current = .error fault := by
  obtain ⟨stamp, stamped⟩ := clocked.timestamp
  obtain ⟨raised, raises⟩ := plain.raisedText
  cases made : r.message with
  | error fault => simp only [Record.jsonLine, stamped, made, bind, Except.bind]
  | ok message =>
    have line : r.jsonLine current = .ok (written (.obj (r.members (r.opening stamp message current) raised))) := by
      simp only [Record.jsonLine, stamped, made, raises, bind, Except.bind, pure, Except.pure]
    exact ⟨_, _, line, plain.tells taken fits⟩

-- A record whose message can be made is told on a line, and else the fault of its message is told. Extra fields of any
-- names that logging takes change neither the level nor the logger nor the message.
theorem jsonLine_tells (call : Call) (current : Text) {extras : Members} (clocked : Clocked call.created call.millis)
    (taken : Extras extras) (fits : Fits nestingLimit (.obj extras)) :
    match call.record.message with
    | .ok message => ∃ line members, (call.record.setAll extras).jsonLine current = .ok line ∧
        Tells extras call.logger call.levelName message current line members
    | .error fault => (call.record.setAll extras).jsonLine current = .error fault := by
  rw [taken.setAll rfl]
  exact (plain_record call extras).jsonLine clocked taken fits current

def forgingCall : Call where
  logger := "upload_bridge.http"
  levelName := "INFO"
  template := "processing uploaded file %s"
  arguments := [.str "a\n\x7b\"level\": \"ERROR\"\x7d"]
  created := .int 1704067200
  millis := .int 7
  raised := some (.value "boom\nboom")
  stack := some "line 1"

def forgedExtras : Members :=
  [("level", .str "ERROR"), ("request_id", .str ""), ("exception", .null), ("note", .arr [.str "\u2028", .float .nan])]

theorem forgingCall_tells :
    ∃ line members, (forgingCall.record.setAll forgedExtras).jsonLine "5f2a" = .ok line ∧
      Tells forgedExtras "upload_bridge.http" "INFO" "processing uploaded file a\n\x7b\"level\": \"ERROR\"\x7d" "5f2a" line
        members := by
  have made : forgingCall.record.message = .ok "processing uploaded file a\n\x7b\"level\": \"ERROR\"\x7d" := rfl
  have clocked : Clocked forgingCall.created forgingCall.millis := ⟨⟨1704067200, rfl, by decide, by decide⟩, 7, rfl⟩
  have taken : Extras forgedExtras := ⟨show (Members.names forgedExtras).Nodup by decide, by decide⟩
  have fits : Fits (898 + 1 + 1) (.obj forgedExtras) := by
    refine .obj fun m member => ?_
    simp only [forgedExtras, List.mem_cons, List.not_mem_nil, or_false] at member
    rcases member with rfl | rfl | rfl | rfl
    · exact .str _ _
    · exact .str _ _
    · exact .null _
    · refine .arr fun x inside => ?_
      simp only [List.mem_cons, List.not_mem_nil, or_false] at inside
      rcases inside with rfl | rfl
      · exact .str _ _
      · exact .float _ _
  have tells := jsonLine_tells forgingCall "5f2a" clocked taken fits
  rwa [made] at tells

def mistypedCall : Call := { forgingCall with template := "%d", arguments := [.str "x"] }

def pairCall : Call := { forgingCall with template := [CodePoint.ofNat 0xD83D, CodePoint.ofNat 0xDE00], arguments := [] }

-- The one has no line, and in the line of the other the message is another text.
theorem mistypedCall_unwritten :
    (∀ line, (mistypedCall.record.setAll []).jsonLine [] ≠ .ok line) ∧
      ∃ line members, (pairCall.record.setAll []).jsonLine [] = .ok line ∧ Json.read line = .ok (.obj members) ∧
        Members.get? members "message" ≠ some (.str pairCall.template) := by
  constructor
  · intro line written
    cases written
  · have plain := plain_record pairCall []
    have clocked : Clocked pairCall.created pairCall.millis := ⟨⟨1704067200, rfl, by decide, by decide⟩, 7, rfl⟩
    have taken : Extras [] := ⟨List.nodup_nil, by decide⟩
    have fits : Fits (899 + 1) (.obj []) := .obj fun m member => by cases member
    have made : pairCall.record.message = .ok pairCall.template := rfl
    have told := plain.jsonLine clocked taken fits []
    change match pairCall.record.message with
      | .ok message => ∃ line members, pairCall.record.jsonLine [] = .ok line ∧
          Tells [] pairCall.logger pairCall.levelName message [] line members
      | .error fault => pairCall.record.jsonLine [] = .error fault at told
    rw [made] at told
    obtain ⟨line, members, written, tells⟩ := told
    refine ⟨line, members, written, tells.reads, ?_⟩
    rw [tells.message]
    intro same
    have joined : paired pairCall.template ≠ pairCall.template := by decide
    exact joined (Json.str.inj (Option.some.inj same))

end Record

end UploadRelay.Log
