import UploadRelay.Log.Line
import UploadRelay.Proofs.Calendar.Range
import UploadRelay.Proofs.Json.Members
-- Log records and what is set on them: fields of other names than a record's own leave its texts alone, and a record
-- from the clock can be told when it was made.

namespace UploadRelay.Log

structure Call where
  logger : Text
  levelName : Text
  template : Text
  arguments : List Json
  created : Json
  millis : Json
  raised : Option Fault
  stack : Option Text

def Call.record (call : Call) : Record where
  logger := .str call.logger
  levelName := .str call.levelName
  template := call.template
  arguments := Arguments.ofList call.arguments
  created := call.created
  millis := call.millis
  raised := call.raised.map .fault
  stack := (call.stack.map Json.str).getD .null
  fields := []

namespace Record

structure Extras (extras : Members) : Prop where
  distinct : Members.Distinct extras
  free : ∀ m ∈ extras, m.1 ∉ ownNames

theorem set_free {name : Text} (free : name ∉ ownNames) (r : Record) (value : Json) :
    r.set name value = { r with fields := Members.put name value r.fields } := by
  have apart : ∀ own ∈ ownNames, name ≠ own := fun own member same => free (same ▸ member)
  have absent : ¬ ownNames.contains name = true := by simpa using free
  rw [set, if_neg (apart "name" (by decide)), if_neg (apart "levelname" (by decide)), if_neg (apart "msg" (by decide)),
    if_neg (apart "args" (by decide)), if_neg (apart "created" (by decide)), if_neg (apart "msecs" (by decide)),
    if_neg (apart "stack_info" (by decide)), if_neg (apart "exc_info" (by decide)), if_neg absent]

theorem setAll_free {extras : Members} (free : ∀ m ∈ extras, m.1 ∉ ownNames) (r : Record) :
    r.setAll extras = { r with fields := Members.putAll r.fields extras } := by
  induction extras generalizing r with
  | nil => rfl
  | cons m rest ih =>
    show (r.set m.1 m.2).setAll rest = _
    rw [set_free (free m List.mem_cons_self), ih fun n member => free n (List.mem_cons_of_mem m member)]
    rfl

theorem Extras.setAll {extras : Members} (taken : Extras extras) {r : Record} (bare : r.fields = []) :
    r.setAll extras = { r with fields := extras } := by
  rw [setAll_free taken.free, bare]
  exact congrArg _ (Members.ofPairs_distinct taken.distinct)

structure Clocked (created millis : Json) : Prop where
  seconds : ∃ s, wholeSeconds created = .ok s ∧ -1000000000000 ≤ s ∧ s ≤ 1000000000000
  millis : ∃ n, Template.wholeOf (CodePoint.ofChar 'd') millis = .ok n

theorem Clocked.timestamp {r : Record} (clocked : Clocked r.created r.millis) : ∃ t, r.timestamp = .ok t := by
  obtain ⟨s, seconds, late, early⟩ := clocked.seconds
  obtain ⟨n, millis⟩ := clocked.millis
  have inRange : ¬ (s < -wordLimit ∨ wordLimit ≤ s) := by
    unfold wordLimit
    omega
  have years := Calendar.yearAt_bounds late early
  have counted : checkYear (Calendar.yearAt s) = .ok () := by
    unfold checkYear farthestYear
    rw [if_neg (by omega), if_neg (by omega)]
  unfold Record.timestamp milliseconds
  simp only [seconds, millis, counted, bind, Except.bind, pure, Except.pure, Except.map, Bool.or_eq_true, decide_eq_true_eq,
    inRange, if_false]
  exact ⟨_, rfl⟩

end Record

end UploadRelay.Log
