import UploadRelay.Log.Template
import UploadRelay.Log.Entry
import UploadRelay.Text.Case
import UploadRelay.Json.Writer
import UploadRelay.Calendar.Date
-- Writing log records as lines: one JSON object each, or plain text.

namespace UploadRelay.Log

inductive Raised where
  | fault (fault : Fault)
  | value (value : Json)

structure Record where
  logger : Json
  levelName : Json
  template : Text
  -- Without arguments the template is the message.
  arguments : Option Arguments
  created : Json
  millis : Json
  raised : Option Raised
  stack : Json
  fields : Members

namespace Record

-- Names that every record has of itself. Fields of these names do not go into a line.
def ownNames : List Text :=
  ["name", "msg", "args", "levelname", "levelno", "pathname", "filename", "module", "exc_info", "exc_text",
   "stack_info", "lineno", "funcName", "created", "msecs", "relativeCreated", "thread", "threadName",
   "processName", "process", "message", "asctime"]

def lastNames : List Text := ["exception", "stack_info"]

-- A field of one of the record's own names changes the record itself.
def set (r : Record) (name : Text) (value : Json) : Record :=
  if name = ("name" : Text) then { r with logger := value }
  else if name = ("levelname" : Text) then { r with levelName := value }
  else if name = ("msg" : Text) then { r with template := value.shown }
  else if name = ("args" : Text) then { r with arguments := Arguments.ofValue value }
  else if name = ("created" : Text) then { r with created := value }
  else if name = ("msecs" : Text) then { r with millis := value }
  else if name = ("stack_info" : Text) then { r with stack := value }
  else if name = ("exc_info" : Text) then
    { r with raised := if value.truthy then some (.value value) else none }
  else if ownNames.contains name then r
  else { r with fields := Members.put name value r.fields }

def setAll (r : Record) (fields : Members) : Record := fields.foldl (fun r f => r.set f.1 f.2) r

def message (r : Record) : Except Fault Text :=
  match r.arguments with
  | some arguments => Log.message r.template arguments
  | none => .ok r.template

def outOfRange : Fault := .other "OverflowError" [.str "timestamp out of range for platform time_t"]

def wordLimit : Int := 2 ^ 63

def wholeSeconds (v : Json) : Except Fault Int :=
  match v with
  | .float .nan => .error (.value "Invalid value NaN (not a number)")
  | .float (.infinity _) => .error outOfRange
  | .float (.finite negative m e _) =>
    let unit : Int := 2 ^ 1074
    .ok (Double.units negative m e / unit)
  | .int n => .ok n
  | .bool b => .ok (if b then 1 else 0)
  | v => .error (.type ("'" ++ v.kind ++ "' object cannot be interpreted as an integer"))

def farthestYear : Int := 2147483647

def checkYear (year : Int) : Except Fault Unit :=
  if year - 1900 < -farthestYear - 1 ∨ farthestYear < year - 1900 then
    .error (.system "OSError" [.int 75, .str "Value too large for defined data type"])
  else if farthestYear < year then
    .error (.other "OverflowError" [.str "signed integer is greater than maximum"])
  else .ok ()

def milliseconds (v : Json) : Except Fault Text :=
  (Template.wholeOf (CodePoint.ofChar 'd') v).map fun n =>
    Template.filledNumber { zero := true } 3 0 (Text.ofInt n)

def timestamp (r : Record) : Except Fault Text := do
  let seconds ← wholeSeconds r.created
  if seconds < -wordLimit || wordLimit ≤ seconds then throw outOfRange
  checkYear (Calendar.yearAt seconds)
  let millis ← milliseconds r.millis
  return Calendar.stamp seconds millis

def faultText (fault : Fault) : Text := Fault.lineOf fault.label fault.message

def notSubscriptable (v : Json) : Fault := .type ("'" ++ v.kind ++ "' object is not subscriptable")

def indexFault (what : Text) : Fault := .other "IndexError" [.str (what ++ " out of range")]

def element (v : Json) (place : Nat) : Except Fault Json :=
  match v with
  | .str t =>
    match t[place]? with
    | some c => .ok (.str [c])
    | none => .error (indexFault "string index")
  | .arr xs =>
    match xs[place]? with
    | some x => .ok x
    | none => .error (indexFault "list index")
  | .obj _ => .error (.other "KeyError" [.int place])
  | .foreign f =>
    match f.bytes.map fun bytes => bytes[place]? with
    | some (some b) => .ok (.int b.toNat)
    | some none => .error (indexFault "index")
    | none => .error (notSubscriptable v)
  | v => .error (notSubscriptable v)

def lacks (v : Json) (property : Text) : Fault :=
  .other "AttributeError" [.str ("'" ++ v.kind ++ "' object has no attribute '" ++ property ++ "'")]

def isFaultValue : Json → Bool
  | .foreign f => f.bytes.isNone && f.kind != Json.pathKind
  | _ => false

def valueText (v : Json) : Except Fault (Option Text) := do
  let raised ← element v 1
  if !raised.truthy then return none
  match ← element v 2 with
  | .null =>
    if isFaultValue raised then return some (Fault.lineOf raised.kind raised.shown)
    else throw (lacks raised "__suppress_context__")
  | origin => throw (lacks origin "tb_frame")

def raisedText : Option Raised → Except Fault (Option Text)
  | some (.fault fault) => .ok (some (faultText fault))
  | some (.value v) => valueText v
  | none => .ok none

def requestId (r : Record) (current : Text) : Json :=
  let own := Members.getD r.fields "request_id" .null
  if own.truthy then own else if current.isEmpty then .null else .str current

def opening (r : Record) (timestamp message current : Text) : Members :=
  [("timestamp", .str timestamp), ("level", r.levelName), ("logger", r.logger), ("message", .str message),
   ("user_id", Members.getD r.fields "user_id" .null), ("request_id", r.requestId current)]

def more (r : Record) (opening : Members) : Members :=
  r.fields.filter fun f => !ownNames.contains f.1 && !Members.has opening f.1 && !lastNames.contains f.1

def faultField : Option Text → Members
  | some t => [("exception", .str t)]
  | none => []

def stackField (stack : Json) : Members := if stack.truthy then [("stack_info", stack)] else []

def members (r : Record) (opening : Members) (raised : Option Text) : Members :=
  opening ++ r.more opening ++ faultField raised ++ stackField r.stack

def jsonLine (r : Record) (current : Text) : Except Fault Text := do
  let timestamp ← r.timestamp
  let message ← r.message
  let raised ← raisedText r.raised
  return Json.written (.obj (r.members (r.opening timestamp message current) raised))

def behind (t : Text) (line : Text) : Text :=
  if line.getLast? = some (CodePoint.ofNat 10) then line ++ t else line ++ CodePoint.ofNat 10 :: t

def textLine (r : Record) : Except Fault Text := do
  let message ← r.message
  let timestamp ← r.timestamp
  let line : Text := timestamp ++ " " ++ r.levelName.shown ++ " " ++ r.logger.shown ++ ": " ++ message
  let line := match ← raisedText r.raised with
    | some t => behind t line
    | none => line
  return if r.stack.truthy then behind r.stack.shown line else line

end Record

def Record.ofEntry (e : Entry) (created millis : Int) : Record :=
  ⟨.str e.logger, .str e.level.name, e.message, none, .int created, .int millis,
    e.raised.map fun label => .fault (.other label []), .null, e.extra⟩

def withBound (bound : Members) : Json → Except Fault Members
  | .obj extra => .ok (merged extra bound)
  | v => .error (.type ("'" ++ v.kind ++ "' object is not a mapping"))

inductive Format where
  | json
  | text
deriving DecidableEq

structure Setup where
  level : Level
  format : Option Format

namespace Setup

def formatOf (name : Text) : Format := if name = ("json" : Text) then .json else .text

def unknownLevel (name : Text) : Fault := .value ("Unknown level: " ++ Text.quoted name)

def configure (s : Setup) (level format : Text) : Setup × Option Fault :=
  let name := Text.capitals level
  match Level.ofName? name with
  | some l => (⟨l, some (formatOf format)⟩, none)
  | none => (⟨s.level, some (formatOf format)⟩, some (unknownLevel name))

def admits (s : Setup) (level : Level) : Bool := decide (s.level.number ≤ level.number)

def line (s : Setup) (r : Record) (current : Text) : Except Fault Text :=
  match s.format with
  | some .json => r.jsonLine current
  | _ => r.textLine

end Setup

end UploadRelay.Log
