import UploadRelay.Http.MediaType
import UploadRelay.Http.Message
import UploadRelay.Multipart.Reader
import UploadRelay.Fault
-- The form of an upload: its file parts and its text values, of each name the first. A body
-- that is no form leaves what was read before the fault.

namespace UploadRelay.Upload

open Http Multipart

structure FilePart where
  fileName : Text
  content : List UInt8

structure Form where
  files : List (Text × FilePart)
  values : List (Text × Text)

namespace Form

def empty : Form := ⟨[], []⟩

def file? (f : Form) (name : Text) : Option FilePart := (f.files.find? fun e => e.1 == name).map (·.2)
def value? (f : Form) (name : Text) : Option Text := (f.values.find? fun e => e.1 == name).map (·.2)

def value (f : Form) (name : Text) : Text := (f.value? name).getD []

def addFile (f : Form) (name : Text) (part : FilePart) : Form := { f with files := f.files ++ [(name, part)] }
def addValue (f : Form) (name t : Text) : Form := { f with values := f.values ++ [(name, t)] }

end Form

def multipartType : Text := "multipart/form-data"
def fileField : Text := "file"
def payloadField : Text := "json_payload"

def isMultipart (r : Request) : Bool :=
  Text.lower (Text.trim (Text.splitAtFirst ';' r.contentType).1) == multipartType

inductive Unreadable where
  | unsupportedType
  | badBoundary
  | malformed
  | noDocument
  | badDocument
  | badPairs
deriving DecidableEq

def Unreadable.title : Unreadable → Text
  | .unsupportedType => "415 Unsupported Media Type"
  | .badBoundary => "Invalid header value"
  | .malformed => "Malformed multipart/form-data request media"
  | .noDocument => "Invalid JSON"
  | .badDocument => "Invalid JSON"
  | .badPairs => "Invalid URL-encoded"

def Unreadable.label : Unreadable → Text
  | .unsupportedType => "HTTPUnsupportedMediaType"
  | .badBoundary => "HTTPInvalidHeader"
  | .malformed => "MultipartParseError"
  | .noDocument => "MediaNotFoundError"
  | .badDocument => "MediaMalformedError"
  | .badPairs => "MediaMalformedError"

def documentType : String := "application/json"
def pairsType : String := "application/x-www-form-urlencoded"

def readableTypes : List String := [documentType, "multipart/form-data", pairsType]

def typeOf? (contentType : Text) : Option String :=
  match readableTypes.find? fun t => Text.ofString t == contentType with
  | some t => some t
  | none => bestMatch? readableTypes contentType

def boundary? (contentType : Text) : Option Text :=
  match (Parameterized.read contentType).get? "boundary" with
  | some b =>
    let b := Text.trimEnd b
    if 1 ≤ b.length ∧ b.length ≤ 70 then some b else none
  | none => none

inductive Ending where
  | complete
  | unreadable (why : Unreadable)
  | fault (fault : Fault)

structure Reading where
  form : Form
  ending : Ending
  copies : Nat

def partFault : PartFault → Ending
  | .undecodable fault => .fault (.undecodable fault)
  | .malformed => .unreadable .malformed

-- Takes one part into the form. Parts without a name and names that are taken are passed over.
def addPart (trouble : Nat → Option (List UInt8 × Fault)) (form : Form) (copies : Nat) (p : Part) :
    Except Ending Form × Nat :=
  match p.name? with
  | .error fault => (.error (partFault fault), copies)
  | .ok none => (.ok form, copies)
  | .ok (some name) =>
    match p.fileName? with
    | .error fault => (.error (partFault fault), copies)
    | .ok (some (c :: fileName)) =>
      if (form.file? name).isSome then (.ok form, copies)
      else
        match trouble copies with
        | some (_, fault) => (.error (.fault fault), copies + 1)
        | none => (.ok (form.addFile name ⟨c :: fileName, p.body⟩), copies + 1)
    | .ok _ =>
      if (form.value? name).isSome then (.ok form, copies)
      else
        match p.text with
        | .error fault => (.error (partFault fault), copies)
        | .ok t => (.ok (form.addValue name t), copies)

def addParts (trouble : Nat → Option (List UInt8 × Fault)) (last : Ending) (form : Form) (copies : Nat) :
    List Part → Reading
  | [] => ⟨form, last, copies⟩
  | p :: rest =>
    match addPart trouble form copies p with
    | (.error ending, copies) => ⟨form, ending, copies⟩
    | (.ok form, copies) => addParts trouble last form copies rest

def lastEnding : Multipart.Ending → Ending
  | .closed => .complete
  | .malformed => .unreadable .malformed

def notPart (kind : Text) : Ending :=
  .fault (.other "AttributeError" [.str ("'" ++ kind ++ "' object has no attribute 'name'")])

def documentEnding : Json → Ending
  | .arr [] => .complete
  | .arr (x :: _) => notPart x.kind
  | .str t => if t.isEmpty then .complete else notPart "str"
  | .obj ms => if ms.isEmpty then .complete else notPart "str"
  | v => .fault (.type ("'" ++ v.kind ++ "' object is not iterable"))

def readDocument (body : List UInt8) : Ending :=
  if body.isEmpty then .unreadable .noDocument
  else
    match Utf8.decode false body with
    | .error _ => .unreadable .badDocument
    | .ok t =>
      match Json.read t with
      | .ok v => documentEnding v
      | .error fault =>
        let fault := Fault.ofJson fault
        if fault.isA "ValueError" then .unreadable .badDocument else .fault fault

def readPairs (body : List UInt8) : Ending :=
  let t := body.map CodePoint.ofByte
  if !Text.isAscii t then .unreadable .badPairs
  else if (Text.splitOn '&' t).all fun pair => pair.isEmpty || pair == ("=" : Text) then .complete
  else notPart "str"

-- A form needs a boundary and a body with a length.
def readParts (trouble : Nat → Option (List UInt8 × Fault)) (copies : Nat) (r : Request) : Reading :=
  match boundary? r.contentType with
  | none => ⟨.empty, .unreadable .badBoundary, copies⟩
  | some boundary =>
    match Fault.unwritable? "utf-8" "surrogates not allowed" (fun c => !c.isSurrogate) boundary with
    | some fault => ⟨.empty, .fault fault, copies⟩
    | none =>
      if r.length?.isNone then ⟨.empty, .fault (.other "AssertionError" []), copies⟩
      else
        let found := Multipart.parts (Utf8.encode boundary) r.body
        addParts trouble (lastEnding found.ending) .empty copies found.parts

def readForm (trouble : Nat → Option (List UInt8 × Fault)) (copies : Nat) (r : Request) : Reading :=
  if !isMultipart r then ⟨.empty, .complete, copies⟩
  else
    match typeOf? r.contentType with
    | none => ⟨.empty, .unreadable .unsupportedType, copies⟩
    | some type =>
      if type = documentType then ⟨.empty, readDocument r.body, copies⟩
      else if type = pairsType then ⟨.empty, readPairs r.body, copies⟩
      else readParts trouble copies r

def isUpload (f : Form) : Bool := (f.file? fileField).isSome && !(f.value payloadField).isEmpty

end UploadRelay.Upload
