import UploadRelay.CommandLine.Command
import UploadRelay.Backend.Sending
import UploadRelay.Http.Message
import UploadRelay.Json.Reader
import UploadRelay.Multipart.Writer
import UploadRelay.Upload.Form
-- The command that uploads a file with a request: what it posts, and how it ends once there
-- is a response.

namespace UploadRelay.CommandLine.Publish

def url : Setting := { name := "url", spellings := ["--url", "-u"], isRequired := true }

def token : Setting :=
  { name := "token", spellings := ["--token", "-t"], variableName := some "UPLOAD_BRIDGE_TOKEN",
    isRequired := true }

def method : Setting := { name := "method", spellings := ["--method", "-m"] }
def params : Setting := { name := "params", spellings := ["--params"] }
def base : Setting := { name := "prefix", spellings := ["--prefix", "-p"] }
def timeout : Setting := { name := "timeout", spellings := ["--timeout"], kind := .decimal }

def settings : List Setting := [url, token, method, params, base, timeout]

def checkFile (tree : Tree) : List Text → Except Misuse Unit
  | [] => .error (.missing "file")
  | name :: _ =>
    match tree.node? (Path.ofText name) with
    | some (.file _) => .ok ()
    | some .directory => .error (.badValue ("Invalid value for file: " ++ name ++ " is a directory"))
    | none => .error (.badValue ("Invalid value for file: " ++ name ++ " does not exist"))

structure Posting where
  url : Text
  token : Text
  payload : Text
  fileName : Text
  content : List UInt8
  timeout : Double

namespace Posting

def headers (p : Posting) : List (Text × Text) := [("Authorization", "Bearer " ++ p.token)]

def form (p : Posting) (boundary : Text) : Multipart.Encoded :=
  Multipart.upload boundary (some (Upload.payloadField, p.payload))
    (some ⟨Upload.fileField, p.fileName, p.content⟩)

def checkPort (address : Backend.Address) : Except Fault Unit :=
  if address.port.isNone && address.scheme != ("http" : Text) && address.scheme != ("https" : Text) then
    .error (.other "KeyError" [.str address.scheme])
  else .ok ()

def checkPath (path : Text) : Except Fault Unit :=
  match Fault.unwritable? "latin-1" "ordinal not in range(256)" (fun c => decide (c.val < 0x100)) path with
  | none => .ok ()
  | some fault => .error fault

def bytesOf (t : Text) : List UInt8 := t.map fun c => UInt8.ofNat c.val

def credentials (address : Backend.Address) (headers : List (Text × Text)) : List (Text × Text) :=
  if address.user.isEmpty || address.user == (":" : Text) then headers
  else [("Authorization", "Basic " ++ address.user)]

def request (p : Posting) (boundary remoteAddress : Text) : Except Fault Http.Request := do
  let address ← (Backend.Address.target p.url).mapError Backend.Address.Fault.fault
  Backend.checkHeaders p.headers
  address.checkHost
  checkPort address
  let form := p.form boundary
  let path := Percent.textOf address.path
  checkPath path
  let path := if Text.isAscii path then path else Utf8.decodeLenient (bytesOf path)
  return ⟨"POST", if path.isEmpty then "/" else path,
    Http.headersAsGiven form.body (("Content-Type", form.contentType) :: credentials address p.headers),
    form.body, remoteAddress⟩

end Posting

def withoutLastSlashes (t : Text) : Text := (t.reverse.dropWhile fun c => c.val == 47).reverse

def endpoint (url base : Text) : Text := withoutLastSlashes url ++ base ++ "/proxy"

def requestOf (method : Text) (params : Members) : Json :=
  .obj [("jsonrpc", Json.text "2.0"), ("method", .str method), ("params", .obj params), ("id", .int 1)]

def notJson (fault : Json.Fault) : Ending :=
  let fault := Fault.ofJson fault
  if fault.isA "ValueError" then .misused (.badValue ("--params is not valid JSON: " ++ fault.message))
  else .broken fault

def paramsOf (t : Text) : Except Ending Members :=
  if t.isEmpty then .ok []
  else
    match Json.read t with
    | .ok (.obj members) => .ok members
    | .ok _ => .error (.misused (.badValue "--params must be a JSON object"))
    | .error fault => .error (notJson fault)

def minutes5 : Double := (Double.ofInt? 300).getD (Double.zero false)

def postingOf (tree : Tree) (line : Line) : Except Ending Posting := do
  let members ← paramsOf (line.text params [])
  let path := Path.ofText (line.words.rest.headD [])
  return { url := endpoint (line.text url []) (line.text base "/api/v1")
           token := line.text token []
           payload := Json.written (requestOf (line.text method "publish") members)
           fileName := path.name
           content := (tree.file? path).getD []
           timeout := line.decimal timeout minutes5 }

def prepare (tree : Tree) (env : Environment) (words : List Text) : Except Ending Posting :=
  match Line.read settings ⟨1, checkFile tree⟩ env words with
  | .error misuse => .error (.misused misuse)
  | .ok line => postingOf tree line

def succeeds : Json → Bool
  | .obj members => !Members.has members "error"
  | _ => false

def shownLength : Nat := 200

def unreadable (r : Http.Response) (fault : Json.Fault) : Ending :=
  let fault := Fault.ofJson fault
  if fault.isA "ValueError" then
    .failed ("HTTP " ++ Text.ofNat r.status ++ ": " ++ (Utf8.decodeLenient r.body).take shownLength)
  else .broken fault

-- The response is printed whatever it says, so long as it is JSON.
def answered (r : Http.Response) : Ending :=
  match Json.readBytes r.body with
  | .error fault => unreadable r fault
  | .ok body => .ended (if succeeds body then 0 else 1) (Json.writtenLines 0 body ++ "\n") []

def finish : Except Fault Http.Response → Ending
  | .ok r => answered r
  | .error fault => if fault.isA "HTTPError" then .failed fault.message else .broken fault

end UploadRelay.CommandLine.Publish
