import UploadRelay.Rpc.Request
-- Everything that can end a piece of work early and be caught behind it: refusals that the client is told,
-- failures of a backend call, failures of the system, and all else by the name of its class. What ends the whole
-- program instead, such as an interrupt from the keyboard, is no fault.

namespace UploadRelay

inductive Refusal where
  | bridge
  | internal
  | authRequired
  | forbidden
  | jsonParse
  | invalidRequest
  | invalidParams
  | upload
  | missingFile
  | serialize
deriving DecidableEq

namespace Refusal

def internalCode : Int := -32080
def remoteCode : Int := -32603

def code : Refusal → Int
  | .authRequired => -32084
  | .forbidden => -32085
  | .jsonParse => -32700
  | .invalidRequest => -32600
  | .invalidParams => -32602
  | _ => internalCode

def label : Refusal → Text
  | .bridge => "BridgeError"
  | .internal => "InternalError"
  | .authRequired => "AuthRequiredError"
  | .forbidden => "ForbiddenError"
  | .jsonParse => "JsonParseError"
  | .invalidRequest => "InvalidRequestError"
  | .invalidParams => "InvalidParamsError"
  | .upload => "UploadError"
  | .missingFile => "MissingFileError"
  | .serialize => "SerializeError"

def all : List Refusal :=
  [.bridge, .internal, .authRequired, .forbidden, .jsonParse, .invalidRequest, .invalidParams, .upload,
   .missingFile, .serialize]

def ofLabel? (label : Text) : Option Refusal := all.find? fun kind => kind.label == label

def isUpload : Refusal → Bool
  | .upload => true
  | .missingFile => true
  | _ => false

end Refusal

inductive Transport where
  | http
  | request
  | transport
  | timeout
  | connectTimeout
  | readTimeout
  | writeTimeout
  | poolTimeout
  | network
  | connect
  | read
  | write
  | close
  | protocol
  | localProtocol
  | remoteProtocol
  | proxy
  | unsupportedProtocol
  | decoding
  | tooManyRedirects
  | invalidUrl
deriving DecidableEq

namespace Transport

def label : Transport → Text
  | .http => "HTTPError"
  | .request => "RequestError"
  | .transport => "TransportError"
  | .timeout => "TimeoutException"
  | .connectTimeout => "ConnectTimeout"
  | .readTimeout => "ReadTimeout"
  | .writeTimeout => "WriteTimeout"
  | .poolTimeout => "PoolTimeout"
  | .network => "NetworkError"
  | .connect => "ConnectError"
  | .read => "ReadError"
  | .write => "WriteError"
  | .close => "CloseError"
  | .protocol => "ProtocolError"
  | .localProtocol => "LocalProtocolError"
  | .remoteProtocol => "RemoteProtocolError"
  | .proxy => "ProxyError"
  | .unsupportedProtocol => "UnsupportedProtocol"
  | .decoding => "DecodingError"
  | .tooManyRedirects => "TooManyRedirects"
  | .invalidUrl => "InvalidURL"

def all : List Transport :=
  [.http, .request, .transport, .timeout, .connectTimeout, .readTimeout, .writeTimeout, .poolTimeout,
   .network, .connect, .read, .write, .close, .protocol, .localProtocol, .remoteProtocol, .proxy,
   .unsupportedProtocol, .decoding, .tooManyRedirects, .invalidUrl]

def ofLabel? (label : Text) : Option Transport := all.find? fun kind => kind.label == label

def isTransient : Transport → Bool
  | .connect => true
  | .timeout => true
  | .connectTimeout => true
  | .readTimeout => true
  | .writeTimeout => true
  | .poolTimeout => true
  | _ => false

end Transport

inductive Fault where
  | refused (kind : Refusal) (message : Text) (data : Json)
  | remote (message : Text) (code data : Json) (response : Option Rpc.Response)
  | exhausted (status : Int) (preview : Text) (retryAfter : Option Num)
  | transport (kind : Transport) (message : Text)
  | system (label : Text) (details : List Json)
  | other (label : Text) (details : List Json)

namespace Fault

def exhaustedMessage (status : Int) (preview : Text) : Text :=
  "HTTP " ++ Text.ofInt status ++ " from backend after retries exhausted (body: " ++
    Text.quoted preview ++ ")"

-- Details are shown bare when single and as a tuple otherwise.
def detailsText : List Json → Text
  | [] => []
  | [x] => x.shown
  | xs => Json.quotedTuple xs

structure SystemDetails where
  number : Json
  reason : Json
  file : Json
  target : Json

namespace SystemDetails

def isAmount : Json → Bool
  | .int _ => true
  | .bool _ => true
  | _ => false

def blocking : Text := "BlockingIOError"

def ofDetails? (label : Text) : List Json → Option SystemDetails
  | [number, reason] => some ⟨number, reason, .null, .null⟩
  | number :: reason :: file :: rest =>
    if 2 < rest.length then none
    else if label = blocking && isAmount file then some ⟨number, reason, .null, .null⟩
    else some ⟨number, reason, file, rest.getD 1 .null⟩
  | _ => none

def message (d : SystemDetails) : Text :=
  let start : Text := "[Errno " ++ d.number.shown ++ "] " ++ d.reason.shown
  match d.file, d.target with
  | .null, _ => start
  | file, .null => start ++ ": " ++ file.quoted
  | file, target => start ++ ": " ++ file.quoted ++ " -> " ++ target.quoted

def kept (d : SystemDetails) (details : List Json) : List Json :=
  match d.file with
  | .null => details
  | _ => details.take 2

end SystemDetails

def systemMessage (label : Text) (details : List Json) : Text :=
  ((SystemDetails.ofDetails? label details).map SystemDetails.message).getD (detailsText details)

def message : Fault → Text
  | .refused _ message _ => message
  | .remote message _ _ _ => message
  | .exhausted status preview _ => exhaustedMessage status preview
  | .transport _ message => message
  | .system label details => systemMessage label details
  | .other label details =>
    match details with
    | [key] => if label = ("KeyError" : Text) then key.quoted else key.shown
    | _ => detailsText details

def label : Fault → Text
  | .refused kind _ _ => kind.label
  | .remote .. => "RpcError"
  | .exhausted .. => "HttpTransientError"
  | .transport kind _ => kind.label
  | .system label _ => label
  | .other label _ => label

def fullName (label : Text) : Text :=
  if label = ("RpcError" : Text) then "upload_bridge.rpc._common.RpcError"
  else if label = ("HttpTransientError" : Text) then "upload_bridge.rpc._retry.HttpTransientError"
  else if label = ("JSONDecodeError" : Text) then "json.decoder.JSONDecodeError"
  else
    match Refusal.ofLabel? label, Transport.ofLabel? label with
    | some _, _ => "upload_bridge.rpc._common." ++ label
    | _, some _ => "httpx." ++ label
    | _, _ => label

def lineOf (label message : Text) : Text :=
  if message.isEmpty then fullName label else fullName label ++ ": " ++ message

def quoted : Fault → Text
  | .system label details =>
    let kept := ((SystemDetails.ofDetails? label details).map fun d => d.kept details).getD details
    label ++ "(" ++ Json.quotedElements kept ++ ")"
  | .other label details => label ++ "(" ++ Json.quotedElements details ++ ")"
  | fault => fault.label ++ "(" ++ Text.quoted fault.message ++ ")"

def asValue (fault : Fault) : Json := .foreign ⟨fault.label, fault.message, fault.quoted, none, true⟩

def systemDetails? : Fault → Option SystemDetails
  | .system label details => SystemDetails.ofDetails? label details
  | _ => none

def errno? (fault : Fault) : Option Json := fault.systemDetails?.map SystemDetails.number

def fileName? (fault : Fault) : Option Json :=
  match fault.systemDetails?.map SystemDetails.file with
  | some .null => none
  | file => file

def parents : List (String × String) := [
  ("Exception", "BaseException"), ("KeyboardInterrupt", "BaseException"), ("SystemExit", "BaseException"),
  ("GeneratorExit", "BaseException"),
  ("ArithmeticError", "Exception"), ("FloatingPointError", "ArithmeticError"),
  ("OverflowError", "ArithmeticError"), ("ZeroDivisionError", "ArithmeticError"),
  ("AssertionError", "Exception"), ("AttributeError", "Exception"), ("BufferError", "Exception"),
  ("EOFError", "Exception"), ("ImportError", "Exception"), ("ModuleNotFoundError", "ImportError"),
  ("LookupError", "Exception"), ("IndexError", "LookupError"), ("KeyError", "LookupError"),
  ("MemoryError", "Exception"), ("NameError", "Exception"), ("UnboundLocalError", "NameError"),
  ("OSError", "Exception"), ("BlockingIOError", "OSError"), ("ChildProcessError", "OSError"),
  ("ConnectionError", "OSError"), ("BrokenPipeError", "ConnectionError"),
  ("ConnectionAbortedError", "ConnectionError"), ("ConnectionRefusedError", "ConnectionError"),
  ("ConnectionResetError", "ConnectionError"), ("FileExistsError", "OSError"),
  ("FileNotFoundError", "OSError"), ("InterruptedError", "OSError"), ("IsADirectoryError", "OSError"),
  ("NotADirectoryError", "OSError"), ("PermissionError", "OSError"), ("ProcessLookupError", "OSError"),
  ("TimeoutError", "OSError"),
  ("ReferenceError", "Exception"), ("RuntimeError", "Exception"), ("NotImplementedError", "RuntimeError"),
  ("RecursionError", "RuntimeError"), ("StopIteration", "Exception"), ("StopAsyncIteration", "Exception"),
  ("SyntaxError", "Exception"), ("IndentationError", "SyntaxError"), ("TabError", "IndentationError"),
  ("SystemError", "Exception"), ("TypeError", "Exception"),
  ("ValueError", "Exception"), ("UnicodeError", "ValueError"), ("UnicodeDecodeError", "UnicodeError"),
  ("UnicodeEncodeError", "UnicodeError"), ("UnicodeTranslateError", "UnicodeError"),
  ("JSONDecodeError", "ValueError"), ("Warning", "Exception"), ("BytesWarning", "Warning"),
  ("DeprecationWarning", "Warning"), ("EncodingWarning", "Warning"), ("FutureWarning", "Warning"),
  ("ImportWarning", "Warning"), ("PendingDeprecationWarning", "Warning"), ("ResourceWarning", "Warning"),
  ("RuntimeWarning", "Warning"), ("SyntaxWarning", "Warning"), ("UnicodeWarning", "Warning"),
  ("UserWarning", "Warning"),
  ("BridgeError", "Exception"), ("InternalError", "BridgeError"), ("AuthRequiredError", "BridgeError"),
  ("ForbiddenError", "BridgeError"), ("JsonParseError", "BridgeError"),
  ("InvalidRequestError", "BridgeError"), ("InvalidParamsError", "BridgeError"),
  ("UploadError", "BridgeError"), ("MissingFileError", "UploadError"), ("SerializeError", "BridgeError"),
  ("RpcError", "BridgeError"), ("HttpTransientError", "RpcError"),
  ("HTTPError", "Exception"), ("RequestError", "HTTPError"), ("TransportError", "RequestError"),
  ("TimeoutException", "TransportError"), ("ConnectTimeout", "TimeoutException"),
  ("ReadTimeout", "TimeoutException"), ("WriteTimeout", "TimeoutException"),
  ("PoolTimeout", "TimeoutException"), ("NetworkError", "TransportError"),
  ("ConnectError", "NetworkError"), ("ReadError", "NetworkError"), ("WriteError", "NetworkError"),
  ("CloseError", "NetworkError"), ("ProtocolError", "TransportError"),
  ("LocalProtocolError", "ProtocolError"), ("RemoteProtocolError", "ProtocolError"),
  ("ProxyError", "TransportError"), ("UnsupportedProtocol", "TransportError"),
  ("DecodingError", "RequestError"), ("TooManyRedirects", "RequestError"), ("InvalidURL", "Exception")]

def parent? (label : Text) : Option Text :=
  (parents.find? fun entry => Text.ofString entry.1 == label).map fun entry => Text.ofString entry.2

def lineage : (fuel : Nat) → Text → List Text
  | 0, label => [label]
  | fuel + 1, label =>
    match parent? label with
    | some above => label :: lineage fuel above
    | none => [label]

def isA (fault : Fault) (label : Text) : Bool := (lineage 8 fault.label).contains label

def systemLabel : Int → Text
  | 1 => "PermissionError"
  | 2 => "FileNotFoundError"
  | 3 => "ProcessLookupError"
  | 4 => "InterruptedError"
  | 10 => "ChildProcessError"
  | 11 => "BlockingIOError"
  | 13 => "PermissionError"
  | 17 => "FileExistsError"
  | 20 => "NotADirectoryError"
  | 21 => "IsADirectoryError"
  | 32 => "BrokenPipeError"
  | 103 => "ConnectionAbortedError"
  | 104 => "ConnectionResetError"
  | 108 => "BrokenPipeError"
  | 110 => "TimeoutError"
  | 111 => "ConnectionRefusedError"
  | 114 => "BlockingIOError"
  | 115 => "BlockingIOError"
  | _ => "OSError"

def systemNames : List Text := ["OSError", "IOError", "EnvironmentError"]

def ofClass (label : Text) (details : List Json) : Fault :=
  if systemNames.contains label then
    match (SystemDetails.ofDetails? label details).map SystemDetails.number with
    | some (.int n) => .system (systemLabel n) details
    | some (.bool true) => .system (systemLabel 1) details
    | _ => .system "OSError" details
  else if (lineage 8 label).contains "OSError" then .system label details
  else .other label details

def ofErrno (number : Int) (reason path : Text) : Fault :=
  .system (systemLabel number) [.int number, .str reason, .str path]

def value (message : Text) : Fault := .other "ValueError" [.str message]
def type (message : Text) : Fault := .other "TypeError" [.str message]
def runtime (message : Text) : Fault := .other "RuntimeError" [.str message]
def overflow : Fault := .other "OverflowError" [.str Overflow.message]
def undecodable (fault : DecodeFault) : Fault := .other "UnicodeDecodeError" [.str fault.message]

def positionsText (start stop : Nat) : Text :=
  if stop = start + 1 then "in position " ++ Text.ofNat start
  else "in position " ++ Text.ofNat start ++ "-" ++ Text.ofNat (stop - 1)

-- The characters from the first one on that a character set lacks, as far as the run of
-- unusual ones goes on.
def unwritableRun? (set reason : Text) (lacks isUnusual : CodePoint → Bool) (t : Text) : Option Fault :=
  match t.findIdx? lacks with
  | none => none
  | some start =>
    let run := (t.drop start).takeWhile isUnusual
    let what : Text := match run with
      | [c] => "character '" ++ Text.numbered c ++ "' "
      | _ => "characters "
    some (.other "UnicodeEncodeError" [.str ("'" ++ set ++ "' codec can't encode " ++ what ++
      positionsText start (start + run.length) ++ ": " ++ reason)])

def unwritable? (set reason : Text) (has : CodePoint → Bool) : Text → Option Fault :=
  unwritableRun? set reason (fun c => !has c) fun c => !has c

def notAscii? (t : Text) : Option Fault := unwritable? "ascii" "ordinal not in range(128)" CodePoint.isAscii t

def refusal (kind : Refusal) (message : Text) : Fault := .refused kind message .null

-- A document that is nested too deeply is a fault of the process and not of the document.
def ofJson (fault : Json.Fault) : Fault :=
  match fault with
  | .malformed .. => .other "JSONDecodeError" [.str fault.message]
  | .tooManyDigits _ => value fault.message
  | .tooDeep _ => .other "RecursionError" [.str fault.message]
  | .undecodable inner => undecodable inner

def ofRejection (r : Rpc.Request.Rejection) : Fault :=
  match r with
  | .unreadable fault => if fault.isMalformed then refusal .jsonParse r.message else ofJson fault
  | .notObject _ => refusal .invalidRequest r.message
  | .noMethod => refusal .invalidRequest r.message
  | .paramsNotObject _ => refusal .invalidParams r.message
  | .idNotScalar _ => refusal .invalidRequest r.message

def code? : Fault → Option Json
  | .refused kind _ _ => some (.int kind.code)
  | .remote _ code _ _ => some code
  | .exhausted .. => some (.int Refusal.remoteCode)
  | _ => none

def data : Fault → Json
  | .refused _ _ data => data
  | .remote _ _ data _ => data
  | _ => .null

def isRemote : Fault → Bool
  | .remote .. => true
  | .exhausted .. => true
  | _ => false

def isSystem : Fault → Bool
  | .system .. => true
  | _ => false

-- A failed call as the backend reported it. Whole numbers, truth values among them, are
-- codes; anything else gives way to the general one.
def ofErrorObject (error : Members) (response : Option Rpc.Response) : Fault :=
  let code := match Members.get? error "code" with
    | some (.int n) => .int n
    | some (.bool b) => .bool b
    | _ => .int Refusal.remoteCode
  .remote (Members.getD error "message" (.str [])).shown code (Members.getD error "data" .null) response

def reply (fault : Fault) (id : Json) : Json :=
  let error : Members := match fault.code? with
    | some code =>
      match fault.data with
      | .null => [("code", code), ("message", .str fault.message)]
      | data => [("code", code), ("message", .str fault.message), ("data", data)]
    | none => [("code", .int Refusal.internalCode), ("message", .str fault.message)]
  let answered := match id with
    | .null => .int 0
    | id => id
  .obj [("jsonrpc", .str Rpc.version), ("error", .obj error), ("id", answered)]

theorem mapError_ok_iff {ε α : Type} {reason : ε → Fault} {e : Except ε α} {a : α} : e.mapError reason = .ok a ↔ e = .ok a := by
  constructor
  · intro well
    cases e with
    | error _ => cases well
    | ok _ =>
      cases well
      rfl
  · rintro rfl
    rfl

end Fault

end UploadRelay
