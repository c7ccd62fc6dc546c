import UploadRelay.Http.MediaType
import UploadRelay.Http.Message
import UploadRelay.Json.Writer
-- Pages that the service answers with by itself. A problem is told in the form that the
-- client accepts best.

namespace UploadRelay.Service

def contentType : Text := "application/json"

structure Page where
  response : Http.Response
  succeeded : Bool

structure Problem where
  status : Nat
  title : Text
  description : Option Text := none
  headers : List (Text × Text) := []

namespace Problem

def notFound : Problem := { status := 404, title := "404 Not Found" }

def notAllowed : Problem :=
  { status := 405, title := "405 Method Not Allowed", headers := [("allow", "POST, OPTIONS")] }

def failed : Problem := { status := 500, title := "500 Internal Server Error" }

def badMethod : Problem :=
  { status := 400, title := "Bad request", description := some "Invalid HTTP method" }

def members (p : Problem) : List (Text × Text) :=
  ("title", p.title) :: p.description.toList.map fun d => ("description", d)

def json (p : Problem) : Text := Json.written (.obj (p.members.map fun m => (m.1, .str m.2)))

def element (name content : Text) : Text := "<" ++ name ++ ">" ++ content ++ "</" ++ name ++ ">"

def xml (p : Problem) : Text :=
  "<?xml version=\"1.0\" encoding=\"UTF-8\"?>" ++
    element "error" (p.members.flatMap fun m => element m.1 m.2)

def pairs (p : Problem) : Text :=
  Text.joined "&" (p.members.map fun m =>
    m.1 ++ "=" ++ m.2.map fun c => if c.val = 32 then CodePoint.ofChar '+' else c)

end Problem

inductive ProblemForm where
  | json
  | xml
  | parts
  | pairs
  | nothing
deriving DecidableEq

def offered : List (String × ProblemForm) :=
  [("application/json", .json), ("text/xml", .xml), ("application/xml", .xml), ("multipart/form-data", .parts),
   ("application/x-www-form-urlencoded", .pairs)]

-- Everything is accepted unless the client says what is. A type of its own may still name
-- the form that it is built on.
def chosen (accept : Option Text) : Text × ProblemForm :=
  let accept : Text := match accept with
    | some (c :: rest) => c :: rest
    | _ => "*/*"
  match Http.bestMatch? (offered.map (·.1)) accept with
  | some type => (Text.ofString type, ((offered.find? fun o => o.1 == type).map (·.2)).getD .nothing)
  | none =>
    let accept := Text.lower accept
    if Text.hasPart "+json" accept then (contentType, .json)
    else if Text.hasPart "+xml" accept then ("application/xml", .xml)
    else (contentType, .nothing)

def problemPage (accept : Option Text) (p : Problem) : Page :=
  let (type, form) := chosen accept
  let (status, body) : Nat × Text := match form with
    | .json => (p.status, p.json)
    | .xml => (p.status, p.xml)
    | .pairs => (p.status, p.pairs)
    | .parts => (Problem.failed.status, [])
    | .nothing => (p.status, [])
  ⟨⟨status, ("content-type", type) :: p.headers, Utf8.encode body⟩, false⟩

end UploadRelay.Service
