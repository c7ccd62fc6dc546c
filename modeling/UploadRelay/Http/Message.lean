import UploadRelay.Http.Parameters
import UploadRelay.Number.Decimal
-- Requests of clients, as far as the service reads them, and responses to them. Header names are in lower case, each
-- there once.

namespace UploadRelay.Http

structure Request where
  method : Text
  path : Text
  -- Names in lower case, each once.
  headers : List (Text × Text)
  body : List UInt8
  remoteAddress : Text

namespace Request

def header? (r : Request) (name : Text) : Option Text :=
  (r.headers.find? fun h => h.1 == name).map (·.2)

def contentType (r : Request) : Text := (r.header? "content-type").getD []

def length? (r : Request) : Option Nat :=
  (r.header? "content-length").bind fun v => (Whole.read? v).map Int.toNat

end Request

def pathOf (target : Text) : Text := Percent.textOf (Text.splitAtFirst '?' target).1

def headerName (name : Text) : Text :=
  (Text.lower name).map fun c => if c.val = 95 then CodePoint.ofChar '-' else c

def putHeader (given : List (Text × Text)) (h : Text × Text) : List (Text × Text) :=
  if given.any fun g => g.1 == h.1 then given.map fun g => if g.1 = h.1 then h else g else given ++ [h]

def putHeaders (given more : List (Text × Text)) : List (Text × Text) := more.foldl putHeader given

def singleHeaders : List Text :=
  ["content-length", "content-type", "cookie", "expect", "from", "host", "max-forwards", "referer", "user-agent"]

-- Values under one name are joined by commas; of a header that a request has once the last counts.
def addHeader (isSingle : Bool) (name value : Text) : List (Text × Text) → List (Text × Text)
  | [] => [(name, value)]
  | h :: rest =>
    if h.1 = name then (name, if isSingle then value else h.2 ++ "," ++ value) :: rest
    else h :: addHeader isSingle name value rest

def lengthHeader (body : List UInt8) : List (Text × Text) :=
  if body.isEmpty then [] else [("content-length", Text.ofNat body.length)]

def headersOf (body : List UInt8) (given : List (Text × Text)) : List (Text × Text) :=
  given.foldl (fun done h => addHeader (singleHeaders.contains (Text.lower h.1)) (headerName h.1) (Text.trim h.2) done)
    (lengthHeader body)

def headersAsGiven (body : List UInt8) (given : List (Text × Text)) : List (Text × Text) :=
  lengthHeader body ++ given.map fun h => (headerName h.1, h.2)

structure Response where
  status : Nat
  headers : List (Text × Text)
  body : List UInt8

namespace Response

def header? (r : Response) (name : Text) : Option Text :=
  (r.headers.find? fun h => h.1 == name).map (·.2)

def without (r : Response) (name : Text) : Response :=
  { r with headers := r.headers.filter fun h => h.1 != name }

def setHeader (r : Response) (name value : Text) : Response :=
  { r with headers := (r.without name).headers ++ [(name, value)] }

theorem header?_setHeader (r : Response) (name value : Text) :
    (r.setHeader name value).header? name = some value := by
  simp only [header?, setHeader, without, List.find?_append]
  rw [List.find?_eq_none.mpr (by simp [List.mem_filter])]
  simp

theorem header?_setHeader_other (r : Response) {name other : Text} (value : Text) (apart : other ≠ name) :
    (r.setHeader name value).header? other = r.header? other := by
  have last : [(name, value)].find? (fun h => h.1 == other) = none := by simp [Ne.symm apart]
  simp only [header?, setHeader, without, List.find?_append, List.find?_filter, last, Option.or_none]
  congr 2
  funext h
  by_cases same : h.1 = other
  · simp [same, apart]
  · simp [same]

end Response

end UploadRelay.Http
