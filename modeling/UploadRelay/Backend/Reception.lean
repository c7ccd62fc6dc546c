import UploadRelay.Backend.Address
import UploadRelay.Backend.Exchange
import UploadRelay.Compression.Wrapped
import UploadRelay.Text.Blank
-- Taking in a reply: its headers have to be ASCII, its body is unpacked, and an address that
-- it points to has to be one, though nobody follows it.

namespace UploadRelay.Backend

def headerFault? (header : Text × Text) : Option Fault :=
  (Fault.notAscii? header.1).or (Fault.notAscii? header.2)

def checkHeaders (headers : List (Text × Text)) : Except Fault Unit :=
  match headers.findSome? headerFault? with
  | some fault => .error fault
  | none => .ok ()

inductive Packing where
  | plain
  | gzip
  | deflate
deriving DecidableEq

namespace Packing

def ofName? (name : Text) : Option Packing :=
  if name = ("identity" : Text) then some .plain
  else if name = ("gzip" : Text) then some .gzip
  else if name = ("deflate" : Text) then some .deflate
  else none

def unpack (p : Packing) (bytes : List UInt8) : Except Compression.Stop (List UInt8) :=
  if bytes.isEmpty then .ok []
  else match p with
    | .plain => .ok bytes
    | .gzip => Compression.gzip bytes
    | .deflate => Compression.deflate bytes

end Packing

def Reply.packings (r : Reply) : List Packing :=
  ((r.headers? "Content-Encoding").flatMap fun v => (Text.splitOn ',' v).filterMap fun name =>
    Packing.ofName? (Text.lower (Text.trim name))).reverse

def unpackAll (packings : List Packing) (body : List UInt8) : Except Fault (List UInt8) :=
  (packings.foldlM (fun bytes (p : Packing) => p.unpack bytes) body).mapError fun stop => .transport .decoding stop.message

def isRedirect (status : Int) : Bool := [301, 302, 303, 307, 308].contains status

def pointedFrom (source : Address) (location : Text) : Except Fault Address := do
  let found ← (Address.parse location).mapError fun reason =>
    match reason.fault with
    | .transport _ message => .transport .remoteProtocol ("Invalid URL in location header: " ++ message ++ ".")
    | fault => fault
  if found.scheme.isEmpty then
    return if found.host.isEmpty then { found with host := source.host } else found
  else
    found.checkHost
    if found.host.isEmpty then
      let moved := { found with host := source.host }
      (Address.checkPath true true moved.path).mapError Address.Fault.fault
      return moved
    else return found

def checkRedirect (source : Address) (r : Reply) : Except Fault Unit :=
  match isRedirect r.status, r.header? "Location" with
  | true, some location => do
    let target ← pointedFrom source location
    target.checkHost
  | _, _ => .ok ()

-- Nothing can be kept for a place that has no name.
def checkSource (source : Address) : Except Fault Unit :=
  if source.scheme.isEmpty then .error (.value ("unknown url type: " ++ Text.quoted source.text)) else .ok ()

def receive (source : Address) (r : Reply) : Except Fault Reply := do
  checkHeaders r.headers
  let body ← unpackAll r.packings r.body
  checkSource source
  checkRedirect source r
  return { r with body := body }

end UploadRelay.Backend
