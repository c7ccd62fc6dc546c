import UploadRelay.Principal
import UploadRelay.Files.Tree
import UploadRelay.Text.Blank
-- The table of auth tokens: reading it from a file, and finding the user of a request's
-- bearer token in it.

namespace UploadRelay

abbrev Tokens := List (Text × Principal)

namespace Tokens

-- Every way of ending a line becomes a line feed.
def plainNewlines : Text → Text
  | [] => []
  | [c] => if c.val = 13 then [CodePoint.ofNat 10] else [c]
  | c :: d :: rest =>
    if c.val = 13 then
      if d.val = 10 then CodePoint.ofNat 10 :: plainNewlines rest
      else CodePoint.ofNat 10 :: plainNewlines (d :: rest)
    else c :: plainNewlines (d :: rest)

inductive Rejection where
  | unreadable (fault : Json.Fault)
  | notObject
  | badEntry (token : Text)

def Rejection.fault (path : Text) : Rejection → Fault
  | .unreadable fault => .ofJson fault
  | .notObject => .value (path ++ ": expected a JSON object of tokens")
  | .badEntry token =>
    .value (path ++ ": entry for token " ++ token.take 4 ++ "... must be an object with an integer 'id'")

def address (entry : Members) : Option Text :=
  match Members.get? entry "sdk_address" with
  | some v => if v.truthy then some v.shown else none
  | none => none

def entry (token : Text) (v : Json) : Except Rejection (Text × Principal) :=
  match v with
  | .obj members =>
    match (Members.get? members "id").bind UserId.ofJson? with
    | some id => .ok (token, ⟨id, address members⟩)
    | none => .error (.badEntry token)
  | _ => .error (.badEntry token)

def ofJson : Json → Except Rejection Tokens
  | .obj members => members.mapM fun m => entry m.1 m.2
  | _ => .error .notObject

def ofText (t : Text) : Except Rejection Tokens :=
  match Json.read (plainNewlines t) with
  | .ok v => ofJson v
  | .error fault => .error (.unreadable fault)

def load (tree : Tree) (path : Path) : Except Fault Tokens :=
  match tree.node? path with
  | none => .error (.ofErrno 2 "No such file or directory" path.text)
  | some .directory => .error (.ofErrno 21 "Is a directory" path.text)
  | some (.file content) =>
    match Encoding.readUtf8 false content with
    | .error fault => .error (.undecodable fault)
    | .ok t => (ofText t).mapError fun r => r.fault path.text

def find? (tokens : Tokens) (token : Text) : Option Principal :=
  (List.find? (fun entry => entry.1 == token) tokens).map (·.2)

inductive AuthFault where
  | missing
  | unknown
deriving DecidableEq

def AuthFault.fault : AuthFault → Fault
  | .missing => .value "Missing or invalid Authorization header"
  | .unknown => .system "PermissionError" [.str "Unknown auth token"]

def bearer : Text := "Bearer "

def authenticate (tokens : Tokens) (header : Option Text) : Except AuthFault Principal :=
  match Text.dropStart? bearer (header.getD []) with
  | none => .error .missing
  | some rest =>
    match tokens.find? (Text.trim rest) with
    | some principal => .ok principal
    | none => .error .unknown

end Tokens

end UploadRelay
