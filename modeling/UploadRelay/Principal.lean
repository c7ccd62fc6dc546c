import UploadRelay.Fault
-- Users: who they are and which backend they have.

namespace UploadRelay

-- A user's id is a whole number; a truth value can stand in its place.
inductive UserId where
  | number (n : Int)
  | truth (b : Bool)
deriving DecidableEq

namespace UserId

def json : UserId → Json
  | .number n => .int n
  | .truth b => .bool b

def text (u : UserId) : Text := u.json.quoted

def ofJson? : Json → Option UserId
  | .int n => some (.number n)
  | .bool b => some (.truth b)
  | _ => none

def decimal : UserId → Text
  | .number n => Text.ofInt n
  | .truth b => if b then "1" else "0"

end UserId

structure Principal where
  id : UserId
  address : Option Text

def Principal.requireAddress (p : Principal) : Except Fault Text :=
  match p.address with
  | some (c :: rest) => .ok (c :: rest)
  | _ => .error (.refusal .internal "user does not have sdk address assigned")

end UploadRelay
