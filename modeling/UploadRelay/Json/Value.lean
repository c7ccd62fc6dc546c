import UploadRelay.Number.Num
-- JSON values. Whole and floating numbers are different values, members keep their order,
-- and a foreign value is one that has a text but no JSON form of its own.

namespace UploadRelay

structure Foreign where
  kind : Text
  shown : Text
  quoted : Text
  -- The bytes, of a value that is made of bytes.
  bytes : Option (List UInt8)
  -- Whether the value counts as true. Empty collections and zeros of other kinds do not.
  truth : Bool
deriving DecidableEq

inductive Json where
  | null
  | bool (value : Bool)
  | int (value : Int)
  | float (value : Double)
  | str (value : Text)
  | arr (elements : List Json)
  | obj (members : List (Text × Json))
  | foreign (value : Foreign)
deriving Inhabited

abbrev Members := List (Text × Json)

namespace Members

def get? : Members → Text → Option Json
  | [], _ => none
  | m :: rest, name => if m.1 = name then some m.2 else get? rest name

def getD (members : Members) (name : Text) (fallback : Json) : Json :=
  (get? members name).getD fallback

def has (members : Members) (name : Text) : Bool := members.any fun m => m.1 == name

-- A known name keeps its place and takes the new value; a new one goes to the end.
def put (name : Text) (value : Json) : Members → Members
  | [] => [(name, value)]
  | m :: rest => if m.1 = name then (name, value) :: rest else m :: put name value rest

def putAll (members more : Members) : Members := more.foldl (fun ms m => put m.1 m.2 ms) members

-- Of members written twice the last value counts, at the first place.
def ofPairs (pairs : List (Text × Json)) : Members := putAll [] pairs

def without (members : Members) (names : List Text) : Members :=
  members.filter fun m => !names.contains m.1

theorem get?_put_same (members : Members) (name : Text) (value : Json) :
    get? (put name value members) name = some value := by
  induction members with
  | nil => simp [put, get?]
  | cons m rest ih => by_cases h : m.1 = name <;> simp [put, get?, h, ih]

theorem get?_put_other (members : Members) {name other : Text} (value : Json) (h : other ≠ name) :
    get? (put name value members) other = get? members other := by
  induction members with
  | nil => simp [put, get?, Ne.symm h]
  | cons m rest ih =>
    by_cases hm : m.1 = name
    · simp [put, get?, hm, Ne.symm h]
    · simp [put, get?, hm, ih]

end Members

namespace Json

def text (s : String) : Json := .str s

def num? : Json → Option Num
  | .int n => some (.int n)
  | .float x => some (.float x)
  | .bool b => some (.int (if b then 1 else 0))
  | _ => none

def member? : Json → Text → Option Json
  | .obj members, name => Members.get? members name
  | _, _ => none

def kind : Json → Text
  | .null => "NoneType"
  | .bool _ => "bool"
  | .int _ => "int"
  | .float _ => "float"
  | .str _ => "str"
  | .arr _ => "list"
  | .obj _ => "dict"
  | .foreign f => f.kind

def truthy : Json → Bool
  | .null => false
  | .bool b => b
  | .int n => n != 0
  | .float x => !x.same (Double.zero false)
  | .str t => !t.isEmpty
  | .arr xs => !xs.isEmpty
  | .obj ms => !ms.isEmpty
  | .foreign f => f.truth

end Json

end UploadRelay
