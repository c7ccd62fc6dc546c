import UploadRelay.Http.Parameters
import UploadRelay.Number.Decimal
import UploadRelay.Number.Places
-- Media types, the ranges that headers name, and which of several types fits a header best.

namespace UploadRelay.Http

structure MediaType where
  main : Text
  sub : Text
  -- Each name once.
  parameters : List (Text × Text)

structure MediaRange where
  type : MediaType
  weight : Nat

namespace MediaType

def wildcard : Text := "*"

-- Of parameters with one name the last counts.
def distinct : List (Text × Text) → List (Text × Text)
  | [] => []
  | p :: rest => if rest.any fun q => q.1 == p.1 then distinct rest else p :: distinct rest

def read? (t : Text) : Option MediaType :=
  let p := Parameterized.read t
  let full : Text := if p.value = wildcard then "*/*" else p.value
  match Text.splitAtFirst '/' full with
  | (_, none) => none
  | (main, some sub) => some ⟨Text.trim main, Text.trim sub, distinct p.parameters⟩

def get? (m : MediaType) (name : Text) : Option Text :=
  (m.parameters.find? fun p => p.1 == name).map (·.2)

def has (m : MediaType) (name : Text) : Bool := (m.get? name).isSome

end MediaType

namespace MediaRange

def one : Double := Double.ofDecimal false 1 0

def weight? (t : Text) : Option Nat :=
  match Decimal.read? t with
  | some (.finite negative m e h) =>
    let w := Double.finite negative m e h
    if w.less (Double.zero false) || one.less w then none else some (Double.inPlaces 3 m e)
  | _ => none

def read? (t : Text) : Option MediaRange := do
  let type ← MediaType.read? t
  match type.get? "q" with
  | none => return ⟨type, 1000⟩
  | some q =>
    let weight ← weight? q
    return ⟨{ type with parameters := type.parameters.filter fun p => p.1 != ("q" : Text) }, weight⟩

-- How closely a range fits a type: type and subtype named and not left open, the same
-- parameters, and how many of them; then its weight.
structure Fit where
  main : Nat
  sub : Nat
  exact : Nat
  shared : Nat
  weight : Nat

def Fit.less (a b : Fit) : Bool :=
  let order := (compare a.main b.main).then ((compare a.sub b.sub).then ((compare a.exact b.exact).then
    ((compare a.shared b.shared).then (compare a.weight b.weight))))
  order == .lt

def nameFit? (a b : Text) : Option Nat :=
  if a = MediaType.wildcard ∨ b = MediaType.wildcard then some 0 else if a = b then some 1 else none

def fit? (r : MediaRange) (m : MediaType) : Option Fit := do
  let main ← nameFit? r.type.main m.main
  let sub ← nameFit? r.type.sub m.sub
  let shared := r.type.parameters.filter fun p => m.has p.1
  if shared.any fun p => m.get? p.1 != some p.2 then none
  let isExact := shared.length == r.type.parameters.length && shared.length == m.parameters.length
  return ⟨main, sub, if isExact then 1 else 0, shared.length, r.weight⟩

def quality (ranges : List MediaRange) (m : MediaType) : Nat :=
  match ranges.filterMap fun r => r.fit? m with
  | [] => 0
  | f :: rest => (rest.foldl (fun best f => if best.less f then f else best) f).weight

end MediaRange

-- The first of the types with the greatest weight; none when a range cannot be read or no
-- weight is above zero.
def bestMatch? (types : List String) (header : Text) : Option String := do
  let ranges ← (Text.splitOn ',' header).mapM MediaRange.read?
  let weighed := types.filterMap fun t =>
    (MediaType.read? (Text.ofString t)).map fun m => (t, MediaRange.quality ranges m)
  let best := weighed.foldl (fun (best : Option String × Nat) w =>
    if best.2 < w.2 then (some w.1, w.2) else best) (none, 0)
  best.1

end UploadRelay.Http
