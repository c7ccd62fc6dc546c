import UploadRelay.Domain.Name
import UploadRelay.Text.Case
-- The hosts of addresses: numbers of four parts, numbers of eight parts in square brackets,
-- and names.

namespace UploadRelay.Backend.Host

def octet? (t : Text) : Option Nat :=
  let n := Text.digitsValue t
  if t.isEmpty || !t.all CodePoint.isDigit || 3 < t.length then none
  else if (1 < t.length && t.head? == some (CodePoint.ofChar '0')) || 255 < n then none
  else some n

def octets? (t : Text) : Option (List Nat) :=
  let parts := Text.splitOn '.' t
  if parts.length = 4 then parts.mapM octet? else none

-- The ways to read digits with single signs of any kind between them: how many signs may
-- still come, and whether the last one read was a digit.
abbrev Paths := List (Nat × Bool)

def follow (c : CodePoint) (p : Nat × Bool) : Paths :=
  (if c.isDigit then [(p.1, true)] else []) ++
    (if p.2 && 0 < p.1 then [(p.1 - 1, false)] else [])

def advance (paths : Paths) (c : CodePoint) : Paths := (paths.flatMap (follow c)).eraseDups

def looksNumeric (t : Text) : Bool := (t.foldl advance [(3, false)]).contains (0, true)

def isGroup (t : Text) : Bool := !t.isEmpty && t.all (fun c => c.hexValue?.isSome) && decide (t.length ≤ 4)

def withoutOctets? (parts : List Text) : Option (List Text) :=
  match parts.getLast? with
  | some last =>
    if last.any fun c => c.val == 46 then
      (octets? last).map fun _ => parts.dropLast ++ [("0" : Text), "0"]
    else some parts
  | none => some parts

def groupsAround (parts : List Text) (gap : Nat) : Bool :=
  let front := parts.take gap
  let back := parts.drop (gap + 1)
  let frontOpen := front.head?.any List.isEmpty
  let backOpen := back.getLast?.any List.isEmpty
  let front := if frontOpen then front.tail else front
  let back := if backOpen then back.dropLast else back
  !(frontOpen && !front.isEmpty) && !(backOpen && !back.isEmpty) &&
    decide (front.length + back.length < 8) && front.all isGroup && back.all isGroup

def innerGaps (parts : List Text) : List Nat :=
  (List.range parts.length).filter fun i =>
    decide (0 < i) && decide (i + 1 < parts.length) && (parts[i]?.any List.isEmpty)

def isEightPart (t : Text) : Bool :=
  let parts := Text.splitOn ':' t
  if parts.length < 3 then false
  else match withoutOctets? parts with
    | none => false
    | some parts =>
      if 9 < parts.length then false
      else match innerGaps parts with
        | [] => decide (parts.length = 8) && parts.all isGroup
        | [gap] => groupsAround parts gap
        | _ => false

def isEightPartWithZone (t : Text) : Bool :=
  match Text.splitAtFirst '%' t with
  | (address, none) => isEightPart address
  | (address, some zone) => !zone.isEmpty && !zone.contains '%' && !zone.contains '/' && isEightPart address

def isBracketed (t : Text) : Bool :=
  t.head? == some (CodePoint.ofChar '[') && t.getLast? == some (CodePoint.ofChar ']')

end UploadRelay.Backend.Host
