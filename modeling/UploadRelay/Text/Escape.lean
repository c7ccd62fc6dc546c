import UploadRelay.Text.CodePoint
-- Escapes behind a backslash: letters for control characters, one to three octal digits, and
-- two, four or eight hexadecimal digits for a code point by its number.

namespace UploadRelay.Text.Escape

def letters : List (Char × Nat) :=
  [('a', 7), ('b', 8), ('t', 9), ('n', 10), ('v', 11), ('f', 12), ('r', 13), ('\\', 92), ('"', 34), ('\'', 39)]

def letter? (c : CodePoint) : Option CodePoint :=
  (letters.find? fun l => l.1.toNat == c.val).map fun l => CodePoint.ofNat l.2

def width? (c : CodePoint) : Option Nat :=
  if c.val = 120 then some 2 else if c.val = 117 then some 4 else if c.val = 85 then some 8 else none

def isOctal (c : CodePoint) : Bool := decide (48 ≤ c.val) && decide (c.val ≤ 55)

def octalValue (digits : Text) : Nat := digits.foldl (fun n c => 8 * n + (c.val - 48)) 0

def hexadecimal? (width : Nat) (t : Text) : Option CodePoint :=
  match (t.take width).mapM CodePoint.hexValue? with
  | none => none
  | some digits =>
    let n := digits.foldl (fun n d => 16 * n + d) 0
    if digits.length = width then (if h : n < 0x110000 then some ⟨n, h⟩ else none) else none

-- What an escape stands for and what follows it; `t` is what follows the backslash. A
-- backslash in front of any other character stands for itself.
def one? : Text → Option (Text × Text)
  | [] => none
  | c :: rest =>
    if c.val = 10 then some ([], rest)
    else if c.val = 78 then none
    else if isOctal c then
      let digits := ((c :: rest).take 3).takeWhile isOctal
      some ([CodePoint.ofNat (octalValue digits)], (c :: rest).drop digits.length)
    else
      match letter? c, width? c with
      | some made, _ => some ([made], rest)
      | none, some width => (hexadecimal? width rest).map fun made => ([made], rest.drop width)
      | none, none => some ([CodePoint.ofChar '\\', c], rest)

def loop : (fuel : Nat) → Text → Option Text
  | _, [] => some []
  | 0, _ :: _ => none
  | fuel + 1, c :: rest =>
    if c.val = 92 then
      match one? rest with
      | none => none
      | some (made, rest) => (loop fuel rest).map (made ++ ·)
    else (loop fuel rest).map (c :: ·)

def decode? (t : Text) : Option Text := loop t.length t

def rawLoop : (fuel : Nat) → Text → Option Text
  | _, [] => some []
  | 0, _ :: _ => none
  | fuel + 1, c :: rest =>
    match rest with
    | [] => some [c]
    | d :: behind =>
      if c.val != 92 then (rawLoop fuel rest).map (c :: ·)
      else if d.val = 117 ∨ d.val = 85 then
        let width := if d.val = 117 then 4 else 8
        match hexadecimal? width behind with
        | none => none
        | some made => (rawLoop fuel (behind.drop width)).map (made :: ·)
      else (rawLoop fuel behind).map fun t => c :: d :: t

def decodeRaw? (t : Text) : Option Text := rawLoop t.length t

theorem loop_plain (t : Text) (h : ∀ c ∈ t, c.val ≠ 92) (fuel : Nat) (enough : t.length ≤ fuel) :
    loop fuel t = some t := by
  induction t generalizing fuel with
  | nil => cases fuel <;> rfl
  | cons c rest ih =>
    cases fuel with
    | zero => simp at enough
    | succ n =>
      simp only [List.length_cons, Nat.add_le_add_iff_right] at enough
      rw [loop, if_neg (h c (by simp)), ih (fun d hd => h d (by simp [hd])) n enough]
      rfl

theorem decode?_plain (t : Text) (h : ∀ c ∈ t, c.val ≠ 92) : decode? t = some t :=
  loop_plain t h t.length (Nat.le_refl _)

end UploadRelay.Text.Escape
