-- Texts whose units are Unicode code points, surrogates included. A JSON escape can
-- name a surrogate that stands alone, so `Char` is too narrow for decoded text.

namespace UploadRelay

-- Powers with a whole exponent are the core ones, whatever other instances a module has in view.
@[default_instance 20000]
instance (priority := high) wholePower {α : Type} [NatPow α] : Pow α Nat := instPowNat

structure CodePoint where
  val : Nat
  isLt : val < 0x110000
deriving DecidableEq

abbrev Text := List CodePoint

namespace CodePoint

theorem ext_val {a b : CodePoint} (same : a.val = b.val) : a = b := by
  cases a; cases b; simp_all

theorem char_lt (c : Char) : c.toNat < 0x110000 := by
  rcases c.valid with h | h
  · exact Nat.lt_trans h (by decide)
  · exact h.2

def ofChar (c : Char) : CodePoint := ⟨c.toNat, char_lt c⟩

-- U+FFFD, which stands for what cannot be decoded.
def replacement : CodePoint := ⟨0xFFFD, by decide⟩

-- The code point of that number; numbers outside the code space become U+FFFD.
def ofNat (n : Nat) : CodePoint := if h : n < 0x110000 then ⟨n, h⟩ else replacement

theorem ofNat_val (c : CodePoint) : ofNat c.val = c := by simp [ofNat, c.isLt]

theorem byte_lt (b : UInt8) : b.toNat < 0x110000 :=
  Nat.lt_trans b.toNat_lt (by decide)

def ofByte (b : UInt8) : CodePoint := ⟨b.toNat, byte_lt b⟩

def isSurrogate (c : CodePoint) : Bool := decide (0xD800 ≤ c.val) && decide (c.val < 0xE000)
def isHighSurrogate (c : CodePoint) : Bool := decide (0xD800 ≤ c.val) && decide (c.val < 0xDC00)
def isLowSurrogate (c : CodePoint) : Bool := decide (0xDC00 ≤ c.val) && decide (c.val < 0xE000)

def joined (high low : CodePoint) : CodePoint :=
  ofNat (0x10000 + (high.val - 0xD800) * 0x400 + (low.val - 0xDC00))

def isAscii (c : CodePoint) : Bool := decide (c.val < 0x80)
def isDigit (c : CodePoint) : Bool := decide (48 ≤ c.val) && decide (c.val ≤ 57)
def isUpper (c : CodePoint) : Bool := decide (65 ≤ c.val) && decide (c.val ≤ 90)
def isLower (c : CodePoint) : Bool := decide (97 ≤ c.val) && decide (c.val ≤ 122)
def isLetter (c : CodePoint) : Bool := c.isUpper || c.isLower

def toChar (c : CodePoint) : Char :=
  if h : c.val.isValidChar then Char.ofNatAux c.val h else Char.ofNat 0xFFFD

-- Case maps of the ASCII letters; every other code point stays.
def lower (c : CodePoint) : CodePoint := if c.isUpper then ofNat (c.val + 32) else c
def upper (c : CodePoint) : CodePoint := if c.isLower then ofNat (c.val - 32) else c

def hexValue? (c : CodePoint) : Option Nat :=
  if c.isDigit then some (c.val - 48)
  else if 97 ≤ c.val ∧ c.val ≤ 102 then some (c.val - 87)
  else if 65 ≤ c.val ∧ c.val ≤ 70 then some (c.val - 55)
  else none

end CodePoint

instance : Coe Char CodePoint := ⟨CodePoint.ofChar⟩

namespace Text

def ofString (s : String) : Text := s.toList.map CodePoint.ofChar

-- Surrogates have no `Char`; they come out as U+FFFD.
def toString (t : Text) : String := String.ofList (t.map CodePoint.toChar)

end Text

instance : Coe String Text := ⟨Text.ofString⟩

namespace Text

def hexDigit (n : Nat) : CodePoint :=
  if n < 10 then CodePoint.ofNat (48 + n) else CodePoint.ofNat (87 + n)

def hex : (width : Nat) → (n : Nat) → Text
  | 0, _ => []
  | width + 1, n => hexDigit (n / 16 ^ width % 16) :: hex width n

theorem length_hex (width n : Nat) : (hex width n).length = width := by
  induction width with
  | zero => rfl
  | succ w ih => simp [hex, ih]

def ofNat (n : Nat) : Text := (Nat.toDigits 10 n).map CodePoint.ofChar

def ofInt (i : Int) : Text :=
  if i < 0 then CodePoint.ofChar '-' :: ofNat i.natAbs else ofNat i.natAbs

def padded (width n : Nat) : Text :=
  let digits := ofNat n
  List.replicate (width - digits.length) (CodePoint.ofChar '0') ++ digits

def lower (t : Text) : Text := t.map CodePoint.lower
def upper (t : Text) : Text := t.map CodePoint.upper

def joined (separator : Text) : List Text → Text
  | [] => []
  | [t] => t
  | t :: u :: rest => t ++ separator ++ joined separator (u :: rest)

def splitOn (separator : CodePoint) (t : Text) : List Text :=
  t.foldr (fun c pieces => if c = separator then [] :: pieces
    else match pieces with
      | [] => [[c]]
      | p :: rest => (c :: p) :: rest) [[]]

def splitAtFirst (separator : CodePoint) : Text → Text × Option Text
  | [] => ([], none)
  | c :: rest =>
    if c = separator then ([], some rest)
    else let (before, after) := splitAtFirst separator rest; (c :: before, after)

def startsWith (t start : Text) : Bool := start.isPrefixOf t

def hasPart (part : Text) : Text → Bool
  | [] => part.isEmpty
  | c :: rest => startsWith (c :: rest) part || hasPart part rest

def dropStart? : (start t : Text) → Option Text
  | [], t => some t
  | _ :: _, [] => none
  | a :: start, c :: t => if a = c then dropStart? start t else none

theorem dropStart?_append (start t : Text) : dropStart? start (start ++ t) = some t := by
  induction start with
  | nil => rfl
  | cons a s ih => simp [dropStart?, ih]

theorem dropStart?_eq_some_iff {start t rest : Text} : dropStart? start t = some rest ↔ t = start ++ rest := by
  constructor
  · intro dropped
    induction start generalizing t with
    | nil => exact Option.some.inj dropped
    | cons a start ih =>
      cases t with
      | nil => cases dropped
      | cons c t =>
        rw [dropStart?] at dropped
        split at dropped
        · rename_i same
          rw [same, ih dropped]
          rfl
        · cases dropped
  · rintro rfl
    exact dropStart?_append start rest

def digitsValue (t : Text) : Nat := t.foldl (fun n c => 10 * n + (c.val - 48)) 0

theorem foldl_digits (t : Text) (n : Nat) :
    t.foldl (fun n c => 10 * n + (c.val - 48)) n = n * 10 ^ t.length + digitsValue t := by
  induction t generalizing n with
  | nil => simp [digitsValue]
  | cons c t ih =>
    have hc := ih (10 * 0 + (c.val - 48))
    simp only [digitsValue, List.foldl_cons, List.length_cons] at hc ⊢
    rw [ih (10 * n + (c.val - 48)), hc, Nat.add_mul, Nat.pow_succ]
    simp only [digitsValue, Nat.mul_zero, Nat.zero_add]
    rw [Nat.mul_comm 10 n, Nat.mul_assoc, Nat.mul_comm 10 (10 ^ t.length), Nat.add_assoc]

theorem digitsValue_append (s t : Text) :
    digitsValue (s ++ t) = digitsValue s * 10 ^ t.length + digitsValue t := by
  rw [digitsValue, List.foldl_append]
  exact foldl_digits t (digitsValue s)

def digitsValueByHalves : (depth : Nat) → Text → Nat
  | 0, t => digitsValue t
  | depth + 1, t =>
    let front := t.take (t.length / 2)
    let back := t.drop (t.length / 2)
    digitsValueByHalves depth front * 10 ^ back.length + digitsValueByHalves depth back

theorem digitsValueByHalves_eq (depth : Nat) (t : Text) : digitsValueByHalves depth t = digitsValue t := by
  induction depth generalizing t with
  | zero => rfl
  | succ depth ih =>
    simp only [digitsValueByHalves, ih]
    rw [← digitsValue_append, List.take_append_drop]

def compare : Text → Text → Ordering
  | [], [] => .eq
  | [], _ :: _ => .lt
  | _ :: _, [] => .gt
  | a :: s, b :: t => if a.val < b.val then .lt else if b.val < a.val then .gt else compare s t

def le (s t : Text) : Bool := compare s t != .gt

def isAscii (t : Text) : Bool := t.all CodePoint.isAscii

-- A class of code points as a list of run lengths: a run outside the class, a run inside
-- it, a run outside, and so on from U+0000 upwards.
def insideRuns : (inside : Bool) → List Nat → Nat → Bool
  | inside, [], _ => inside
  | inside, run :: rest, n => if n < run then inside else insideRuns (!inside) rest (n - run)

end Text

end UploadRelay
