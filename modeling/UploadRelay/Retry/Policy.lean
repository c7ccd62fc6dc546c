import UploadRelay.Number.Num
import UploadRelay.Fault
-- When a call is sent again and how long to wait before that: a random share of a ceiling
-- that doubles with every attempt, under a cap, and not less than the backend asked for.

namespace UploadRelay.Retry

variable {N : Type} [Seconds N]

structure Policy (N : Type) where
  maxRetries : Int
  backoffBase : N
  backoffMax : N
  statuses : List Int
  onConnectionError : Bool
  respectRetryAfter : Bool

def defaultStatuses : List Int := [429, 502, 503, 504]

def Policy.standard (maxRetries : Int) : Policy N :=
  { maxRetries := maxRetries
    backoffBase := Seconds.half
    backoffMax := Seconds.ofInt 30
    statuses := defaultStatuses
    onConnectionError := true
    respectRetryAfter := true }

def Policy.negativeSetting? (p : Policy N) : Option (Text × Text) :=
  if p.maxRetries < 0 then some ("max_retries", Text.ofInt p.maxRetries)
  else if Seconds.less p.backoffBase (Seconds.ofInt 0) then some ("backoff_base", Seconds.text p.backoffBase)
  else if Seconds.less p.backoffMax (Seconds.ofInt 0) then some ("backoff_max", Seconds.text p.backoffMax)
  else none

def Policy.checked (p : Policy N) : Except Fault (Policy N) :=
  match p.negativeSetting? with
  | some (name, value) => .error (.value (name ++ " must be >= 0, got " ++ value))
  | none => .ok p

def Policy.attempts (p : Policy N) : Int := p.maxRetries + 1

def Policy.retriesStatus (p : Policy N) (status : Int) : Bool := p.statuses.contains status

-- The ceiling of the random wait doubles with every attempt.
def ceiling (p : Policy N) (attempt : Int) : Except Overflow N := do
  let power ← Seconds.powerOfTwo attempt
  Seconds.mul p.backoffBase power

def jittered (share ceiling : N) : Except Overflow N := do
  let part ← Seconds.mul ceiling share
  Seconds.add (Seconds.ofInt 0) part

-- A drawn wait under the cap, raised to what the backend asks for, which is capped too.
def settled (p : Policy N) (drawn : N) (asked : Option N) : N :=
  let capped := Seconds.least drawn p.backoffMax
  match asked with
  | none => capped
  | some seconds =>
    if p.respectRetryAfter then Seconds.greatest capped (Seconds.least seconds p.backoffMax)
    else capped

def delay (p : Policy N) (share : N) (attempt : Int) (asked : Option N) : Except Overflow N := do
  let top ← ceiling p attempt
  let drawn ← jittered share top
  return settled p drawn asked

end UploadRelay.Retry
