import UploadRelay.Backend.Reception
import UploadRelay.Site.Basic
import UploadRelay.Retry.After
import UploadRelay.Retry.Policy
import UploadRelay.Rpc.Response
-- Sending a body to a backend, once or until a reply is not worth another attempt.

namespace UploadRelay.Backend

variable {N : Type} [Seconds N]

def jsonType : Text := "application/json"

structure Message where
  url : Text
  body : List UInt8
  requestId : Option Text

def removeFile (body : List UInt8) (t : Tree) : Tree :=
  match postedPath? body with
  | some path =>
    match t.file? path with
    | some _ => t.erase path
    | none => t
  | none => t

def turn (post : Post) : Work N Reply := do
  let s ← Work.site
  let next := s.turns.headD defaultTurn
  Work.update fun s => { s with
    posts := s.posts ++ [post]
    turns := s.turns.tail
    tree := if next.removesFile then removeFile post.body s.tree else s.tree }
  match next.outcome with
  | .reply r => return r
  | .fails fault => throw fault
  | .echo status headers => return ⟨status, echoBody post.body, headers⟩

def addressed (m : Message) : Except Fault Address := do
  let address ← (Address.target m.url).mapError Address.Fault.fault
  match m.requestId.bind Fault.notAscii? with
  | some fault => throw fault
  | none =>
    address.checkHost
    match Fault.notAscii? address.place with
    | some fault => throw fault
    | none => return address

def post (m : Message) : Work N Reply := do
  let address ← Work.ofExcept (addressed m)
  let s ← Work.site
  let reply ← turn ⟨address.text, m.body, jsonType, m.requestId, s.tree⟩
  Work.ofExcept (receive address reply)

def drawShare : Work N N := do
  let s ← Work.site
  Work.update fun s => { s with shares := s.shares.tail }
  return s.shares.headD Seconds.half

def retryLogger : Text := "upload_bridge.rpc.retry"

def chooseDelay (p : Retry.Policy N) (attempt : Int) (asked : Option N) : Work N N := do
  let top ← Work.ofOverflow (Retry.ceiling p attempt)
  let share ← drawShare
  let drawn ← Work.ofOverflow (Retry.jittered share top)
  return Retry.settled p drawn asked

def wait (seconds : N) : Work N Unit :=
  Work.update fun s => { s with delays := s.delays ++ [seconds] }

def askedBy (r : Reply) : Work N (Option Double) := do
  match r.header? "Retry-After" with
  | none => return none
  | some value =>
    let s ← Work.site
    Work.ofExcept (Retry.secondsAsked s.now value)

def attemptText (p : Retry.Policy N) (attempt : Int) (seconds : N) : Text :=
  "attempt " ++ Text.ofInt (attempt + 1) ++ " of " ++ Text.ofInt p.attempts ++ "; retrying in " ++
    Seconds.hundredths seconds ++ "s"

def pause (p : Retry.Policy N) (m : Message) (attempt : Int) (what : Text) (asked : Option N) :
    Work N Unit := do
  let seconds ← chooseDelay p attempt asked
  Work.log retryLogger .debug ("POST " ++ m.url ++ what ++ attemptText p attempt seconds) []
  wait seconds

def isTransientFault : Fault → Bool
  | .transport kind _ => kind.isTransient
  | _ => false

-- `remaining` counts the attempts that may still follow this one.
def attempts (p : Retry.Policy N) (m : Message) : (remaining : Nat) → (attempt : Int) → Work N Reply
  | remaining, attempt => do
    match ← Work.attempt (post m) with
    | .error fault =>
      match remaining with
      | 0 => throw fault
      | remaining + 1 =>
        if isTransientFault fault && p.onConnectionError then
          pause p m attempt (" failed (" ++ fault.label ++ "), ") none
          attempts p m remaining (attempt + 1)
        else throw fault
    | .ok reply =>
      if !p.retriesStatus reply.status then return reply
      else
        match remaining with
        | 0 =>
          let asked ← askedBy reply
          throw (.exhausted reply.status (Rpc.preview reply.body) (asked.map .float))
        | remaining + 1 =>
          let asked ← askedBy reply
          pause p m attempt (" answered HTTP " ++ Text.ofInt reply.status ++ ", ")
            (asked.map Seconds.ofDouble)
          attempts p m remaining (attempt + 1)

def send (policy : Option (Retry.Policy N)) (m : Message) : Work N Reply :=
  match policy with
  | none => post m
  | some p => attempts p m p.maxRetries.toNat 0

end UploadRelay.Backend
