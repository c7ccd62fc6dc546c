import UploadRelay.CommandLine.Program
import Std.Time.DateTime.Timestamp
-- The program. Its connections are held by a gateway at the other end of the standard
-- streams: requests, postings and what comes of them are messages, one on a line.

namespace UploadRelay

open CommandLine

structure Gateway where
  input : IO.FS.Stream
  output : IO.FS.Stream

namespace Gateway

def send (g : Gateway) (v : Json) : IO Unit := do
  g.output.putStr (v.written.toString ++ "\n")
  g.output.flush

def receive? (g : Gateway) : IO (Option Json) := do
  let line ← g.input.getLine
  if line.isEmpty then return none
  return some ((Json.read (Text.ofString line)).toOption.getD .null)

end Gateway

namespace Disk

def read? (path : Path) : IO (Option (List UInt8)) := do
  try
    return some (← IO.FS.readBinFile path.text.toString).toList
  catch _ => return none

def load (names : List Text) : IO Tree :=
  names.foldlM (fun (t : Tree) name => do
    let path := Path.ofText name
    match ← read? path with
    | some content => return t.put path (.file content)
    | none => return t) Tree.empty

def write (path : Path) (content : List UInt8) : IO Unit := do
  IO.FS.createDirAll path.parent.text.toString
  IO.FS.writeBinFile path.text.toString ⟨content.toArray⟩

def remove (path : Path) : IO Unit := do
  try
    IO.FS.removeFile path.text.toString
  catch _ => return ()

def follow (before after : Tree) : IO Unit := do
  for (path, content) in after.files do
    if before.file? path != some content then write path content
  for (path, _) in before.files do
    if (after.file? path).isNone then remove path

end Disk

-- Supplies of a site: the time, shares of jitter, names and ids.

def milliseconds : IO Nat := do
  let now ← Std.Time.Timestamp.now
  return now.toMillisecondsSinceUnixEpoch.val.toNat

def thousandths (n : Nat) : Num := .float (Double.ofDecimal false n (-3))

def shareDigits : Nat := 1000000000

def share : IO Num := do
  return .float (Double.ofDecimal false (← IO.rand 0 shareDigits) (-9))

def freshId : IO Text := do
  return Text.hex 16 (← IO.rand 0 (2 ^ 64 - 1))

def drawName (seed : Nat) (n : Nat) : Text := Text.hex 8 ((seed + n) % 2 ^ 32)

def millisecondsOf (seconds : Num) : Nat :=
  match Num.mul (.int 1000) seconds with
  | .ok (.int n) => n.toNat
  | .ok (.float x) => (x.truncated?.getD 0).toNat
  | .error _ => 0

structure Service.Running where
  gateway : Gateway
  app : Service.App Num
  timeout : Double
  log : Log.Setup

namespace Service.Running

def print (r : Running) (requestId : Text) (records : List Log.Entry) : IO Unit := do
  let now ← milliseconds
  for e in records do
    if r.log.admits e.level then
      match r.log.line (Log.Record.ofEntry e (now / 1000) (now % 1000)) requestId with
      | .ok line => IO.eprintln line.toString
      | .error _ => return ()

def turn (r : Running) (p : Backend.Post) : IO Backend.Turn := do
  r.gateway.send (Message.ofPost p r.timeout)
  let outcome := Message.outcome ((← r.gateway.receive?).getD .null)
  let gone ← match Backend.postedPath? p.body with
    | some path => pure (← Disk.read? path).isNone
    | none => pure false
  return ⟨gone, outcome⟩

-- A request is handled again with one more turn for as long as a post is without one. Waits
-- before that post are waited for here.
partial def converse (r : Running) (request : Http.Request) (s : Site Num) (turns : List Backend.Turn)
    (waited : Nat) (onDisk : Tree) : IO (Except Fault Http.Response × Site Num) := do
  let (outcome, after) := r.app.serve request { s with turns := turns }
  match after.posts[turns.length]? with
  | none =>
    Disk.follow onDisk after.tree
    return (outcome, after)
  | some p =>
    for seconds in after.delays.drop waited do
      IO.sleep (UInt32.ofNat (millisecondsOf seconds))
    Disk.follow onDisk p.seen
    let turn ← r.turn p
    r.converse request s (turns ++ [turn]) after.delays.length p.seen

def supplied (s : Site Num) : IO (Site Num) := do
  let now ← milliseconds
  let shares ← (List.range 16).mapM fun _ => share
  return { s with
    clock := thousandths (← IO.monoMsNow), now := ⟨now * 1000⟩, shares := shares, freshIds := [← freshId]
    posts := [], delays := [], records := [], trackerCalls := [] }

partial def run (r : Running) (s : Site Num) : IO Unit := do
  match ← r.gateway.receive? with
  | none => return ()
  | some v =>
    match Message.request? v with
    | none => r.run s
    | some request =>
      let (outcome, s) ← r.converse request (← supplied s) [] 0 s.tree
      let response := outcome.toOption.getD (Service.App.problem request .failed).response
      r.print ((response.header? Service.App.idHeader).getD []) s.records
      r.gateway.send (Message.response response)
      r.run s

end Service.Running

def tell (e : Ending) : IO UInt32 := do
  IO.print e.output.toString
  match e with
  | .ended .. => IO.eprint e.errors.toString
  | .misused misuse => IO.eprintln ("Error: " ++ misuse.message.toString)
  | .broken fault => IO.eprintln (Log.Record.faultText fault).toString
  return UInt32.ofNat e.code

def serve (gateway : Gateway) (start : Serve.Start Num) : IO UInt32 := do
  match start.plan, start.log with
  | some plan, some log =>
    let r : Service.Running := ⟨gateway, plan.app, plan.timeout, log⟩
    let seed ← IO.rand 0 (2 ^ 32 - 1)
    let s ← Service.Running.supplied (Site.new Tree.empty (thousandths 0) 0 (drawName seed))
    let directory := Text.ofString (← IO.currentDir).toString
    let (_, s) := plan.app.start { s with cache := plan.cache, directory }
    r.print [] s.records
    r.run s
    return 0
  | _, _ => tell start.ending

def publish (gateway : Gateway) (p : Publish.Posting) : IO UInt32 := do
  gateway.send (Message.ofPosting p (Text.hex 16 (← IO.rand 0 (2 ^ 64 - 1))))
  tell (Publish.finish (Message.published ((← gateway.receive?).getD .null)))

def environment : IO Environment :=
  ((Serve.settings ++ Publish.settings).filterMap (·.variableName)).filterMapM fun name => do
    return (← IO.getEnv name.toString).map fun value => (name, Text.ofString value)

end UploadRelay

open UploadRelay CommandLine in
def main (args : List String) : IO UInt32 := do
  let gateway : Gateway := ⟨← IO.getStdin, ← IO.getStdout⟩
  let words := args.map Text.ofString
  let env ← environment
  let tree ← Disk.load (words ++ env.map (·.2))
  match Program.read tree env words with
  | .error misuse => tell (.misused misuse)
  | .ok (.serve start) => serve gateway start
  | .ok (.publish (.error ending)) => tell ending
  | .ok (.publish (.ok posting)) => publish gateway posting
