import UploadRelay.CommandLine.Command
import UploadRelay.Log.Line
import UploadRelay.Service.App
-- The command that starts the service: what it puts together out of its options, step by
-- step, and which step fails.

namespace UploadRelay.CommandLine.Serve

variable {N : Type} [Seconds N]

def uploadPath : Setting :=
  { name := "upload-path", spellings := ["--upload-path"],
    variableName := some "UPLOAD_BRIDGE_UPLOAD_PATH", isRequired := true }

def tokens : Setting :=
  { name := "tokens", spellings := ["--tokens"], variableName := some "UPLOAD_BRIDGE_TOKENS" }

def host : Setting := { name := "host", spellings := ["--host"] }
def port : Setting := { name := "port", spellings := ["--port"], kind := .whole }
def base : Setting := { name := "prefix", spellings := ["--prefix", "-p"] }

def cache : Setting :=
  { name := "cache", spellings := ["--cache"], negations := ["--no-cache"], kind := .switch }

def retries : Setting := { name := "retries", spellings := ["--retries"], kind := .whole }
def threads : Setting := { name := "threads", spellings := ["--threads"], kind := .whole }

def backendTimeout : Setting :=
  { name := "backend-timeout", spellings := ["--backend-timeout"], kind := .decimal }

def logLevel : Setting := { name := "log-level", spellings := ["--log-level"] }

def logFormat : Setting :=
  { name := "log-format", spellings := ["--log-format"], kind := .choice ["text", "json"] }

def trackerAddress : Setting :=
  { name := "sentry-dsn", spellings := ["--sentry-dsn"], variableName := some "SENTRY_DSN" }

def settings : List Setting :=
  [uploadPath, tokens, host, port, base, cache, retries, threads, backendTimeout, logLevel, logFormat,
   trackerAddress]

structure Plan (N : Type) where
  app : Service.App N
  cache : Option (Rpc.Cache N)
  tokens : Tokens
  -- How long a backend may take.
  timeout : Double
  host : Text
  port : Int
  threads : Int

structure Start (N : Type) where
  ending : Ending
  tracker : Option Text := none
  plan : Option (Plan N) := none
  log : Option Log.Setup := none

def policyFor (retries : Int) : Option (Retry.Policy N) :=
  if 0 < retries then some (Retry.Policy.standard retries) else none

def seconds30 : Double := (Double.ofInt? 30).getD (Double.zero false)

def trackerOf (line : Line) : Option Text :=
  match line.text trackerAddress [] with
  | [] => none
  | address => some address

def tokensOf (tree : Tree) (line : Line) : Except Fault Tokens :=
  match line.value? tokens with
  | none => .ok []
  | some path => Tokens.load tree (Path.ofText path)

def planOf (line : Line) (table : Tokens) : Plan N :=
  let reporter : Reporter := if (trackerOf line).isSome then .tracker {} else .silent
  { app :=
      { base := line.text base "/api/v1"
        settings := ⟨⟨Path.ofText (line.text uploadPath [])⟩, policyFor (line.whole retries 3), reporter⟩
        authenticate := some (Service.byToken table)
        origins := none }
    cache := if line.isOn cache true then some (Rpc.Cache.empty Rpc.Cache.Settings.standard) else none
    tokens := table
    timeout := line.decimal backendTimeout seconds30
    host := line.text host "127.0.0.1"
    port := line.whole port 8080
    threads := line.whole threads 4 }

def isTokensFault (fault : Fault) : Bool := fault.isA "OSError" || fault.isA "ValueError"

def tokensFailed (fault : Fault) : Ending :=
  if isTokensFault fault then .failed ("cannot load tokens: " ++ fault.message) else .broken fault

def noLogging : Log.Setup := ⟨⟨0⟩, none⟩

def start (tree : Tree) (line : Line) : Start N :=
  match noLogging.configure (line.text logLevel "INFO") (line.text logFormat "text") with
  | (_, some fault) => { ending := .broken fault }
  | (log, none) =>
    match tokensOf tree line with
    | .error fault => { ending := tokensFailed fault, tracker := trackerOf line }
    | .ok table =>
      let plan := planOf line table
      match Service.PathTemplate.read plan.app.path with
      | .error fault => { ending := .broken fault, tracker := trackerOf line, plan := some plan }
      | .ok _ =>
        { ending := .ended 0 [] [], tracker := trackerOf line, plan := some plan, log := some log }

def run (tree : Tree) (env : Environment) (words : List Text) : Start N :=
  match Line.read settings noOperands env words with
  | .error misuse => { ending := .misused misuse }
  | .ok line => start tree line

end UploadRelay.CommandLine.Serve
