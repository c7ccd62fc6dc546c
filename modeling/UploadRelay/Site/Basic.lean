import UploadRelay.Backend.Exchange
import UploadRelay.Calendar.Date
import UploadRelay.Rpc.Cache
import UploadRelay.Log.Entry
import UploadRelay.Upload.Form
import UploadRelay.Principal
-- The site of the bridge: everything outside a request that its handling reads or leaves
-- behind. The supplies (shares of jitter, name beginnings, fresh ids, the backend's turns)
-- are used up from the front; the traces (posts, delays, records, reports) grow at the end.

namespace UploadRelay

inductive TrackerStep where
  | opening
  | context
  | tag
  | capture
  | closing
deriving DecidableEq

inductive TrackerCall where
  | opened
  | context (name : Text) (values : List (Text × Text))
  | tag (name value : Text)
  | captured (label message : Text)
  | closed

structure Report where
  fault : Fault
  extra : Option (List (Text × Text))

-- What goes wrong at a site. A copy is named by its number among the copies; it leaves
-- these bytes behind and fails.
structure Trouble where
  create : Option Fault := none
  copy : Nat → Option (List UInt8 × Fault) := fun _ => none
  seek : Option Fault := none
  close : Option Fault := none
  remove : Option Fault := none
  buildCall : Option Fault := none
  tracker : TrackerStep → Option Fault := fun _ => none

structure Access where
  user : Option UserId
  method : Text
  errorType : Option Text

def Access.blank : Access := ⟨none, [], none⟩

structure Site (N : Type) where
  tree : Tree
  -- The working directory as a text. Without one, relative paths stay relative.
  directory : Text
  clock : N
  now : Calendar.Moment
  shares : List N
  draw : Nat → Text
  drawn : Nat
  freshIds : List Text
  turns : List Backend.Turn
  posts : List Backend.Post
  delays : List N
  records : List Log.Entry
  reports : List Report
  trackerCalls : List TrackerCall
  cache : Option (Rpc.Cache N)
  copies : Nat
  trouble : Trouble
  accessLevel : Int
  -- The id, the form and the access fields of the request in hand.
  requestId : Text
  form : Option Upload.Form
  access : Access

def Site.new {N : Type} (tree : Tree) (clock : N) (now : Int) (draw : Nat → Text) : Site N :=
  { tree, clock, draw
    now := .ofSeconds now
    directory := []
    shares := []
    drawn := 0
    freshIds := []
    turns := []
    posts := []
    delays := []
    records := []
    reports := []
    trackerCalls := []
    cache := none
    copies := 0
    trouble := {}
    accessLevel := 0
    requestId := []
    form := none
    access := Access.blank }

abbrev Work (N : Type) (α : Type) := ExceptT Fault (StateM (Site N)) α

namespace Work

variable {N : Type} {α β : Type}

-- The outcome of a piece of work as a value; what it left behind stays.
def attempt (w : Work N α) : Work N (Except Fault α) := fun s =>
  match w s with
  | (outcome, s') => (.ok outcome, s')

def ofExcept (e : Except Fault α) : Work N α := fun s => (e, s)

def ofOverflow (e : Except Overflow α) : Work N α := ofExcept (e.mapError fun _ => Fault.overflow)

-- Does the second piece of work however the first one ends; a fault of the second one wins.
def thenAlways (w : Work N α) (after : Work N Unit) : Work N α := do
  let outcome ← attempt w
  after
  ofExcept outcome

def site : Work N (Site N) := fun s => (.ok s, s)
def update (f : Site N → Site N) : Work N Unit := fun s => (.ok (), f s)

def log (logger : Text) (level : Log.Level) (message : Text) (extra : Members) : Work N Unit :=
  update fun s => { s with records := s.records ++ [⟨logger, level, message, extra, none⟩] }

def logRaised (logger : Text) (level : Log.Level) (message : Text) (extra : Members) (fault : Fault) :
    Work N Unit :=
  update fun s => { s with records := s.records ++ [⟨logger, level, message, extra, some fault.label⟩] }

def logTo (logger : Log.Logger) (level : Log.Level) (message : Text) (extra : Members) : Work N Unit :=
  log logger.name level message (Log.merged extra logger.bound)

end Work

end UploadRelay
