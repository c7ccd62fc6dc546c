import UploadRelay.Number.Num
import UploadRelay.Rpc.Response
import UploadRelay.Fault
-- Answers that are remembered for a while. Entries stand in the order of their latest use;
-- one that has run out is dropped when it is asked for, and the one used longest ago makes
-- room when there are too many.

namespace UploadRelay.Rpc

variable {N : Type} [Seconds N]

namespace Cache

structure Settings (N : Type) where
  ttl : N
  maxEntries : Num
  methods : List Text

def defaultMethods : List Text := ["resolve", "claim_search"]

def Settings.standard : Settings N := ⟨Seconds.ofInt 60, .int 1024, defaultMethods⟩

def Settings.checked (s : Settings N) : Except Fault (Settings N) :=
  if Seconds.atMost s.ttl (Seconds.ofInt 0) then
    .error (.value ("ttl must be > 0, got " ++ Seconds.text s.ttl))
  else if s.maxEntries.less (.int 1) then
    .error (.value ("max_entries must be >= 1, got " ++ s.maxEntries.text))
  else .ok s

structure Entry (N : Type) where
  key : Text
  expires : N
  response : Response

end Cache

structure Cache (N : Type) where
  settings : Cache.Settings N
  -- Least recently used first.
  entries : List (Cache.Entry N)

namespace Cache

def empty (settings : Settings N) : Cache N := ⟨settings, []⟩

def keys (c : Cache N) : List Text := c.entries.map (·.key)
def size (c : Cache N) : Nat := c.entries.length

def isCacheable (c : Cache N) (method : Text) : Bool := c.settings.methods.contains method

def find? (c : Cache N) (key : Text) : Option (Entry N) := c.entries.find? fun e => e.key == key

def erase (entries : List (Entry N)) (key : Text) : List (Entry N) :=
  entries.filter fun e => e.key != key

def hasExpired (now : N) (e : Entry N) : Bool := Seconds.atMost e.expires now

-- A hit becomes the entry used last; its time to live stays.
def get (c : Cache N) (now : N) (key : Text) : Option Response × Cache N :=
  match c.find? key with
  | none => (none, c)
  | some e =>
    if hasExpired now e then (none, ⟨c.settings, erase c.entries key⟩)
    else (some e.response, ⟨c.settings, erase c.entries key ++ [e]⟩)

-- The entries used longest ago go until there are few enough.
def evict (maxEntries : Num) : List (Entry N) → List (Entry N)
  | [] => []
  | e :: rest =>
    if maxEntries.less (.int ((e :: rest).length : Int)) then evict maxEntries rest else e :: rest

def set (c : Cache N) (now : N) (key : Text) (response : Response) : Except Overflow (Cache N) := do
  let expires ← Seconds.add now c.settings.ttl
  return ⟨c.settings, evict c.settings.maxEntries (erase c.entries key ++ [⟨key, expires, response⟩])⟩

def clear (c : Cache N) : Cache N := ⟨c.settings, []⟩

end Cache

end UploadRelay.Rpc
