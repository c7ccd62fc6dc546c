import Mathlib.Data.List.Induction
import Mathlib.Tactic.Linarith
import UploadRelay.Proofs.Rpc.Cache
-- A cache along a history of operations, on an exact clock: which keys it holds, in which
-- order, and what it answers.

namespace UploadRelay.Rpc.Cache

inductive Operation where
  | set (key : Text) (response : Response)
  | get (key : Text)
  | clear
  | elapse (seconds : ℚ)

structure Clocked where
  clock : ℚ
  cache : Cache ℚ

def Clocked.read (c : Clocked) (key : Text) : Option Response := (c.cache.get c.clock key).1

def Operation.after (c : Clocked) : Operation → Clocked
  | .set key response =>
    match c.cache.set c.clock key response with
    | .ok cache => { c with cache := cache }
    | .error _ => c
  | .get key => { c with cache := (c.cache.get c.clock key).2 }
  | .clear => { c with cache := c.cache.clear }
  | .elapse seconds => { c with clock := c.clock + seconds }

def run (c : Clocked) (history : List Operation) : Clocked := history.foldl Operation.after c

theorem run_append (c : Clocked) (before behind : List Operation) :
    run c (before ++ behind) = run (run c before) behind := List.foldl_append

def Operation.Allowed : Operation → Prop
  | .elapse seconds => 0 ≤ seconds
  | _ => True

def Operation.used (c : Clocked) : Operation → List Text
  | .set key _ => [key]
  | .get key => if (c.read key).isSome then [key] else []
  | .clear | .elapse _ => []

def uses (c : Clocked) : List Operation → List Text
  | [] => []
  | op :: rest => op.used c ++ uses (op.after c) rest

theorem uses_append (c : Clocked) (before behind : List Operation) :
    uses c (before ++ behind) = uses c before ++ uses (run c before) behind := by
  induction before generalizing c with
  | nil => rfl
  | cons op rest ih =>
    show op.used c ++ uses (op.after c) (rest ++ behind) = op.used c ++ uses (op.after c) rest ++ _
    rw [ih, List.append_assoc]
    rfl

theorem uses_concat (c : Clocked) (history : List Operation) (op : Operation) :
    uses c (history ++ [op]) = uses c history ++ op.used (run c history) := by
  rw [uses_append]
  exact congrArg (uses c history ++ ·) (List.append_nil _)

-- The key was last set to the response, to hold until `expires`, and the cache has not been
-- cleared since.
def Stored (start : Clocked) (history : List Operation) (key : Text) (response : Response) (expires : ℚ) : Prop :=
  ∃ early since, history = early ++ .set key response :: since ∧ (∀ later, Operation.set key later ∉ since) ∧
    Operation.clear ∉ since ∧ expires = (run start early).clock + start.cache.settings.ttl

-- The response that was last set for the key, with no clear since, within its time to live.
def Standing (start : Clocked) (history : List Operation) (key : Text) (response : Response) : Prop :=
  ∃ expires, Stored start history key response expires ∧ (run start history).clock < expires

theorem set_apart {key other : Text} (apart : key ≠ other) (response later : Response) :
    Operation.set key response ≠ .set other later := by
  intro same
  cases same
  exact apart rfl

theorem Stored.set (start : Clocked) (history : List Operation) (key : Text) (response : Response) :
    Stored start (history ++ [.set key response]) key response
      ((run start history).clock + start.cache.settings.ttl) :=
  ⟨history, [], rfl, by simp, by simp, rfl⟩

theorem Stored.later {start : Clocked} {history : List Operation} {key : Text} {response : Response} {expires : ℚ}
    (stored : Stored start history key response expires) {op : Operation} (other : ∀ later, op ≠ .set key later)
    (keeps : op ≠ .clear) : Stored start (history ++ [op]) key response expires := by
  obtain ⟨early, since, rfl, latest, uncleared, time⟩ := stored
  refine ⟨early, since ++ [op], by simp, ?_, ?_, time⟩
  · intro later there
    rcases List.mem_append.mp there with old | last
    · exact latest later old
    · exact other later (List.mem_singleton.mp last).symm
  · intro there
    rcases List.mem_append.mp there with old | last
    · exact uncleared old
    · exact keeps (List.mem_singleton.mp last).symm

theorem Stored.earlier {start : Clocked} {history : List Operation} {key : Text} {response : Response} {expires : ℚ}
    {op : Operation} (stored : Stored start (history ++ [op]) key response expires)
    (other : ∀ later, op ≠ .set key later) : Stored start history key response expires ∧ op ≠ .clear := by
  obtain ⟨early, since, whole, latest, uncleared, time⟩ := stored
  rcases split_concat whole with ⟨-, ends, -⟩ | ⟨front, rfl, rfl⟩
  · exact absurd ends.symm (other response)
  · refine ⟨⟨early, front, rfl, fun later there => ?_, fun there => ?_, time⟩, ?_⟩
    · exact latest later (List.mem_append_left _ there)
    · exact uncleared (List.mem_append_left _ there)
    · rintro rfl
      exact uncleared (by simp)

theorem Stored.last {start : Clocked} {history : List Operation} {key : Text} {response later : Response} {expires : ℚ}
    (stored : Stored start (history ++ [.set key later]) key response expires) :
    response = later ∧ expires = (run start history).clock + start.cache.settings.ttl := by
  obtain ⟨early, since, whole, latest, -, time⟩ := stored
  rcases split_concat whole with ⟨rfl, same, -⟩ | ⟨front, rfl, -⟩
  · cases same
    exact ⟨rfl, time⟩
  · exact absurd (by simp) (latest later)

theorem Stored.unique {start : Clocked} {history : List Operation} {key : Text} {response response' : Response}
    {expires expires' : ℚ} (one : Stored start history key response expires)
    (other : Stored start history key response' expires') : response = response' ∧ expires = expires' := by
  induction history using List.reverseRecOn with
  | nil =>
    obtain ⟨early, since, whole, -⟩ := one
    simp at whole
  | append_singleton history op ih =>
    by_cases sets : ∃ later, op = .set key later
    · obtain ⟨later, rfl⟩ := sets
      exact ⟨one.last.1.trans other.last.1.symm, one.last.2.trans other.last.2.symm⟩
    · have elsewhere : ∀ later, op ≠ .set key later := fun later same => sets ⟨later, same⟩
      exact ih (one.earlier elsewhere).1 (other.earlier elsewhere).1

theorem run_concat (start : Clocked) (history : List Operation) (op : Operation) :
    run start (history ++ [op]) = op.after (run start history) := by
  rw [run_append]
  rfl

theorem Standing.earlier {start : Clocked} {history : List Operation} {op : Operation} {key : Text} {response : Response}
    (stands : Standing start (history ++ [op]) key response) (other : ∀ later, op ≠ .set key later)
    (forward : (run start history).clock ≤ (op.after (run start history)).clock) :
    Standing start history key response := by
  obtain ⟨expires, stored, young⟩ := stands
  rw [run_concat] at young
  exact ⟨expires, (stored.earlier other).1, lt_of_le_of_lt forward young⟩

-- What holds of the cache after a history that began with it empty.
structure Kept (limit : Nat) (start : Clocked) (history : List Operation) : Prop where
  settings : (run start history).cache.settings = start.cache.settings
  bounded : (run start history).cache.size ≤ limit
  ordered : (run start history).cache.keys.Sublist (uses start history).dedup
  stored : ∀ e ∈ (run start history).cache.entries, Stored start history e.key e.response e.expires
  recent : ∀ key response, Standing start history key response → Recent limit (uses start history) key →
    key ∈ (run start history).cache.keys

theorem kept_empty {limit : Nat} {start : Clocked} (empty : start.cache.entries = []) : Kept limit start [] where
  settings := rfl
  bounded := by simp [run, size, empty]
  ordered := by simp [run, keys, empty]
  stored := by simp [run, empty]
  recent := by
    rintro key response ⟨expires, ⟨early, since, whole, -⟩, -⟩
    simp at whole

theorem after_set (c : Clocked) (key : Text) (response : Response) :
    Operation.after c (.set key response) = ⟨c.clock, ⟨c.cache.settings, evict c.cache.settings.maxEntries
      (erase c.cache.entries key ++ [⟨key, c.clock + c.cache.settings.ttl, response⟩])⟩⟩ := rfl

theorem Kept.entry {limit : Nat} {start : Clocked} {history : List Operation} (kept : Kept limit start history)
    {key : Text} {response : Response} {expires : ℚ} (stored : Stored start history key response expires)
    {e : Entry ℚ} (member : e ∈ (run start history).cache.entries) (named : e.key = key) :
    e.response = response ∧ e.expires = expires := by
  have held := kept.stored e member
  rw [named] at held
  exact held.unique stored

theorem kept_set {limit : Nat} {start : Clocked} {history : List Operation} (kept : Kept limit start history)
    (most : start.cache.settings.maxEntries = .int limit) (key : Text) (response : Response) :
    Kept limit start (history ++ [.set key response]) := by
  let c := run start history
  let moved := erase c.cache.entries key ++ [⟨key, c.clock + start.cache.settings.ttl, response⟩]
  have after : run start (history ++ [.set key response]) =
      ⟨c.clock, ⟨start.cache.settings, evict (.int limit) moved⟩⟩ := by
    rw [run_concat, after_set, kept.settings, most]
  have used : uses start (history ++ [.set key response]) = uses start history ++ [key] := uses_concat _ _ _
  have names : moved.map (·.key) = c.cache.keys.filter (· != key) ++ [key] := by
    rw [List.map_append, keys_erase]
    rfl
  have order : (moved.map (·.key)).Sublist (uses start history ++ [key]).dedup := by
    rw [names]
    exact ordered_moved kept.ordered key
  have evicted : ((evict (.int limit) moved).map (·.key)).Sublist (uses start history ++ [key]).dedup :=
    ((evict_sublist _ _).map _).trans order
  refine ⟨?_, ?_, ?_, ?_, ?_⟩
  · rw [after]
  · rw [after]
    exact evict_length limit moved
  · rw [after, used]
    exact evicted
  · rw [after]
    intro e member
    rcases List.mem_append.mp (mem_evict member) with old | last
    · have apart : e.key ≠ key := by simpa using (List.mem_filter.mp old).2
      exact (kept.stored e (mem_erase old)).later (set_apart apart.symm response) (by simp)
    · obtain rfl := List.mem_singleton.mp last
      exact Stored.set start history key response
  · rw [used]
    intro other stands answer recent
    rw [after]
    refine recent_evict order recent ?_
    rw [names]
    refine mem_moved fun apart => ?_
    exact kept.recent other stands (answer.earlier (set_apart apart response) (le_refl _)) (recent.earlier apart)

theorem kept_still {limit : Nat} {start : Clocked} {history : List Operation} (kept : Kept limit start history)
    {op : Operation} (plain : ∀ key response, op ≠ .set key response) (keeps : op ≠ .clear)
    (same : (op.after (run start history)).cache = (run start history).cache)
    (forward : (run start history).clock ≤ (op.after (run start history)).clock)
    (unused : op.used (run start history) = []) : Kept limit start (history ++ [op]) := by
  have used : uses start (history ++ [op]) = uses start history := by
    rw [uses_concat, unused, List.append_nil]
  refine ⟨?_, ?_, ?_, ?_, ?_⟩ <;> rw [run_concat]
  · rw [same]
    exact kept.settings
  · rw [same]
    exact kept.bounded
  · rw [same, used]
    exact kept.ordered
  · rw [same]
    exact fun e member => (kept.stored e member).later (plain e.key) keeps
  · rw [same, used]
    exact fun key response stands recent => kept.recent key response (stands.earlier (plain key) forward) recent

theorem kept_dropped {limit : Nat} {start : Clocked} {history : List Operation} (kept : Kept limit start history)
    {e : Entry ℚ} (member : e ∈ (run start history).cache.entries) (late : e.expires ≤ (run start history).clock)
    (dropped : (run start history).cache.get (run start history).clock e.key =
      (none, ⟨(run start history).cache.settings, erase (run start history).cache.entries e.key⟩)) :
    Kept limit start (history ++ [.get e.key]) := by
  have after : run start (history ++ [.get e.key]) = ⟨(run start history).clock,
      ⟨(run start history).cache.settings, erase (run start history).cache.entries e.key⟩⟩ := by
    rw [run_concat]
    exact congrArg (fun c => Clocked.mk (run start history).clock (Prod.snd c)) dropped
  have used : uses start (history ++ [.get e.key]) = uses start history := by
    rw [uses_concat, Operation.used, Clocked.read, dropped]
    exact List.append_nil _
  have names : (run start (history ++ [.get e.key])).cache.keys = (run start history).cache.keys.filter (· != e.key) := by
    rw [after]
    exact keys_erase _ _
  have fewer : ((run start history).cache.keys.filter (· != e.key)).Sublist (run start history).cache.keys :=
    List.filter_sublist
  refine ⟨?_, ?_, ?_, ?_, ?_⟩
  · rw [after]
    exact kept.settings
  · rw [after]
    exact le_trans (List.length_filter_le _ _) kept.bounded
  · rw [names, used]
    exact fewer.trans kept.ordered
  · rw [after]
    exact fun held there => (kept.stored held (mem_erase there)).later (by simp) (by simp)
  · rw [names, used]
    intro key response stands recent
    have earlier := stands.earlier (by simp) (le_refl _)
    refine List.mem_filter.mpr ⟨kept.recent key response earlier recent, ?_⟩
    -- What stands has not expired, so it is not the entry that was dropped.
    simp only [bne_iff_ne, ne_eq]
    rintro rfl
    obtain ⟨expires, stored, young⟩ := earlier
    rw [← (kept.entry stored member rfl).2] at young
    exact absurd late (not_le.mpr young)

theorem kept_hit {limit : Nat} {start : Clocked} {history : List Operation} (kept : Kept limit start history)
    {e : Entry ℚ} (member : e ∈ (run start history).cache.entries)
    (moved : (run start history).cache.get (run start history).clock e.key = (some e.response,
      ⟨(run start history).cache.settings, erase (run start history).cache.entries e.key ++ [e]⟩)) :
    Kept limit start (history ++ [.get e.key]) := by
  have after : run start (history ++ [.get e.key]) = ⟨(run start history).clock,
      ⟨(run start history).cache.settings, erase (run start history).cache.entries e.key ++ [e]⟩⟩ := by
    rw [run_concat]
    exact congrArg (fun c => Clocked.mk (run start history).clock (Prod.snd c)) moved
  have used : uses start (history ++ [.get e.key]) = uses start history ++ [e.key] := by
    rw [uses_concat, Operation.used, Clocked.read, moved]
    rfl
  have names : (run start (history ++ [.get e.key])).cache.keys =
      (run start history).cache.keys.filter (· != e.key) ++ [e.key] := by
    rw [after]
    show (erase (run start history).cache.entries e.key ++ [e]).map (·.key) = _
    rw [List.map_append, keys_erase]
    rfl
  have order := ordered_moved kept.ordered e.key
  refine ⟨?_, ?_, ?_, ?_, ?_⟩
  · rw [after]
    exact kept.settings
  · rw [after]
    show (erase (run start history).cache.entries e.key ++ [e]).length ≤ limit
    have fewer : (erase (run start history).cache.entries e.key).length < (run start history).cache.size :=
      List.length_filter_lt_length_iff_exists.mpr ⟨e, member, by simp⟩
    rw [List.length_append]
    exact le_trans fewer kept.bounded
  · rw [names, used]
    exact order
  · rw [after]
    intro held there
    have old : held ∈ (run start history).cache.entries := by
      rcases List.mem_append.mp there with here | last
      · exact mem_erase here
      · rw [List.mem_singleton.mp last]
        exact member
    exact (kept.stored held old).later (by simp) (by simp)
  · rw [names, used]
    intro key response stands recent
    exact mem_moved fun apart => kept.recent key response (stands.earlier (by simp) (le_refl _)) (recent.earlier apart)

theorem kept_get {limit : Nat} {start : Clocked} {history : List Operation} (kept : Kept limit start history) (key : Text) :
    Kept limit start (history ++ [.get key]) := by
  cases get_read (run start history).cache (run start history).clock key with
  | missed absent same =>
    refine kept_still kept (by simp) (by simp) (congrArg Prod.snd same) (le_refl _) ?_
    rw [Operation.used, Clocked.read, same]
    rfl
  | expired e member named late dropped =>
    subst named
    exact kept_dropped kept member late dropped
  | hit e member named young moved =>
    subst named
    exact kept_hit kept member moved

theorem kept_clear {limit : Nat} {start : Clocked} {history : List Operation} (kept : Kept limit start history) :
    Kept limit start (history ++ [.clear]) := by
  have after : (run start (history ++ [.clear])).cache = ⟨(run start history).cache.settings, []⟩ := by
    rw [run_concat]
    rfl
  refine ⟨?_, ?_, ?_, ?_, ?_⟩
  · rw [after]
    exact kept.settings
  · rw [after]
    exact Nat.zero_le limit
  · rw [after]
    exact List.nil_sublist _
  · rw [after]
    exact fun e there => absurd there List.not_mem_nil
  · rintro key response ⟨expires, stored, -⟩ -
    exact absurd rfl (stored.earlier (by simp)).2

theorem kept_history {settings : Settings ℚ} {limit : Nat} (most : settings.maxEntries = .int limit)
    (clock : ℚ) {history : List Operation} (allowed : ∀ op ∈ history, op.Allowed) :
    Kept limit ⟨clock, .empty settings⟩ history := by
  induction history using List.reverseRecOn with
  | nil => exact kept_empty rfl
  | append_singleton before op ih =>
    have kept := ih fun earlier there => allowed earlier (List.mem_append_left [op] there)
    have last : op.Allowed := allowed op (List.mem_append_right before (List.mem_singleton.mpr rfl))
    cases op with
    | set key response => exact kept_set kept most key response
    | get key => exact kept_get kept key
    | clear => exact kept_clear kept
    | elapse seconds =>
      have forward : 0 ≤ seconds := last
      refine kept_still kept (by simp) (by simp) rfl ?_ rfl
      show (run _ before).clock ≤ (run _ before).clock + seconds
      linarith

-- The cache after a history: a bounded list of distinct keys in the order of their latest use,
-- that answers with what stands for a key, and does so as long as fewer than `limit` other keys
-- have been used since.
structure Remembers (limit : Nat) (start : Clocked) (history : List Operation) : Prop where
  bounded : (run start history).cache.size ≤ limit
  distinct : (run start history).cache.keys.Nodup
  ordered : (run start history).cache.keys.Sublist (uses start history).dedup
  answer_stands : ∀ key response, (run start history).read key = some response → Standing start history key response
  recent_answers : ∀ key response, Standing start history key response → Recent limit (uses start history) key →
    (run start history).read key = some response

theorem run_remembers {settings : Settings ℚ} {limit : Nat} (most : settings.maxEntries = .int limit) (clock : ℚ) {history : List Operation}
    (allowed : ∀ op ∈ history, op.Allowed) : Remembers limit ⟨clock, .empty settings⟩ history := by
  have kept := kept_history most clock allowed
  refine ⟨kept.bounded, (List.nodup_dedup _).sublist kept.ordered, kept.ordered, ?_, ?_⟩
  · intro key response answered
    obtain ⟨e, member, rfl, young, rfl⟩ := get_hit answered
    exact ⟨e.expires, kept.stored e member, by simpa [hasExpired, Seconds.atMost] using young⟩
  · intro key response stands recent
    have there := kept.recent key response stands recent
    obtain ⟨expires, stored, young⟩ := stands
    show ((run _ history).cache.get _ key).1 = some response
    cases get_read (run ⟨clock, .empty settings⟩ history).cache (run ⟨clock, .empty settings⟩ history).clock key with
    | missed absent => exact absurd there absent
    | expired e member named late =>
      rw [← (kept.entry stored member named).2] at young
      exact absurd late (not_le.mpr young)
    | hit e member named _ moved => rw [moved, (kept.entry stored member named).1]

def shelfSettings : Settings ℚ := ⟨60, .int 2, defaultMethods⟩

def shelfAnswer (n : Int) : Response := ⟨.int n, none, .null, "2.0", []⟩

def shelfHistory : List Operation :=
  [.set "a" (shelfAnswer 1), .set "b" (shelfAnswer 2), .get "a", .elapse 10, .set "c" (shelfAnswer 3)]

theorem shelfHistory_allowed : ∀ op ∈ shelfHistory, op.Allowed := by
  intro op there
  cases op with
  | elapse seconds =>
    have ten : seconds = 10 := by simpa [shelfHistory] using there
    show 0 ≤ seconds
    rw [ten]
    norm_num
  | _ => trivial

theorem shelfHistory_remembers : Remembers 2 ⟨0, .empty shelfSettings⟩ shelfHistory ∧
    (run ⟨0, .empty shelfSettings⟩ shelfHistory).cache.keys = ["a", "c"] ∧
    (run ⟨0, .empty shelfSettings⟩ shelfHistory).cache.settings.checked.toOption.isSome = true :=
  ⟨run_remembers rfl 0 shelfHistory_allowed, by decide +kernel, by decide +kernel⟩

end UploadRelay.Rpc.Cache
