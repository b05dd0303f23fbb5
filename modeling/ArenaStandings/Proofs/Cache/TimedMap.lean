import ArenaStandings.Cache.Fetch

/-!
# Timed maps

A `TimedMap` says what a cache on a clock of whole numbers stands for. It stores nothing and forgets
nothing: it is the list of everything that was done to the values under its keys
(`TimedMap.Effect`). What it holds under a key is read off the last effect on the key: a write of a
value whose time is not over (`TimedMap.Holds`). Reading has no effect, and no effect is ever taken
back.
-/

namespace ArenaStandings

/-- What is asked of a cache, or happens to it. Times to keep values are whole numbers, and time
does not run backwards. -/
inductive Cache.Operation (α : Type)
  | set (key : String) (value : Option α) (ttl : Option Int)
  | get (key : String)
  | getOrSet (key : String) (fetch : Fetch Nat α) (ttl : Option Int)
  | delete (key : String)
  | deletePattern (pattern : String)
  | invalidateLeaderboard
  | clear
  | setEnabled (enabled : Bool)
  /-- Time passes. -/
  | advance (time : Nat)

/-- What is done to the values under keys. -/
inductive TimedMap.Effect (α : Type)
  /-- A value is written under a key at a moment, for a time. -/
  | write (key : String) (value : Option α) (moment ttl : Int)
  | delete (key : String)
  | deletePattern (pattern : String)
  | clear

/-- Everything that was done to the values under keys, the last first, and the moment. -/
structure TimedMap (α : Type) where
  effects : List (TimedMap.Effect α)
  enabled : Bool
  defaultTtl : Int
  now : Int

namespace TimedMap

variable {α : Type}

/-- Is a key among those that something is done to? -/
def Effect.affects : Effect α → String → Bool
  | write written .., key => key = written
  | delete deleted, key => key = deleted
  | deletePattern pattern, key => Glob.fits pattern key
  | clear, _ => true

/-- What is under a key that something was done to. -/
def Effect.written? : Effect α → Option (Entry Int α)
  | write _ value moment ttl => some ⟨value, moment + ttl⟩
  | _ => none

/-- What was last written under a key and not removed since. -/
def written? (map : TimedMap α) (key : String) : Option (Entry Int α) :=
  (map.effects.find? (·.affects key)).bind Effect.written?

/-- **What a timed map holds.** The map is switched on, and of all that was done to the key the last
is the write of the value, for a time that is not over. -/
def Holds (map : TimedMap α) (key : String) (value : α) : Prop :=
  map.enabled = true ∧ ∃ moment ttl,
    map.effects.find? (·.affects key) = some (.write key (some value) moment ttl) ∧
      map.now < moment + ttl

/-- The value that is held under a key. -/
def held? (map : TimedMap α) (key : String) : Option α :=
  if map.enabled then
    ((map.written? key).filter fun entry => !entry.isExpired map.now).bind Entry.value
  else none

/-! ## Operations -/

def start (enabled : Bool) (defaultTtl now : Int) : TimedMap α :=
  ⟨[], enabled, defaultTtl, now⟩

def record (map : TimedMap α) (effect : Effect α) : TimedMap α :=
  { map with effects := effect :: map.effects }

def advance (map : TimedMap α) (time : Nat) : TimedMap α := { map with now := map.now + time }

/-- Write a value now. A map that is switched off takes no writes. -/
def write (map : TimedMap α) (key : String) (value : Option α) (ttl : Option Int) : TimedMap α :=
  if map.enabled then map.record (.write key value map.now (ttl.getD map.defaultTtl)) else map

/-- Write what a fetch came to. A failure is not written. -/
def settle (map : TimedMap α) (key : String) (outcome : Except Failure (Option α))
    (ttl : Option Int) : TimedMap α :=
  match outcome with
  | .ok value => map.write key value ttl
  | .error _ => map

/-- The map after an operation. Only if no value is held one is fetched, and written when the fetch
is over. -/
def step (map : TimedMap α) : Cache.Operation α → TimedMap α
  | .set key value ttl => map.write key value ttl
  | .get _ => map
  | .getOrSet key fetch ttl =>
    if (map.held? key).isSome then map
    else (map.advance (fetch.duration.getD 0)).settle key fetch.outcome ttl
  | .delete key => map.record (.delete key)
  | .deletePattern pattern => map.record (.deletePattern pattern)
  | .invalidateLeaderboard => map.record (.deletePattern CacheKey.leaderboardPattern)
  | .clear => map.record .clear
  | .setEnabled enabled => { map with enabled := enabled }
  | .advance time => map.advance time

def after (map : TimedMap α) (operations : List (Cache.Operation α)) : TimedMap α :=
  operations.foldl step map

/-! ## What is held -/

/-- What is under a key after an effect: what the effect leaves there, or what was there if the
effect is on other keys. -/
theorem written?_record (map : TimedMap α) (effect : Effect α) (key : String) :
    (map.record effect).written? key =
      if effect.affects key then effect.written? else map.written? key := by
  unfold written? record
  rw [List.find?_cons]
  cases effect.affects key <;> rfl

/-- An effect that leaves something under a key is a write, and one on the key if the key is
affected. -/
theorem Effect.written?_eq_some_iff {effect : Effect α} {key : String}
    (affected : effect.affects key = true) {entry : Entry Int α} :
    effect.written? = some entry ↔
      ∃ moment ttl, effect = .write key entry.value moment ttl ∧
        entry.expiry = moment + ttl := by
  constructor
  · intro left
    cases effect with
    | write written value moment ttl =>
      cases left
      exact ⟨moment, ttl, by rw [of_decide_eq_true affected], rfl⟩
    | delete deleted => cases left
    | deletePattern pattern => cases left
    | clear => cases left
  · rintro ⟨moment, ttl, rfl, expiry⟩
    rw [Effect.written?, ← expiry]

/-- What was last written is a write among the effects, with no effect on the key after it. -/
theorem written?_eq_some_iff {map : TimedMap α} {key : String} {entry : Entry Int α} :
    map.written? key = some entry ↔
      ∃ moment ttl, map.effects.find? (·.affects key) =
        some (.write key entry.value moment ttl) ∧ entry.expiry = moment + ttl := by
  have affected : ∀ {effect}, map.effects.find? (·.affects key) = some effect →
      effect.affects key = true := by
    intro effect last
    exact List.find?_some (p := (Effect.affects · key)) last
  rw [written?, Option.bind_eq_some_iff]
  constructor
  · rintro ⟨effect, last, left⟩
    obtain ⟨moment, ttl, rfl, expiry⟩ := (Effect.written?_eq_some_iff (affected last)).1 left
    exact ⟨moment, ttl, last, expiry⟩
  · rintro ⟨moment, ttl, last, expiry⟩
    refine ⟨_, last, ?_⟩
    exact (Effect.written?_eq_some_iff (affected last)).2 ⟨moment, ttl, rfl, expiry⟩

/-- The value that is found is the one that is held. -/
theorem held?_eq_some_iff {map : TimedMap α} {key : String} {value : α} :
    map.held? key = some value ↔ map.Holds key value := by
  unfold held? Holds
  cases map.enabled with
  | false => simp
  | true =>
    rw [if_pos rfl, Option.bind_eq_some_iff]
    constructor
    · rintro ⟨entry, live, held⟩
      obtain ⟨present, fresh⟩ := Option.filter_eq_some_iff.1 live
      obtain ⟨moment, ttl, last, expiry⟩ := written?_eq_some_iff.1 present
      rw [held] at last
      refine ⟨rfl, moment, ttl, last, ?_⟩
      simpa [Entry.isExpired, expiry] using fresh
    · rintro ⟨-, moment, ttl, last, fresh⟩
      refine ⟨⟨some value, moment + ttl⟩, Option.filter_eq_some_iff.2 ⟨?_, ?_⟩, rfl⟩
      · exact written?_eq_some_iff.2 ⟨moment, ttl, last, rfl⟩
      · simpa [Entry.isExpired] using fresh

theorem held?_eq_none_iff {map : TimedMap α} {key : String} :
    map.held? key = none ↔ ∀ value, ¬ map.Holds key value := by
  simp only [Option.eq_none_iff_forall_ne_some, ne_eq, held?_eq_some_iff]

end TimedMap

end ArenaStandings
