import ArenaStandings.Cache.Basic

/-!
# Fetching through the cache

`Cache.getOrSet` looks a key up and, if nothing is found, fetches a value and keeps it. A failed
fetch keeps nothing. While it fetches, the caller has the slot of the key. The parts of a call are
definitions of their own, for calls that run at the same time have the same parts.
-/

namespace ArenaStandings

/-- What a fetch comes to: a value or a failure, and the time it takes, if it takes any. -/
structure Fetch (τ α : Type) where
  outcome : Except Failure (Option α)
  duration : Option τ

/-- The moment at which a fetch that begins at a moment ends, and what it comes to. One whose end is
no moment fails, and takes no time. -/
def Fetch.run {τ α : Type} [Clock τ] (fetch : Fetch τ α) (now : τ) :
    τ × Except Failure (Option α) :=
  match fetch.duration with
  | none => (now, fetch.outcome)
  | some duration =>
    match Clock.later now duration with
    | .ok later => (later, fetch.outcome)
    | .error failure => (now, .error failure)

/-- What a call came to. -/
structure Fetched (τ α : Type) where
  result : Except Failure (Option α)
  /-- Was a value fetched? -/
  fetched : Bool
  /-- The moment after the call. -/
  now : τ
  cache : Cache τ α
  lines : List LogLine

namespace Cache

variable {τ α : Type}

/-- The line about a value that is found at once. -/
def hitLine (key : String) : LogLine := .debug ("Cache hit: " ++ key)

/-- The line about a value that is found after waiting for another caller. -/
def lateHitLine (key : String) : LogLine := .debug ("Cache hit after wait: " ++ key)

/-- The line about a value that has to be fetched. -/
def missLine (key : String) : LogLine := .debug ("Cache miss: " ++ key)

variable [LE τ] [DecidableLE τ] [Clock τ]

/-- Keep what a fetch came to, at the moment at which it ended. -/
def settle (cache : Cache τ α) (now : τ) (key : String) (outcome : Except Failure (Option α))
    (ttl : Option τ) : Written τ α :=
  match outcome with
  | .ok value => cache.set now key value ttl
  | .error failure => ⟨cache, .error failure, []⟩

/-- The value under a key, fetched and kept if it is not found. A value that cannot be kept is not
given either. -/
def getOrSet (cache : Cache τ α) (now : τ) (key : String) (fetch : Fetch τ α)
    (ttl : Option τ) : Fetched τ α :=
  let (later, outcome) := fetch.run now
  if !cache.enabled then ⟨outcome, true, later, cache, []⟩
  else match cache.get now key with
    | (some value, seen) => ⟨.ok (some value), false, now, seen, [hitLine key]⟩
    | (none, seen) =>
      match (seen.acquire key).2.get now key with
      | (some value, again) =>
        ⟨.ok (some value), false, now, again.release key, [lateHitLine key]⟩
      | (none, again) =>
        let written := again.settle later key outcome ttl
        ⟨written.result.bind fun _ => outcome, true, later, written.cache.release key,
          missLine key :: written.lines⟩

end Cache

end ArenaStandings
