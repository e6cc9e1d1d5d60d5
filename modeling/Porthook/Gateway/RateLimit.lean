import Mathlib.Data.Rat.Defs
import Mathlib.Algebra.Order.Field.Rat
import Mathlib.Tactic.FieldSimp
import Porthook.Protocol.Json

/-!
# Rate limits

The token bucket of a tunnel session, and the throttle of failed authentication
attempts, which keeps one bucket for each subdomain and client address.  Times are
nanoseconds; the source computes with `float64` where these buckets are exact.
-/

namespace Porthook.Gateway

open Protocol

structure RateLimiter where
  rate : ℚ
  capacity : ℚ
  tokens : ℚ
  last : Nat
  deriving DecidableEq

def newRateLimiter (requestsPerSecond burst : Int) (now : Nat) : Option RateLimiter :=
  if requestsPerSecond ≤ 0 ∨ burst ≤ 0 then none
  else some { rate := requestsPerSecond, capacity := burst, tokens := burst, last := now }

def RateLimiter.tokensAt (limiter : RateLimiter) (now : Nat) : ℚ :=
  if limiter.last < now then
    let tokens := limiter.tokens + (now - limiter.last : ℚ) / 1000000000 * limiter.rate
    if limiter.capacity < tokens then limiter.capacity else tokens
  else limiter.tokens

def RateLimiter.allow (limiter : RateLimiter) (now : Nat) : RateLimiter × Bool :=
  let refilled :=
    { limiter with tokens := limiter.tokensAt now, last := max limiter.last now }
  if refilled.tokens < 1 then (refilled, false)
  else ({ refilled with tokens := refilled.tokens - 1 }, true)

def RateLimiter.peek (limiter : RateLimiter) (now : Nat) : Bool := 1 ≤ limiter.tokensAt now

def allowAt (limiter : Option RateLimiter) (now : Nat) : Option RateLimiter × Bool :=
  match limiter with
  | none => (none, true)
  | some limiter =>
    let (next, allowed) := limiter.allow now
    (some next, allowed)

def peekAt (limiter : Option RateLimiter) (now : Nat) : Bool :=
  match limiter with
  | none => true
  | some limiter => limiter.peek now

theorem RateLimiter.allow_eq_peek (limiter : RateLimiter) (now : Nat) :
    (limiter.allow now).2 = limiter.peek now := by
  unfold allow peek
  dsimp only
  split
  next few => exact (decide_eq_false (not_le.mpr few)).symm
  next enough => exact (decide_eq_true (not_lt.mp enough)).symm

theorem allowAt_eq_peekAt (limiter : Option RateLimiter) (now : Nat) :
    (allowAt limiter now).2 = peekAt limiter now := by
  cases limiter with
  | none => rfl
  | some limiter => exact limiter.allow_eq_peek now

structure AuthAttemptEntry where
  limiter : Option RateLimiter
  lastSeen : Nat
  deriving DecidableEq

structure AuthAttemptThrottle where
  entries : List (Bytes × AuthAttemptEntry) := []
  limit : Int
  window : Int

def authAttemptMaxKeys : Nat := 10000

/-- Without a positive limit and window the defaults stand: five attempts a minute. -/
def newAuthAttemptThrottle (limit window : Int) : AuthAttemptThrottle where
  limit := if limit ≤ 0 then 5 else limit
  window := if window ≤ 0 then 60 * 1000000000 else window

def newAttemptLimiter (limit window : Int) (now : Nat) : Option RateLimiter :=
  if limit ≤ 0 ∨ window ≤ 0 then none
  else some
    { rate := (limit : ℚ) / ((window : ℚ) / 1000000000), capacity := limit, tokens := limit
      last := now }

theorem newAuthAttemptThrottle_positive (limit window : Int) :
    0 < (newAuthAttemptThrottle limit window).limit ∧
      0 < (newAuthAttemptThrottle limit window).window := by
  unfold newAuthAttemptThrottle
  dsimp only
  constructor <;> split <;> omega

namespace AuthAttemptThrottle

def blocked (throttle : AuthAttemptThrottle) (key : Bytes) (now : Nat) : Bool :=
  match throttle.entries.lookup key with
  | none => false
  | some entry => !peekAt entry.limiter now

/-- `evictOldestLocked`: of entries seen last at the same time the first one goes. -/
def evictOldest (entries : List (Bytes × AuthAttemptEntry)) : List (Bytes × AuthAttemptEntry) :=
  match entries.find? fun entry => entries.all fun other => entry.2.lastSeen ≤ other.2.lastSeen with
  | none => entries
  | some oldest => entries.filter fun entry => entry.1 ≠ oldest.1

def recordFailure (throttle : AuthAttemptThrottle) (key : Bytes) (now : Nat) :
    AuthAttemptThrottle :=
  match throttle.entries.lookup key with
  | some entry =>
    let failed := { limiter := (allowAt entry.limiter now).1, lastSeen := now }
    { throttle with
      entries := throttle.entries.map fun held => if held.1 = key then (key, failed) else held }
  | none =>
    let room := if authAttemptMaxKeys ≤ throttle.entries.length then evictOldest throttle.entries
      else throttle.entries
    let limiter := newAttemptLimiter throttle.limit throttle.window now
    { throttle with entries := room ++ [(key, ⟨(allowAt limiter now).1, now⟩)] }

end AuthAttemptThrottle

section Bucket

variable {limiter : RateLimiter}

theorem tokensAt_eq (capped : limiter.tokens ≤ limiter.capacity) (now : Nat) :
    limiter.tokensAt now = min limiter.capacity (limiter.tokens +
      limiter.rate / 1000000000 * ((max limiter.last now : Nat) - limiter.last : ℚ)) := by
  unfold RateLimiter.tokensAt
  split
  next later =>
    rw [Nat.max_eq_right later.le, div_mul_comm]
    dsimp only
    split
    next above => exact (min_eq_left above.le).symm
    next within => exact (min_eq_right (not_lt.mp within)).symm
  next earlier =>
    rw [Nat.max_eq_left (not_lt.mp earlier), sub_self, mul_zero, add_zero, min_eq_right capped]

theorem tokensAt_attempts {limit window : Int}
    (rate : limiter.rate = (limit : ℚ) / ((window : ℚ) / 1000000000))
    (capped : limiter.tokens ≤ limiter.capacity) (now : Nat) :
    limiter.tokensAt now = min limiter.capacity (limiter.tokens +
      (limit / window : ℚ) * ((max limiter.last now : Nat) - limiter.last : ℚ)) := by
  have same : limiter.rate / 1000000000 = (limit / window : ℚ) := by
    rw [rate]
    field_simp
  rw [tokensAt_eq capped, same]

theorem allow_of_peek {now : Nat} (enough : limiter.peek now) :
    (limiter.allow now).1 = { limiter with
      tokens := limiter.tokensAt now - 1, last := max limiter.last now } := by
  have least : ¬ limiter.tokensAt now < 1 := not_lt.mpr (of_decide_eq_true enough)
  simp only [RateLimiter.allow, if_neg least]

end Bucket

section Entries

variable {throttle : AuthAttemptThrottle} {key other : Bytes} {now : Nat}

theorem lookup_cons_if (name : Bytes) (entry : AuthAttemptEntry)
    (entries : List (Bytes × AuthAttemptEntry)) :
    ((name, entry) :: entries).lookup key = if key = name then some entry else
      entries.lookup key := by
  rw [List.lookup_cons]
  by_cases same : key = name
  · simp [same]
  · simp [beq_eq_false_iff_ne.mpr same, same]

variable {entries : List (Bytes × AuthAttemptEntry)}

theorem lookup_map_of_ne {entry : AuthAttemptEntry} (different : key ≠ other) :
    (entries.map fun held => if held.1 = other then (other, entry) else held).lookup key =
      entries.lookup key := by
  induction entries with
  | nil => rfl
  | cons held _ ih =>
    rcases held with ⟨name, _⟩
    rw [List.map_cons, lookup_cons_if]
    by_cases isOther : name = other
    · rw [if_pos isOther, lookup_cons_if, if_neg different, ih,
        if_neg (isOther ▸ different)]
    · rw [if_neg isOther, lookup_cons_if, ih]

theorem lookup_map_self {entry found : AuthAttemptEntry}
    (isFound : entries.lookup key = some found) :
    (entries.map fun held => if held.1 = key then (key, entry) else held).lookup key =
      some entry := by
  induction entries with
  | nil => cases isFound
  | cons held _ ih =>
    rcases held with ⟨name, _⟩
    rw [lookup_cons_if] at isFound
    rw [List.map_cons]
    by_cases isKey : name = key
    · rw [if_pos isKey, lookup_cons_if, if_pos rfl]
    · rw [if_neg (Ne.symm isKey)] at isFound
      rw [if_neg isKey, lookup_cons_if, if_neg (Ne.symm isKey)]
      exact ih isFound

theorem lookup_filter_ne (oldest : Bytes) :
    (entries.filter fun entry => entry.1 ≠ oldest).lookup key =
      if key = oldest then none else entries.lookup key := by
  induction entries with
  | nil => simp
  | cons held _ ih =>
    rcases held with ⟨name, _⟩
    rw [lookup_cons_if]
    by_cases isOldest : name = oldest
    · rw [List.filter_cons_of_neg (by simp [isOldest]), ih]
      split
      · rfl
      next different => rw [if_neg (isOldest ▸ different)]
    · rw [List.filter_cons_of_pos (by simp [isOldest]), lookup_cons_if, ih]
      split
      next same => rw [if_neg (same ▸ isOldest)]
      · rfl

theorem lookup_evictOldest (entries : List (Bytes × AuthAttemptEntry)) :
    (AuthAttemptThrottle.evictOldest entries).lookup key = entries.lookup key ∨
      (AuthAttemptThrottle.evictOldest entries).lookup key = none := by
  unfold AuthAttemptThrottle.evictOldest
  split
  · exact .inl rfl
  next oldest found =>
    rw [lookup_filter_ne]
    split
    · exact .inr rfl
    · exact .inl rfl

theorem lookup_append_of_none {rest : List (Bytes × AuthAttemptEntry)}
    (missing : entries.lookup key = none) :
    (entries ++ rest).lookup key = rest.lookup key := by
  rw [List.lookup_append, missing]
  rfl

def AuthAttemptThrottle.limiterOf (throttle : AuthAttemptThrottle) (key : Bytes) (now : Nat) :
    Option RateLimiter :=
  match throttle.entries.lookup key with
  | some entry => entry.limiter
  | none => newAttemptLimiter throttle.limit throttle.window now

theorem lookup_recordFailure_self (throttle : AuthAttemptThrottle) (key : Bytes) (now : Nat) :
    (throttle.recordFailure key now).entries.lookup key =
      some ⟨(allowAt (throttle.limiterOf key now) now).1, now⟩ := by
  unfold AuthAttemptThrottle.recordFailure AuthAttemptThrottle.limiterOf
  cases found : throttle.entries.lookup key with
  | some => exact lookup_map_self found
  | none =>
    dsimp only
    rw [lookup_append_of_none, lookup_cons_if, if_pos rfl]
    split
    · rcases lookup_evictOldest throttle.entries with same | missing
      · rw [same, found]
      · exact missing
    · exact found

theorem lookup_recordFailure_other (different : key ≠ other) :
    (throttle.recordFailure other now).entries.lookup key = throttle.entries.lookup key ∨
      (throttle.recordFailure other now).entries.lookup key = none := by
  unfold AuthAttemptThrottle.recordFailure
  cases found : throttle.entries.lookup other with
  | some => exact .inl (lookup_map_of_ne different)
  | none =>
    dsimp only
    have last (entries : List (Bytes × AuthAttemptEntry)) (entry : AuthAttemptEntry) :
        (entries ++ [(other, entry)]).lookup key = entries.lookup key := by
      rw [List.lookup_append, lookup_cons_if, if_neg different]
      simp
    rw [last]
    split
    · exact lookup_evictOldest throttle.entries
    · exact .inl rfl

theorem recordFailure_limits (throttle : AuthAttemptThrottle) (key : Bytes) (now : Nat) :
    (throttle.recordFailure key now).limit = throttle.limit ∧
      (throttle.recordFailure key now).window = throttle.window := by
  unfold AuthAttemptThrottle.recordFailure
  split <;> exact ⟨rfl, rfl⟩

end Entries

end Porthook.Gateway
