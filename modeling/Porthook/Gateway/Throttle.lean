import Mathlib.Data.Finset.Max
import Mathlib.Data.List.Induction
import Mathlib.Data.List.Nodup
import Porthook.Foundations.TokenBucket
import Porthook.Foundations.Transition
import Porthook.Gateway.RateLimit

/-!
# What the limits promise

A bucket never allows more than it was filled with, and with a clock that does not go back it
refuses only after as many allowed calls as fill it.  In the throttle a bucket is made with the
first failure of its key and lost if the key is evicted.
-/

namespace Porthook.Gateway

open Protocol Transition TokenBucket

inductive LimiterCall where
  | allow (now : Nat)
  | peek (now : Nat)

def LimiterCall.now : LimiterCall → Nat
  | .allow now => now
  | .peek now => now

structure Metered where
  limiter : RateLimiter
  allowed : List Nat := []

namespace Metered

/-- A full bucket, as `newRateLimiter` and `newAttemptLimiter` make it. -/
def full (rate : ℚ) (capacity start : Nat) : Metered where
  limiter := { rate, capacity, tokens := capacity, last := start }

def call (metered : Metered) : LimiterCall → Metered
  | .allow now =>
    let (limiter, allowed) := metered.limiter.allow now
    { limiter, allowed := if allowed then now :: metered.allowed else metered.allowed }
  | .peek _ => metered

def run (metered : Metered) (calls : List LimiterCall) : Metered := calls.foldl call metered

structure Inv (rate : ℚ) (capacity : Nat) (limiter : RateLimiter) : Prop where
  rate : limiter.rate = rate
  capacity : limiter.capacity = capacity
  least : 0 ≤ limiter.tokens
  most : limiter.tokens ≤ limiter.capacity

variable {rate : ℚ} {capacity : Nat} {metered : Metered}

theorem inv_full (rate : ℚ) (capacity start : Nat) :
    Inv rate capacity (full rate capacity start).limiter :=
  ⟨rfl, rfl, Nat.cast_nonneg _, le_rfl⟩

variable {limiter : RateLimiter} {uses : List Nat}

theorem Inv.tokensAt_eq (inv : Inv rate capacity limiter) (now : Nat) :
    limiter.tokensAt now = min (capacity : ℚ) (limiter.tokens +
      rate / 1000000000 * ((max limiter.last now : Nat) - limiter.last : ℚ)) := by
  rw [Gateway.tokensAt_eq inv.most, inv.capacity, inv.rate]

theorem Inv.tokensAt_nonneg (inv : Inv rate capacity limiter) (gains : 0 < rate)
    (now : Nat) : 0 ≤ limiter.tokensAt now := by
  have grown : (0 : ℚ) ≤ (max limiter.last now : Nat) - limiter.last :=
    sub_nonneg.mpr (Nat.cast_le.mpr (Nat.le_max_left _ _))
  have gained : 0 ≤ rate / 1000000000 * ((max limiter.last now : Nat) - limiter.last : ℚ) :=
    mul_nonneg (div_nonneg gains.le (by norm_num)) grown
  rw [inv.tokensAt_eq]
  exact le_min (Nat.cast_nonneg _) (add_nonneg inv.least gained)

theorem allow_cases (limiter : RateLimiter) (now : Nat) :
    (limiter.tokensAt now < 1 ∧ limiter.allow now =
        ({ limiter with tokens := limiter.tokensAt now, last := max limiter.last now }, false)) ∨
      1 ≤ limiter.tokensAt now ∧ limiter.allow now =
        ({ limiter with
          tokens := limiter.tokensAt now - 1, last := max limiter.last now }, true) := by
  unfold RateLimiter.allow
  dsimp only
  split
  next short => exact .inl ⟨short, rfl⟩
  next enough => exact .inr ⟨not_lt.mp enough, rfl⟩

theorem allow_last (limiter : RateLimiter) (now : Nat) :
    (limiter.allow now).1.last = max limiter.last now := by
  rcases allow_cases limiter now with ⟨-, allowed⟩ | ⟨-, allowed⟩ <;> rw [allowed]

theorem allow_tokens_le (limiter : RateLimiter) (now : Nat) :
    (limiter.allow now).1.tokens ≤ limiter.tokensAt now := by
  rcases allow_cases limiter now with ⟨-, allowed⟩ | ⟨-, allowed⟩ <;> rw [allowed]
  exact sub_le_self _ zero_le_one

theorem Inv.allow (inv : Inv rate capacity limiter) (gains : 0 < rate)
    (now : Nat) : Inv rate capacity (limiter.allow now).1 := by
  have least := inv.tokensAt_nonneg gains now
  have most : limiter.tokensAt now ≤ limiter.capacity := by
    rw [inv.tokensAt_eq, inv.capacity]
    exact min_le_left _ _
  rcases allow_cases limiter now with ⟨_, allowed⟩ | ⟨enough, allowed⟩
  · rw [allowed]
    exact ⟨inv.rate, inv.capacity, least, most⟩
  · rw [allowed]
    exact ⟨inv.rate, inv.capacity, sub_nonneg.mpr enough, (sub_le_self _ zero_le_one).trans most⟩

theorem Inv.run (inv : Inv rate capacity metered.limiter) (gains : 0 < rate)
    (calls : List LimiterCall) : Inv rate capacity (metered.run calls).limiter := by
  induction calls generalizing metered with
  | nil => exact inv
  | cons call _ ih =>
    refine ih ?_
    cases call with
    | allow now => exact inv.allow gains now
    | peek => exact inv

theorem spent_call (inv : Inv rate capacity metered.limiter) (call : LimiterCall) :
    (metered.call call).limiter.tokens + (metered.call call).allowed.length ≤
      metered.limiter.tokens + metered.allowed.length +
        rate / 1000000000 * ((metered.call call).limiter.last - metered.limiter.last : ℚ) := by
  cases call with
  | peek => simp [Metered.call]
  | allow now =>
    have gained := inv.tokensAt_eq now ▸ min_le_right (capacity : ℚ) (metered.limiter.tokens +
      rate / 1000000000 * ((max metered.limiter.last now : Nat) - metered.limiter.last : ℚ))
    rcases allow_cases metered.limiter now with ⟨_, allowed⟩ | ⟨_, allowed⟩
    · simp only [Metered.call, allowed, Bool.false_eq_true, if_false]
      linarith
    · simp only [Metered.call, allowed, if_true, List.length_cons, Nat.cast_succ]
      linarith

theorem spent_run (inv : Inv rate capacity metered.limiter) (gains : 0 < rate)
    (calls : List LimiterCall) :
    (metered.run calls).limiter.tokens + (metered.run calls).allowed.length ≤
      metered.limiter.tokens + metered.allowed.length +
        rate / 1000000000 * ((metered.run calls).limiter.last - metered.limiter.last : ℚ) := by
  induction calls generalizing metered with
  | nil => simp [Metered.run]
  | cons call _ ih =>
    have first := spent_call inv call
    have later := ih (inv.run gains [call])
    rw [mul_sub] at first later ⊢
    simp only [Metered.run, List.foldl_cons, List.foldl_nil] at later ⊢
    linarith

/-- `Supports` along a run whose times do not go back. -/
def Supported (rate : ℚ) (capacity : Nat) (limiter : RateLimiter) (uses : List Nat) : Prop :=
  Supports (capacity : ℚ) (rate / 1000000000) limiter.tokens limiter.last
    (uses.map fun time : Nat => (time : ℚ))

theorem supported_full (rate : ℚ) (capacity start : Nat) :
    Supported rate capacity (full rate capacity start).limiter (full rate capacity start).allowed :=
  supports_of_full []

theorem Supported.refill (supported : Supported rate capacity limiter uses)
    (inv : Inv rate capacity limiter) (gains : 0 < rate) {now : Nat} (later : limiter.last ≤ now) :
    Supports (capacity : ℚ) (rate / 1000000000) (limiter.tokensAt now) now
      (uses.map fun time : Nat => (time : ℚ)) := by
  rw [inv.tokensAt_eq, Nat.max_eq_right later]
  exact Supports.refill supported (div_nonneg gains.le (by norm_num)) inv.least
    (Nat.cast_le.mpr later)

theorem Supported.allow (supported : Supported rate capacity limiter uses)
    (inv : Inv rate capacity limiter) (gains : 0 < rate) {now : Nat} (later : limiter.last ≤ now) :
    Supported rate capacity (limiter.allow now).1
      (if (limiter.allow now).2 then now :: uses else uses) := by
  have refilled := supported.refill inv gains later
  rcases allow_cases limiter now with ⟨_, allowed⟩ | ⟨enough, allowed⟩
  · rw [allowed, Nat.max_eq_right later]
    exact refilled
  · rw [allowed, Nat.max_eq_right later]
    exact refilled.take enough

theorem run_concat (metered : Metered) (calls : List LimiterCall) (last : LimiterCall) :
    metered.run (calls ++ [last]) = (metered.run calls).call last := by
  rw [run, List.foldl_append]
  rfl

theorem last_mem (metered : Metered) (calls : List LimiterCall) :
    (metered.run calls).limiter.last ∈ metered.limiter.last :: calls.map LimiterCall.now := by
  induction calls using List.reverseRecOn with
  | nil => exact List.mem_cons_self
  | append_singleton calls last ih =>
    rw [run_concat, List.map_append, ← List.cons_append, List.mem_append]
    cases last with
    | peek => exact .inl ih
    | allow now =>
      rw [show ((metered.run calls).call (.allow now)).limiter.last = _ from allow_last _ now]
      rcases Nat.le_total now (metered.run calls).limiter.last with early | late
      · rw [Nat.max_eq_left early]
        exact .inl ih
      · rw [Nat.max_eq_right late]
        exact .inr (List.mem_singleton_self _)

/-- Times that do not go back: the one of the bucket, and those of the calls. -/
def InOrder (metered : Metered) (calls : List LimiterCall) : Prop :=
  (metered.limiter.last :: calls.map LimiterCall.now).Pairwise (· ≤ ·)

theorem InOrder.concat {calls : List LimiterCall} {last : LimiterCall}
    (ordered : metered.InOrder (calls ++ [last])) :
    metered.InOrder calls ∧ (metered.run calls).limiter.last ≤ last.now := by
  unfold InOrder at ordered
  rw [List.map_append, ← List.cons_append, List.pairwise_append] at ordered
  exact ⟨ordered.1, ordered.2.2 _ (last_mem metered calls) _ (List.mem_singleton_self _)⟩

theorem Supported.run (supported : Supported rate capacity metered.limiter metered.allowed)
    (inv : Inv rate capacity metered.limiter) (gains : 0 < rate) {calls : List LimiterCall}
    (ordered : metered.InOrder calls) :
    Supported rate capacity (metered.run calls).limiter (metered.run calls).allowed := by
  induction calls using List.reverseRecOn with
  | nil => exact supported
  | append_singleton calls last ih =>
    rw [run_concat]
    cases last with
    | peek => exact ih ordered.concat.1
    | allow =>
      exact (ih ordered.concat.1).allow (inv.run gains calls) gains
        ordered.concat.2

theorem Supported.refused (supported : Supported rate capacity limiter uses)
    (inv : Inv rate capacity limiter) (gains : 0 < rate) {now : Nat} (later : limiter.last ≤ now)
    (refused : limiter.tokensAt now < 1) :
    capacity ≤ uses.countP fun time : Nat => (now : ℚ) - capacity / rate * 1000000000 < time := by
  have filled : (capacity : ℚ) ≤
      rate / 1000000000 * (now - (now - capacity / rate * 1000000000)) := by
    rw [sub_sub_cancel]
    field_simp
    exact le_rfl
  have early : (now : ℚ) - capacity / rate * 1000000000 ≤ now :=
    sub_le_self _ (mul_nonneg (div_nonneg (Nat.cast_nonneg _) gains.le) (by norm_num))
  have counted := (supported.refill inv gains later).le_countP refused early filled
  rwa [List.countP_map] at counted

end Metered

/-- A bucket that starts full: its tokens stay within the capacity, `peek` foretells `allow`, a time
that is not later adds nothing, and a run allows no more than the capacity and the gain, and no
less. -/
theorem bucket_contract {rate : ℚ} (gains : 0 < rate) (capacity start : Nat)
    (before : List LimiterCall) :
    let bucket := (Metered.full rate capacity start).run before
    (0 ≤ bucket.limiter.tokens ∧ bucket.limiter.tokens ≤ capacity) ∧
      (∀ now, bucket.limiter.peek now = (bucket.limiter.allow now).2 ∧
        bucket.call (.peek now) = bucket) ∧
      (∀ now ≤ bucket.limiter.last,
        (bucket.limiter.allow now).1.tokens ≤ bucket.limiter.tokens) ∧
      (∀ calls, (((⟨bucket.limiter, []⟩ : Metered).run calls).allowed.length : ℚ) ≤ capacity +
        rate * ((((⟨bucket.limiter, []⟩ : Metered).run calls).limiter.last -
          bucket.limiter.last : ℚ) / 1000000000)) ∧
      ∀ now, (Metered.full rate capacity start).InOrder (before ++ [.allow now]) →
        (bucket.limiter.allow now).2 = false →
        capacity ≤ bucket.allowed.countP fun time : Nat =>
          (now : ℚ) - capacity / rate * 1000000000 < time := by
  have full := Metered.inv_full rate capacity start
  have inv := full.run gains before
  refine ⟨⟨inv.least, inv.capacity ▸ inv.most⟩, fun now => ⟨?_, rfl⟩, fun now early => ?_,
    fun calls => ?_, fun now ordered refused => ?_⟩
  · exact (RateLimiter.allow_eq_peek _ now).symm
  · have same := inv.tokensAt_eq now
    rw [Nat.max_eq_left early, sub_self, mul_zero, add_zero] at same
    exact (Metered.allow_tokens_le _ now).trans (same ▸ min_le_right _ _)
  · have again : Metered.Inv rate capacity (⟨_, []⟩ : Metered).limiter := inv
    have spent := Metered.spent_run again gains calls
    have least := (again.run gains calls).least
    have most := inv.capacity ▸ inv.most
    simp only [List.length_nil, Nat.cast_zero, add_zero] at spent
    rw [div_mul_eq_mul_div, mul_div_assoc] at spent
    linarith
  · have supported :=
      (Metered.supported_full rate capacity start).run full gains ordered.concat.1
    refine supported.refused inv gains ordered.concat.2 ?_
    rw [RateLimiter.allow_eq_peek] at refused
    exact not_le.mp (of_decide_eq_false refused)

theorem bucket_contract_one :
    (0 : ℚ) < 2 ∧ ∀ now, (Metered.full 2 1 0).InOrder [.allow 5, .allow now] →
      (((Metered.full 2 1 0).run [.allow 5]).limiter.allow now).2 = false →
      1 ≤ ((Metered.full 2 1 0).run [.allow 5]).allowed.countP fun time : Nat =>
        (now : ℚ) - (1 : Nat) / 2 * 1000000000 < time :=
  ⟨by norm_num, (bucket_contract (by norm_num) 1 0 [.allow 5]).2.2.2.2⟩

structure Throttled where
  throttle : AuthAttemptThrottle
  failures : List (Bytes × Nat) := []
  clock : Nat := 0

/-- The entries of a Go map have no order: they can be found in any. -/
inductive ThrottleCall where
  | blocked (key : Bytes) (now : Nat)
  | recordFailure (key : Bytes) (now : Nat)
  | reorder (entries : List (Bytes × AuthAttemptEntry))

namespace Throttled

def initial (limit window : Int) : Throttled where
  throttle := newAuthAttemptThrottle limit window

def step (state : Throttled) : ThrottleCall → Option Throttled
  | .blocked _ now => if now < state.clock then none else some { state with clock := now }
  | .recordFailure key now =>
    if now < state.clock then none
    else some
      { throttle := state.throttle.recordFailure key now
        failures := (key, now) :: state.failures, clock := now }
  | .reorder entries =>
    if entries.Perm state.throttle.entries then
      some { state with throttle := { state.throttle with entries } }
    else none

def times (state : Throttled) (key : Bytes) : List Nat :=
  (state.failures.filter fun failure => failure.1 = key).map Prod.snd

end Throttled

section Entries

variable {throttle : AuthAttemptThrottle} {entries : List (Bytes × AuthAttemptEntry)}
  {key name : Bytes} {entry : AuthAttemptEntry} {now : Nat}

theorem mem_of_lookup (found : entries.lookup key = some entry) : (key, entry) ∈ entries := by
  obtain ⟨_, _, split, -⟩ := List.lookup_eq_some_iff.mp found
  rw [split]
  exact List.mem_append_right _ List.mem_cons_self

theorem not_mem_of_lookup (missing : entries.lookup key = none) : key ∉ entries.map Prod.fst := by
  intro member
  obtain ⟨held, among, rfl⟩ := List.mem_map.mp member
  simpa using List.lookup_eq_none_iff.mp missing held among

theorem evictOldest_eq (nonempty : entries ≠ []) :
    ∃ oldest ∈ entries, (∀ held ∈ entries, oldest.2.lastSeen ≤ held.2.lastSeen) ∧
      AuthAttemptThrottle.evictOldest entries = entries.filter fun held => held.1 ≠ oldest.1 := by
  unfold AuthAttemptThrottle.evictOldest
  split
  next missed =>
    obtain ⟨oldest, member, least⟩ := entries.toFinset.exists_min_image (·.2.lastSeen)
      (List.toFinset_nonempty_iff entries |>.mpr nonempty)
    have passed := List.find?_eq_none.mp missed oldest (List.mem_toFinset.mp member)
    refine absurd (List.all_eq_true.mpr fun held among => ?_) passed
    exact decide_eq_true (least held (List.mem_toFinset.mpr among))
  next oldest found =>
    have least := List.find?_some found
    simp only [List.all_eq_true] at least
    exact ⟨oldest, List.mem_of_find?_eq_some found,
      fun held among => of_decide_eq_true (least held among), rfl⟩

/-- The entries that `recordFailure` leaves in place: all of them, or all but an oldest one. -/
inductive Spared (entries : List (Bytes × AuthAttemptEntry)) :
    List (Bytes × AuthAttemptEntry) → Prop where
  | all : entries.length < authAttemptMaxKeys → Spared entries entries
  | allBut (oldest) : oldest ∈ entries →
      (∀ held ∈ entries, oldest.2.lastSeen ≤ held.2.lastSeen) →
      Spared entries (entries.filter fun held => held.1 ≠ oldest.1)

theorem recordFailure_fresh (missing : throttle.entries.lookup key = none) :
    ∃ room, Spared throttle.entries room ∧ (throttle.recordFailure key now).entries =
      room ++ [(key, ⟨(allowAt (throttle.limiterOf key now) now).1, now⟩)] := by
  simp only [AuthAttemptThrottle.recordFailure, AuthAttemptThrottle.limiterOf, missing]
  split
  next full =>
    have nonempty : throttle.entries ≠ [] := by
      rintro empty
      rw [empty] at full
      exact absurd full (by decide)
    obtain ⟨oldest, member, least, evicted⟩ := evictOldest_eq nonempty
    exact ⟨_, .allBut oldest member least, by rw [evicted]⟩
  next space => exact ⟨_, .all (Nat.lt_of_not_le space), rfl⟩

variable {room : List (Bytes × AuthAttemptEntry)}

theorem Spared.sublist (spared : Spared entries room) :
    room.Sublist entries := by
  cases spared with
  | all => exact List.Sublist.refl _
  | allBut => exact List.filter_sublist

theorem Spared.length_lt (spared : Spared entries room)
    (size : entries.length ≤ authAttemptMaxKeys) : room.length < authAttemptMaxKeys := by
  cases spared with
  | all space => exact space
  | allBut oldest member =>
    refine Nat.lt_of_lt_of_le (List.length_filter_lt_length_iff_exists.mpr ?_) size
    exact ⟨oldest, member, by simp⟩

theorem mem_recordFailure
    (member : (name, entry) ∈ (throttle.recordFailure key now).entries) :
    (name ≠ key ∧ (name, entry) ∈ throttle.entries) ∨
      name = key ∧ entry = ⟨(allowAt (throttle.limiterOf key now) now).1, now⟩ := by
  cases found : throttle.entries.lookup key with
  | some =>
    simp only [AuthAttemptThrottle.recordFailure, AuthAttemptThrottle.limiterOf, found] at member ⊢
    obtain ⟨_, among, same⟩ := List.mem_map.mp member
    split at same
    · cases same
      exact .inr ⟨rfl, rfl⟩
    next other =>
      cases same
      exact .inl ⟨other, among⟩
  | none =>
    obtain ⟨_, spared, left⟩ := recordFailure_fresh found
    rw [left] at member
    rcases List.mem_append.mp member with old | new
    · refine .inl ⟨?_, spared.sublist.subset old⟩
      rintro rfl
      exact not_mem_of_lookup found (List.mem_map_of_mem (spared.sublist.subset old))
    · cases List.mem_singleton.mp new
      exact .inr ⟨rfl, rfl⟩

theorem recordFailure_keys (key : Bytes) (now : Nat) (nodup : (throttle.entries.map Prod.fst).Nodup)
    (size : throttle.entries.length ≤ authAttemptMaxKeys) :
    ((throttle.recordFailure key now).entries.map Prod.fst).Nodup ∧
      (throttle.recordFailure key now).entries.length ≤ authAttemptMaxKeys := by
  cases found : throttle.entries.lookup key with
  | some known =>
    simp only [AuthAttemptThrottle.recordFailure, found, List.map_map, List.length_map]
    have same : ∀ held ∈ throttle.entries, (Prod.fst ∘ fun held => if held.1 = key then
        (key, (⟨(allowAt known.limiter now).1, now⟩ : AuthAttemptEntry)) else held) held =
          Prod.fst held := by
      intro held _
      by_cases isKey : held.1 = key <;> simp [isKey]
    rw [List.map_congr_left same]
    exact ⟨nodup, size⟩
  | none =>
    obtain ⟨_, spared, left⟩ := recordFailure_fresh found
    have fewer := spared.sublist.map Prod.fst
    rw [left, List.map_append, List.length_append]
    refine ⟨List.nodup_append.mpr ⟨nodup.sublist fewer, by simp, ?_⟩, spared.length_lt size⟩
    intro name member other isKey same
    have isName : name = key := same.trans (List.mem_singleton.mp isKey)
    exact not_mem_of_lookup found (isName ▸ fewer.subset member)

theorem evicted_oldest (nodup : (throttle.entries.map Prod.fst).Nodup)
    (found : throttle.entries.lookup name = some entry)
    (evicted : (throttle.recordFailure key now).entries.lookup name = none) :
    ∀ held ∈ throttle.entries, entry.lastSeen ≤ held.2.lastSeen := by
  have gone := not_mem_of_lookup evicted
  have member := mem_of_lookup found
  cases known : throttle.entries.lookup key with
  | some =>
    have different : name ≠ key := by
      rintro rfl
      rw [lookup_recordFailure_self] at evicted
      cases evicted
    rw [AuthAttemptThrottle.recordFailure, known] at evicted
    rw [show _ = _ from lookup_map_of_ne different, found] at evicted
    cases evicted
  | none =>
    obtain ⟨room, spared, left⟩ := recordFailure_fresh known
    rw [left, List.map_append] at gone
    have lost : name ∉ room.map Prod.fst := fun kept => gone (List.mem_append_left _ kept)
    cases spared with
    | all => exact absurd (List.mem_map_of_mem member) lost
    | allBut oldest among least =>
      have same : name = oldest.1 := by
        by_contra other
        exact lost (List.mem_map.mpr
          ⟨(name, entry), List.mem_filter.mpr ⟨member, by simpa using other⟩, rfl⟩)
      have isOldest : (name, entry) = oldest := List.inj_on_of_nodup_map nodup member among same
      rw [← isOldest] at least
      exact least

end Entries

namespace Throttled

variable {limit window : Int} {state next : Throttled}

def fillRate (limit window : Int) : ℚ := (limit : ℚ) / ((window : ℚ) / 1000000000)

theorem fillRate_pos (positive : 0 < limit ∧ 0 < window) : 0 < fillRate limit window :=
  div_pos (Int.cast_pos.mpr positive.1) (div_pos (Int.cast_pos.mpr positive.2) (by norm_num))

structure Known (limit window : Int) (clock : Nat) (times : List Nat) (limiter : RateLimiter) :
    Prop where
  inv : Metered.Inv (fillRate limit window) limit.toNat limiter
  last : limiter.last ≤ clock
  supported : Metered.Supported (fillRate limit window) limit.toNat limiter times

structure Inv (limit window : Int) (state : Throttled) : Prop where
  limits : state.throttle.limit = limit ∧ state.throttle.window = window
  nodup : (state.throttle.entries.map Prod.fst).Nodup
  size : state.throttle.entries.length ≤ authAttemptMaxKeys
  past : ∀ failure ∈ state.failures, failure.2 ≤ state.clock
  seen : ∀ key entry, (key, entry) ∈ state.throttle.entries →
    (state.times key).head? = some entry.lastSeen
  known : ∀ key entry, (key, entry) ∈ state.throttle.entries → ∃ limiter,
    entry.limiter = some limiter ∧ Known limit window state.clock (state.times key) limiter

theorem Inv.known_later (inv : Inv limit window state) {now : Nat} (later : state.clock ≤ now)
    {key : Bytes} {entry : AuthAttemptEntry} (member : (key, entry) ∈ state.throttle.entries) :
    ∃ limiter, entry.limiter = some limiter ∧
      Known limit window now (state.times key) limiter := by
  obtain ⟨limiter, isLimiter, known⟩ := inv.known key entry member
  exact ⟨limiter, isLimiter, { known with last := known.last.trans later }⟩

theorem Known.fail {now : Nat} {times : List Nat} {limiter : RateLimiter}
    (known : Known limit window now times limiter) (positive : 0 < limit ∧ 0 < window) :
    Known limit window now (now :: times) (limiter.allow now).1 := by
  have gains := fillRate_pos positive
  have allowed := known.supported.allow known.inv gains known.last
  refine ⟨known.inv.allow gains now, ?_, ?_⟩
  · rw [Metered.allow_last]
    exact Nat.max_le.mpr ⟨known.last, le_rfl⟩
  · split at allowed
    · exact allowed
    · exact Supports.more allowed [(now : ℚ)]

theorem Inv.limiterOf (inv : Inv limit window state) (positive : 0 < limit ∧ 0 < window)
    (key : Bytes) {now : Nat} (later : state.clock ≤ now) :
    ∃ limiter, state.throttle.limiterOf key now = some limiter ∧
      Known limit window now (state.times key) limiter := by
  unfold AuthAttemptThrottle.limiterOf
  cases found : state.throttle.entries.lookup key with
  | some => exact inv.known_later later (mem_of_lookup found)
  | none =>
    have room : (limit : ℚ) = (limit.toNat : ℚ) := by
      exact_mod_cast (Int.toNat_of_nonneg positive.1.le).symm
    refine ⟨(Metered.full (fillRate limit window) limit.toNat now).limiter, ?_,
      Metered.inv_full _ _ _, le_rfl, supports_of_full _⟩
    simp only [newAttemptLimiter, inv.limits]
    rw [if_neg (by omega), Metered.full, ← room]
    rfl

theorem times_cons (key name : Bytes) (now : Nat) (throttle : AuthAttemptThrottle) :
    (⟨throttle, (key, now) :: state.failures, now⟩ : Throttled).times name =
      if key = name then now :: state.times name else state.times name := by
  by_cases same : key = name <;> simp [times, same]

theorem Inv.step (inv : Inv limit window state) (positive : 0 < limit ∧ 0 < window)
    {call : ThrottleCall} (stepped : state.step call = some next) : Inv limit window next := by
  cases call with
  | blocked =>
    simp only [Throttled.step] at stepped
    split at stepped
    · cases stepped
    next later =>
      cases stepped
      have reached := Nat.le_of_not_lt later
      exact { inv with
        past := fun failure member => (inv.past failure member).trans reached
        known := fun _ _ member => inv.known_later reached member }
  | recordFailure key now =>
    simp only [Throttled.step] at stepped
    split at stepped
    · cases stepped
    next later =>
      cases stepped
      have reached := Nat.le_of_not_lt later
      obtain ⟨limits, windows⟩ := recordFailure_limits state.throttle key now
      obtain ⟨nodup, size⟩ := recordFailure_keys key now inv.nodup inv.size
      refine ⟨⟨limits.trans inv.limits.1, windows.trans inv.limits.2⟩, nodup, size, ?_, ?_, ?_⟩
      · intro failure member
        rcases List.mem_cons.mp member with rfl | old
        · exact le_rfl
        · exact (inv.past failure old).trans reached
      · intro name entry member
        rw [times_cons]
        rcases mem_recordFailure member with ⟨other, old⟩ | ⟨rfl, rfl⟩
        · rw [if_neg (Ne.symm other)]
          exact inv.seen name entry old
        · rw [if_pos rfl]
          rfl
      · intro name entry member
        rw [times_cons]
        rcases mem_recordFailure member with ⟨other, old⟩ | ⟨rfl, rfl⟩
        · rw [if_neg (Ne.symm other)]
          exact inv.known_later reached old
        · obtain ⟨_, isLimiter, known⟩ := inv.limiterOf positive name reached
          rw [if_pos rfl, isLimiter]
          exact ⟨_, rfl, known.fail positive⟩
  | reorder =>
    simp only [Throttled.step] at stepped
    split at stepped
    next permuted =>
      cases stepped
      exact { inv with
        nodup := (permuted.map Prod.fst).nodup_iff.mpr inv.nodup
        size := permuted.length_eq.trans_le inv.size
        seen := fun key entry member => inv.seen key entry (permuted.mem_iff.mp member)
        known := fun key entry member => inv.known key entry (permuted.mem_iff.mp member) }
    · cases stepped

theorem inv_initial (limit window : Int) :
    Inv (newAuthAttemptThrottle limit window).limit (newAuthAttemptThrottle limit window).window
      (initial limit window) :=
  ⟨⟨rfl, rfl⟩, List.nodup_nil, Nat.zero_le _, by rintro _ ⟨⟩, by rintro _ _ ⟨⟩, by rintro _ _ ⟨⟩⟩

theorem Inv.blocked (inv : Inv limit window state) (positive : 0 < limit ∧ 0 < window)
    {key : Bytes} {now : Nat} (later : state.clock ≤ now)
    (blocked : state.throttle.blocked key now) :
    limit ≤ ((state.times key).countP fun time : Nat =>
      (now : Int) - window < time ∧ time ≤ now : Nat) := by
  unfold AuthAttemptThrottle.blocked at blocked
  split at blocked
  · cases blocked
  next entry found =>
    obtain ⟨limiter, isLimiter, known⟩ := inv.known_later later (mem_of_lookup found)
    have refused : limiter.tokensAt now < 1 := by
      simpa [isLimiter, peekAt, RateLimiter.peek] using blocked
    have counted := known.supported.refused known.inv (fillRate_pos positive) known.last refused
    have filled : (limit.toNat : ℚ) / fillRate limit window * 1000000000 = window := by
      have room : (limit.toNat : ℚ) = limit := by
        exact_mod_cast Int.toNat_of_nonneg positive.1.le
      have nonzero : (limit : ℚ) ≠ 0 := by exact_mod_cast positive.1.ne'
      have width : (window : ℚ) ≠ 0 := by exact_mod_cast positive.2.ne'
      rw [room, fillRate]
      field_simp
    rw [filled] at counted
    have same : ∀ time ∈ state.times key, decide ((now : ℚ) - window < time) = true ↔
        decide ((now : Int) - window < time ∧ time ≤ now) = true := by
      intro time member
      obtain ⟨failure, among, rfl⟩ := List.mem_map.mp member
      have before := (inv.past failure (List.mem_of_mem_filter among)).trans later
      rw [decide_eq_true_iff, decide_eq_true_iff, and_iff_left before]
      exact_mod_cast Iff.rfl
    rw [List.countP_congr same] at counted
    omega

end Throttled

/-- The throttle blocks a key only after as many failures of it within the window as are allowed. A
failure of another key matters only if it evicts the key, whose last failure is then the oldest. -/
theorem throttle_sound (limit window : Int) {state : Throttled}
    (reached : Reaches Throttled.step (Throttled.initial limit window) state) :
    (∀ key now, state.clock ≤ now → state.throttle.blocked key now = true →
      (newAuthAttemptThrottle limit window).limit ≤ ((state.times key).countP fun time : Nat =>
        (now : Int) - (newAuthAttemptThrottle limit window).window < time ∧ time ≤ now : Nat)) ∧
    (∀ key other now, key ≠ other →
      ((state.throttle.recordFailure other now).blocked key = state.throttle.blocked key ∨
        (state.throttle.entries.lookup key).isSome = true ∧
          (state.throttle.recordFailure other now).entries.lookup key = none)) ∧
    state.throttle.entries.length ≤ authAttemptMaxKeys ∧
    ∀ key other now, (state.throttle.entries.lookup key).isSome = true →
      (state.throttle.recordFailure other now).entries.lookup key = none →
      ∀ rival, (state.throttle.entries.lookup rival).isSome = true →
        ∃ last rivalLast, (state.times key).head? = some last ∧
          (state.times rival).head? = some rivalLast ∧ last ≤ rivalLast := by
  have positive := newAuthAttemptThrottle_positive limit window
  have inv := reaches_invariant (fun _ _ _ kept stepped => Throttled.Inv.step kept positive stepped)
    (Throttled.inv_initial limit window) reached
  refine ⟨fun key now later blocked => inv.blocked positive later blocked,
    fun key other now different => ?_, inv.size, fun key other now held evicted rival among => ?_⟩
  · have blocked_eq (same : (state.throttle.recordFailure other now).entries.lookup key =
        state.throttle.entries.lookup key) :
        (state.throttle.recordFailure other now).blocked key = state.throttle.blocked key := by
      funext time
      rw [AuthAttemptThrottle.blocked, AuthAttemptThrottle.blocked, same]
    rcases lookup_recordFailure_other different with same | missing
    · exact .inl (blocked_eq same)
    · cases found : state.throttle.entries.lookup key with
      | none => exact .inl (blocked_eq (missing.trans found.symm))
      | some => exact .inr ⟨rfl, missing⟩
  · obtain ⟨entry, found⟩ := Option.isSome_iff_exists.mp held
    obtain ⟨rivalEntry, rivalFound⟩ := Option.isSome_iff_exists.mp among
    exact ⟨_, _, inv.seen key entry (mem_of_lookup found),
      inv.seen rival rivalEntry (mem_of_lookup rivalFound),
      evicted_oldest inv.nodup found evicted _ (mem_of_lookup rivalFound)⟩

theorem throttle_sound_once :
    ∃ state, Reaches Throttled.step (Throttled.initial 1 60000000000) state ∧
      state.throttle.blocked (ascii "demo") 5 = true ∧
      (1 : Int) ≤ ((state.times (ascii "demo")).countP fun time : Nat =>
        ((5 : Nat) : Int) - 60000000000 < time ∧ time ≤ 5 : Nat) := by
  have ran : exec Throttled.step (Throttled.initial 1 60000000000)
      [.recordFailure (ascii "demo") 5] = some _ := rfl
  have blocked : (((Throttled.initial 1 60000000000).throttle.recordFailure (ascii "demo")
      5).blocked (ascii "demo") 5) = true := by decide +kernel
  exact ⟨_, ⟨_, ran⟩, blocked,
    (throttle_sound 1 60000000000 ⟨_, ran⟩).1 (ascii "demo") 5 le_rfl blocked⟩

end Porthook.Gateway
