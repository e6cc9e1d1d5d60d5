import Mathlib.Logic.Function.Basic
import Mathlib.Tactic.FieldSimp
import Mathlib.Tactic.Ring
import Porthook.Foundations.TokenBucket
import Porthook.Foundations.Transition
import Porthook.Gateway.RateLimit

/-!
# Guessing credentials

Requests with one subdomain and one client address whose credentials are wrong.  Each asks the
throttle whether the key is blocked, has the access policy evaluated, and records the failure.  The
budget is used up after the evaluation, so requests that overlap all see the same budget.
-/

namespace Porthook.Gateway

open Protocol Transition TokenBucket

/-- One request; it carries the time of its start from there on. -/
inductive GuessAttempt where
  | idle
  | started (time : Nat)
  | unblocked (time : Nat)
  | denied (time : Nat)
  | answered

structure Evaluation where
  started : Nat
  time : Nat

/-- The gateway as the requests of one key see it, with the evaluations so far, newest
first. -/
structure Guessing where
  clock : Nat := 0
  throttle : AuthAttemptThrottle
  attempt : Nat → GuessAttempt := fun _ => .idle
  evaluations : List Evaluation := []

inductive GuessAction where
  | wait (duration : Nat)
  | start (request : Nat)
  | blocked (request : Nat)
  | evaluate (request : Nat)
  | recordFailure (request : Nat)
  | otherFailure (key : Bytes) (now : Nat)

def Guessing.setAttempt (state : Guessing) (request : Nat) (attempt : GuessAttempt) : Guessing :=
  { state with attempt := Function.update state.attempt request attempt }

def Guessing.step (key : Bytes) (state : Guessing) : GuessAction → Option Guessing
  | .wait duration => some { state with clock := state.clock + duration }
  | .start request =>
    match state.attempt request with
    | .idle => some (state.setAttempt request (.started state.clock))
    | _ => none
  | .blocked request =>
    match state.attempt request with
    | .started time => some (state.setAttempt request
        (if state.throttle.blocked key time then .answered else .unblocked time))
    | _ => none
  | .evaluate request =>
    match state.attempt request with
    | .unblocked time => some
        { state.setAttempt request (.denied time) with
          evaluations := ⟨time, state.clock⟩ :: state.evaluations }
    | _ => none
  | .recordFailure request =>
    match state.attempt request with
    | .denied time => some
        { state.setAttempt request .answered with
          throttle := state.throttle.recordFailure key time }
    | _ => none
  | .otherFailure other now =>
    if other = key then none
    else some { state with throttle := state.throttle.recordFailure other now }

def Guessing.initial (limit window : Int) : Guessing where
  throttle := newAuthAttemptThrottle limit window

def Guessing.evaluationsIn (state : Guessing) (first length : Nat) : Nat :=
  state.evaluations.countP fun evaluation =>
    first ≤ evaluation.time && evaluation.time ≤ first + length

/-- No interval of any length has more evaluations than the limit and its share of the
window allow. -/
def Guessing.Bounded (state : Guessing) : Prop :=
  ∀ first length : Nat, (state.evaluationsIn first length : ℚ) ≤
    state.throttle.limit + state.throttle.limit * length / state.throttle.window

/-- The entry of the key stays when another key is entered. -/
def Guessing.KeepsKey (key : Bytes) (state : Guessing) : GuessAction → Prop
  | .otherFailure other now => (state.throttle.entries.lookup key).isSome = true →
      ((state.throttle.recordFailure other now).entries.lookup key).isSome = true
  | _ => True

instance (key : Bytes) (state : Guessing) (action : GuessAction) :
    Decidable (state.KeepsKey key action) :=
  match action with
  | .otherFailure _ _ => inferInstanceAs (Decidable (_ → _))
  | .wait _ | .start _ | .blocked _ | .evaluate _ | .recordFailure _ => isTrue trivial

def GuessAttempt.isUnderway : GuessAttempt → Bool
  | .unblocked _ | .denied _ => true
  | _ => false

/-- A request is checked only while no other one is between its check and its record, and reaches
the evaluator at most `lag` after its start. -/
def Guessing.OneAtATime (lag : Nat) (state : Guessing) : GuessAction → Prop
  | .blocked _ => ∀ other, (state.attempt other).isUnderway = false
  | .evaluate request =>
    ∀ time, state.attempt request = .unblocked time → state.clock ≤ time + lag
  | _ => True

inductive GuessStep (key : Bytes) (state : Guessing) : GuessAction → Guessing → Prop where
  | wait (duration : Nat) :
      GuessStep key state (.wait duration) { state with clock := state.clock + duration }
  | start (request : Nat) : state.attempt request = .idle →
      GuessStep key state (.start request) (state.setAttempt request (.started state.clock))
  | refused (request time : Nat) : state.attempt request = .started time →
      state.throttle.blocked key time = true →
      GuessStep key state (.blocked request) (state.setAttempt request .answered)
  | unblocked (request time : Nat) : state.attempt request = .started time →
      state.throttle.blocked key time = false →
      GuessStep key state (.blocked request) (state.setAttempt request (.unblocked time))
  | evaluate (request time : Nat) : state.attempt request = .unblocked time →
      GuessStep key state (.evaluate request)
        { state.setAttempt request (.denied time) with
          evaluations := ⟨time, state.clock⟩ :: state.evaluations }
  | recordFailure (request time : Nat) : state.attempt request = .denied time →
      GuessStep key state (.recordFailure request)
        { state.setAttempt request .answered with
          throttle := state.throttle.recordFailure key time }
  | otherFailure (other : Bytes) (now : Nat) : key ≠ other →
      GuessStep key state (.otherFailure other now)
        { state with throttle := state.throttle.recordFailure other now }

theorem guess_step_inv {key : Bytes} {state next : Guessing} {action : GuessAction}
    (stepped : state.step key action = some next) : GuessStep key state action next := by
  cases action with
  | wait duration =>
    cases stepped
    exact .wait duration
  | start request =>
    simp only [Guessing.step] at stepped
    split at stepped <;> cases stepped
    next idle => exact .start request idle
  | blocked request =>
    simp only [Guessing.step] at stepped
    split at stepped
    next time started =>
      cases stepped
      split
      next isBlocked => exact .refused request time started isBlocked
      next free => exact .unblocked request time started (Bool.eq_false_iff.mpr free)
    · cases stepped
  | evaluate request =>
    simp only [Guessing.step] at stepped
    split at stepped <;> cases stepped
    next time unblocked => exact .evaluate request time unblocked
  | recordFailure request =>
    simp only [Guessing.step] at stepped
    split at stepped <;> cases stepped
    next time denied => exact .recordFailure request time denied
  | otherFailure other now =>
    simp only [Guessing.step] at stepped
    split at stepped <;> cases stepped
    next different => exact .otherFailure other now (Ne.symm different)

def GuessAttempt.time? : GuessAttempt → Option Nat
  | .started time | .unblocked time | .denied time => some time
  | _ => none

def Evaluation.use (evaluation : Evaluation) : Use ℚ := ⟨evaluation.started, evaluation.time⟩

structure Budget (limit window : Int) (clock : Nat) (settled : List Evaluation)
    (limiter : RateLimiter) : Prop where
  rate : limiter.rate = (limit : ℚ) / ((window : ℚ) / 1000000000)
  capacity : limiter.capacity = limit
  capped : limiter.tokens ≤ limiter.capacity
  last : limiter.last ≤ clock
  covers : Covers (limit : ℚ) (limit / window) limiter.tokens limiter.last
    (settled.map Evaluation.use)

structure Guessing.Books (key : Bytes) (limit window : Int) (state : Guessing)
    (settled : List Evaluation) : Prop where
  missing : state.throttle.entries.lookup key = none → settled = []
  found : ∀ entry, state.throttle.entries.lookup key = some entry →
    ∃ limiter, entry.limiter = some limiter ∧ Budget limit window state.clock settled limiter

inductive Guessing.Flight (key : Bytes) (state : Guessing) (settled : List Evaluation) : Prop where
  | none : (∀ request, (state.attempt request).isUnderway = false) →
      state.evaluations = settled → Flight key state settled
  | unblocked (request time : Nat) : state.attempt request = .unblocked time →
      (∀ other, other ≠ request → (state.attempt other).isUnderway = false) →
      state.throttle.blocked key time = false → state.evaluations = settled →
      Flight key state settled
  | denied (request time reached : Nat) : state.attempt request = .denied time →
      (∀ other, other ≠ request → (state.attempt other).isUnderway = false) →
      state.throttle.blocked key time = false →
      state.evaluations = ⟨time, reached⟩ :: settled → Flight key state settled

structure GuessInv (key : Bytes) (limit window : Int) (lag : Nat) (state : Guessing) : Prop where
  limits : state.throttle.limit = limit ∧ state.throttle.window = window
  started : ∀ request time, (state.attempt request).time? = some time → time ≤ state.clock
  lags : ∀ evaluation ∈ state.evaluations, evaluation.time ≤ evaluation.started + lag
  spread : Spread (limit : ℚ) (limit / window) (state.evaluations.map Evaluation.use)
  books : ∃ settled, state.Books key limit window settled ∧ state.Flight key settled

section Steps

variable {key : Bytes} {limit window : Int} {lag : Nat} {state next : Guessing}
  {action : GuessAction} {settled : List Evaluation}

variable {limiter : RateLimiter} {clock request : Nat} {throttle : AuthAttemptThrottle}
    {attempt : GuessAttempt}

theorem Budget.later {duration : Nat} (budget : Budget limit window clock settled limiter) :
    Budget limit window (clock + duration) settled limiter :=
  { budget with last := Nat.le_add_right_of_le budget.last }

theorem Budget.gains (budget : Budget limit window clock settled limiter) (now : Nat) :
    limiter.tokensAt now ≤ limiter.tokens +
      (limit / window : ℚ) * ((max limiter.last now : Nat) - limiter.last : ℚ) := by
  rw [tokensAt_attempts budget.rate budget.capped]
  exact min_le_right _ _

theorem Budget.take {evaluation : Evaluation} (budget : Budget limit window clock settled limiter)
    (positive : 0 < limit ∧ 0 < window) (started : evaluation.started ≤ clock)
    (enough : limiter.peek evaluation.started) :
    Budget limit window clock (evaluation :: settled) (limiter.allow evaluation.started).1 := by
  have capped : limiter.tokensAt evaluation.started ≤ limiter.capacity := by
    rw [tokensAt_eq budget.capped]
    exact min_le_left _ _
  have gains : (0 : ℚ) ≤ limit / window :=
    div_nonneg (Int.cast_nonneg positive.1.le) (Int.cast_nonneg positive.2.le)
  rw [allow_of_peek enough]
  refine ⟨budget.rate, budget.capacity, ?_, Nat.max_le.mpr ⟨budget.last, started⟩, ?_⟩
  · exact (sub_le_self _ zero_le_one).trans capped
  refine budget.covers.take gains (budget.gains evaluation.started) ?_ ?_
  · rw [← budget.capacity]
    exact capped
  · exact Nat.cast_le.mpr (Nat.le_max_right _ _)

theorem Budget.first {evaluation : Evaluation} (positive : 0 < limit ∧ 0 < window)
    (started : evaluation.started ≤ clock) :
    ∃ limiter, newAttemptLimiter limit window evaluation.started = some limiter ∧
      Budget limit window clock [evaluation] (limiter.allow evaluation.started).1 := by
  have isNew : newAttemptLimiter limit window evaluation.started = some
      { rate := (limit : ℚ) / ((window : ℚ) / 1000000000), capacity := limit, tokens := limit
        last := evaluation.started } := by
    rw [newAttemptLimiter, if_neg (by omega)]
  have enough : (1 : ℚ) ≤ limit := by exact_mod_cast positive.1
  refine ⟨_, isNew, Budget.take ⟨rfl, rfl, le_rfl, started, covers_nil⟩ positive started ?_⟩
  simp [RateLimiter.peek, RateLimiter.tokensAt, enough]

theorem blocked_eq_false_iff {entry : AuthAttemptEntry} {now : Nat}
    (found : throttle.entries.lookup key = some entry) (isLimiter : entry.limiter = some limiter) :
    throttle.blocked key now = false ↔ limiter.peek now = true := by
  simp [AuthAttemptThrottle.blocked, found, isLimiter, peekAt]

theorem Guessing.Books.record (books : state.Books key limit window settled)
    (evaluation : Evaluation) (positive : 0 < limit ∧ 0 < window)
    (limits : state.throttle.limit = limit ∧ state.throttle.window = window)
    (started : evaluation.started ≤ state.clock)
    (free : state.throttle.blocked key evaluation.started = false) :
    ({ state with throttle := state.throttle.recordFailure key evaluation.started } :
      Guessing).Books key limit window (evaluation :: settled) := by
  have self := lookup_recordFailure_self state.throttle key evaluation.started
  refine ⟨fun missing => ?_, fun entry isEntry => ?_⟩
  · cases self.symm.trans missing
  cases self.symm.trans isEntry
  cases found : state.throttle.entries.lookup key with
  | none =>
    cases books.missing found
    obtain ⟨_, isNew, budget⟩ := Budget.first positive started
    refine ⟨_, ?_, budget⟩
    simp only [AuthAttemptThrottle.limiterOf, found, limits.1, limits.2, isNew, allowAt]
  | some held =>
    obtain ⟨_, isLimiter, budget⟩ := books.found held found
    have enough := (blocked_eq_false_iff found isLimiter).mp free
    refine ⟨_, ?_, budget.take positive started enough⟩
    simp only [AuthAttemptThrottle.limiterOf, found, isLimiter, allowAt]

theorem Guessing.Books.spread (books : state.Books key limit window settled)
    (evaluation : Evaluation) (positive : 0 < limit ∧ 0 < window)
    (started : evaluation.started ≤ state.clock)
    (reached : evaluation.time = state.clock)
    (free : state.throttle.blocked key evaluation.started = false)
    (spread : Spread (limit : ℚ) (limit / window) (settled.map Evaluation.use)) :
    Spread (limit : ℚ) (limit / window) ((evaluation :: settled).map Evaluation.use) := by
  cases found : state.throttle.entries.lookup key with
  | none =>
    cases books.missing found
    exact ⟨fun newer past rest same => by simp at same, trivial⟩
  | some held =>
    obtain ⟨_, isLimiter, budget⟩ := books.found held found
    have enough := (blocked_eq_false_iff found isLimiter).mp free
    have gains : (0 : ℚ) ≤ limit / window :=
      div_nonneg (Int.cast_nonneg positive.1.le) (Int.cast_nonneg positive.2.le)
    refine budget.covers.spread gains (budget.gains evaluation.started)
      (of_decide_eq_true enough) ?_ spread
    simp only [Evaluation.use, reached]
    exact Nat.cast_le.mpr (Nat.max_le.mpr ⟨budget.last, started⟩)

@[simp]
theorem setAttempt_self (state : Guessing) (request : Nat) (attempt : GuessAttempt) :
    (state.setAttempt request attempt).attempt request = attempt := by
  simp [Guessing.setAttempt]

theorem setAttempt_other (state : Guessing) {other : Nat} (attempt : GuessAttempt)
    (different : other ≠ request) :
    (state.setAttempt request attempt).attempt other = state.attempt other := by
  simp [Guessing.setAttempt, different]

theorem idle_setAttempt (after : attempt.isUnderway = false) (other : Nat)
    (quiet : other ≠ request → (state.attempt other).isUnderway = false) :
    ((state.setAttempt request attempt).attempt other).isUnderway = false := by
  by_cases same : other = request
  · subst same
    rw [setAttempt_self]
    exact after
  · rw [setAttempt_other state attempt same]
    exact quiet same

theorem Guessing.Flight.setAttempt (flight : state.Flight key settled)
    (before : (state.attempt request).isUnderway = false) (after : attempt.isUnderway = false) :
    (state.setAttempt request attempt).Flight key settled := by
  have idle (other : Nat) (wasIdle : (state.attempt other).isUnderway = false) :
      ((state.setAttempt request attempt).attempt other).isUnderway = false :=
    idle_setAttempt after other fun _ => wasIdle
  cases flight with
  | none quiet same => exact .none (fun other => idle other (quiet other)) same
  | unblocked own time isOwn quiet free same =>
    have different : own ≠ request := by
      rintro rfl
      rw [isOwn] at before
      cases before
    refine .unblocked own time ?_ (fun other isOther => idle other (quiet other isOther)) free same
    rw [setAttempt_other state attempt different]
    exact isOwn
  | denied own time reached isOwn quiet free same =>
    have different : own ≠ request := by
      rintro rfl
      rw [isOwn] at before
      cases before
    refine .denied own time reached ?_ (fun other isOther => idle other (quiet other isOther))
      free same
    rw [setAttempt_other state attempt different]
    exact isOwn

theorem Guessing.Books.setAttempt (books : state.Books key limit window settled) :
    (state.setAttempt request attempt).Books key limit window settled :=
  ⟨books.missing, books.found⟩

theorem Guessing.Flight.underway_inv (flight : state.Flight key settled)
    (underway : (state.attempt request).isUnderway) :
    (∀ other, other ≠ request → (state.attempt other).isUnderway = false) ∧
      ((∃ time, state.attempt request = .unblocked time ∧
          state.throttle.blocked key time = false ∧ state.evaluations = settled) ∨
        ∃ time reached, state.attempt request = .denied time ∧
          state.throttle.blocked key time = false ∧
          state.evaluations = ⟨time, reached⟩ :: settled) := by
  cases flight with
  | none quiet =>
    rw [quiet request] at underway
    cases underway
  | unblocked own time isOwn quiet free same =>
    by_cases isRequest : request = own
    · subst isRequest
      exact ⟨quiet, .inl ⟨time, isOwn, free, same⟩⟩
    · rw [quiet request isRequest] at underway
      cases underway
  | denied own time reached isOwn quiet free same =>
    by_cases isRequest : request = own
    · subst isRequest
      exact ⟨quiet, .inr ⟨time, reached, isOwn, free, same⟩⟩
    · rw [quiet request isRequest] at underway
      cases underway

theorem Guessing.Flight.unblocked_inv {time : Nat} (flight : state.Flight key settled)
    (isUnblocked : state.attempt request = .unblocked time) :
    (∀ other, other ≠ request → (state.attempt other).isUnderway = false) ∧
      state.throttle.blocked key time = false ∧ state.evaluations = settled := by
  have underway : (state.attempt request).isUnderway = true := by rw [isUnblocked]; rfl
  obtain ⟨quiet, ⟨_, isOwn, free⟩ | ⟨_, _, isOwn, -⟩⟩ := flight.underway_inv underway
  · cases isOwn.symm.trans isUnblocked
    exact ⟨quiet, free⟩
  · cases isOwn.symm.trans isUnblocked

theorem Guessing.Flight.denied_inv {time : Nat} (flight : state.Flight key settled)
    (isDenied : state.attempt request = .denied time) :
    (∀ other, other ≠ request → (state.attempt other).isUnderway = false) ∧
      state.throttle.blocked key time = false ∧
      ∃ reached, state.evaluations = ⟨time, reached⟩ :: settled := by
  have underway : (state.attempt request).isUnderway = true := by rw [isDenied]; rfl
  obtain ⟨quiet, ⟨_, isOwn, -⟩ | ⟨_, reached, isOwn, free, same⟩⟩ := flight.underway_inv underway
  · cases isOwn.symm.trans isDenied
  · cases isOwn.symm.trans isDenied
    exact ⟨quiet, free, reached, same⟩

theorem blocked_congr {changed : AuthAttemptThrottle}
    (same : changed.entries.lookup key = throttle.entries.lookup key) (now : Nat) :
    changed.blocked key now = throttle.blocked key now := by
  simp only [AuthAttemptThrottle.blocked, same]

theorem lookup_of_keepsKey {other : Bytes} {now : Nat} (different : key ≠ other)
    (keeps : state.KeepsKey key (.otherFailure other now)) :
    (state.throttle.recordFailure other now).entries.lookup key =
      state.throttle.entries.lookup key := by
  rcases @lookup_recordFailure_other state.throttle key other now different with same | missing
  · exact same
  cases found : state.throttle.entries.lookup key with
  | none => exact missing
  | some =>
    have kept := keeps (by rw [found]; rfl)
    rw [missing] at kept
    cases kept

theorem started_setAttempt
    (started : ∀ other time, (state.attempt other).time? = some time → time ≤ state.clock)
    (own : ∀ time, attempt.time? = some time → time ≤ state.clock) (other time : Nat)
    (isTime : ((state.setAttempt request attempt).attempt other).time? = some time) :
    time ≤ state.clock := by
  by_cases same : other = request
  · subst same
    rw [setAttempt_self] at isTime
    exact own time isTime
  · rw [setAttempt_other state attempt same] at isTime
    exact started other time isTime

theorem guessInv_step (positive : 0 < limit ∧ 0 < window)
    (inv : GuessInv key limit window lag state) (single : state.OneAtATime lag action)
    (keeps : state.KeepsKey key action) (stepped : GuessStep key state action next) :
    GuessInv key limit window lag next := by
  obtain ⟨settled, books, flight⟩ := inv.books
  cases stepped with
  | wait =>
    refine ⟨inv.limits, fun request time isTime => ?_, inv.lags, inv.spread, settled, ?_, ?_⟩
    · exact Nat.le_add_right_of_le (inv.started request time isTime)
    · refine ⟨books.missing, fun entry found => ?_⟩
      obtain ⟨limiter, isLimiter, budget⟩ := books.found entry found
      exact ⟨limiter, isLimiter, budget.later⟩
    · cases flight with
      | none quiet same => exact .none quiet same
      | unblocked own time isOwn quiet free same =>
        exact .unblocked own time isOwn quiet free same
      | denied own time reached isOwn quiet free same =>
        exact .denied own time reached isOwn quiet free same
  | start _ idle =>
    refine ⟨inv.limits, ?_, inv.lags, inv.spread, settled, books.setAttempt, ?_⟩
    · refine started_setAttempt inv.started fun time isTime => ?_
      cases isTime
      exact le_rfl
    · exact flight.setAttempt (by rw [idle]; rfl) rfl
  | refused _ time started =>
    refine ⟨inv.limits, ?_, inv.lags, inv.spread, settled, books.setAttempt, ?_⟩
    · exact started_setAttempt inv.started fun time isTime => by cases isTime
    · exact flight.setAttempt (by rw [started]; rfl) rfl
  | unblocked request time started free =>
    have isTime := inv.started request time (by rw [started]; rfl)
    refine ⟨inv.limits, ?_, inv.lags, inv.spread, settled, books.setAttempt, ?_⟩
    · refine started_setAttempt inv.started fun other same => ?_
      cases same
      exact isTime
    · have same : state.evaluations = settled := by
        cases flight with
        | none _ same => exact same
        | unblocked _ _ _ _ _ same => exact same
        | denied own _ _ isOwn quiet =>
          have quiet := single own
          rw [isOwn] at quiet
          cases quiet
      refine .unblocked request time (setAttempt_self ..) (fun other different => ?_) free same
      rw [setAttempt_other state _ different]
      exact single other
  | evaluate request time unblocked =>
    have isTime := inv.started request time (by rw [unblocked]; rfl)
    obtain ⟨quiet, free, same⟩ := flight.unblocked_inv unblocked
    have spread := inv.spread
    rw [same] at spread
    refine ⟨inv.limits, ?_, ?_, ?_, settled, ⟨books.missing, books.found⟩, ?_⟩
    · refine started_setAttempt inv.started fun other isOther => ?_
      cases isOther
      exact isTime
    · intro evaluation member
      rcases List.mem_cons.mp member with rfl | member
      · exact single time unblocked
      · exact inv.lags evaluation member
    · rw [same]
      exact books.spread ⟨time, state.clock⟩ positive isTime rfl free spread
    · refine .denied request time state.clock (setAttempt_self ..) (fun other different => ?_)
        free (by rw [same])
      exact (congrArg GuessAttempt.isUnderway (setAttempt_other state _ different)).trans
        (quiet other different)
  | recordFailure request time denied =>
    have isTime := inv.started request time (by rw [denied]; rfl)
    obtain ⟨quiet, free, reached, same⟩ := flight.denied_inv denied
    have recorded := books.record ⟨time, reached⟩ positive inv.limits isTime free
    refine ⟨?_, ?_, inv.lags, inv.spread, state.evaluations, ?_, ?_⟩
    · obtain ⟨limit, window⟩ := recordFailure_limits state.throttle key time
      exact ⟨limit.trans inv.limits.1, window.trans inv.limits.2⟩
    · exact started_setAttempt inv.started fun time isTime => by cases isTime
    · rw [same]
      exact ⟨recorded.missing, recorded.found⟩
    · refine .none (fun other => ?_) rfl
      by_cases isRequest : other = request
      · subst isRequest
        exact congrArg GuessAttempt.isUnderway (setAttempt_self ..)
      · exact (congrArg GuessAttempt.isUnderway (setAttempt_other state _ isRequest)).trans
          (quiet other isRequest)
  | otherFailure other now different =>
    have same := lookup_of_keepsKey different keeps
    refine ⟨?_, inv.started, inv.lags, inv.spread, settled, ?_, ?_⟩
    · obtain ⟨limit, window⟩ := recordFailure_limits state.throttle other now
      exact ⟨limit.trans inv.limits.1, window.trans inv.limits.2⟩
    · exact ⟨fun missing => books.missing (same.symm.trans missing),
        fun entry found => books.found entry (same.symm.trans found)⟩
    · cases flight with
      | none quiet same => exact .none quiet same
      | unblocked own time isOwn quiet free evaluations =>
        exact .unblocked own time isOwn quiet ((blocked_congr same time).trans free) evaluations
      | denied own time reached isOwn quiet free evaluations =>
        exact .denied own time reached isOwn quiet ((blocked_congr same time).trans free)
          evaluations

theorem evaluationsIn_le (positive : 0 < limit ∧ 0 < window)
    (inv : GuessInv key limit window lag state) (first length : Nat) :
    (state.evaluationsIn first length : ℚ) ≤ limit + limit * (length + lag) / window := by
  have gains : (0 : ℚ) ≤ limit / window :=
    div_nonneg (Int.cast_nonneg positive.1.le) (Int.cast_nonneg positive.2.le)
  have room : (1 : ℚ) ≤ limit := by exact_mod_cast positive.1
  have ordered : (first : ℚ) - lag ≤ first + length := by
    have lagged : (0 : ℚ) ≤ lag := Nat.cast_nonneg lag
    have lengthy : (0 : ℚ) ≤ length := Nat.cast_nonneg length
    linarith
  let hit : Use ℚ → Bool := fun use => first ≤ use.served && use.served ≤ first + length
  have within : ∀ use ∈ state.evaluations.map Evaluation.use, hit use = true →
      (first : ℚ) - lag ≤ use.asked ∧ use.served ≤ first + length := by
    intro use member isHit
    obtain ⟨evaluation, isMember, rfl⟩ := List.mem_map.mp member
    have lagged : (evaluation.time : ℚ) ≤ evaluation.started + lag := by
      exact_mod_cast inv.lags evaluation isMember
    simp only [hit, Evaluation.use, Bool.and_eq_true, decide_eq_true_eq] at isHit ⊢
    exact ⟨by linarith, isHit.2⟩
  have counted := inv.spread.countP_le room gains ordered hit within
  have same : (state.evaluations.map Evaluation.use).countP hit =
      state.evaluationsIn first length := by
    rw [List.countP_map, Guessing.evaluationsIn]
    congr 1
    funext evaluation
    simp only [hit, Function.comp_apply, Evaluation.use]
    norm_cast
  rw [same] at counted
  calc (state.evaluationsIn first length : ℚ)
      ≤ limit + limit / window * ((first + length : ℚ) - (first - lag)) := counted
    _ = limit + limit * (length + lag) / window := by ring

theorem guessInv_initial (limit window : Int) :
    GuessInv key (newAuthAttemptThrottle limit window).limit
      (newAuthAttemptThrottle limit window).window lag (.initial limit window) where
  limits := ⟨rfl, rfl⟩
  started _ _ isTime := by cases isTime
  lags _ member := by cases member
  spread := trivial
  books := ⟨[], ⟨fun _ => rfl, by rintro _ ⟨⟩⟩, .none (fun _ => rfl) rfl⟩

/-- Where requests of the key are handled one at a time, and reach the evaluator at most `lag` after
their start, the bound holds with that much more time. -/
theorem always_evaluationsIn_le (key : Bytes) (limit window : Int) (lag : Nat)
    (actions : List GuessAction)
    (single : Guarded (Guessing.step key) (Guessing.OneAtATime lag) (.initial limit window) actions)
    (keeps : Guarded (Guessing.step key) (Guessing.KeepsKey key) (.initial limit window) actions) :
    Always (Guessing.step key) (fun state => ∀ first length : Nat,
      (state.evaluationsIn first length : ℚ) ≤ state.throttle.limit +
        state.throttle.limit * (length + lag) / state.throttle.window)
      (.initial limit window) actions := by
  have positive := newAuthAttemptThrottle_positive limit window
  have kept : Always (Guessing.step key) (GuessInv key (newAuthAttemptThrottle limit window).limit
        (newAuthAttemptThrottle limit window).window lag) (.initial limit window) actions := by
    refine always_of_guarded ?_ (guessInv_initial limit window) (single.and keeps)
    rintro _ _ _ inv ⟨single, keeps⟩ stepped
    exact guessInv_step positive inv single keeps (guess_step_inv stepped)
  refine kept.mono fun state inv first length => ?_
  rw [inv.limits.1, inv.limits.2]
  exact evaluationsIn_le positive inv first length

/-- The bound where the entry of the key stays, requests of the key are handled one at a time, and
each of them reaches the evaluator at the time of its start. -/
theorem guesses_bounded (key : Bytes) (limit window : Int) (actions : List GuessAction)
    (single : Guarded (Guessing.step key) (Guessing.OneAtATime 0) (.initial limit window) actions)
    (keeps : Guarded (Guessing.step key) (Guessing.KeepsKey key) (.initial limit window) actions) :
    Always (Guessing.step key) Guessing.Bounded (.initial limit window) actions := by
  refine (always_evaluationsIn_le key limit window 0 actions single keeps).mono ?_
  intro state bounded first length
  have most := bounded first length
  rwa [Nat.cast_zero, add_zero] at most

/-- Requests that come one after the other, each of them after a pause. -/
def sequentialGuesses (visits : List (Nat × Nat)) : List GuessAction :=
  visits.flatMap fun (pause, request) =>
    [.wait pause, .start request, .blocked request, .evaluate request, .recordFailure request]

theorem guarded_handled {rest : List GuessAction}
    (quiet : ∀ other, (state.attempt other).isUnderway = false)
    (later : ∀ next : Guessing, (∀ other, (next.attempt other).isUnderway = false) →
      Guarded (Guessing.step key) (Guessing.OneAtATime lag) next rest) :
    Guarded (Guessing.step key) (Guessing.OneAtATime lag) state
      (.start request :: .blocked request :: .evaluate request :: .recordFailure request ::
        rest) := by
  refine ⟨trivial, fun begun stepped => ?_⟩
  cases guess_step_inv stepped with
  | start request =>
    refine ⟨fun other => idle_setAttempt rfl other fun _ => quiet other, fun checked stepped => ?_⟩
    cases guess_step_inv stepped with
    | refused request time =>
      refine ⟨fun time unblocked => ?_, fun evaluated stepped => ?_⟩
      · cases (setAttempt_self ..).symm.trans unblocked
      · cases guess_step_inv stepped with
        | evaluate _ _ unblocked =>
          cases (setAttempt_self ..).symm.trans unblocked
    | unblocked request time started =>
      cases (setAttempt_self ..).symm.trans started
      refine ⟨fun time unblocked => ?_, fun evaluated stepped => ?_⟩
      · cases (setAttempt_self ..).symm.trans unblocked
        exact Nat.le_add_right state.clock lag
      · cases guess_step_inv stepped with
        | evaluate request time =>
          refine ⟨trivial, fun recorded stepped => later recorded ?_⟩
          cases guess_step_inv stepped with
          | recordFailure =>
            refine fun other => idle_setAttempt rfl other fun different => ?_
            simp only [Guessing.setAttempt, Function.update_of_ne different]
            exact quiet other

theorem guarded_sequential (quiet : ∀ other, (state.attempt other).isUnderway = false)
    (visits : List (Nat × Nat)) :
    Guarded (Guessing.step key) (Guessing.OneAtATime lag) state (sequentialGuesses visits) := by
  induction visits generalizing state with
  | nil => trivial
  | cons _ _ ih =>
    refine ⟨trivial, fun waited stepped => ?_⟩
    cases guess_step_inv stepped
    exact guarded_handled quiet fun next isQuiet => ih isQuiet

end Steps

/-- Twenty requests start, are checked and reach the evaluator before the first failure is
recorded. -/
def concurrentGuesses : List GuessAction :=
  (List.range 20).map .start ++ (List.range 20).map .blocked ++ (List.range 20).map .evaluate

def patientGuesses : List GuessAction :=
  sequentialGuesses ((List.range 7).map fun request => (12000000000, request))

theorem guesses_unbounded : ∃ state, exec (Guessing.step (ascii "demo|203.0.113.1"))
        (.initial 5 60000000000) concurrentGuesses = some state ∧
      state.clock = 0 ∧ state.throttle.entries.length = 0 ∧ state.evaluationsIn 0 0 = 20 ∧
      ¬ state.Bounded := by
  have reached : ∃ state, exec (Guessing.step (ascii "demo|203.0.113.1"))
        (.initial 5 60000000000) concurrentGuesses = some state ∧
      state.clock = 0 ∧ state.throttle.entries.length = 0 ∧ state.evaluationsIn 0 0 = 20 ∧
      state.throttle.limit = 5 :=
    ⟨_, rfl, rfl, rfl, by decide +kernel, rfl⟩
  obtain ⟨state, executed, clock, entries, evaluations, limit⟩ := reached
  refine ⟨state, executed, clock, entries, evaluations, fun bounded => ?_⟩
  have most := bounded 0 0
  rw [evaluations, limit] at most
  norm_num at most

theorem guesses_bounded_patient :
    (exec (Guessing.step (ascii "demo|203.0.113.1")) (.initial 5 60000000000)
      patientGuesses).isSome = true ∧
    Always (Guessing.step (ascii "demo|203.0.113.1")) Guessing.Bounded (.initial 5 60000000000)
      patientGuesses := by
  refine ⟨by decide +kernel, guesses_bounded _ 5 60000000000 patientGuesses ?_ ?_⟩
  · exact guarded_sequential (fun _ => rfl) _
  · decide +kernel

end Porthook.Gateway
