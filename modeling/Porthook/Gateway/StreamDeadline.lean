import Mathlib.Data.List.Chain
import Mathlib.Data.List.Induction
import Porthook.Gateway.Response

/-!
# The deadline of a stream

`streamDeadline`: one timer for the phase the stream is in, first until the response
starts and then between two chunks, and one for the whole stream.  The first to fire
ends the context of the stream with its cause.
-/

namespace Porthook.Gateway

structure StreamDeadlinePolicy where
  requestTimeout : Int
  idleTimeout : Int
  maxLifetime : Int

structure PhaseTimer where
  due : Nat
  cause : ContextCause

/-- `ended` is when the context ended, and its cause. -/
structure StreamDeadline where
  policy : StreamDeadlinePolicy
  phase : Option PhaseTimer := none
  max : Option Nat := none
  stopped : Bool := false
  ended : Option (Nat × ContextCause) := none

def newStreamDeadline (policy : StreamDeadlinePolicy) (now : Nat) : StreamDeadline where
  policy := policy
  max := if 0 < policy.maxLifetime then some (now + policy.maxLifetime.toNat) else none
  phase :=
    if 0 < policy.requestTimeout then some ⟨now + policy.requestTimeout.toNat, .requestTimeout⟩
    else none

namespace StreamDeadline

variable (deadline : StreamDeadline)

def markResponseStarted (now : Nat) : StreamDeadline :=
  if deadline.stopped then deadline
  else { deadline with
    phase :=
      if 0 < deadline.policy.idleTimeout then
        some ⟨now + deadline.policy.idleTimeout.toNat, .idleTimeout⟩
      else none }

/-- The timer of the phase is reset, whichever it is. -/
def touch (now : Nat) : StreamDeadline :=
  if deadline.stopped then deadline
  else { deadline with
    phase := deadline.phase.map fun timer =>
      { timer with due := now + deadline.policy.idleTimeout.toNat } }

def stop (now : Nat) : StreamDeadline :=
  if deadline.stopped then deadline
  else { deadline with
    stopped := true
    phase := none
    max := none
    ended := deadline.ended <|> some (now, .canceled) }

def next? : Option (Nat × ContextCause) :=
  match deadline.phase, deadline.max with
  | some timer, some last =>
    some (if last < timer.due then (last, .maxLifetimeExceeded) else (timer.due, timer.cause))
  | some timer, none => some (timer.due, timer.cause)
  | none, some last => some (last, .maxLifetimeExceeded)
  | none, none => none

/-- Time passes: the first timer that is due before ends the context, if nothing has. -/
def elapse (now : Nat) : StreamDeadline :=
  match deadline.ended, deadline.next? with
  | none, some (due, cause) =>
    if due < now then { deadline with ended := some (due, cause) } else deadline
  | _, _ => deadline

def cut? : Option (Nat × ContextCause) := deadline.ended.filter fun cut => cut.2 ≠ .canceled

end StreamDeadline

inductive Activity where
  | started
  | chunk
  | finished
  deriving DecidableEq

/-- One call at its time.  When the context has ended there are no more. -/
def StreamDeadline.handle (deadline : StreamDeadline) (event : Nat × Activity) : StreamDeadline :=
  let deadline := deadline.elapse event.1
  if deadline.ended.isSome then deadline
  else
    match event.2 with
    | .started => deadline.markResponseStarted event.1
    | .chunk => deadline.touch event.1
    | .finished => deadline.stop event.1

def StreamDeadline.watch (deadline : StreamDeadline) (events : List (Nat × Activity)) :
    StreamDeadline :=
  events.foldl handle deadline

namespace StreamDeadline

variable {deadline : StreamDeadline} {bound now : Nat}

structure NotDueBefore (bound : Nat) (deadline : StreamDeadline) : Prop where
  phase : ∀ timer ∈ deadline.phase, bound ≤ timer.due
  max : ∀ due ∈ deadline.max, bound ≤ due

theorem newStreamDeadline_notDueBefore {policy : StreamDeadlinePolicy}
    (first : bound ≤ now + policy.requestTimeout.toNat)
    (lifetime : bound ≤ now + policy.maxLifetime.toNat) :
    (newStreamDeadline policy now).NotDueBefore bound := by
  refine ⟨fun timer set => ?_, fun due set => ?_⟩
  · simp only [newStreamDeadline] at set
    split at set
    · cases set
      exact first
    · cases set
  · simp only [newStreamDeadline] at set
    split at set
    · cases set
      exact lifetime
    · cases set

theorem NotDueBefore.next? (later : NotDueBefore bound deadline) :
    ∀ cut ∈ deadline.next?, bound ≤ cut.1 := by
  intro cut first
  unfold StreamDeadline.next? at first
  split at first
  next timer last phase max =>
    cases first
    split
    · exact later.max last max
    · exact later.phase timer phase
  next timer phase _ =>
    cases first
    exact later.phase timer phase
  next last _ max =>
    cases first
    exact later.max last max
  · cases first

theorem NotDueBefore.elapse_eq (later : NotDueBefore now deadline) :
    deadline.elapse now = deadline := by
  unfold elapse
  split
  next due cause _ first =>
    have := later.next? (due, cause) first
    exact if_neg (by omega)
  · rfl

theorem elapse_cases (deadline : StreamDeadline) (now : Nat) :
    deadline.elapse now = deadline ∨ ∃ cut ∈ deadline.next?,
      deadline.elapse now = { deadline with ended := some cut } := by
  unfold elapse
  split
  next due cause _ first =>
    split
    · exact .inr ⟨(due, cause), first, rfl⟩
    · exact .inl rfl
  · exact .inl rfl

/-- No timer is due before a time, nor has one fired before it. -/
structure Later (bound : Nat) (deadline : StreamDeadline) : Prop where
  timers : NotDueBefore bound deadline
  ended : ∀ cut ∈ deadline.cut?, bound ≤ cut.1

theorem Later.elapse (later : Later bound deadline) (now : Nat) :
    Later bound (deadline.elapse now) := by
  rcases elapse_cases deadline now with same | ⟨cut, first, fired⟩
  · rw [same]
    exact later
  · rw [fired]
    refine ⟨⟨later.timers.phase, later.timers.max⟩, fun other found => ?_⟩
    obtain ⟨same, -⟩ := Option.filter_eq_some_iff.mp found
    cases same
    exact later.timers.next? cut first

theorem elapse_policy (deadline : StreamDeadline) (now : Nat) :
    (deadline.elapse now).policy = deadline.policy := by
  rcases elapse_cases deadline now with same | ⟨_, -, fired⟩
  · rw [same]
  · rw [fired]

theorem handle_policy (deadline : StreamDeadline) (event : Nat × Activity) :
    (deadline.handle event).policy = deadline.policy := by
  rw [← elapse_policy deadline event.1]
  unfold handle
  dsimp only
  split
  · rfl
  cases event.2 with
  | started =>
    simp only [markResponseStarted]
    split <;> rfl
  | chunk =>
    simp only [touch]
    split <;> rfl
  | finished =>
    simp only [stop]
    split <;> rfl

theorem Later.markResponseStarted (later : Later bound deadline)
    (far : bound ≤ now + deadline.policy.idleTimeout.toNat) :
    Later bound (deadline.markResponseStarted now) := by
  unfold StreamDeadline.markResponseStarted
  split
  · exact later
  refine ⟨⟨fun timer set => ?_, later.timers.max⟩, later.ended⟩
  dsimp only at set
  split at set
  · cases set
    exact far
  · cases set

theorem Later.touch (later : Later bound deadline)
    (far : bound ≤ now + deadline.policy.idleTimeout.toNat) :
    Later bound (deadline.touch now) := by
  unfold StreamDeadline.touch
  split
  · exact later
  · refine ⟨⟨fun timer set => ?_, later.timers.max⟩, later.ended⟩
    obtain ⟨_, -, rfl⟩ := Option.map_eq_some_iff.mp set
    exact far

theorem Later.stop (later : Later bound deadline) (running : deadline.ended = none) :
    Later bound (deadline.stop now) := by
  unfold StreamDeadline.stop
  split
  · exact later
  refine ⟨⟨fun timer set => (by cases set), fun due set => (by cases set)⟩, fun cut found => ?_⟩
  obtain ⟨same, timed⟩ := Option.filter_eq_some_iff.mp found
  rw [running] at same
  cases same
  simp at timed

theorem Later.handle (later : Later bound deadline) {event : Nat × Activity}
    (far : bound ≤ event.1 + deadline.policy.idleTimeout.toNat) :
    Later bound (deadline.handle event) := by
  have still := later.elapse event.1
  rw [← elapse_policy deadline event.1] at far
  unfold StreamDeadline.handle
  dsimp only
  split
  · exact still
  next running =>
    rw [Bool.not_eq_true, Option.isSome_eq_false_iff, Option.isNone_iff_eq_none] at running
    cases event.2 with
    | started => exact still.markResponseStarted far
    | chunk => exact still.touch far
    | finished => exact still.stop running

theorem Later.watch (later : Later bound deadline) {events : List (Nat × Activity)}
    (far : ∀ event ∈ events, bound ≤ event.1 + deadline.policy.idleTimeout.toNat) :
    Later bound (deadline.watch events) := by
  induction events generalizing deadline with
  | nil => exact later
  | cons event _ ih =>
    refine ih (later.handle (far event (by simp))) fun other member => ?_
    rw [handle_policy]
    exact far other (by simp [member])

structure Active (last lifetime : Nat) (deadline : StreamDeadline) : Prop where
  phase : ∀ timer ∈ deadline.phase, timer.due = last + deadline.policy.idleTimeout.toNat
  max : ∀ due ∈ deadline.max, due = lifetime
  unstopped : deadline.stopped = false
  running : deadline.ended = none

variable {last lifetime : Nat}

theorem Active.notDueBefore (active : Active last lifetime deadline)
    (soon : now ≤ last + deadline.policy.idleTimeout.toNat) (within : now ≤ lifetime) :
    NotDueBefore now deadline := by
  refine ⟨fun timer set => ?_, fun due set => ?_⟩
  · rw [active.phase timer set]
    exact soon
  · rw [active.max due set]
    exact within

theorem handle_of_notDueBefore (later : NotDueBefore now deadline)
    (running : deadline.ended = none) (activity : Activity) :
    deadline.handle (now, activity) =
      match activity with
      | .started => deadline.markResponseStarted now
      | .chunk => deadline.touch now
      | .finished => deadline.stop now := by
  simp [handle, later.elapse_eq, running]

theorem active_started (later : NotDueBefore now deadline)
    (max : ∀ due ∈ deadline.max, due = lifetime) (unstopped : deadline.stopped = false)
    (running : deadline.ended = none) :
    Active now lifetime (deadline.handle (now, .started)) := by
  rw [handle_of_notDueBefore later running]
  simp only [markResponseStarted, unstopped, Bool.false_eq_true, if_false]
  refine ⟨fun timer set => ?_, max, rfl, running⟩
  dsimp only at set
  split at set
  · cases set
    rfl
  · cases set

theorem Active.chunk (active : Active last lifetime deadline)
    (soon : now ≤ last + deadline.policy.idleTimeout.toNat) (within : now ≤ lifetime) :
    Active now lifetime (deadline.handle (now, .chunk)) := by
  rw [handle_of_notDueBefore (active.notDueBefore soon within) active.running]
  simp only [touch, active.unstopped, Bool.false_eq_true, if_false]
  refine ⟨fun timer set => ?_, active.max, rfl, active.running⟩
  obtain ⟨_, -, rfl⟩ := Option.map_eq_some_iff.mp set
  rfl

/-- From one activity to the next there is never more than the idle timeout, so no timer
fires until the stream is over. -/
theorem Active.watch {chunks : List Nat} {finished : Nat} (active : Active last lifetime deadline)
    (gaps : (last :: (chunks ++ [finished])).IsChain fun first second =>
      second ≤ first + deadline.policy.idleTimeout.toNat)
    (within : ∀ time ∈ chunks ++ [finished], time ≤ lifetime) :
    (deadline.watch (chunks.map (·, .chunk) ++ [(finished, .finished)])).cut? = none := by
  induction chunks generalizing deadline last with
  | nil =>
    obtain ⟨soon, -⟩ := List.isChain_cons_cons.mp gaps
    have later := active.notDueBefore soon (within finished (by simp))
    have finished := handle_of_notDueBefore later active.running .finished
    simp only [StreamDeadline.watch, List.map_nil, List.nil_append, List.foldl_cons,
      List.foldl_nil, finished, stop, active.unstopped, Bool.false_eq_true, if_false, cut?,
      active.running]
    rfl
  | cons time _ ih =>
    obtain ⟨soon, further⟩ := List.isChain_cons_cons.mp gaps
    refine ih (active.chunk soon (within time (by simp))) ?_ ?_
    · rw [handle_policy]
      exact further
    · exact fun other member => within other (List.mem_cons_of_mem _ member)

end StreamDeadline

/-- A call, the end of the parent context, or the moment at which the timers that are due
fire, which can come before a call of the same time or after it. -/
inductive DeadlineCall where
  | markResponseStarted
  | touch
  | stop
  | cancelParent
  | expire

def StreamDeadline.call (deadline : StreamDeadline) (event : Nat × DeadlineCall) :
    StreamDeadline :=
  let deadline := deadline.elapse event.1
  match event.2 with
  | .markResponseStarted => deadline.markResponseStarted event.1
  | .touch => deadline.touch event.1
  | .stop => deadline.stop event.1
  | .cancelParent => { deadline with ended := deadline.ended <|> some (event.1, .canceled) }
  | .expire => deadline.elapse (event.1 + 1)

/-- `active` is the last activity since the response has started. -/
structure DeadlineSpec where
  active : Option Nat := none
  ended : Option (Nat × ContextCause) := none

namespace DeadlineSpec

variable (policy : StreamDeadlinePolicy) (start : Nat)

def timers (spec : DeadlineSpec) : StreamDeadline :=
  match spec.active with
  | none => newStreamDeadline policy start
  | some last =>
    { newStreamDeadline policy start with
      phase :=
        if 0 < policy.idleTimeout then some ⟨last + policy.idleTimeout.toNat, .idleTimeout⟩
        else none }

/-- The context ends with the earliest of them. -/
def elapse (spec : DeadlineSpec) (now : Nat) : DeadlineSpec :=
  match spec.ended, (spec.timers policy start).next? with
  | none, some (due, cause) => if due < now then { spec with ended := some (due, cause) } else spec
  | _, _ => spec

/-- Activity counts once the response has started; the end of the parent and `Stop` end the
context at once. -/
def call (spec : DeadlineSpec) (event : Nat × DeadlineCall) : DeadlineSpec :=
  let spec := spec.elapse policy start event.1
  match event.2 with
  | .markResponseStarted => { spec with active := some event.1 }
  | .touch => { spec with active := spec.active.map fun _ => event.1 }
  | .stop | .cancelParent => { spec with ended := spec.ended <|> some (event.1, .canceled) }
  | .expire => spec.elapse policy start (event.1 + 1)

theorem elapse_active (spec : DeadlineSpec) (now : Nat) :
    (spec.elapse policy start now).active = spec.active := by
  unfold elapse
  split
  · split <;> rfl
  · rfl

theorem active_of_marked {events : List (Nat × DeadlineCall)} {marked : Nat}
    (member : (marked, .markResponseStarted) ∈ events) :
    (events.foldl (call policy start) {}).active.isSome = true := by
  induction events using List.reverseRecOn with
  | nil => cases member
  | append_singleton events _ ih =>
    rw [List.foldl_append, List.foldl_cons, List.foldl_nil]
    rcases List.mem_append.mp member with before | here
    · have active := ih before
      generalize events.foldl (call policy start) {} = spec at active ⊢
      unfold call
      split <;> simp [elapse_active, active]
    · rw [← List.mem_singleton.mp here]
      rfl

end DeadlineSpec

namespace StreamDeadline

variable {policy : StreamDeadlinePolicy} {start : Nat} {deadline : StreamDeadline}
  {spec : DeadlineSpec}

/-- Until it ends, the deadline has the timers that ought to run. -/
structure Simulates (policy : StreamDeadlinePolicy) (start : Nat) (deadline : StreamDeadline)
    (spec : DeadlineSpec) : Prop where
  ended : deadline.ended = spec.ended
  running : spec.ended = none → deadline = spec.timers policy start

theorem Simulates.elapse (simulates : Simulates policy start deadline spec) (now : Nat) :
    Simulates policy start (deadline.elapse now) (spec.elapse policy start now) := by
  cases ended : spec.ended with
  | some =>
    have still : deadline.elapse now = deadline := by
      simp [StreamDeadline.elapse, simulates.ended, ended]
    rw [still, DeadlineSpec.elapse, ended]
    exact simulates
  | none =>
    have same := simulates.running ended
    have running : (spec.timers policy start).ended = none := by
      rw [← same, simulates.ended, ended]
    rw [same, StreamDeadline.elapse, DeadlineSpec.elapse, running, ended]
    cases first : (spec.timers policy start).next? with
    | none => exact ⟨running.trans ended.symm, fun _ => rfl⟩
    | some =>
      dsimp only
      split
      · exact ⟨rfl, by rintro ⟨⟩⟩
      · exact ⟨running.trans ended.symm, fun _ => rfl⟩

theorem ended_markResponseStarted (deadline : StreamDeadline) (now : Nat) :
    (deadline.markResponseStarted now).ended = deadline.ended := by
  unfold markResponseStarted
  split <;> rfl

theorem ended_touch (deadline : StreamDeadline) (now : Nat) :
    (deadline.touch now).ended = deadline.ended := by
  unfold touch
  split <;> rfl

theorem timers_stopped (spec : DeadlineSpec) : (spec.timers policy start).stopped = false := by
  unfold DeadlineSpec.timers
  split <;> rfl

theorem timers_policy (spec : DeadlineSpec) : (spec.timers policy start).policy = policy := by
  unfold DeadlineSpec.timers
  split <;> rfl

theorem Simulates.call (simulates : Simulates policy start deadline spec)
    (event : Nat × DeadlineCall)
    (late : event.2 = .touch → policy.requestTimeout ≤ 0 ∨ spec.active.isSome = true) :
    Simulates policy start (deadline.call event) (spec.call policy start event) := by
  have elapsed := simulates.elapse event.1
  rw [← DeadlineSpec.elapse_active policy start spec event.1] at late
  unfold StreamDeadline.call DeadlineSpec.call
  generalize deadline.elapse event.1 = current at elapsed
  generalize spec.elapse policy start event.1 = now at elapsed late
  rcases event with ⟨time, call⟩
  cases call with
  | markResponseStarted =>
    refine ⟨(ended_markResponseStarted current time).trans elapsed.ended, fun running => ?_⟩
    have same := elapsed.running running
    simp only [same, markResponseStarted, timers_stopped, timers_policy, Bool.false_eq_true,
      if_false]
    unfold DeadlineSpec.timers
    cases now.active <;> rfl
  | touch =>
    refine ⟨(ended_touch current time).trans elapsed.ended, fun running => ?_⟩
    have same := elapsed.running running
    simp only [same, touch, timers_stopped, timers_policy, Bool.false_eq_true, if_false]
    unfold DeadlineSpec.timers
    cases active : now.active with
    | some =>
      simp only [Option.map_some]
      by_cases idle : 0 < policy.idleTimeout <;> simp [idle, newStreamDeadline]
    | none =>
      rcases late rfl with never | started
      · simp [newStreamDeadline, Int.not_lt.mpr never]
      · rw [active] at started
        cases started
  | stop =>
    have gone : (now.ended <|> some (time, ContextCause.canceled)) ≠ none := by
      cases now.ended <;> simp
    refine ⟨?_, fun running => absurd running gone⟩
    dsimp only
    cases ended : now.ended with
    | none =>
      have same := elapsed.running ended
      simp only [same, stop, timers_stopped, Bool.false_eq_true, if_false]
      rw [← same, elapsed.ended, ended]
    | some =>
      unfold stop
      split
      · exact elapsed.ended.trans ended
      · simp [elapsed.ended, ended]
  | cancelParent =>
    have gone : (now.ended <|> some (time, ContextCause.canceled)) ≠ none := by
      cases now.ended <;> simp
    refine ⟨?_, fun running => absurd running gone⟩
    dsimp only
    rw [elapsed.ended]
  | expire => exact elapsed.elapse (time + 1)

/-- `Touch` only comes after `MarkResponseStarted`, or there is no request timer. -/
def TouchesLate (policy : StreamDeadlinePolicy) (events : List (Nat × DeadlineCall)) : Prop :=
  policy.requestTimeout ≤ 0 ∨ ∀ before time after, events = before ++ (time, .touch) :: after →
    ∃ marked, (marked, .markResponseStarted) ∈ before

theorem TouchesLate.concat {before : List (Nat × DeadlineCall)} {last : Nat × DeadlineCall}
    (late : TouchesLate policy (before ++ [last])) : TouchesLate policy before ∧
      (last.2 = .touch → policy.requestTimeout ≤ 0 ∨
        ∃ marked, (marked, .markResponseStarted) ∈ before) := by
  rcases late with never | late
  · exact ⟨.inl never, fun _ => .inl never⟩
  · refine ⟨.inr fun front time back split => late front time (back ++ [last]) (by simp [split]),
      fun touched => .inr (late before last.1 [] ?_)⟩
    rw [← touched]

theorem simulates_run (start : Nat) {events : List (Nat × DeadlineCall)}
    (late : TouchesLate policy events) :
    Simulates policy start (events.foldl StreamDeadline.call (newStreamDeadline policy start))
      (events.foldl (DeadlineSpec.call policy start) {}) := by
  induction events using List.reverseRecOn with
  | nil => exact ⟨rfl, fun _ => rfl⟩
  | append_singleton _ last ih =>
    obtain ⟨earlier, touched⟩ := late.concat
    rw [List.foldl_append, List.foldl_append]
    refine (ih earlier).call last fun touches => ?_
    rcases touched touches with never | ⟨_, member⟩
    · exact .inl never
    · exact .inr (DeadlineSpec.active_of_marked policy start member)

end StreamDeadline

end Porthook.Gateway
