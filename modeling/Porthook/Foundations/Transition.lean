import Mathlib.Logic.Basic

/-!
# Executable labelled transition systems

A system is a step function `State → Action → Option State`: an action that is not enabled gives
`none`.  A run is a list of actions, so every interleaving is one.  `Always` follows a property
through the states a run visits and `Guarded` a condition on the state before each step.
-/

namespace Transition

universe u v

variable {State : Type u} {Action : Type v}

def exec (step : State → Action → Option State) : State → List Action → Option State
  | state, [] => some state
  | state, action :: rest => (step state action).bind fun next => exec step next rest

/-- Every action of the run is taken in a state that meets the guard. -/
def Guarded (step : State → Action → Option State) (guard : State → Action → Prop) :
    State → List Action → Prop
  | _, [] => True
  | state, action :: rest =>
    guard state action ∧ ∀ next, step state action = some next → Guarded step guard next rest

/-- The property holds in every state that the run visits. -/
def Always (step : State → Action → Option State) (property : State → Prop) :
    State → List Action → Prop
  | state, [] => property state
  | state, action :: rest =>
    property state ∧ ∀ next, step state action = some next → Always step property next rest

/-- Some list of actions leads from one state to the other. -/
def Reaches (step : State → Action → Option State) (first last : State) : Prop :=
  ∃ actions, exec step first actions = some last

variable {step : State → Action → Option State}

@[simp]
theorem exec_nil (state : State) : exec step state [] = some state := rfl

@[simp]
theorem exec_cons (state : State) (action : Action) (rest : List Action) :
    exec step state (action :: rest) =
      (step state action).bind fun next => exec step next rest := rfl

variable {state last : State} {action : Action} {rest actions : List Action}
    {guard : State → Action → Prop} {invariant property : State → Prop}

theorem exec_cons_eq_some (executed : exec step state (action :: rest) = some last) :
    ∃ next, step state action = some next ∧ exec step next rest = some last := by
  simpa [Option.bind_eq_some_iff] using executed

theorem exec_append (state : State) (first second : List Action) :
    exec step state (first ++ second) =
      (exec step state first).bind fun middle => exec step middle second := by
  induction first generalizing state with
  | nil => simp
  | cons action _ ih =>
    cases stepped : step state action with
    | none => simp [stepped]
    | some => simp [stepped, ih]

theorem guarded_cons_of_none (disabled : step state action = none) :
    Guarded step guard state (action :: rest) ↔ guard state action := by
  simp [Guarded, disabled]

theorem guarded_cons_of_some {next : State} (stepped : step state action = some next) :
    Guarded step guard state (action :: rest) ↔
      guard state action ∧ Guarded step guard next rest := by
  simp [Guarded, stepped]

instance Guarded.decidable {guard : State → Action → Prop}
    [∀ state action, Decidable (guard state action)] :
    ∀ state actions, Decidable (Guarded step guard state actions)
  | _, [] => isTrue trivial
  | state, action :: rest =>
    match stepped : step state action with
    | none => decidable_of_iff' _ (guarded_cons_of_none stepped)
    | some next =>
      have : Decidable (Guarded step guard next rest) := Guarded.decidable next rest
      decidable_of_iff' _ (guarded_cons_of_some stepped)

/-- The invariant rule: what every guarded step keeps, a guarded run keeps. -/
theorem exec_invariant {guard : State → Action → Prop} {invariant : State → Prop}
    (preserved : ∀ state action next, invariant state → guard state action →
      step state action = some next → invariant next)
    {state last : State} {actions : List Action} (initial : invariant state)
    (guarded : Guarded step guard state actions)
    (executed : exec step state actions = some last) : invariant last := by
  induction actions generalizing state with
  | nil =>
    simp only [exec_nil, Option.some.injEq] at executed
    subst last
    exact initial
  | cons action _ ih =>
    rcases exec_cons_eq_some executed with ⟨next, stepped, remaining⟩
    exact ih (preserved state action next initial guarded.1 stepped)
      (guarded.2 next stepped) remaining

theorem guarded_of_forall (met : ∀ state action, guard state action) (state : State)
    (actions : List Action) :
    Guarded step guard state actions := by
  induction actions generalizing state with
  | nil => trivial
  | cons action _ ih =>
    exact ⟨met state action, fun next _ => ih next⟩

theorem guarded_true (state : State) (actions : List Action) :
    Guarded step (fun _ _ => True) state actions :=
  guarded_of_forall (fun _ _ => trivial) state actions

/-- A run that meets two conditions meets both at each of its steps. -/
theorem Guarded.and {first second : State → Action → Prop}
    (metFirst : Guarded step first state actions) (metSecond : Guarded step second state actions) :
    Guarded step (fun state action => first state action ∧ second state action) state
      actions := by
  induction actions generalizing state with
  | nil => trivial
  | cons _ _ ih =>
    refine ⟨⟨metFirst.1, metSecond.1⟩, fun next stepped => ?_⟩
    exact ih (metFirst.2 next stepped) (metSecond.2 next stepped)

theorem reaches_invariant {invariant : State → Prop}
    (preserved : ∀ state action next, invariant state →
      step state action = some next → invariant next)
    {state last : State} (initial : invariant state)
    (reached : Reaches step state last) : invariant last := by
  rcases reached with ⟨actions, executed⟩
  exact exec_invariant (fun state action next holds _ => preserved state action next holds)
    initial (guarded_true state actions) executed

theorem always_of_guarded {guard : State → Action → Prop} {invariant : State → Prop}
    (preserved : ∀ state action next, invariant state → guard state action →
      step state action = some next → invariant next)
    {state : State} {actions : List Action} (initial : invariant state)
    (guarded : Guarded step guard state actions) : Always step invariant state actions := by
  induction actions generalizing state with
  | nil => exact initial
  | cons action _ ih =>
    refine ⟨initial, fun next stepped => ?_⟩
    exact ih (preserved state action next initial guarded.1 stepped) (guarded.2 next stepped)

theorem always_of_invariant {invariant : State → Prop}
    (preserved : ∀ state action next, invariant state →
      step state action = some next → invariant next)
    {state : State} (initial : invariant state) (actions : List Action) :
    Always step invariant state actions :=
  always_of_guarded (fun state action next holds _ => preserved state action next holds) initial
    (guarded_true state actions)

/-- Where two systems take the same guarded steps, they have the same guarded runs. -/
theorem exec_congr {other : State → Action → Option State} {guard : State → Action → Prop}
    {invariant : State → Prop}
    (preserved : ∀ state action next, invariant state → guard state action →
      step state action = some next → invariant next)
    (agree : ∀ state action, invariant state → guard state action →
      step state action = other state action)
    {state : State} {actions : List Action} (initial : invariant state)
    (guarded : Guarded step guard state actions) :
    exec step state actions = exec other state actions := by
  induction actions generalizing state with
  | nil => rfl
  | cons action _ ih =>
    rw [exec_cons, exec_cons, ← agree state action initial guarded.1]
    cases stepped : step state action with
    | none => rfl
    | some next =>
      exact ih (preserved state action next initial guarded.1 stepped) (guarded.2 next stepped)

theorem Always.mono {first second : State → Prop} (implied : ∀ state, first state → second state)
    (holds : Always step first state actions) :
    Always step second state actions := by
  induction actions generalizing state with
  | nil => exact implied state holds
  | cons _ _ ih =>
    exact ⟨implied state holds.1, fun next stepped =>
      ih (holds.2 next stepped)⟩

theorem Always.initial (holds : Always step property state actions) : property state := by
  cases actions with
  | nil => exact holds
  | cons => exact holds.1

/-- Where a step keeps the property exactly when it meets the guard, a run
keeps it in every state exactly when each of its enabled steps meets the guard. -/
theorem always_iff_guarded (invariant : State → Prop)
    (preserved : ∀ state action next, invariant state →
      step state action = some next → invariant next)
    (exact_step : ∀ state action next, invariant state → property state →
      step state action = some next → (property next ↔ guard state action))
    (initial : invariant state) (holds : property state) :
    Always step property state actions ↔
      Guarded step (fun before action =>
        (step before action).isSome = true → guard before action) state actions := by
  induction actions generalizing state with
  | nil => exact ⟨fun _ => trivial, fun _ => holds⟩
  | cons action _ ih =>
    constructor
    · rintro ⟨_, later⟩
      refine ⟨fun enabled => ?_, fun next stepped => ?_⟩
      · rcases Option.isSome_iff_exists.mp enabled with ⟨next, stepped⟩
        exact (exact_step state action next initial holds stepped).mp (later next stepped).initial
      · exact (ih (preserved state action next initial stepped)
          (later next stepped).initial).mp (later next stepped)
    · rintro ⟨met, later⟩
      refine ⟨holds, fun next stepped => ?_⟩
      have kept : property next :=
        (exact_step state action next initial holds stepped).mpr (met (by simp [stepped]))
      exact (ih (preserved state action next initial stepped) kept).mpr (later next stepped)

theorem Reaches.refl (state : State) : Reaches step state state := ⟨[], rfl⟩

theorem Reaches.trans {first middle : State} (before : Reaches step first middle)
    (after : Reaches step middle last) :
    Reaches step first last := by
  rcases before with ⟨actions, executed⟩
  rcases after with ⟨more, continued⟩
  exact ⟨actions ++ more, by rw [exec_append, executed]; exact continued⟩

theorem Reaches.single {first : State} (action : Action)
    (stepped : step first action = some last) : Reaches step first last :=
  ⟨[action], by simp [stepped]⟩

/-- The progress rule: where every state short of the goal has a step that keeps the
invariant and comes closer, the goal can be reached. -/
theorem reaches_of_progress (distance : State → Nat) (invariant goal : State → Prop)
    (progress : ∀ state, invariant state → ¬ goal state →
      ∃ action next, step state action = some next ∧ invariant next ∧
        distance next < distance state) (initial : invariant state) :
    ∃ last, Reaches step state last ∧ goal last := by
  induction bound : distance state using Nat.strongRecOn generalizing state with
  | _ current ih =>
    by_cases reached : goal state
    · exact ⟨state, .refl state, reached⟩
    obtain ⟨action, _, stepped, kept, closer⟩ := progress state initial reached
    rw [bound] at closer
    obtain ⟨last, continued, done⟩ := ih _ closer kept rfl
    exact ⟨last, .trans (.single action stepped) continued, done⟩

end Transition
