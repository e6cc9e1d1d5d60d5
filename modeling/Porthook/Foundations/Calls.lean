import Mathlib.Logic.Function.Basic
import Porthook.Foundations.Transition

/-!
# Calls in flight over a shared store

A service answers requests in several steps, each one atomic operation on a store that all calls
share.  What a step gets from outside (a clock, random bytes) is its draw.  `Rely` is the rule for
such a system: a step keeps the invariant of the store, its own fact, and those of the others.
-/

namespace Calls

open Transition

universe u

variable {Id Store Request Call Draw Reply : Type u}

inductive Outcome (Call Reply : Type u) where
  | continues (call : Call)
  | returns (reply : Reply)

structure Service (Store Request Call Draw Reply : Type u) where
  enter : Request → Call
  advance : Store → Call → Draw → Store × Outcome Call Reply

inductive Event (Id Request Call Draw Reply : Type u) where
  | started (id : Id) (request : Request)
  | stepped (id : Id) (call : Call) (draw : Draw) (outcome : Outcome Call Reply)

inductive Action (Id Request Draw : Type u) where
  | start (id : Id) (request : Request)
  | advance (id : Id) (draw : Draw)

structure State (Id Store Request Call Draw Reply : Type u) where
  store : Store
  calls : Id → Option Call := fun _ => none
  trace : List (Event Id Request Call Draw Reply) := []

/-- Each entry of a list is as its predecessors allow. -/
def Justified {Entry : Type u} (allowed : List Entry → Entry → Prop) (entries : List Entry) :
    Prop :=
  ∀ before entry after, entries = before ++ entry :: after → allowed before entry

theorem Justified.nil {Entry : Type u} {allowed : List Entry → Entry → Prop} :
    Justified allowed [] := by
  intro before entry after split
  simp at split

theorem Justified.concat {Entry : Type u} {allowed : List Entry → Entry → Prop}
    {entries : List Entry} {last : Entry} (holds : Justified allowed entries)
    (next : allowed entries last) : Justified allowed (entries ++ [last]) := by
  intro before entry after split
  rcases List.eq_nil_or_concat after with rfl | ⟨earlier, final, rfl⟩
  · obtain ⟨rfl, same⟩ := List.append_inj' split rfl
    cases same
    exact next
  · have regrouped : before ++ entry :: earlier.concat final = (before ++ entry :: earlier) ++
        [final] := by simp
    rw [regrouped] at split
    exact holds before entry earlier (List.append_inj' split rfl).1

/-- An entry of one kind stands if none of another kind came after it. -/
def Stands {Entry : Type u} (does undoes : Entry → Prop) (entries : List Entry) : Prop :=
  ∃ before entry after, entries = before ++ entry :: after ∧ does entry ∧
    ∀ later ∈ after, ¬ undoes later

theorem not_stands_nil {Entry : Type u} {does undoes : Entry → Prop} :
    ¬ Stands does undoes [] := by
  rintro ⟨_, _, _, split, -⟩
  simp at split

theorem stands_concat {Entry : Type u} {does undoes : Entry → Prop} {entries : List Entry}
    {last : Entry} :
    Stands does undoes (entries ++ [last]) ↔
      does last ∨ Stands does undoes entries ∧ ¬ undoes last := by
  constructor
  · rintro ⟨before, entry, after, split, done, alone⟩
    rcases List.eq_nil_or_concat after with rfl | ⟨earlier, final, rfl⟩
    · obtain ⟨rfl, same⟩ := List.append_inj' split rfl
      cases same
      exact .inl done
    · have regrouped : before ++ entry :: earlier.concat final = (before ++ entry :: earlier) ++
          [final] := by simp
      rw [regrouped] at split
      obtain ⟨same, finals⟩ := List.append_inj' split rfl
      cases finals
      refine .inr ⟨⟨before, entry, earlier, same, done, fun later member => ?_⟩, ?_⟩
      · exact alone later (by simp [member])
      · exact alone last (by simp)
  · rintro (done | ⟨⟨before, entry, after, rfl, done, alone⟩, kept⟩)
    · exact ⟨entries, last, [], rfl, done, by simp⟩
    refine ⟨before, entry, after ++ [last], by simp, done, fun later member => ?_⟩
    rcases List.mem_append.mp member with old | new
    · exact alone later old
    · rw [List.mem_singleton.mp new]
      exact kept

theorem last_split_unique {Entry : Type u} (marked : Entry → Prop) {front front' : List Entry}
    {entry entry' : Entry} {back back' : List Entry}
    (same : front ++ entry :: back = front' ++ entry' :: back') (mark : marked entry)
    (mark' : marked entry') (alone : ∀ later ∈ back, ¬ marked later)
    (alone' : ∀ later ∈ back', ¬ marked later) :
    front = front' ∧ entry = entry' ∧ back = back' := by
  rcases List.append_eq_append_iff.mp same with ⟨middle, shifted, rest⟩ | ⟨middle, shifted, rest⟩
  · cases middle with
    | nil =>
      cases rest
      exact ⟨(List.append_nil front ▸ shifted).symm, rfl, rfl⟩
    | cons =>
      cases rest
      exact absurd mark' (alone entry' (by simp))
  · cases middle with
    | nil =>
      cases rest
      exact ⟨List.append_nil front' ▸ shifted, rfl, rfl⟩
    | cons =>
      cases rest
      exact absurd mark (alone' entry (by simp))

def Event.starts? : Event Id Request Call Draw Reply → Option Id
  | .started id _ => some id
  | .stepped _ _ _ _ => none

/-- The request that the call `id` answers: the last one it was started with. -/
def Serves (trace : List (Event Id Request Call Draw Reply)) (id : Id) (request : Request) : Prop :=
  Stands (fun event => event = .started id request) (fun event => event.starts? = some id) trace

theorem serves_started (trace : List (Event Id Request Call Draw Reply)) (id : Id)
    (request : Request) : Serves (trace ++ [.started id request]) id request :=
  stands_concat.mpr (.inl rfl)

theorem Serves.concat {trace : List (Event Id Request Call Draw Reply)} {id : Id}
    {request : Request} {event : Event Id Request Call Draw Reply}
    (serves : Serves trace id request) (other : event.starts? ≠ some id) :
    Serves (trace ++ [event]) id request :=
  stands_concat.mpr (.inr ⟨serves, other⟩)

def Outcome.call? : Outcome Call Reply → Option Call
  | .continues call => some call
  | .returns _ => none

def Outcome.map {Call' Reply' : Type u} (goesOn : Call → Call') (ends : Reply → Reply') :
    Outcome Call Reply → Outcome Call' Reply'
  | .continues call => .continues (goesOn call)
  | .returns reply => .returns (ends reply)

variable [DecidableEq Id]

namespace Service

variable (service : Service Store Request Call Draw Reply)

def step (state : State Id Store Request Call Draw Reply) :
    Action Id Request Draw → Option (State Id Store Request Call Draw Reply)
  | .start id request =>
    match state.calls id with
    | some _ => none
    | none => some
        { state with
          calls := Function.update state.calls id (some (service.enter request))
          trace := state.trace ++ [.started id request] }
  | .advance id draw =>
    match state.calls id with
    | none => none
    | some call =>
      let (store, outcome) := service.advance state.store call draw
      some
        { store
          calls := Function.update state.calls id outcome.call?
          trace := state.trace ++ [.stepped id call draw outcome] }

def complete : Store → Call → List Draw → Store × Outcome Call Reply
  | store, call, [] => (store, .continues call)
  | store, call, draw :: rest =>
    match service.advance store call draw with
    | (store, .returns reply) => (store, .returns reply)
    | (store, .continues next) => complete store next rest

def answer (store : Store) (request : Request) (draws : List Draw) : Store × Option Reply :=
  match service.complete store (service.enter request) draws with
  | (store, .returns reply) => (store, some reply)
  | (store, .continues _) => (store, none)

/-- One whole call after the other; what was asked and answered is kept. -/
def serialStep (state : Store × List (Request × Reply)) (call : Request × List Draw) :
    Option (Store × List (Request × Reply)) :=
  match service.complete state.1 (service.enter call.1) call.2 with
  | (store, .returns reply) => some (store, state.2 ++ [(call.1, reply)])
  | (_, .continues _) => none

/-- A condition on the steps of the calls in flight. -/
def Meets (condition : Store → Call → Draw → Prop)
    (state : State Id Store Request Call Draw Reply) : Action Id Request Draw → Prop
  | .start _ _ => True
  | .advance id draw => ∀ call, state.calls id = some call → condition state.store call draw

instance (condition : Store → Call → Draw → Prop)
    [∀ store call draw, Decidable (condition store call draw)]
    (state : State Id Store Request Call Draw Reply) (action : Action Id Request Draw) :
    Decidable (Meets condition state action) :=
  match action with
  | .start _ _ => isTrue trivial
  | .advance id draw =>
    match found : state.calls id with
    | none => isTrue fun call called => by rw [found] at called; cases called
    | some call =>
      decidable_of_iff (condition state.store call draw)
        ⟨fun met other called => by rw [found] at called; cases called; exact met,
          fun met => met call found⟩

/-- An invariant of the store and its history, and a fact about each call. -/
structure Rely (condition : Store → Call → Draw → Prop)
    (invariant : Store → List (Event Id Request Call Draw Reply) → Prop)
    (holding : Store → List (Event Id Request Call Draw Reply) → Id → Call → Prop) : Prop where
  start : ∀ {store trace} (id request), invariant store trace →
    invariant store (trace ++ [.started id request]) ∧
      holding store (trace ++ [.started id request]) id (service.enter request)
  start_other : ∀ {store trace other call id} (request), other ≠ id → invariant store trace →
    holding store trace other call →
      holding store (trace ++ [.started id request]) other call
  advance : ∀ {store trace id call draw}, invariant store trace → holding store trace id call →
    condition store call draw →
      invariant (service.advance store call draw).1
          (trace ++ [.stepped id call draw (service.advance store call draw).2]) ∧
        ∀ next, (service.advance store call draw).2 = .continues next →
          holding (service.advance store call draw).1
            (trace ++ [.stepped id call draw (service.advance store call draw).2]) id next
  advance_other : ∀ {store trace id call draw other otherCall}, other ≠ id →
    invariant store trace → holding store trace id call → condition store call draw →
      holding store trace other otherCall →
        holding (service.advance store call draw).1
          (trace ++ [.stepped id call draw (service.advance store call draw).2]) other otherCall

end Service

def Holds (invariant : Store → List (Event Id Request Call Draw Reply) → Prop)
    (holding : Store → List (Event Id Request Call Draw Reply) → Id → Call → Prop)
    (state : State Id Store Request Call Draw Reply) : Prop :=
  invariant state.store state.trace ∧
    ∀ id call, state.calls id = some call → holding state.store state.trace id call

namespace Service

variable {service : Service Store Request Call Draw Reply}
  {condition : Store → Call → Draw → Prop}
  {invariant : Store → List (Event Id Request Call Draw Reply) → Prop}
  {holding : Store → List (Event Id Request Call Draw Reply) → Id → Call → Prop}

variable {state next : State Id Store Request Call Draw Reply} {action : Action Id Request Draw}

theorem step_start {id : Id} {request : Request}
    (stepped : service.step state (.start id request) = some next) :
    state.calls id = none ∧ next =
      { state with
        calls := Function.update state.calls id (some (service.enter request))
        trace := state.trace ++ [.started id request] } := by
  simp only [step] at stepped
  split at stepped
  · cases stepped
  next free =>
    cases stepped
    exact ⟨free, rfl⟩

theorem step_advance {id : Id} {draw : Draw}
    (stepped : service.step state (.advance id draw) = some next) :
    ∃ call, state.calls id = some call ∧ next =
      { store := (service.advance state.store call draw).1
        calls := Function.update state.calls id (service.advance state.store call draw).2.call?
        trace := state.trace ++
          [.stepped id call draw (service.advance state.store call draw).2] } := by
  simp only [step] at stepped
  split at stepped
  · cases stepped
  next call found =>
    cases stepped
    exact ⟨call, found, rfl⟩

theorem step_congr {other : Service Store Request Call Draw Reply}
    (entered : service.enter = other.enter)
    (agree : ∀ call draw, condition state.store call draw →
      service.advance state.store call draw = other.advance state.store call draw)
    (met : Meets condition state action) : service.step state action = other.step state action := by
  cases action with
  | start => simp only [step, entered]
  | advance id draw =>
    cases found : state.calls id with
    | none => simp only [step, found]
    | some call => simp only [step, found, agree call draw (met call found)]

/-- The rule for a call that runs alone: what each of its steps keeps holds to its end. -/
theorem complete_returns {during : Store → Call → Prop} {atEnd : Store → Reply → Prop}
    (continued : ∀ {store call draw next later}, during store call →
      service.advance store call draw = (next, .continues later) → during next later)
    (returned : ∀ {store call draw next reply}, during store call →
      service.advance store call draw = (next, .returns reply) → atEnd next reply)
    {store next : Store} {call : Call} {draws : List Draw} {reply : Reply}
    (holds : during store call)
    (done : service.complete store call draws = (next, .returns reply)) : atEnd next reply := by
  induction draws generalizing store call with
  | nil => cases done
  | cons _ _ ih =>
    simp only [complete] at done
    split at done
    next ended =>
      cases done
      exact returned holds ended
    next goesOn => exact ih (continued holds goesOn) done

theorem serialStep_eq_some {state after : Store × List (Request × Reply)}
    {call : Request × List Draw} (stepped : service.serialStep state call = some after) :
    ∃ reply, service.complete state.1 (service.enter call.1) call.2 =
        (after.1, .returns reply) ∧ after.2 = state.2 ++ [(call.1, reply)] := by
  simp only [serialStep] at stepped
  split at stepped
  next reply done =>
    cases stepped
    exact ⟨reply, done, rfl⟩
  · cases stepped

theorem Rely.step (rely : service.Rely condition invariant holding)
    (holds : Holds invariant holding state) (met : Meets condition state action)
    (stepped : service.step state action = some next) : Holds invariant holding next := by
  cases action with
  | start id request =>
    obtain ⟨-, rfl⟩ := step_start stepped
    obtain ⟨kept, own⟩ := rely.start id request holds.1
    refine ⟨kept, fun other call called => ?_⟩
    dsimp only at called ⊢
    by_cases mine : other = id
    · subst mine
      rw [Function.update_self] at called
      cases called
      exact own
    · rw [Function.update_of_ne mine] at called
      exact rely.start_other request mine holds.1 (holds.2 other call called)
  | advance id draw =>
    obtain ⟨call, found, rfl⟩ := step_advance stepped
    obtain ⟨kept, own⟩ := rely.advance holds.1 (holds.2 id call found) (met call found)
    refine ⟨kept, fun other otherCall called => ?_⟩
    dsimp only at called ⊢
    by_cases mine : other = id
    · subst mine
      rw [Function.update_self] at called
      refine own otherCall ?_
      cases outcome : (service.advance state.store call draw).2 with
      | continues =>
        rw [outcome] at called
        cases called
        rfl
      | returns =>
        rw [outcome] at called
        cases called
    · rw [Function.update_of_ne mine] at called
      exact rely.advance_other mine holds.1 (holds.2 id call found) (met call found)
        (holds.2 other otherCall called)

/-- The rule: the invariant holds in every state of a run that meets the condition. -/
theorem Rely.always (rely : service.Rely condition invariant holding)
    {actions : List (Action Id Request Draw)} (holds : Holds invariant holding state)
    (guarded : Guarded service.step (Meets condition) state actions) :
    Always service.step (Holds invariant holding) state actions :=
  always_of_guarded (fun _ _ _ holds met stepped => rely.step holds met stepped) holds guarded

theorem Rely.reached (rely : service.Rely (fun _ _ _ => True) invariant holding)
    {last : State Id Store Request Call Draw Reply} (holds : Holds invariant holding state)
    (reached : Reaches service.step state last) :
    Holds invariant holding last := by
  refine reaches_invariant (fun state action next holds stepped => ?_) holds reached
  refine rely.step holds ?_ stepped
  cases action with
  | start => trivial
  | advance => exact fun _ _ => trivial

end Service

end Calls
