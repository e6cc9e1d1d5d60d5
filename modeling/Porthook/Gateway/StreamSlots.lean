import Mathlib.Data.Finset.Card
import Porthook.Gateway.Session

/-!
# Slots of concurrent streams

`agentSession.streams` is a channel with one token for every stream that runs: `streamRoundTrip`
defers `releaseStream`, `openWSStream` calls `cleanup` on each of its error exits, and
`wsStream.Close` acts only once.  Every stream gives back what it took, exactly once.
-/

namespace Porthook.Gateway

open Protocol Transition

/-- Where a stream is between `acquireStream` and `releaseStream`.  An `opened` stream is a
`wsStream` whose `closeOnce` has not been used. -/
inductive SlotPhase where
  | idle
  | checked
  | acquired
  | running
  | opened
  | leaving
  | removed
  | returned
  deriving DecidableEq

def SlotPhase.holdsSlot : SlotPhase → Bool
  | .acquired | .running | .opened | .leaving | .removed => true
  | _ => false

def SlotPhase.isPending : SlotPhase → Bool
  | .running | .opened | .leaving => true
  | _ => false

def SlotPhase.isEarly : SlotPhase → Bool
  | .idle | .checked => true
  | _ => false

structure SlotsConfig (Stream : Type) where
  maxConcurrentStreams : Nat
  kind : Stream → StreamKind
  id : Stream → StreamID

/-- The part of an `agentSession` that counts its streams.  `tokens` is the
length of the channel, which is nil if there is no limit. -/
structure Slots (Stream : Type) where
  tokens : Nat := 0
  pending : StreamID → Option Stream := fun _ => none
  done : Bool := false
  phase : Stream → SlotPhase := fun _ => .idle

inductive SlotsAction (Stream : Type) where
  | closeDone
  | checkDone (stream : Stream)
  | acquireStream (stream : Stream)
  | limitExceeded (stream : Stream)
  | addPending (stream : Stream)
  | accept (stream : Stream)
  | leave (stream : Stream)
  | close (stream : Stream)
  | removePending (stream : Stream)
  | releaseStream (stream : Stream)

/-- The stream that a token is taken for, and the one that gives its token back. -/
def SlotsAction.acquirer? {Stream : Type} : SlotsAction Stream → Option Stream
  | .acquireStream stream => some stream
  | _ => none

def SlotsAction.releaser? {Stream : Type} : SlotsAction Stream → Option Stream
  | .releaseStream stream => some stream
  | _ => none

section Step

variable {Stream : Type} [DecidableEq Stream]

def Slots.setPhase (slots : Slots Stream) (stream : Stream) (phase : SlotPhase) : Slots Stream :=
  { slots with phase := Function.update slots.phase stream phase }

def Slots.step (cfg : SlotsConfig Stream) (slots : Slots Stream) :
    SlotsAction Stream → Option (Slots Stream)
  | .closeDone => some { slots with done := true }
  | .checkDone stream =>
    match slots.phase stream with
    | .idle => some (slots.setPhase stream (if slots.done then .returned else .checked))
    | _ => none
  | .acquireStream stream =>
    match slots.phase stream with
    | .checked =>
      if cfg.maxConcurrentStreams = 0 then some (slots.setPhase stream .acquired)
      else if slots.tokens < cfg.maxConcurrentStreams then
        some { slots.setPhase stream .acquired with tokens := slots.tokens + 1 }
      else none
    | _ => none
  | .limitExceeded stream =>
    match slots.phase stream with
    | .checked =>
      if cfg.maxConcurrentStreams ≠ 0 ∧ cfg.maxConcurrentStreams ≤ slots.tokens then
        some (slots.setPhase stream .returned)
      else none
    | _ => none
  | .addPending stream =>
    match slots.phase stream with
    | .acquired => some
        { slots.setPhase stream .running with
          pending := Function.update slots.pending (cfg.id stream) (some stream) }
    | _ => none
  | .accept stream =>
    match slots.phase stream with
    | .running =>
      if cfg.kind stream = .ws then some (slots.setPhase stream .opened) else none
    | _ => none
  | .leave stream =>
    -- a return of streamRoundTrip, or an error exit of openWSStream
    match slots.phase stream with
    | .running => some (slots.setPhase stream .leaving)
    | _ => none
  | .close stream =>
    -- only the first call gets through closeOnce
    if cfg.kind stream = .ws then
      match slots.phase stream with
      | .opened => some (slots.setPhase stream .leaving)
      | .leaving | .removed | .returned => some slots
      | _ => none
    else none
  | .removePending stream =>
    match slots.phase stream with
    | .leaving => some
        { slots.setPhase stream .removed with
          pending := Function.update slots.pending (cfg.id stream) none }
    | _ => none
  | .releaseStream stream =>
    -- a receive from an empty channel takes the default branch
    match slots.phase stream with
    | .removed => some { slots.setPhase stream .returned with tokens := slots.tokens - 1 }
    | _ => none

end Step

section Slots

variable {Stream : Type} [DecidableEq Stream] {cfg : SlotsConfig Stream} {slots next : Slots Stream}

@[simp]
theorem slots_setPhase_self (slots : Slots Stream) (stream : Stream) (phase : SlotPhase) :
    (slots.setPhase stream phase).phase stream = phase :=
  Function.update_self ..

variable {stream : Stream} {action : SlotsAction Stream}

@[simp]
theorem slots_setPhase_other (slots : Slots Stream) {other : Stream} (phase : SlotPhase)
    (different : other ≠ stream) :
    (slots.setPhase stream phase).phase other = slots.phase other :=
  Function.update_of_ne different ..

/-- The steps by what they do to the counts: most of them do nothing. -/
inductive SlotsStep (cfg : SlotsConfig Stream) (slots : Slots Stream) :
    SlotsAction Stream → Slots Stream → Prop where
  | closeDone : SlotsStep cfg slots .closeDone { slots with done := true }
  | moved (action : SlotsAction Stream) (stream : Stream) (phase : SlotPhase) :
      action.acquirer? = none → action.releaser? = none →
      (slots.phase stream).holdsSlot = phase.holdsSlot →
      (slots.phase stream).isPending = phase.isPending →
      (phase.isEarly = true → (slots.phase stream).isEarly = true) →
      SlotsStep cfg slots action (slots.setPhase stream phase)
  | acquired (stream : Stream) (tokens : Nat) : slots.phase stream = .checked →
      (cfg.maxConcurrentStreams = 0 ∧ tokens = slots.tokens ∨
        slots.tokens < cfg.maxConcurrentStreams ∧ tokens = slots.tokens + 1) →
      SlotsStep cfg slots (.acquireStream stream) { slots.setPhase stream .acquired with tokens }
  | added (stream : Stream) : slots.phase stream = .acquired →
      SlotsStep cfg slots (.addPending stream)
        { slots.setPhase stream .running with
          pending := Function.update slots.pending (cfg.id stream) (some stream) }
  | removed (stream : Stream) : slots.phase stream = .leaving →
      SlotsStep cfg slots (.removePending stream)
        { slots.setPhase stream .removed with
          pending := Function.update slots.pending (cfg.id stream) none }
  | released (stream : Stream) : slots.phase stream = .removed →
      SlotsStep cfg slots (.releaseStream stream)
        { slots.setPhase stream .returned with tokens := slots.tokens - 1 }

theorem setPhase_same (slots : Slots Stream) (stream : Stream) :
    slots.setPhase stream (slots.phase stream) = slots := by
  simp [Slots.setPhase]

theorem SlotsStep.shift {before after : SlotPhase} (phase : slots.phase stream = before)
    (takesNone : action.acquirer? = none) (givesNone : action.releaser? = none)
    (holds : before.holdsSlot = after.holdsSlot) (isPending : before.isPending = after.isPending)
    (early : after.isEarly = true → before.isEarly = true) :
    SlotsStep cfg slots action (slots.setPhase stream after) := by
  subst phase
  exact .moved action stream after takesNone givesNone holds isPending early

theorem slots_step_inv (stepped : slots.step cfg action = some next) :
    SlotsStep cfg slots action next := by
  cases action with
  | closeDone =>
    cases stepped
    exact .closeDone
  | checkDone =>
    simp only [Slots.step] at stepped
    split at stepped <;> cases stepped
    next phase => cases slots.done <;> exact .shift phase rfl rfl rfl rfl (by decide)
  | acquireStream stream =>
    simp only [Slots.step] at stepped
    repeat' split at stepped
    all_goals cases stepped
    next phase unlimited => exact .acquired stream _ phase (.inl ⟨unlimited, rfl⟩)
    next phase _ room => exact .acquired stream _ phase (.inr ⟨room, rfl⟩)
  | limitExceeded | accept =>
    simp only [Slots.step] at stepped
    repeat' split at stepped
    all_goals cases stepped
    next phase _ => exact .shift phase rfl rfl rfl rfl (by decide)
  | addPending stream =>
    simp only [Slots.step] at stepped
    split at stepped <;> cases stepped
    next phase => exact .added stream phase
  | leave =>
    simp only [Slots.step] at stepped
    split at stepped <;> cases stepped
    next phase => exact .shift phase rfl rfl rfl rfl (by decide)
  | close stream =>
    simp only [Slots.step] at stepped
    have repeated : SlotsStep cfg slots (.close stream) slots := by
      have moved : SlotsStep cfg slots (.close stream)
          (slots.setPhase stream (slots.phase stream)) :=
        .moved _ stream _ rfl rfl rfl rfl id
      rwa [setPhase_same] at moved
    split at stepped
    · split at stepped <;> cases stepped
      next phase => exact .shift phase rfl rfl rfl rfl (by decide)
      all_goals exact repeated
    · cases stepped
  | removePending stream =>
    simp only [Slots.step] at stepped
    split at stepped <;> cases stepped
    next phase => exact .removed stream phase
  | releaseStream stream =>
    simp only [Slots.step] at stepped
    split at stepped <;> cases stepped
    next phase => exact .released stream phase

structure HoldersInv (cfg : SlotsConfig Stream) (slots : Slots Stream) (holders : Finset Stream) :
    Prop where
  mem_iff : ∀ stream, stream ∈ holders ↔ (slots.phase stream).holdsSlot = true
  counted : cfg.maxConcurrentStreams ≠ 0 → slots.tokens = holders.card
  bounded : slots.tokens ≤ cfg.maxConcurrentStreams

structure PendingInv (cfg : SlotsConfig Stream) (slots : Slots Stream) : Prop where
  sound : ∀ key stream, slots.pending key = some stream →
    cfg.id stream = key ∧ (slots.phase stream).isPending = true
  complete : Function.Injective cfg.id → ∀ stream,
    (slots.phase stream).isPending = true → slots.pending (cfg.id stream) = some stream

theorem setPhase_frame {Value : Type} (view : SlotPhase → Value) {phase : SlotPhase}
    (same : view (slots.phase stream) = view phase) (other : Stream) :
    view ((slots.setPhase stream phase).phase other) = view (slots.phase other) := by
  by_cases mine : other = stream
  · rw [mine, slots_setPhase_self, same]
  · rw [slots_setPhase_other _ _ mine]

variable {holders : Finset Stream}

omit [DecidableEq Stream] in
theorem HoldersInv.frame (inv : HoldersInv cfg slots holders) (tokens : next.tokens = slots.tokens)
    (holds : ∀ stream, (next.phase stream).holdsSlot = (slots.phase stream).holdsSlot) :
    HoldersInv cfg next holders where
  mem_iff stream := by rw [holds, inv.mem_iff]
  counted limited := by rw [tokens, inv.counted limited]
  bounded := by rw [tokens]; exact inv.bounded

omit [DecidableEq Stream] in
theorem PendingInv.frame (inv : PendingInv cfg slots) (pending : next.pending = slots.pending)
    (isPending : ∀ stream, (next.phase stream).isPending = (slots.phase stream).isPending) :
    PendingInv cfg next where
  sound key stream := by rw [pending, isPending]; exact inv.sound key stream
  complete distinct stream := by rw [pending, isPending]; exact inv.complete distinct stream

theorem HoldersInv.acquired (inv : HoldersInv cfg slots holders) {tokens : Nat}
    (phase : slots.phase stream = .checked)
    (taken : cfg.maxConcurrentStreams = 0 ∧ tokens = slots.tokens ∨
      slots.tokens < cfg.maxConcurrentStreams ∧ tokens = slots.tokens + 1) :
    HoldersInv cfg { slots.setPhase stream .acquired with tokens } (insert stream holders) where
  mem_iff other := by
    dsimp only
    rw [Finset.mem_insert]
    by_cases same : other = stream
    · rw [same, slots_setPhase_self]
      exact ⟨fun _ => rfl, fun _ => .inl rfl⟩
    · rw [slots_setPhase_other _ _ same, inv.mem_iff]
      exact ⟨fun either => either.resolve_left same, .inr⟩
  counted limited := by
    have absent : stream ∉ holders := by
      rw [inv.mem_iff, phase]
      exact Bool.false_ne_true
    rcases taken with ⟨unlimited, _⟩ | ⟨_, more⟩
    · exact absurd unlimited limited
    · rw [Finset.card_insert_of_notMem absent, ← inv.counted limited]
      exact more
  bounded := by
    have before := inv.bounded
    rcases taken with ⟨_, rfl⟩ | ⟨room, rfl⟩
    · exact before
    · exact room

theorem HoldersInv.released (inv : HoldersInv cfg slots holders)
    (phase : slots.phase stream = .removed) :
    HoldersInv cfg { slots.setPhase stream .returned with tokens := slots.tokens - 1 }
      (holders.erase stream) where
  mem_iff other := by
    dsimp only
    rw [Finset.mem_erase]
    by_cases same : other = stream
    · rw [same, slots_setPhase_self]
      exact ⟨fun both => absurd rfl both.1, by rintro ⟨⟩⟩
    · rw [slots_setPhase_other _ _ same, inv.mem_iff]
      exact ⟨fun both => both.2, fun holds => ⟨same, holds⟩⟩
  counted limited := by
    have present : stream ∈ holders := by
      rw [inv.mem_iff, phase]
      rfl
    rw [Finset.card_erase_of_mem present, ← inv.counted limited]
  bounded := Nat.le_trans (Nat.sub_le _ _) inv.bounded

theorem PendingInv.entry (inv : PendingInv cfg slots) {phase : SlotPhase} {entry : Option Stream}
    (kept : entry = if phase.isPending then some stream else none) :
    PendingInv cfg { slots.setPhase stream phase with
      pending := Function.update slots.pending (cfg.id stream) entry } where
  sound key other found := by
    dsimp only at found ⊢
    by_cases mine : key = cfg.id stream
    · rw [mine, Function.update_self, kept] at found
      split at found <;> cases found
      next isPending => exact ⟨mine.symm, by rw [slots_setPhase_self, isPending]⟩
    · rw [Function.update_of_ne mine] at found
      obtain ⟨keyed, there⟩ := inv.sound key other found
      rw [slots_setPhase_other]
      · exact ⟨keyed, there⟩
      · intro same
        exact mine (same ▸ keyed.symm)
  complete distinct other there := by
    dsimp only at there ⊢
    by_cases same : other = stream
    · rw [same, slots_setPhase_self] at there
      rw [same, Function.update_self, kept, if_pos there]
    · rw [slots_setPhase_other _ _ same] at there
      rw [Function.update_of_ne (distinct.ne same)]
      exact inv.complete distinct other there

def SlotsInv (cfg : SlotsConfig Stream) (slots : Slots Stream) : Prop :=
  (∃ holders, HoldersInv cfg slots holders) ∧ PendingInv cfg slots

omit [DecidableEq Stream] in
theorem slotsInv_initial (cfg : SlotsConfig Stream) : SlotsInv cfg {} := by
  refine ⟨⟨∅, ?_, fun _ => rfl, Nat.zero_le _⟩, ?_, ?_⟩
  · intro stream
    simp [SlotPhase.holdsSlot]
  · intro key stream found
    cases found
  · intro _ stream isPending
    cases isPending

theorem slotsInv_step (inv : SlotsInv cfg slots)
    (stepped : SlotsStep cfg slots action next) : SlotsInv cfg next := by
  obtain ⟨⟨holders, held⟩, pending⟩ := inv
  cases stepped with
  | closeDone =>
    exact ⟨⟨holders, held.frame rfl fun _ => rfl⟩, pending.frame rfl fun _ => rfl⟩
  | moved _ _ _ _ _ holds isPending =>
    exact ⟨⟨holders, held.frame rfl (setPhase_frame SlotPhase.holdsSlot holds)⟩,
      pending.frame rfl (setPhase_frame SlotPhase.isPending isPending)⟩
  | acquired _ _ phase taken =>
    exact ⟨⟨_, held.acquired phase taken⟩,
      pending.frame rfl (setPhase_frame SlotPhase.isPending (by rw [phase]; rfl))⟩
  | added _ phase | removed _ phase =>
    exact ⟨⟨holders, held.frame rfl (setPhase_frame SlotPhase.holdsSlot (by rw [phase]; rfl))⟩,
      pending.entry rfl⟩
  | released _ phase =>
    exact ⟨⟨_, held.released phase⟩,
      pending.frame rfl (setPhase_frame SlotPhase.isPending (by rw [phase]; rfl))⟩

/-- How often a run takes a token for the stream, and how often it gives one
back. -/
def acquisitions (stream : Stream) (actions : List (SlotsAction Stream)) : Nat :=
  actions.countP fun action => action.acquirer? = some stream

def releases (stream : Stream) (actions : List (SlotsAction Stream)) : Nat :=
  actions.countP fun action => action.releaser? = some stream

theorem slots_step_count (stepped : SlotsStep cfg slots action next) (stream : Stream) :
    acquisitions stream [action] + (slots.phase stream).holdsSlot.toNat =
      releases stream [action] + (next.phase stream).holdsSlot.toNat ∧
    acquisitions stream [action] + (next.phase stream).isEarly.toNat ≤
      (slots.phase stream).isEarly.toNat := by
  simp only [acquisitions, releases, List.countP_singleton]
  cases stepped with
  | closeDone => simp [SlotsAction.acquirer?, SlotsAction.releaser?]
  | moved _ mover phase noAcquire noRelease holds _ early =>
    simp only [noAcquire, noRelease]
    by_cases same : stream = mover
    · rw [same, slots_setPhase_self, holds]
      cases isEarly : phase.isEarly with
      | false => simp
      | true => simp [early isEarly]
    · simp [slots_setPhase_other _ _ same]
  | acquired mover _ phase | added mover phase | removed mover phase | released mover phase =>
    by_cases same : stream = mover
    · subst same
      simp [SlotsAction.acquirer?, SlotsAction.releaser?, phase, SlotPhase.holdsSlot,
        SlotPhase.isEarly]
    · simp [SlotsAction.acquirer?, SlotsAction.releaser?, slots_setPhase_other _ _ same,
        Ne.symm same]

/-- A whole run: what a stream has taken it has given back or still holds, and
it takes at most once. -/
theorem slots_run_count {last : Slots Stream} {actions : List (SlotsAction Stream)}
    (executed : exec (Slots.step cfg) slots actions = some last) (stream : Stream) :
    acquisitions stream actions + (slots.phase stream).holdsSlot.toNat =
      releases stream actions + (last.phase stream).holdsSlot.toNat ∧
    acquisitions stream actions + (last.phase stream).isEarly.toNat ≤
      (slots.phase stream).isEarly.toNat := by
  induction actions generalizing slots with
  | nil =>
    cases executed
    simp [acquisitions, releases]
  | cons action _ ih =>
    obtain ⟨_, stepped, remaining⟩ := exec_cons_eq_some executed
    have first := slots_step_count (slots_step_inv stepped) stream
    have later := ih remaining
    have split (list : List (SlotsAction Stream)) : acquisitions stream (action :: list) =
        acquisitions stream [action] + acquisitions stream list := by
      rw [acquisitions, ← List.singleton_append, List.countP_append]
      rfl
    have splitReleases (list : List (SlotsAction Stream)) : releases stream (action :: list) =
        releases stream [action] + releases stream list := by
      rw [releases, ← List.singleton_append, List.countP_append]
      rfl
    rw [split, splitReleases]
    omega

/-- There are as many tokens as streams that hold a slot, and as pending entries once no stream is
between `acquireStream` and `addPending` or `removePending` and `releaseStream`.  Without a limit
the channel is nil. -/
structure Slots.Accounted (cfg : SlotsConfig Stream) (slots : Slots Stream) : Prop where
  holders : ∃ holders : Finset Stream,
    (∀ stream, stream ∈ holders ↔ (slots.phase stream).holdsSlot = true) ∧
    (cfg.maxConcurrentStreams ≠ 0 → slots.tokens = holders.card)
  bounded : slots.tokens ≤ cfg.maxConcurrentStreams
  pending : cfg.maxConcurrentStreams ≠ 0 → Function.Injective cfg.id →
    (∀ stream, slots.phase stream ≠ .acquired ∧ slots.phase stream ≠ .removed) →
    ∃ entries : Finset StreamID, (∀ key, key ∈ entries ↔ (slots.pending key).isSome = true) ∧
      slots.tokens = entries.card
  idle : (∀ stream, slots.phase stream = .idle ∨ slots.phase stream = .returned) → slots.tokens = 0

omit [DecidableEq Stream] in
theorem PendingInv.entries (inv : PendingInv cfg slots) (held : HoldersInv cfg slots holders)
    (distinct : Function.Injective cfg.id)
    (settled : ∀ stream, slots.phase stream ≠ .acquired ∧ slots.phase stream ≠ .removed)
    (key : StreamID) : key ∈ holders.image cfg.id ↔ (slots.pending key).isSome = true := by
  rw [Finset.mem_image]
  constructor
  · rintro ⟨stream, member, rfl⟩
    have holds := (held.mem_iff stream).mp member
    have isPending : (slots.phase stream).isPending = true := by
      obtain ⟨_, _⟩ := settled stream
      cases phase : slots.phase stream <;> simp_all [SlotPhase.holdsSlot, SlotPhase.isPending]
    rw [inv.complete distinct stream isPending]
    rfl
  · intro found
    obtain ⟨stream, lookup⟩ := Option.isSome_iff_exists.mp found
    obtain ⟨keyed, _⟩ := inv.sound key stream lookup
    refine ⟨stream, (held.mem_iff stream).mpr ?_, keyed⟩
    cases phase : slots.phase stream <;> simp_all [SlotPhase.holdsSlot, SlotPhase.isPending]

omit [DecidableEq Stream] in
theorem SlotsInv.accounted (inv : SlotsInv cfg slots) : slots.Accounted cfg := by
  obtain ⟨⟨holders, held⟩, pending⟩ := inv
  refine ⟨⟨holders, held.mem_iff, held.counted⟩, held.bounded, ?_, fun idle => ?_⟩
  · intro limited distinct settled
    refine ⟨holders.image cfg.id, pending.entries held distinct settled, ?_⟩
    rw [Finset.card_image_of_injective _ distinct, held.counted limited]
  · by_cases limited : cfg.maxConcurrentStreams = 0
    · have bounded := held.bounded
      omega
    · rw [held.counted limited, Finset.card_eq_zero, Finset.eq_empty_iff_forall_notMem]
      intro stream member
      have holds := (held.mem_iff stream).mp member
      rcases idle stream with phase | phase <;> rw [phase] at holds <;> cases holds

end Slots

end Porthook.Gateway
