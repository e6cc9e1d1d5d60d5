import Porthook.WebSocket.Relay

/-!
# An end against any peer

One end of a tunneled WebSocket and the connection to its peer, which may deliver any message at
any time.  When the end is over while the session is up, the peer should know.  Both ends miss
exits of the pump towards their own leg, and `openWSStream` all but one of its `select`.
-/

namespace Porthook.WebSocket

open Protocol Gateway Transition

def isNoticeType (typ : MessageType) : Bool := typ = .wsClose || typ = .wsCancel

def isNotice : Frame → Bool
  | .text envelope => isNoticeType envelope.typ
  | .binary _ => false

/-- An end with its connection.  `up` is false from the moment a write fails or
the connection is lost, `done` is the done channel of the gateway's session. -/
structure Solo where
  own : End
  up : Bool := true
  done : Bool := false

inductive SoloAction where
  | event (event : Event)
  | deliver (msg : Message)
  | write
  | writeFailed (cause : Option ContextCause)
  | connectionLost
  | closeDone
  | cleanUp

def Solo.step (side : Side) (cfg : StreamConfig) (solo : Solo) : SoloAction → Option Solo
  | .event event => (endStep side solo.done solo.own event).map fun own => { solo with own }
  | .deliver msg => (solo.own.queue.send? msg).map fun queue =>
    { solo with own := { solo.own with queue } }
  | .write =>
    match solo.own.outgoing cfg with
    | none => none
    | some (.error _) => some { solo with own := solo.own.afterWrite (some none) }
    | some (.ok frame) =>
      if solo.up then
        some { solo with
          own := { solo.own.afterWrite none with sent := solo.own.sent ++ [frame] } }
      else none
  | .writeFailed cause =>
    match solo.own.outgoing cfg with
    | some (.ok _) => some { solo with own := solo.own.afterWrite (some cause), up := false }
    | _ => none
  | .connectionLost => some { solo with up := false }
  | .closeDone => some { solo with done := true }
  | .cleanUp =>
    match solo.own.phase with
    | .leaving ending => some { solo with own := { solo.own with phase := .ended ending } }
    | _ => none

def Solo.initial (side : Side) : Solo where
  own := {
    phase := match side with
      | .gateway => .opening
      | .agent => .dialling
    queue := .make 64 }

inductive SoloStep (side : Side) (cfg : StreamConfig) (solo : Solo) : SoloAction → Solo → Prop where
  | event (event : Event) (own : End) : EndStep side solo.done solo.own event own →
      SoloStep side cfg solo (.event event) { solo with own }
  | deliver (msg : Message) (queue : Channel Message) : solo.own.queue.send? msg = some queue →
      SoloStep side cfg solo (.deliver msg) { solo with own := { solo.own with queue } }
  | unbuilt (err : FrameError) : solo.own.outgoing cfg = some (.error err) →
      SoloStep side cfg solo .write { solo with own := solo.own.afterWrite (some none) }
  | written (frame : Frame) : solo.own.outgoing cfg = some (.ok frame) → solo.up = true →
      SoloStep side cfg solo .write { solo with
        own := { solo.own.afterWrite none with sent := solo.own.sent ++ [frame] } }
  | writeFailed (cause : Option ContextCause) (frame : Frame) :
      solo.own.outgoing cfg = some (.ok frame) →
      SoloStep side cfg solo (.writeFailed cause)
        { solo with own := solo.own.afterWrite (some cause), up := false }
  | connectionLost : SoloStep side cfg solo .connectionLost { solo with up := false }
  | closeDone : SoloStep side cfg solo .closeDone { solo with done := true }
  | cleanUp (ending : Ending) : solo.own.phase = .leaving ending →
      SoloStep side cfg solo .cleanUp { solo with own := { solo.own with phase := .ended ending } }

theorem solo_step_inv {side : Side} {cfg : StreamConfig} {solo next : Solo} {action : SoloAction}
    (stepped : solo.step side cfg action = some next) : SoloStep side cfg solo action next := by
  cases action with
  | event event =>
    obtain ⟨own, moved, rfl⟩ := Option.map_eq_some_iff.mp stepped
    exact .event event own (endStep_inv moved)
  | deliver msg =>
    obtain ⟨queue, sent, rfl⟩ := Option.map_eq_some_iff.mp stepped
    exact .deliver msg queue sent
  | write =>
    simp only [Solo.step] at stepped
    repeat' split at stepped
    all_goals cases stepped
    next err outgoing => exact .unbuilt err outgoing
    next frame outgoing isUp => exact .written frame outgoing isUp
  | writeFailed cause =>
    simp only [Solo.step] at stepped
    split at stepped <;> cases stepped
    next frame outgoing => exact .writeFailed cause frame outgoing
  | connectionLost =>
    cases stepped
    exact .connectionLost
  | closeDone =>
    cases stepped
    exact .closeDone
  | cleanUp =>
    simp only [Solo.step] at stepped
    split at stepped <;> cases stepped
    next ending leaving => exact .cleanUp ending leaving

/-- The peer knows that the stream is over: it has said so, it was told, or the
session is down. -/
def Solo.Settled (solo : Solo) : Prop :=
  solo.up = false ∨ (∃ msg ∈ solo.own.taken, isNoticeType msg.envelope.typ = true) ∨
    ∃ frame ∈ solo.own.sent, isNotice frame = true

def Phase.relayReturned : Phase → Prop
  | .relaying relay => ∃ outcome, relay.waiter = .returned outcome
  | .leaving (.relayed _) | .ended (.relayed _) => True
  | _ => False

/-- When the relay has returned while the session is up and has not received
`ws.close` or `ws.cancel`, it has sent one of them. -/
def Solo.Notified (solo : Solo) : Prop :=
  solo.own.phase.relayReturned → solo.up = true →
    (∀ msg ∈ solo.own.taken, isNoticeType msg.envelope.typ = false) →
    ∃ frame ∈ solo.own.sent, isNotice frame = true

def Leg.reports (leg : Leg) (err : RelayError) : Prop := (leg.lastNotice err).isSome = true

def End.inHand (state : End) : Option Message :=
  match state.phase with
  | .relaying { writer := .handling msg, .. } => some msg
  | _ => none

def End.unbuildable (cfg : StreamConfig) (state : End) : Bool :=
  match state.outgoing cfg with
  | some (.error _) => true
  | _ => false

/-- While the peer does not know yet: a write to the leg fails only with an error that the relay
reports, only messages of the relay are handled, the frames can be built, and the context ends only
where the relay reports that. -/
def Solo.Notifies (side : Side) (cfg : StreamConfig) (solo : Solo) : SoloAction → Prop
  | .event (.relay (.legWriteFailed cause)) =>
    solo.Settled ∨ side.leg.reports (.legWrite cause)
  | .event (.relay (.contextDone cause)) =>
    solo.Settled ∨ side.leg.reports (.context (side.leg.contextError cause))
  | .event (.relay .handle) =>
    ∀ msg ∈ solo.own.inHand,
      solo.Settled ∨ (itemOf msg).isSome = true ∨ isNoticeType msg.envelope.typ = true
  | .write => solo.own.unbuildable cfg = true → solo.Settled
  | _ => True

/-- A result that a pump may return: the peer knows, or the relay will report it. -/
def Excused (leg : Leg) (settled : Prop) (result : Option RelayError) : Prop :=
  settled ∨ ∃ err, result = some err ∧ leg.reports err

/-- The variables of a relay whose exits are all excused. -/
structure RelayInv (leg : Leg) (settled : Prop) (relay : Relay) : Prop where
  results : ∀ result ∈ relay.errCh, Excused leg settled result
  first : ∀ result, relay.waiter = .second result → Excused leg settled result
  returned : ∀ outcome, relay.waiter = .returned outcome → settled
  handling : ∀ msg, relay.writer = .handling msg → isNoticeType msg.envelope.typ = true → settled
  cause : ∀ cause, relay.cause = some cause →
    Excused leg settled (some (.context (leg.contextError cause)))

def Solo.Owes (side : Side) (solo : Solo) : Prop :=
  match solo.own.phase with
  | .relaying relay => RelayInv side.leg solo.Settled relay
  | .leaving (.relayed _) | .ended (.relayed _) => solo.Settled
  | _ => True

section Relay

variable {leg : Leg} {settled settled' : Prop} {relay : Relay}

theorem relayInv_fresh (leg : Leg) (settled : Prop) : RelayInv leg settled {} := by
  constructor <;> simp

theorem RelayInv.mono (inv : RelayInv leg settled relay) (kept : settled → settled') :
    RelayInv leg settled' relay where
  results result member := (inv.results result member).imp_left kept
  first result waiter := (inv.first result waiter).imp_left kept
  returned outcome waiter := kept (inv.returned outcome waiter)
  handling msg writer terminal := kept (inv.handling msg writer terminal)
  cause cause ended := (inv.cause cause ended).imp_left kept

variable {result : Option RelayError}

theorem mem_append_singleton_excused {results : List (Option RelayError)}
    (earlier : ∀ other ∈ results, Excused leg settled other)
    (excused : Excused leg settled result) :
    ∀ other ∈ results ++ [result], Excused leg settled other := by
  intro other member
  rcases List.mem_append.mp member with before | own
  · exact earlier other before
  · rw [List.mem_singleton.mp own]
    exact excused

theorem RelayInv.returnReader (inv : RelayInv leg settled relay)
    (excused : Excused leg settled result) : RelayInv leg settled (relay.returnReader result) :=
  ⟨mem_append_singleton_excused inv.results excused, inv.first, inv.returned, inv.handling,
    inv.cause⟩

theorem RelayInv.returnWriter (inv : RelayInv leg settled relay)
    (excused : Excused leg settled result) : RelayInv leg settled (relay.returnWriter result) :=
  ⟨mem_append_singleton_excused inv.results excused, inv.first, inv.returned,
    fun _ isHandling => (by cases isHandling), inv.cause⟩

theorem RelayInv.setReader (inv : RelayInv leg settled relay) (reader : Reader) :
    RelayInv leg settled { relay with reader } :=
  ⟨inv.results, inv.first, inv.returned, inv.handling, inv.cause⟩

theorem RelayInv.cancel (inv : RelayInv leg settled relay) {cause : ContextCause}
    (excused : Excused leg settled (some (.context (leg.contextError cause)))) :
    RelayInv leg settled (relay.cancel cause) := by
  refine ⟨inv.results, inv.first, inv.returned, inv.handling, ?_⟩
  intro met isMet
  cases earlier : relay.cause with
  | none =>
    simp only [Relay.cancel, earlier, Option.getD_none, Option.some.injEq] at isMet
    rw [← isMet]
    exact excused
  | some first =>
    simp only [Relay.cancel, earlier, Option.getD_some, Option.some.injEq] at isMet
    rw [← isMet]
    exact inv.cause first earlier

theorem Excused.settled_of_none (excused : Excused leg settled none) : settled := by
  rcases excused with settled | ⟨_, isErr, _⟩
  · exact settled
  · cases isErr

theorem Excused.context {side : Side} (excused : Excused side.leg settled result)
    (cause : ContextCause) :
    Excused side.leg settled (some (.context (side.leg.contextError cause))) := by
  rcases excused with settled | ⟨_, _, reported⟩
  · exact .inl settled
  · cases side with
    | gateway => exact .inr ⟨_, rfl, rfl⟩
    | agent => cases reported

theorem RelayInv.finish {first second : Option RelayError} {rest : List (Option RelayError)}
    (inv : RelayInv leg settled relay) (waiter : relay.waiter = .second first)
    (errCh : relay.errCh = second :: rest) :
    RelayInv leg settled { relay with
      waiter := leg.finish (relayOutcome first second), errCh := rest } := by
  have excusedFirst := inv.first first waiter
  have excusedSecond := inv.results second (by simp [errCh])
  refine ⟨fun result member => inv.results result (by simp [errCh, member]), ?_, ?_, inv.handling,
    inv.cause⟩
  · intro result isSecond
    unfold Leg.finish at isSecond
    dsimp only at isSecond
    split at isSecond
    · cases isSecond
    · split at isSecond <;> cases isSecond
  · intro outcome isReturned
    cases first with
    | none => exact excusedFirst.settled_of_none
    | some =>
      cases second with
      | none => exact excusedSecond.settled_of_none
      | some =>
        rcases excusedFirst with settled | ⟨_, isErr, reported⟩
        · exact settled
        cases isErr
        obtain ⟨_, sent⟩ := Option.isSome_iff_exists.mp reported
        simp only [relayOutcome, Leg.finish, sent] at isReturned
        cases isReturned

theorem RelayInv.handleMessage (inv : RelayInv leg settled relay) {msg : Message}
    (handling : relay.writer = .handling msg)
    (expected : settled ∨ (itemOf msg).isSome = true ∨ isNoticeType msg.envelope.typ = true)
    (state : End) :
    ∃ after, (state.handleMessage relay msg).phase = .relaying after ∧
      RelayInv leg settled after := by
  have ended : (itemOf msg).isSome = false → settled := by
    intro noItem
    rcases expected with settled | isItem | terminal
    · exact settled
    · rw [noItem] at isItem
      cases isItem
    · exact inv.handling msg handling terminal
  unfold End.handleMessage
  split
  next item isItem =>
    exact ⟨_, rfl, inv.results, inv.first, inv.returned,
      fun _ isHandling => (by cases isHandling), inv.cause⟩
  next noItem =>
    have settled := ended (by rw [noItem]; rfl)
    split
    · split <;> exact ⟨_, rfl, inv.returnWriter (.inl settled)⟩
    · split <;> exact ⟨_, rfl, inv.returnWriter (.inl settled)⟩
    · exact ⟨_, rfl, inv.returnWriter (.inl settled)⟩

theorem isNotice_text (cfg : StreamConfig) (notice : Notice) :
    isNotice (cfg.text notice.typ notice.payload) = true := by
  cases notice <;> rfl

theorem RelayInv.afterWrite {cfg : StreamConfig} (inv : RelayInv leg settled relay)
    {err : Option (Option ContextCause)} (failed : err ≠ none → settled)
    (told : ∀ notice : Notice,
      relay.outgoing cfg = some (.ok (cfg.text notice.typ notice.payload)) → settled) :
    RelayInv leg settled (relay.afterWrite err) := by
  cases reader : relay.reader with
  | sending =>
    simp only [Relay.afterWrite, reader]
    cases err with
    | none => exact inv.setReader _
    | some => exact inv.returnReader (.inl (failed (by simp)))
  | notifying notice =>
    simp only [Relay.afterWrite, reader]
    exact inv.returnReader (.inl (told notice (by simp only [Relay.outgoing, reader])))
  | reading | returned =>
    cases waiter : relay.waiter with
    | notifying notice =>
      have settled := told notice (by simp only [Relay.outgoing, reader, waiter])
      simp only [Relay.afterWrite, reader, waiter]
      exact ⟨inv.results, fun _ isSecond => (by cases isSecond), fun _ _ => settled,
        inv.handling, inv.cause⟩
    | _ =>
      simp only [Relay.afterWrite, reader, waiter]
      exact inv

end Relay

section Solo

variable {side : Side} {cfg : StreamConfig} {solo next : Solo} {action : SoloAction}

theorem soloStep_histories (stepped : SoloStep side cfg solo action next) :
    (solo.up = false → next.up = false) ∧ solo.own.taken <+: next.own.taken ∧
      solo.own.sent <+: next.own.sent := by
  cases stepped with
  | event _ _ moved =>
    obtain ⟨taken, sent⟩ := endStep_histories moved
    exact ⟨id, taken, sent ▸ List.prefix_rfl⟩
  | unbuilt =>
    obtain ⟨_, same⟩ := afterWrite_eq solo.own (some none)
    rw [same]
    exact ⟨id, List.prefix_rfl, List.prefix_rfl⟩
  | written =>
    obtain ⟨_, same⟩ := afterWrite_eq solo.own none
    rw [same]
    exact ⟨id, List.prefix_rfl, List.prefix_append _ _⟩
  | writeFailed cause =>
    obtain ⟨_, same⟩ := afterWrite_eq solo.own (some cause)
    rw [same]
    exact ⟨fun _ => rfl, List.prefix_rfl, List.prefix_rfl⟩
  | connectionLost => exact ⟨fun _ => rfl, List.prefix_rfl, List.prefix_rfl⟩
  | deliver | closeDone | cleanUp => exact ⟨id, List.prefix_rfl, List.prefix_rfl⟩

theorem settled_step (settled : solo.Settled) (stepped : SoloStep side cfg solo action next) :
    next.Settled := by
  obtain ⟨up, taken, sent⟩ := soloStep_histories stepped
  rcases settled with down | ⟨msg, member, terminal⟩ | ⟨frame, member, notice⟩
  · exact .inl (up down)
  · exact .inr (.inl ⟨msg, taken.subset member, terminal⟩)
  · exact .inr (.inr ⟨frame, sent.subset member, notice⟩)

theorem relayInv_relayStep {relay : Relay} {event : RelayEvent} {own : End}
    (inv : RelayInv side.leg solo.Settled relay)
    (relaying : solo.own.phase = .relaying relay)
    (notifies : solo.Notifies side cfg (.event (.relay event)))
    (kept : solo.Settled → Solo.Settled { solo with own })
    (stepped : RelayStep side.leg solo.own relay event own) :
    ∃ after, own.phase = .relaying after ∧
      RelayInv side.leg (Solo.Settled { solo with own }) after := by
  have moved := inv.mono kept
  cases stepped with
  | contextDone =>
    exact ⟨_, rfl, moved.cancel (notifies.imp kept fun reported => ⟨_, rfl, reported⟩)⟩
  | read => exact ⟨_, rfl, moved.setReader _⟩
  | readFailed err =>
    refine ⟨_, rfl, ?_⟩
    cases ended : relay.cause with
    | some cause =>
      have returned := moved.returnReader (moved.cause cause ended)
      simpa only [Relay.readFailed, ended] using returned
    | none =>
      have notifying := moved.setReader (.notifying (closeOrCancelForReadError side.leg err).1
        (closeOrCancelForReadError side.leg err).2)
      simpa only [Relay.readFailed, ended] using notifying
  | take msg =>
    refine ⟨_, rfl, moved.results, moved.first, moved.returned, ?_, moved.cause⟩
    intro other isHandling terminal
    cases isHandling
    exact .inr (.inl ⟨msg, by simp, terminal⟩)
  | contextEnded cause _ ended =>
    exact ⟨_, rfl, moved.returnWriter (moved.cause cause ended)⟩
  | handle msg handling =>
    have inHand : solo.own.inHand = some msg := by
      rcases relay with ⟨_, _, _, _, _⟩
      cases handling
      simp only [End.inHand, relaying]
    exact moved.handleMessage handling ((notifies msg inHand).imp_left kept) _
  | legWriteFailed =>
    exact ⟨_, rfl, moved.returnWriter (notifies.imp kept fun reported => ⟨_, rfl, reported⟩)⟩
  | receiveFirst err _ _ errCh =>
    have excused := moved.results err (by simp [errCh])
    refine ⟨_, rfl, RelayInv.cancel ?_ (excused.context .canceled)⟩
    refine ⟨fun result member => moved.results result (by simp [errCh, member]), ?_,
      fun outcome isReturned => (by cases isReturned), moved.handling, moved.cause⟩
    intro result isSecond
    cases isSecond
    exact excused
  | receiveSecond _ _ _ waiter errCh => exact ⟨_, rfl, moved.finish waiter errCh⟩

theorem Solo.Owes.keep (owes : solo.Owes side) (kept : solo.Settled → next.Settled)
    (phase : next.own.phase = solo.own.phase) : next.Owes side := by
  unfold Solo.Owes at owes ⊢
  rw [phase]
  split at owes
  · exact owes.mono kept
  · exact kept owes
  · exact kept owes
  · trivial

theorem owes_event {event : Event} {own : End} (owes : solo.Owes side)
    (notifies : solo.Notifies side cfg (.event event))
    (kept : solo.Settled → Solo.Settled { solo with own })
    (stepped : EndStep side solo.done solo.own event own) :
    Solo.Owes side { solo with own } := by
  cases stepped with
  | answer msg =>
    unfold Solo.Owes
    dsimp only
    cases wsOpenAnswer msg <;> trivial
  | upgraded => exact relayInv_fresh _ _
  | relay _ _ _ relaying moved =>
    unfold Solo.Owes at owes ⊢
    rw [relaying] at owes
    obtain ⟨_, phase, inv⟩ := relayInv_relayStep owes relaying notifies kept moved
    rw [phase]
    exact inv
  | relayReturned _ outcome relaying returned =>
    unfold Solo.Owes at owes
    rw [relaying] at owes
    exact kept (owes.returned outcome returned)
  | openContextDone | openSessionDone | upgradeFailed | undialled | dialled => trivial

theorem owes_afterWrite (cfg : StreamConfig) {err : Option (Option ContextCause)}
    (owes : solo.Owes side) (kept : solo.Settled → next.Settled)
    (phase : next.own.phase = (solo.own.afterWrite err).phase)
    (failed : err ≠ none → next.Settled)
    (told : ∀ frame, solo.own.outgoing cfg = some (.ok frame) → isNotice frame = true →
      next.Settled) : next.Owes side := by
  unfold Solo.Owes
  rw [phase]
  cases before : solo.own.phase with
  | relaying =>
    unfold Solo.Owes at owes
    rw [before] at owes
    simp only [End.afterWrite, before, End.setRelay]
    apply (owes.mono kept).afterWrite failed
    intro notice outgoing
    apply told _ _ (isNotice_text cfg notice)
    rw [End.outgoing, before]
    exact outgoing
  | opening => cases err <;> simp only [End.afterWrite, before]
  | accepting =>
    cases err with
    | none =>
      simp only [End.afterWrite, before, End.setRelay]
      exact relayInv_fresh _ _
    | some => simp only [End.afterWrite, before]
  | leaving ending | ended ending =>
    unfold Solo.Owes at owes
    rw [before] at owes
    simp only [End.afterWrite, before]
    cases ending with
    | relayed => exact kept owes
    | _ => trivial
  | _ => simp only [End.afterWrite, before]

theorem owes_step (owes : solo.Owes side) (notifies : solo.Notifies side cfg action)
    (stepped : solo.step side cfg action = some next) : next.Owes side := by
  have moved := solo_step_inv stepped
  have kept : solo.Settled → next.Settled := fun settled => settled_step settled moved
  cases moved with
  | event _ _ advanced => exact owes_event owes notifies kept advanced
  | unbuilt _ outgoing =>
    have settled : solo.Settled := notifies (by simp only [End.unbuildable, outgoing])
    exact owes_afterWrite cfg owes kept rfl (fun _ => kept settled) fun _ _ _ => kept settled
  | written frame outgoing =>
    refine owes_afterWrite cfg owes kept rfl (fun isFailed => absurd rfl isFailed) ?_
    intro sent isSent notice
    rw [outgoing] at isSent
    cases isSent
    exact .inr (.inr ⟨frame, by simp, notice⟩)
  | writeFailed =>
    exact owes_afterWrite cfg owes kept rfl (fun _ => .inl rfl) fun _ _ _ => .inl rfl
  | cleanUp ending leaving =>
    unfold Solo.Owes at owes ⊢
    rw [leaving] at owes
    cases ending with
    | relayed => exact kept owes
    | _ => trivial
  | deliver | connectionLost | closeDone => exact owes.keep kept rfl

theorem notified_of_owes (owes : solo.Owes side) : solo.Notified := by
  intro returned isUp unheard
  have settled : solo.Settled := by
    unfold Solo.Owes at owes
    unfold Phase.relayReturned at returned
    split at returned
    next relay phase =>
      rw [phase] at owes
      obtain ⟨outcome, waiter⟩ := returned
      exact owes.returned outcome waiter
    next phase =>
      rwa [phase] at owes
    next phase =>
      rwa [phase] at owes
    · exact returned.elim
  rcases settled with down | ⟨msg, member, terminal⟩ | told
  · rw [isUp] at down
    cases down
  · rw [unheard msg member] at terminal
    cases terminal
  · exact told

end Solo

def isOpening : Frame → Bool
  | .text envelope => envelope.typ = .wsOpen
  | .binary _ => false

def Phase.openFailed : Phase → Bool
  | .leaving (.openFailed _) | .ended (.openFailed _) => true
  | _ => false

/-- When `openWSStream` has returned an error while the session is up, and
`ws.open` was written, the agent has answered `ws.error` or was told. -/
def Solo.OpenNotified (solo : Solo) : Prop :=
  solo.own.phase.openFailed = true → solo.up = true → solo.done = false →
    (∃ frame ∈ solo.own.sent, isOpening frame = true) →
    (∃ msg ∈ solo.own.taken, msg.envelope.typ = .wsError) ∨
      ∃ frame ∈ solo.own.sent, isNotice frame = true

def isAnswer (msg : Message) : Bool :=
  msg.envelope.typ = .wsError || (wsOpenAnswer msg).toOption.isSome

/-- The condition on a step of an end while the session is up: the wait for the
answer does not end with the context, and the answer is one. -/
def End.Answered (up done : Bool) (state : End) : Event → Prop
  | .openContextDone _ => up = true → done = true
  | .answer => up = true → done = false → ∀ msg ∈ state.queue.items.head?, isAnswer msg = true
  | _ => True

def Solo.Answered (solo : Solo) : SoloAction → Prop
  | .event event => solo.own.Answered solo.up solo.done event
  | _ => True

def End.OpenExcused (up done : Bool) (state : End) : Prop :=
  state.phase.openFailed = true → up = true → done = false →
    ∃ msg ∈ state.taken, msg.envelope.typ = .wsError

section Opening

variable {side : Side} {cfg : StreamConfig} {up done : Bool} {state next : End}

theorem openExcused_event {event : Event}
    (answered : state.Answered up done event) (stepped : EndStep side done state event next) :
    next.OpenExcused up done := by
  cases stepped with
  | answer msg _ _ received =>
    obtain ⟨items, _⟩ := Channel.receive?_eq_some received
    intro failed isUp isOpen
    have isAnswer := answered isUp isOpen msg (by simp [items])
    refine ⟨msg, by simp, ?_⟩
    simp only [WebSocket.isAnswer, Bool.or_eq_true, decide_eq_true_eq] at isAnswer
    rcases isAnswer with isError | succeeded
    · exact isError
    · cases outcome : wsOpenAnswer msg with
      | ok => simp [outcome, Phase.openFailed] at failed
      | error => simp [outcome, Except.toOption] at succeeded
  | openContextDone =>
    intro _ isUp isOpen
    rw [answered isUp] at isOpen
    cases isOpen
  | openSessionDone _ isDone =>
    intro _ _ isOpen
    rw [isDone] at isOpen
    cases isOpen
  | relay _ _ _ _ moved =>
    obtain ⟨_, phase⟩ := relayStep_phase moved
    intro failed
    rw [phase] at failed
    cases failed
  | upgraded | upgradeFailed | undialled | dialled | relayReturned =>
    intro failed
    cases failed

theorem openExcused_afterWrite {err : Option (Option ContextCause)} {sent : List Frame}
    {up' : Bool} (excused : state.OpenExcused up done) (wasUp : up' = true → up = true)
    (failed : err ≠ none → state.phase = .opening → up' = false) :
    End.OpenExcused up' done { state.afterWrite err with sent } := by
  obtain ⟨phase, same⟩ := afterWrite_eq state err
  intro isFailed isUp isOpen
  rw [same] at isFailed ⊢
  have phase_eq : (state.afterWrite err).phase = phase := by rw [same]
  cases before : state.phase with
  | opening =>
    cases err with
    | none =>
      simp only [End.afterWrite, before] at phase_eq
      subst phase_eq
      cases isFailed
    | some =>
      rw [failed (by simp) before] at isUp
      cases isUp
  | accepting =>
    cases err <;> simp only [End.afterWrite, before, End.setRelay] at phase_eq <;>
      subst phase_eq <;> cases isFailed
  | leaving | ended =>
    simp only [End.afterWrite, before] at phase_eq
    subst phase_eq
    exact excused (by rw [before]; exact isFailed) (wasUp isUp) isOpen
  | _ =>
    simp only [End.afterWrite, before, End.setRelay] at phase_eq
    subst phase_eq
    cases isFailed

theorem opening_buildable {err : FrameError} (outgoing : state.outgoing cfg = some (.error err)) :
    state.phase ≠ .opening := by
  intro opening
  rw [End.outgoing, opening] at outgoing
  cases outgoing

theorem openExcused_step {solo next : Solo} {action : SoloAction}
    (excused : solo.own.OpenExcused solo.up solo.done) (answered : solo.Answered action)
    (stepped : solo.step side cfg action = some next) :
    next.own.OpenExcused next.up next.done := by
  cases solo_step_inv stepped with
  | event _ _ advanced => exact openExcused_event answered advanced
  | unbuilt _ outgoing =>
    exact openExcused_afterWrite excused id fun _ opening =>
      absurd opening (opening_buildable outgoing)
  | written =>
    exact openExcused_afterWrite excused id fun failed => absurd rfl failed
  | writeFailed =>
    exact openExcused_afterWrite excused (by rintro ⟨⟩) fun _ _ => rfl
  | cleanUp ending leaving =>
    intro failed
    apply excused
    rw [leaving]
    cases ending with
    | openFailed => rfl
    | _ => cases failed
  | deliver => exact excused
  | connectionLost => exact by rintro _ ⟨⟩
  | closeDone => exact by rintro _ _ ⟨⟩

/-- Unless the wait ends with the context, and if the answer is one, `openWSStream` leaves nothing
behind that the agent does not know of. -/
theorem openNotified_of_answered {actions : List SoloAction}
    (answered : Guarded (Solo.step side cfg) Solo.Answered (.initial side) actions) :
    Always (Solo.step side cfg) Solo.OpenNotified (.initial side) actions := by
  have initial : (Solo.initial side).own.OpenExcused true false := by
    cases side <;> exact by rintro ⟨⟩
  have kept : Always (Solo.step side cfg)
      (fun solo => solo.own.OpenExcused solo.up solo.done) (.initial side) actions :=
    always_of_guarded
      (fun _ _ _ excused answered stepped => openExcused_step excused answered stepped) initial
      answered
  exact kept.mono fun _ excused failed isUp isOpen _ => .inl (excused failed isUp isOpen)

end Opening

/-- Whatever the peer sends, in every run that meets the condition a relay that
has returned while the session is up has received `ws.close` or `ws.cancel` or has
sent one of them. -/
theorem relay_notifies (side : Side) (cfg : StreamConfig) (actions : List SoloAction)
    (notifies : Guarded (Solo.step side cfg) (Solo.Notifies side cfg) (.initial side) actions) :
    Always (Solo.step side cfg) Solo.Notified (.initial side) actions := by
  have initial : (Solo.initial side).Owes side := by cases side <;> trivial
  have kept := always_of_guarded
    (fun _ _ _ owes notifies stepped => owes_step owes notifies stepped) initial notifies
  exact kept.mono fun _ owes => notified_of_owes owes

instance (solo : Solo) : Decidable solo.Settled := inferInstanceAs (Decidable (_ ∨ _ ∨ _))

instance (leg : Leg) (err : RelayError) : Decidable (leg.reports err) :=
  inferInstanceAs (Decidable (_ = _))

instance (side : Side) (cfg : StreamConfig) (solo : Solo) (action : SoloAction) :
    Decidable (solo.Notifies side cfg action) :=
  match action with
  | .event (.relay (.legWriteFailed _)) | .event (.relay (.contextDone _)) =>
    inferInstanceAs (Decidable (_ ∨ _))
  | .event (.relay .handle) => inferInstanceAs (Decidable (∀ _ ∈ solo.own.inHand, _ ∨ _ ∨ _))
  | .write => inferInstanceAs (Decidable (_ → _))
  | .event .answer | .event (.openContextDone _) | .event .openSessionDone | .event .upgraded
  | .event .upgradeFailed | .event (.targetInvalid _) | .event (.dialFailed _)
  | .event (.dialled _) | .event .relayReturned | .event (.relay (.read _))
  | .event (.relay (.readFailed _)) | .event (.relay .take) | .event (.relay .contextEnded)
  | .event (.relay .receive) | .deliver _ | .writeFailed _ | .connectionLost | .closeDone
  | .cleanUp => isTrue trivial

def chatStream : StreamConfig := ⟨ascii "str_a", ascii "tun_a", { path := ascii "/chat" }⟩

def Side.startRelay : Side → List SoloAction
  | .gateway =>
    let accept := textMessage (newStream .wsAccept chatStream.id chatStream.tunnelID
      (some (Accept.encode {})))
    [.write, .deliver accept, .event .answer, .event .upgraded]
  | .agent => [.event (.dialled []), .write]

def legBroken : List SoloAction :=
  let hello := binaryMessage .wsMessageText chatStream.id chatStream.tunnelID (ascii "hello")
  [.deliver hello, .event (.relay .take), .event (.relay (.legWriteFailed none)),
    .event (.relay .receive), .event (.relay (.readFailed .failure)), .event (.relay .receive)]

def legClosing : List SoloAction :=
  [.event (.relay (.readFailed (.closeFrame 1000))), .write, .event (.relay .receive),
    .event (.relay .contextEnded), .event (.relay .receive), .event .relayReturned]

/-- Neither relay says a word when its leg breaks under a write. -/
theorem relay_silent : (∃ last, exec (Solo.step .gateway chatStream) (.initial .gateway)
        (Side.startRelay .gateway ++ legBroken) = some last ∧
      last.own.phase.relayReturned ∧ last.up = true ∧ ¬ last.Notified) ∧
    ∃ last, exec (Solo.step .agent chatStream) (.initial .agent)
        (Side.startRelay .agent ++ legBroken) = some last ∧
      last.own.phase.relayReturned ∧ last.up = true ∧ ¬ last.Notified := by
  constructor
  · refine ⟨_, rfl, ⟨_, rfl⟩, rfl, fun notified => ?_⟩
    exact absurd (notified ⟨_, rfl⟩ rfl (by decide)) (by decide)
  · refine ⟨_, rfl, ⟨_, rfl⟩, rfl, fun notified => ?_⟩
    exact absurd (notified ⟨_, rfl⟩ rfl (by decide)) (by decide)

theorem relay_notifies_closing : (exec (Solo.step .gateway chatStream) (.initial .gateway)
        (Side.startRelay .gateway ++ legClosing)).isSome = true ∧
      Always (Solo.step .gateway chatStream) Solo.Notified (.initial .gateway)
        (Side.startRelay .gateway ++ legClosing) :=
  ⟨by decide +kernel, relay_notifies .gateway chatStream _ (by decide +kernel)⟩

end Porthook.WebSocket
