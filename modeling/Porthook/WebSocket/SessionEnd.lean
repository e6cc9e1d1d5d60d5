import Porthook.WebSocket.Pumps
import Porthook.WebSocket.Streams

/-!
# Relays whose session has ended

`openWSStream` watches the done channel of the session, the pumps of a relay do not:
`pumpAgentToPublic` waits for its queue and its context, `pumpPublicToAgent` for the public
connection, and nobody closes the queue.
-/

namespace Porthook.WebSocket

open Protocol Gateway Transition

/-- The steps of an end that wait neither for a timer, nor for the public client, nor for a message:
the public read returns by itself only when the context of the relay has ended. -/
def Solo.isOwn (solo : Solo) : SoloAction → Bool
  | .event (.relay (.readFailed _)) =>
    match solo.own.phase with
    | .relaying relay => relay.cause.isSome
    | _ => false
  | .event (.relay (.contextDone _)) | .event (.relay (.read _))
  | .event (.relay (.legWriteFailed _)) => false
  | .event (.relay _) | .event .relayReturned | .write | .writeFailed _ | .cleanUp => true
  | _ => false

def Solo.ownStep (cfg : StreamConfig) (solo : Solo) (action : SoloAction) : Option Solo :=
  if solo.isOwn action then solo.step .gateway cfg action else none

/-- The relay ends by itself; with its last step it closes the public connection. -/
def Solo.Ends (cfg : StreamConfig) (solo : Solo) : Prop :=
  ∃ last ending, Reaches (Solo.ownStep cfg) solo last ∧ last.own.phase = .ended ending

/-- Neither pump is on its way out: the context has not ended, one waits for the public
client, and the other one for a message or for the write of one. -/
def Relay.Waits (relay : Relay) : Prop :=
  relay.cause = none ∧ relay.reader = .reading ∧ (relay.writer = .selecting ∨
      ∃ msg item, relay.writer = .handling msg ∧ itemOf msg = some item)

def Tunnel.solo {Stream : Type} (tunnel : Tunnel Stream) (stream : Stream) : Solo :=
  ⟨tunnel.ends .gateway stream, tunnel.up, tunnel.done⟩

def Tunnel.Counted {Stream : Type} (tunnel : Tunnel Stream) : Prop :=
  ∀ stream, (tunnel.ends .gateway stream).Counted

section Counted

variable {Stream : Type} [DecidableEq Stream] {cfg : TunnelConfig Stream}

theorem counted_step {before after : Tunnel Stream} {action : TunnelAction Stream}
    (counted : before.Counted) (stepped : TunnelStep cfg before action after) :
    after.Counted := by
  intro stream
  have change := ends_step stepped .gateway stream
  have wasCounted := counted stream
  generalize after.ends .gateway stream = state at change
  cases change with
  | same | closed | delivered => exact wasCounted
  | advanced _ _ _ moved => exact counted_endStep wasCounted moved
  | registered | started | ended => exact counted_of_phase (by simp)
  | unbuilt | writeFailed => exact counted_afterWrite wasCounted _
  | written => exact counted_afterWrite wasCounted none

theorem counted_reached {tunnel : Tunnel Stream} (reached : Reaches (Tunnel.step cfg) {} tunnel) :
    tunnel.Counted := by
  refine reaches_invariant ?_ ?_ reached
  · intro before action after counted stepped
    exact counted_step counted (tunnel_step_inv stepped)
  · exact fun stream => counted_of_phase (by simp)

end Counted

def Reader.work : Reader → Nat
  | .returned => 0
  | _ => 1

def Writer.work : Writer → Nat
  | .handling _ => 2
  | .selecting => 1
  | .returned => 0

def Waiter.work : Waiter → Nat
  | .first => 4
  | .second _ => 3
  | .notifying _ _ => 2
  | .returned _ => 1

def Relay.work (relay : Relay) : Nat := relay.reader.work + relay.writer.work + relay.waiter.work

def Phase.work : Phase → Nat
  | .relaying relay => relay.work + 1
  | .leaving _ => 1
  | _ => 0

/-- The end has a relay that does not wait, or no relay any more. -/
def Phase.Leaves : Phase → Prop
  | .relaying relay => relay.Counted ∧ ¬ relay.Waits
  | .leaving _ | .ended _ => True
  | _ => False

def Phase.HasEnded : Phase → Prop
  | .ended _ => True
  | _ => False

section Progress

variable {cfg : StreamConfig} {solo : Solo} {relay : Relay}

def Solo.Progress (cfg : StreamConfig) (solo : Solo) : Prop :=
  ∃ action next, solo.ownStep cfg action = some next ∧ next.own.phase.Leaves ∧
    next.own.phase.work < solo.own.phase.work

theorem not_waits_of_cause (cancelled : relay.cause.isSome) : ¬ relay.Waits := by
  rintro ⟨running, _⟩
  rw [running] at cancelled
  cases cancelled

theorem not_waits_of_reader (gone : relay.reader = .returned) : ¬ relay.Waits := by
  rintro ⟨_, reading, _⟩
  rw [gone] at reading
  cases reading

theorem not_waits_of_writer (gone : relay.writer = .returned) : ¬ relay.Waits := by
  rintro ⟨_, _, selecting | ⟨_, _, handling, _⟩⟩
  · rw [gone] at selecting
    cases selecting
  · rw [gone] at handling
    cases handling

theorem progress_relay {event : RelayEvent} {state : End} {after : Relay}
    (relaying : solo.own.phase = .relaying relay) (counted : relay.Counted)
    (own : solo.isOwn (.event (.relay event)))
    (stepped : relayStep publicLeg solo.own relay event = some state)
    (phase : state.phase = .relaying after) (moving : ¬ after.Waits)
    (closer : after.work < relay.work) : solo.Progress cfg := by
  have moved : endStep .gateway solo.done solo.own (.relay event) = some state := by
    simp only [endStep, relaying]
    exact stepped
  refine ⟨.event (.relay event), { solo with own := state }, ?_, ?_, ?_⟩
  · simp [Solo.ownStep, own, Solo.step, moved]
  · rw [phase]
    exact ⟨counted_relayStep counted (relayStep_inv stepped) after phase, moving⟩
  · rw [phase, relaying]
    simp only [Phase.work]
    omega

variable {result : Except FrameError Frame}

theorem progress_write (relaying : solo.own.phase = .relaying relay) (counted : relay.Counted)
    (outgoing : relay.outgoing cfg = some result) (moving : ¬ (relay.afterWrite (some none)).Waits)
    (closer : (relay.afterWrite (some none)).work < relay.work) : solo.Progress cfg := by
  have out : solo.own.outgoing cfg = some result := by
    simp only [End.outgoing, relaying, outgoing]
  have phase : (solo.own.afterWrite (some none)).phase =
      .relaying (relay.afterWrite (some none)) := by
    simp only [End.afterWrite, relaying, End.setRelay]
  have leaves : (solo.own.afterWrite (some none)).phase.Leaves := by
    rw [phase]
    exact ⟨counted.afterWrite _, moving⟩
  have less : (solo.own.afterWrite (some none)).phase.work < solo.own.phase.work := by
    rw [phase, relaying]
    simp only [Phase.work]
    omega
  cases result with
  | error =>
    refine ⟨.write, { solo with own := solo.own.afterWrite (some none) }, ?_, leaves, less⟩
    simp [Solo.ownStep, Solo.isOwn, Solo.step, out]
  | ok =>
    refine ⟨.writeFailed none,
      { solo with own := solo.own.afterWrite (some none), up := false }, ?_, leaves, less⟩
    simp [Solo.ownStep, Solo.isOwn, Solo.step, out]

theorem isOwn_readFailed (relaying : solo.own.phase = .relaying relay)
    (cancelled : relay.cause.isSome) (err : ReadError) :
    solo.isOwn (.event (.relay (.readFailed err))) = true := by
  simp only [Solo.isOwn, relaying]
  exact cancelled

theorem progress_receive {err : Option RelayError} {rest : List (Option RelayError)}
    (relaying : solo.own.phase = .relaying relay) (counted : relay.Counted)
    (errCh : relay.errCh = err :: rest) : solo.Progress cfg := by
  have results := counted.results
  have reader := relay.reader.gone_le
  have writer := relay.writer.gone_le
  rw [errCh, List.length_cons] at results
  cases waiter : relay.waiter with
  | first =>
    have stepped : relayStep publicLeg solo.own relay .receive = some (solo.own.setRelay
        ({ relay with waiter := .second err, errCh := rest }.cancel .canceled)) := by
      simp only [relayStep, waiter, errCh]
    refine progress_relay relaying counted rfl stepped rfl (not_waits_of_cause rfl) ?_
    simp only [Relay.work, Relay.cancel, waiter, Waiter.work]
    omega
  | second first =>
    have stepped : relayStep publicLeg solo.own relay .receive = some (solo.own.setRelay
        { relay with waiter := publicLeg.finish (relayOutcome first err), errCh := rest }) := by
      simp only [relayStep, waiter, errCh]
    have cancelled := counted.cancelled (by simp [waiter, Waiter.received])
    have last : (publicLeg.finish (relayOutcome first err)).work < 3 := by
      unfold Leg.finish
      split
      · decide
      · split <;> simp [Waiter.work]
    refine progress_relay relaying counted rfl stepped rfl (not_waits_of_cause cancelled) ?_
    simp only [Relay.work, waiter, Waiter.work] at last ⊢
    omega
  | notifying | returned =>
    rw [waiter, Waiter.received] at results
    omega

theorem progress_writer (relaying : solo.own.phase = .relaying relay) (counted : relay.Counted)
    (moving : ¬ relay.Waits) (running : relay.writer ≠ .returned)
    (stopped : relay.cause.isSome = true ∨ relay.reader = .reading) : solo.Progress cfg := by
  cases writer : relay.writer with
  | returned => exact absurd writer running
  | selecting =>
    have cancelled : relay.cause.isSome = true := by
      rcases stopped with cancelled | reading
      · exact cancelled
      · rw [Option.isSome_iff_ne_none]
        exact fun none => moving ⟨none, reading, .inl writer⟩
    obtain ⟨cause, isCause⟩ := Option.isSome_iff_exists.mp cancelled
    have stepped : relayStep publicLeg solo.own relay .contextEnded = some (solo.own.setRelay
        (relay.returnWriter (some (.context (publicLeg.contextError cause))))) := by
      simp only [relayStep, writer, isCause]
    refine progress_relay relaying counted rfl stepped rfl (not_waits_of_writer rfl) ?_
    simp only [Relay.work, Relay.returnWriter, writer, Writer.work]
    omega
  | handling msg =>
    have stepped : relayStep publicLeg solo.own relay .handle =
        some (solo.own.handleMessage relay msg) := by
      simp only [relayStep, writer]
    rcases handleMessage_phase solo.own relay msg with ⟨item, isItem, phase⟩ | ⟨_, _, phase⟩
    · have moved : ¬ ({ relay with writer := .selecting } : Relay).Waits := by
        rintro ⟨none, reading, _⟩
        exact moving ⟨none, reading, .inr ⟨msg, item, writer, isItem⟩⟩
      refine progress_relay relaying counted rfl stepped phase moved ?_
      simp only [Relay.work, writer, Writer.work]
      omega
    · refine progress_relay relaying counted rfl stepped phase (not_waits_of_writer rfl) ?_
      simp only [Relay.work, Relay.returnWriter, writer, Writer.work]
      omega

theorem progress_reader (relaying : solo.own.phase = .relaying relay) (counted : relay.Counted)
    (running : relay.reader.work = 1) (outgoing : relay.outgoing cfg = some result)
    (returns : ∃ err, relay.afterWrite (some none) = relay.returnReader err) :
    solo.Progress cfg := by
  obtain ⟨_, wrote⟩ := returns
  refine progress_write relaying counted outgoing ?_ ?_
  · rw [wrote]
    exact not_waits_of_reader rfl
  · rw [wrote]
    have less : (Reader.returned).work < relay.reader.work := by rw [running]; exact Nat.zero_lt_one
    simp only [Relay.work, Relay.returnReader]
    omega

theorem progress_of_pumps (relaying : solo.own.phase = .relaying relay)
    (counted : relay.Counted) (moving : ¬ relay.Waits) (errCh : relay.errCh = [])
    (pending : relay.waiter.received < 2) : solo.Progress cfg := by
  have results := counted.results
  rw [errCh, List.length_nil, Nat.zero_add] at results
  cases reader : relay.reader with
  | sending item =>
    have outgoing : relay.outgoing cfg =
        some (binaryBody item.kind.frameType cfg.id cfg.tunnelID item.data) := by
      simp only [Relay.outgoing, reader]
    refine progress_reader relaying counted (by rw [reader]; rfl) outgoing
      ⟨some (.tunnelWrite none), ?_⟩
    simp only [Relay.afterWrite, reader]
  | notifying notice result =>
    have outgoing : relay.outgoing cfg = some (.ok (cfg.text notice.typ notice.payload)) := by
      simp only [Relay.outgoing, reader]
    refine progress_reader relaying counted (by rw [reader]; rfl) outgoing ⟨result, ?_⟩
    simp only [Relay.afterWrite, reader]
  | returned =>
    rw [reader, Reader.gone] at results
    have cancelled := counted.cancelled (by omega)
    have running : relay.writer ≠ .returned := by
      intro gone
      rw [gone, Writer.gone] at results
      omega
    exact progress_writer relaying counted moving running (.inl cancelled)
  | reading =>
    cases isCause : relay.cause with
    | some cause =>
      have cancelled : relay.cause.isSome = true := by rw [isCause]; rfl
      have stepped : relayStep publicLeg solo.own relay (.readFailed .failure) =
          some (solo.own.setRelay
            (relay.returnReader (some (.context (publicLeg.contextError cause))))) := by
        simp only [relayStep, reader, Relay.readFailed, isCause]
      refine progress_relay relaying counted (isOwn_readFailed relaying cancelled .failure)
        stepped rfl (not_waits_of_reader rfl) ?_
      simp only [Relay.work, Relay.returnReader, reader, Reader.work]
      omega
    | none =>
      have running : relay.writer ≠ .returned := by
        intro gone
        simp only [reader, gone, Reader.gone, Writer.gone] at results
        have cancelled := counted.cancelled (by omega)
        rw [isCause] at cancelled
        cases cancelled
      exact progress_writer relaying counted moving running (.inr reader)

theorem progress_of_relay (relaying : solo.own.phase = .relaying relay)
    (counted : relay.Counted) (moving : ¬ relay.Waits) : solo.Progress cfg := by
  cases waiter : relay.waiter with
  | returned outcome =>
    refine ⟨.event .relayReturned,
      { solo with own := { solo.own with phase := .leaving (.relayed outcome) } }, ?_,
      trivial, ?_⟩
    · simp [Solo.ownStep, Solo.isOwn, Solo.step, endStep, relaying, waiter]
    · rw [relaying]
      simp only [Phase.work, Relay.work, waiter, Waiter.work]
      omega
  | notifying notice outcome =>
    have gone : relay.reader = .returned := (counted.returned (by rw [waiter]; rfl)).1
    have wrote : relay.afterWrite (some none) =
        { relay with waiter := .returned (some outcome) } := by
      simp only [Relay.afterWrite, gone, waiter]
    have outgoing : relay.outgoing cfg = some (.ok (cfg.text notice.typ notice.payload)) := by
      simp only [Relay.outgoing, gone, waiter]
    refine progress_write relaying counted outgoing ?_ ?_
    · rw [wrote]
      exact not_waits_of_reader gone
    · rw [wrote]
      simp only [Relay.work, waiter, Waiter.work]
      omega
  | first | second =>
    cases errCh : relay.errCh with
    | cons => exact progress_receive relaying counted errCh
    | nil =>
      refine progress_of_pumps relaying counted moving errCh ?_
      simp [waiter, Waiter.received]

theorem progress_of_leaves (leaves : solo.own.phase.Leaves) (goesOn : ¬ solo.own.phase.HasEnded) :
    solo.Progress cfg := by
  cases phase : solo.own.phase with
  | relaying =>
    rw [phase] at leaves
    exact progress_of_relay phase leaves.1 leaves.2
  | leaving ending =>
    refine ⟨.cleanUp, { solo with own := { solo.own with phase := .ended ending } }, ?_, trivial,
      ?_⟩
    · simp [Solo.ownStep, Solo.isOwn, Solo.step, phase]
    · rw [phase]
      exact Nat.zero_lt_one
  | ended =>
    rw [phase] at goesOn
    exact absurd trivial goesOn
  | _ =>
    rw [phase] at leaves
    exact leaves.elim

theorem ends_of_leaves (leaves : solo.own.phase.Leaves) : solo.Ends cfg := by
  have progress : ∀ solo : Solo, solo.own.phase.Leaves → ¬ solo.own.phase.HasEnded →
      solo.Progress cfg := fun _ leaves goesOn => progress_of_leaves leaves goesOn
  obtain ⟨last, reached, isOver⟩ := reaches_of_progress _ _ _ progress leaves
  cases phase : last.own.phase with
  | ended ending => exact ⟨last, ending, reached, phase⟩
  | _ =>
    rw [phase] at isOver
    exact isOver.elim

end Progress

/-- The relay waits, and no message and no result will wake it. -/
def Solo.Stuck (solo : Solo) : Prop :=
  ∃ relay, solo.own.phase = .relaying relay ∧ relay.Waits ∧ relay.waiter = .first ∧
    relay.errCh = [] ∧ solo.own.queue.receive? = none

section Stuck

variable {cfg : StreamConfig} {solo next : Solo}

theorem ownStep_inv {action : SoloAction} (stepped : solo.ownStep cfg action = some next) :
    solo.isOwn action = true ∧ SoloStep .gateway cfg solo action next := by
  obtain ⟨own, moved⟩ := Option.ite_none_right_eq_some.mp stepped
  exact ⟨own, solo_step_inv moved⟩

theorem stuck_relayStep {relay : Relay} {event : RelayEvent} {state : End}
    (relaying : solo.own.phase = .relaying relay) (waits : relay.Waits)
    (first : relay.waiter = .first) (errCh : relay.errCh = [])
    (drained : solo.own.queue.receive? = none)
    (own : solo.isOwn (.event (.relay event)))
    (moved : RelayStep publicLeg solo.own relay event state) :
    ({ solo with own := state } : Solo).Stuck := by
  obtain ⟨running, reading, writer⟩ := waits
  cases moved with
  | contextDone | read => cases own
  | readFailed =>
    simp only [Solo.isOwn, relaying, running] at own
    cases own
  | take _ _ _ received => cases drained.symm.trans received
  | contextEnded _ _ ended => cases running.symm.trans ended
  | handle msg handling =>
    obtain ⟨_, _, _, same⟩ := handleMessage_eq solo.own relay msg
    rcases handleMessage_phase solo.own relay msg with ⟨item, _, isPhase⟩ | ⟨noItem, _, _⟩
    · refine ⟨_, isPhase, ⟨running, reading, .inl rfl⟩, first, errCh, ?_⟩
      rw [same]
      exact drained
    · rcases writer with selecting | ⟨_, _, isOther, isItem⟩
      · cases selecting.symm.trans handling
      · cases isOther.symm.trans handling
        cases noItem.symm.trans isItem
  | legWriteFailed => cases own
  | receiveFirst _ _ _ isErrCh | receiveSecond _ _ _ _ isErrCh =>
    cases errCh.symm.trans isErrCh

theorem stuck_ownStep {action : SoloAction} (stuck : solo.Stuck)
    (stepped : solo.ownStep cfg action = some next) : next.Stuck := by
  obtain ⟨relay, relaying, waits, first, errCh, drained⟩ := stuck
  obtain ⟨own, moved⟩ := ownStep_inv stepped
  have silent : solo.own.outgoing cfg = none := by
    simp only [End.outgoing, relaying, Relay.outgoing, waits.2.1, first]
  cases moved with
  | event event state moved =>
    cases moved with
    | relay _ _ _ isOther moved =>
      cases relaying.symm.trans isOther
      exact stuck_relayStep relaying waits first errCh drained own moved
    | relayReturned _ _ isOther returned =>
      cases relaying.symm.trans isOther
      cases first.symm.trans returned
    | undialled _ _ _ dialling => cases relaying.symm.trans dialling
    | _ => cases own
  | deliver => cases own
  | unbuilt _ outgoing | written _ outgoing | writeFailed _ _ outgoing =>
    cases silent.symm.trans outgoing
  | connectionLost | closeDone => cases own
  | cleanUp _ leaving => cases relaying.symm.trans leaving

theorem not_ends_of_stuck (stuck : solo.Stuck) : ¬ solo.Ends cfg := by
  rintro ⟨_, _, reached, ended⟩
  obtain ⟨_, relaying, _⟩ :=
    reaches_invariant (fun _ _ _ stuck stepped => stuck_ownStep stuck stepped) stuck reached
  cases relaying.symm.trans ended

theorem stuck_of_waits {relay : Relay} (relaying : solo.own.phase = .relaying relay)
    (counted : relay.Counted) (waits : relay.Waits) (drained : solo.own.queue.items = []) :
    solo.Stuck := by
  have results := counted.results
  have reader : relay.reader.gone = 0 := by rw [waits.2.1]; rfl
  have writer : relay.writer.gone = 0 := by
    rcases waits.2.2 with selecting | ⟨_, _, handling, _⟩
    · rw [selecting]; rfl
    · rw [handling]; rfl
  have empty : relay.errCh.length = 0 := by omega
  have none : relay.waiter.received = 0 := by omega
  refine ⟨relay, relaying, waits, ?_, List.length_eq_zero_iff.mp empty,
    (Channel.receive?_eq_none_iff _).mpr drained⟩
  cases waiter : relay.waiter with
  | first => rfl
  | _ =>
    rw [waiter, Waiter.received] at none
    cases none

end Stuck

section Session

variable {Stream : Type} [DecidableEq Stream]

/-- The session of a relay is done, its read loop has returned, and the relay has taken
every message it was given. -/
structure Tunnel.Drained (tunnel : Tunnel Stream) (stream : Stream) (relay : Relay) : Prop where
  stopped : tunnel.loop .gateway = .stopped
  isDone : tunnel.done = true
  relaying : (tunnel.ends .gateway stream).phase = .relaying relay
  drained : (tunnel.ends .gateway stream).queue.items = []

/-- A relay whose session is done gets to its end by itself, and closes the public connection, if
and only if its context has ended or one of its pumps is on its way out. -/
theorem relay_ends_iff (cfg : TunnelConfig Stream) (tunnel : Tunnel Stream) (stream : Stream)
    (relay : Relay) (reached : Reaches (Tunnel.step cfg) {} tunnel)
    (drained : tunnel.Drained stream relay) :
    (tunnel.solo stream).Ends (cfg.stream stream) ↔ ¬ relay.Waits := by
  have relaying : (tunnel.solo stream).own.phase = .relaying relay := drained.relaying
  have counted : relay.Counted := counted_reached reached stream relay drained.relaying
  constructor
  · intro ends waits
    exact not_ends_of_stuck (stuck_of_waits relaying counted waits drained.drained) ends
  · intro moving
    apply ends_of_leaves
    rw [relaying]
    exact ⟨counted, moving⟩

end Session

/-- A relay is set up, the connection of the agent breaks, and the read loop returns. -/
def sessionLost : List (TunnelAction Bool) :=
  [.register true, .write .gateway true, .read .agent, .advance .agent true (.dialled []),
    .write .agent true, .read .gateway, .deliver .gateway, .advance .gateway true .answer,
    .advance .gateway true .upgraded, .connectionLost, .readFailed .gateway]

def clientSpeaks : List (TunnelAction Bool) :=
  sessionLost ++ [.advance .gateway true (.relay (.read ⟨.text, ascii "hello"⟩))]

theorem relay_outlives_session :
    ∃ tunnel, exec (Tunnel.step chatConfig) {} sessionLost = some tunnel ∧
      tunnel.up = false ∧ tunnel.Drained true {} ∧
      ¬ (tunnel.solo true).Ends (chatConfig.stream true) := by
  refine ⟨_, rfl, rfl, ⟨rfl, rfl, rfl, rfl⟩, not_ends_of_stuck ?_⟩
  exact ⟨{}, rfl, ⟨rfl, rfl, .inl rfl⟩, rfl, rfl, rfl⟩

theorem relay_ends_client_speaks :
    ∃ tunnel, exec (Tunnel.step chatConfig) {} clientSpeaks = some tunnel ∧
      tunnel.Drained true { reader := .sending ⟨.text, ascii "hello"⟩ } ∧
      (tunnel.solo true).Ends (chatConfig.stream true) := by
  have executed : ∃ tunnel, exec (Tunnel.step chatConfig) {} clientSpeaks = some tunnel ∧
      tunnel.Drained true { reader := .sending ⟨.text, ascii "hello"⟩ } :=
    ⟨_, rfl, rfl, rfl, rfl, rfl⟩
  obtain ⟨tunnel, executed, drained⟩ := executed
  refine ⟨tunnel, executed, drained, ?_⟩
  refine (relay_ends_iff chatConfig tunnel true _ ⟨clientSpeaks, executed⟩ drained).mpr ?_
  rintro ⟨_, reading, _⟩
  cases reading

end Porthook.WebSocket
