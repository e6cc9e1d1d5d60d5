import Porthook.Foundations.Channel
import Porthook.Foundations.Transition
import Porthook.Gateway.PublicRequest
import Porthook.Gateway.RequestBody

/-!
# Telling the agent that a stream is given up

`streamRoundTrip`, write by write and read by read: between any two of its steps its context may
end, the session or the connection may go down, and the read loop may fill its queue.
`outcome_of_returned` connects the steps to `streamRoundTrip`.
-/

namespace Porthook.Gateway

open Porthook.Protocol Transition

/-- The arguments of `streamRoundTrip`; `hasBody` is false for a nil body. -/
structure TripConfig where
  hasBody : Bool := true
  maxBodyBytes : Int
  chunkBytes : Int
  write : PublicWriter

inductive TripPhase where
  | writingStart
  | readingBody
  | writingChunk (ended : Option (Except (Option ContextCause) Unit))
  | writingEnd
  | selecting
  | handling (msg : Message)
  | cancelling (err : StreamError)
  | returned (err : Option StreamError)

/-- The variables of a round trip from the registration of its queue on.  `request` and
`events` keep how the request went and what the `select` has picked. -/
structure RoundTrip where
  phase : TripPhase := .writingStart
  cause : Option ContextCause := none
  done : Bool := false
  up : Bool := true
  queue : Channel Message := .make 32
  startWritten : Bool := false
  sent : Int := 0
  read : ReadState := {}
  request : Option RequestPhase := none
  events : List StreamEvent := []

/-- `refused` and `broken` are the two ways in which a write fails. -/
inductive TripAction where
  | contextDone (cause : ContextCause)
  | closeDone
  | connectionLost
  | deliver (msg : Message)
  | written
  | refused (cause : Option ContextCause)
  | broken (cause : Option ContextCause)
  | readBody (size : Nat) (ended : Option (Except (Option ContextCause) Unit))
  | receive
  | handle
  | pickContext
  | pickDone

def RoundTrip.bodyFailed (trip : RoundTrip) (err : StreamError) : RoundTrip :=
  { trip with
    phase := .cancelling err
    request := some (.bodyFailed trip.sent err)
    read :=
      { result := { requestBytes := trip.sent }, cancels := [streamCancelReasonForError err] } }

def RoundTrip.bodyRead (trip : RoundTrip) :
    Option (Except (Option ContextCause) Unit) → RoundTrip
  | none => { trip with phase := .readingBody }
  | some (.ok _) => { trip with phase := .writingEnd }
  | some (.error cause) => trip.bodyFailed (.readRequestBody cause)

/-- `readStreamResponse` has returned; the error decides whether the stream is
cancelled. -/
def RoundTrip.responseRead (trip : RoundTrip) (read : ReadState) :
    Option StreamError → RoundTrip
  | none => { trip with read, phase := .returned none }
  | some err =>
    if isStreamContextDoneCause err then { trip with read, phase := .returned (some err) }
    else
      { trip with
        read := { read with cancels := read.cancels ++ [streamCancelReasonForError err] }
        phase := .cancelling err }

def RoundTrip.writeFailed (trip : RoundTrip) (cause : Option ContextCause) : Option RoundTrip :=
  match trip.phase with
  | .writingStart => some { trip with
      phase := .returned (some (.writeTunnel cause)), request := some (.startFailed cause) }
  | .writingChunk _ => some (trip.bodyFailed (.writeTunnel cause))
  | .writingEnd => some { trip with
      phase := .returned (some (.writeTunnel cause))
      request := some (.endFailed trip.sent cause)
      read := { result := { requestBytes := trip.sent } } }
  | .cancelling err => some { trip with phase := .returned (some err) }
  | _ => none

def RoundTrip.step (cfg : TripConfig) (trip : RoundTrip) : TripAction → Option RoundTrip
  | .contextDone cause => some { trip with cause := some (trip.cause.getD cause) }
  | .closeDone => some { trip with done := true }
  | .connectionLost => some { trip with up := false }
  | .deliver msg => (trip.queue.send? msg).map fun queue => { trip with queue }
  | .written =>
    if trip.up then
      match trip.phase with
      | .writingStart => some { trip with
          startWritten := true
          phase := if cfg.hasBody then .readingBody else .writingEnd }
      | .writingChunk ended => some (trip.bodyRead ended)
      | .writingEnd => some { trip with
          phase := .selecting
          request := some (.sent trip.sent)
          read := { result := { requestBytes := trip.sent } } }
      | .cancelling err => some { trip with phase := .returned (some err) }
      | _ => none
    else none
  | .refused cause => if trip.cause.isSome then trip.writeFailed cause else none
  | .broken cause => (trip.writeFailed cause).map fun trip => { trip with up := false }
  | .readBody size ended =>
    match trip.phase with
    | .readingBody =>
      if size = 0 then some (trip.bodyRead ended)
      else
        let trip := { trip with sent := trip.sent + size }
        if trip.sent > effectiveMaxBodyBytes cfg.maxBodyBytes then
          some (trip.bodyFailed .requestBodyTooLarge)
        else some { trip with phase := .writingChunk ended }
    | _ => none
  | .receive =>
    match trip.phase with
    | .selecting => trip.queue.receive?.map fun taken =>
      { trip with
        queue := taken.2
        phase := .handling taken.1
        events := trip.events ++ [.message taken.1] }
    | _ => none
  | .handle =>
    match trip.phase with
    | .handling msg =>
      match handleResponseMessage cfg.write (effectiveChunkBytes cfg.chunkBytes) trip.read
          msg with
      | .next read => some { trip with read, phase := .selecting }
      | .done read err => some (trip.responseRead read err)
    | _ => none
  | .pickContext =>
    -- this branch cancels the stream itself
    match trip.phase, trip.cause with
    | .selecting, some cause => some { trip with
        phase := .cancelling (.context cause)
        read := { trip.read with cancels := trip.read.cancels ++ [streamCancelReason cause] }
        events := trip.events ++ [.contextDone cause] }
    | _, _ => none
  | .pickDone =>
    match trip.phase with
    | .selecting =>
      if trip.done then
        some { trip.responseRead trip.read (some .agentDisconnected) with
          events := trip.events ++ [.sessionDone] }
      else none
    | _ => none

def isTerminal : MessageType → Bool
  | .httpResponseEnd | .httpStreamError | .httpResponse => true
  | _ => false

/-- The agent knows that the stream is over: it has said so itself, or an
`http.stream.cancel` was attempted. -/
def RoundTrip.AgentTold (trip : RoundTrip) : Prop :=
  (∃ msg, .message msg ∈ trip.events ∧ isTerminal msg.envelope.typ = true) ∨
    trip.read.cancels ≠ []

/-- A round trip that has returned after its start was written, with the session up, has
told the agent. -/
def RoundTrip.Cancelled (trip : RoundTrip) : Prop :=
  ∀ err, trip.phase = .returned err → trip.startWritten = true → trip.up = true →
    trip.done = false → trip.AgentTold

/-- The write of `http.request.end` is not given up for its context while the session is
up. -/
def RoundTrip.EndsRequest (trip : RoundTrip) : TripAction → Prop
  | .refused _ => trip.phase = .writingEnd → trip.up = false ∨ trip.done = true
  | _ => True

inductive WriteFails (trip : RoundTrip) (cause : Option ContextCause) : RoundTrip → Prop where
  | start : trip.phase = .writingStart → WriteFails trip cause { trip with
      phase := .returned (some (.writeTunnel cause)), request := some (.startFailed cause) }
  | chunk (ended : Option (Except (Option ContextCause) Unit)) :
      trip.phase = .writingChunk ended →
      WriteFails trip cause (trip.bodyFailed (.writeTunnel cause))
  | last : trip.phase = .writingEnd → WriteFails trip cause { trip with
      phase := .returned (some (.writeTunnel cause))
      request := some (.endFailed trip.sent cause)
      read := { result := { requestBytes := trip.sent } } }
  | cancel (err : StreamError) : trip.phase = .cancelling err →
      WriteFails trip cause { trip with phase := .returned (some err) }

/-- The steps of a round trip, one constructor per outcome. -/
inductive TripStep (cfg : TripConfig) (trip : RoundTrip) : TripAction → RoundTrip → Prop where
  | contextDone (cause : ContextCause) :
      TripStep cfg trip (.contextDone cause) { trip with cause := some (trip.cause.getD cause) }
  | closeDone : TripStep cfg trip .closeDone { trip with done := true }
  | connectionLost : TripStep cfg trip .connectionLost { trip with up := false }
  | deliver (msg : Message) (queue : Channel Message) :
      TripStep cfg trip (.deliver msg) { trip with queue }
  | startWritten (phase : TripPhase) : trip.phase = .writingStart →
      (phase = .readingBody ∨ phase = .writingEnd) →
      TripStep cfg trip .written { trip with startWritten := true, phase }
  | chunkWritten (ended : Option (Except (Option ContextCause) Unit)) :
      trip.phase = .writingChunk ended → TripStep cfg trip .written (trip.bodyRead ended)
  | endWritten : trip.phase = .writingEnd → TripStep cfg trip .written { trip with
      phase := .selecting
      request := some (.sent trip.sent)
      read := { result := { requestBytes := trip.sent } } }
  | cancelWritten (err : StreamError) : trip.phase = .cancelling err →
      TripStep cfg trip .written { trip with phase := .returned (some err) }
  | refused (cause : Option ContextCause) (next : RoundTrip) : WriteFails trip cause next →
      TripStep cfg trip (.refused cause) next
  | broken (cause : Option ContextCause) (next : RoundTrip) : WriteFails trip cause next →
      TripStep cfg trip (.broken cause) { next with up := false }
  | emptyRead (ended : Option (Except (Option ContextCause) Unit)) : trip.phase = .readingBody →
      TripStep cfg trip (.readBody 0 ended) (trip.bodyRead ended)
  | tooLarge (size : Nat) (ended : Option (Except (Option ContextCause) Unit)) :
      trip.phase = .readingBody →
      TripStep cfg trip (.readBody size ended)
        ({ trip with sent := trip.sent + size }.bodyFailed .requestBodyTooLarge)
  | chunk (size : Nat) (ended : Option (Except (Option ContextCause) Unit)) :
      trip.phase = .readingBody →
      TripStep cfg trip (.readBody size ended)
        { trip with sent := trip.sent + size, phase := .writingChunk ended }
  | receive (msg : Message) (queue : Channel Message) : trip.phase = .selecting →
      TripStep cfg trip .receive { trip with
        queue, phase := .handling msg, events := trip.events ++ [.message msg] }
  | next (msg : Message) (read : ReadState) : trip.phase = .handling msg →
      handleResponseMessage cfg.write (effectiveChunkBytes cfg.chunkBytes) trip.read msg =
        .next read →
      TripStep cfg trip .handle { trip with read, phase := .selecting }
  | finish (msg : Message) (read : ReadState) (err : Option StreamError) :
      trip.phase = .handling msg →
      handleResponseMessage cfg.write (effectiveChunkBytes cfg.chunkBytes) trip.read msg =
        .done read err →
      TripStep cfg trip .handle (trip.responseRead read err)
  | pickContext (cause : ContextCause) : trip.phase = .selecting → trip.cause = some cause →
      TripStep cfg trip .pickContext { trip with
        phase := .cancelling (.context cause)
        read := { trip.read with cancels := trip.read.cancels ++ [streamCancelReason cause] }
        events := trip.events ++ [.contextDone cause] }
  | pickDone : trip.phase = .selecting → trip.done = true →
      TripStep cfg trip .pickDone
        { trip.responseRead trip.read (some .agentDisconnected) with
          events := trip.events ++ [.sessionDone] }

section Steps

variable {cfg : TripConfig} {trip next : RoundTrip} {action : TripAction}

variable {cause : Option ContextCause} {write : PublicWriter} {chunkBytes : Int}
    {state after : ReadState} {events : List StreamEvent}

theorem writeFailed_inv
    (failed : trip.writeFailed cause = some next) : WriteFails trip cause next := by
  unfold RoundTrip.writeFailed at failed
  split at failed <;> cases failed
  next phase => exact .start phase
  next ended phase => exact .chunk ended phase
  next phase => exact .last phase
  next err phase => exact .cancel err phase

theorem trip_step_inv (stepped : trip.step cfg action = some next) :
    TripStep cfg trip action next := by
  cases action with
  | contextDone cause => cases stepped; exact .contextDone cause
  | closeDone => cases stepped; exact .closeDone
  | connectionLost => cases stepped; exact .connectionLost
  | deliver msg =>
    obtain ⟨queue, -, rfl⟩ := Option.map_eq_some_iff.mp stepped
    exact .deliver msg queue
  | written =>
    simp only [RoundTrip.step] at stepped
    split at stepped
    · split at stepped <;> cases stepped
      next phase =>
        refine .startWritten _ phase ?_
        cases cfg.hasBody <;> simp
      next ended phase => exact .chunkWritten ended phase
      next phase => exact .endWritten phase
      next err phase => exact .cancelWritten err phase
    · cases stepped
  | refused cause =>
    simp only [RoundTrip.step] at stepped
    split at stepped
    · exact .refused cause next (writeFailed_inv stepped)
    · cases stepped
  | broken cause =>
    obtain ⟨after, failed, rfl⟩ := Option.map_eq_some_iff.mp stepped
    exact .broken cause after (writeFailed_inv failed)
  | readBody size ended =>
    simp only [RoundTrip.step] at stepped
    repeat' split at stepped
    all_goals cases stepped
    next phase empty =>
      subst empty
      exact .emptyRead ended phase
    next phase _ _ => exact .tooLarge size ended phase
    next phase _ _ => exact .chunk size ended phase
  | receive =>
    simp only [RoundTrip.step] at stepped
    split at stepped
    next phase =>
      obtain ⟨⟨msg, queue⟩, -, rfl⟩ := Option.map_eq_some_iff.mp stepped
      exact .receive msg queue phase
    · cases stepped
  | handle =>
    simp only [RoundTrip.step] at stepped
    split at stepped
    next msg phase =>
      split at stepped <;> cases stepped
      next read handled => exact .next msg read phase handled
      next read err handled => exact .finish msg read err phase handled
    · cases stepped
  | pickContext =>
    simp only [RoundTrip.step] at stepped
    split at stepped <;> cases stepped
    next cause phase ended => exact .pickContext cause phase ended
  | pickDone =>
    simp only [RoundTrip.step] at stepped
    split at stepped
    next phase =>
      split at stepped <;> cases stepped
      next isDone => exact .pickDone phase isDone
    · cases stepped

theorem handleResponseMessage_cause {msg : Message} {err : StreamError}
    (failed : handleResponseMessage write chunkBytes state msg = .done after (some err)) :
    isStreamContextDoneCause err = false := by
  have chunkError {chunk : Message} {limit : Int} {met : StreamError}
      (rejected : responseBodyChunk chunk limit = .error met) :
      isStreamContextDoneCause met = false := by
    unfold responseBodyChunk at rejected
    dsimp only at rejected
    split at rejected
    next found =>
      cases rejected
      split at found
      · cases found
      · split at found <;> cases found; rfl
    · split at rejected <;> cases rejected; rfl
  have writeError {before : ReadState} {chunk : Bytes} {met : StreamError}
      (broken : (before.writeResponseBody write chunk).2 = some met) :
      isStreamContextDoneCause met = false := by
    rcases writeResponseBody_snd write before chunk with none | short | ⟨_, failed⟩
    · rw [none] at broken
      cases broken
    · rw [short] at broken
      cases broken
      rfl
    · rw [failed] at broken
      cases broken
      rfl
  unfold handleResponseMessage at failed
  split at failed
  · split at failed <;> cases failed; rfl
  · repeat' split at failed
    all_goals cases failed
    next rejected => exact chunkError rejected
    next passed => exact writeError (congrArg Prod.snd passed)
    rfl
  · split at failed <;> cases failed
  · simp only [Flow.done.injEq] at failed
    have broken := failed.2
    unfold handleWholeResponse at broken
    split at broken
    · cases broken; rfl
    dsimp only at broken
    split at broken
    · cases broken
    · exact writeError broken
  · split at failed <;> cases failed <;> rfl
  · cases failed; rfl

theorem handleResponseMessage_terminal {msg : Message}
    (finished : handleResponseMessage write chunkBytes state msg = .done after none) :
    isTerminal msg.envelope.typ = true := by
  unfold handleResponseMessage at finished
  split at finished
  · split at finished <;> cases finished
  · split at finished
    · split at finished
      · cases finished
      · split at finished <;> cases finished
    · cases finished
  next typ => rw [typ]; rfl
  next typ => rw [typ]; rfl
  next typ => rw [typ]; rfl
  · cases finished

theorem readStreamLoop_append (waits : readStreamLoop write chunkBytes state events = ⟨after, none⟩)
    (more : List StreamEvent) :
    readStreamLoop write chunkBytes state (events ++ more) =
      readStreamLoop write chunkBytes after more := by
  induction events generalizing state with
  | nil =>
    cases waits
    rfl
  | cons event _ ih =>
    cases event with
    | contextDone | sessionDone => cases waits
    | message msg =>
      simp only [readStreamLoop, List.cons_append] at waits ⊢
      cases handled : handleResponseMessage write chunkBytes state msg with
      | next =>
        rw [handled] at waits
        exact ih waits
      | done =>
        rw [handled] at waits
        cases waits

def RoundTrip.Tracks (cfg : TripConfig) (trip : RoundTrip) : Prop :=
  match trip.phase with
  | .writingStart => trip.startWritten = false ∧ trip.events = [] ∧ trip.read = {}
  | .readingBody | .writingChunk _ | .writingEnd =>
    trip.startWritten = true ∧ trip.events = [] ∧ trip.read = {}
  | .selecting =>
    trip.request = some (.sent trip.sent) ∧
      readStreamResponse cfg.write cfg.chunkBytes { requestBytes := trip.sent } trip.events =
        ⟨trip.read, none⟩
  | .handling msg =>
    trip.request = some (.sent trip.sent) ∧ ∃ before, trip.events = before ++ [.message msg] ∧
      readStreamResponse cfg.write cfg.chunkBytes { requestBytes := trip.sent } before =
        ⟨trip.read, none⟩
  | .cancelling err =>
    trip.read.cancels ≠ [] ∧ ∃ request, trip.request = some request ∧
      streamRoundTrip (.ok ()) request cfg.write cfg.chunkBytes trip.events =
        ⟨trip.read, some (some err)⟩
  | .returned err =>
    ∃ request, trip.request = some request ∧
      streamRoundTrip (.ok ()) request cfg.write cfg.chunkBytes trip.events =
        ⟨trip.read, some err⟩

theorem tracks_bodyFailed (err : StreamError) : (trip.bodyFailed err).Tracks cfg :=
  ⟨by simp [RoundTrip.bodyFailed], _, rfl, rfl⟩

theorem tracks_bodyRead
    (sending : trip.startWritten = true ∧ trip.events = [] ∧ trip.read = {})
    (ended : Option (Except (Option ContextCause) Unit)) : (trip.bodyRead ended).Tracks cfg := by
  unfold RoundTrip.bodyRead
  split
  · exact sending
  · exact sending
  · exact tracks_bodyFailed _

theorem tracks_responseRead {read : ReadState} {err : Option StreamError}
    (sent : trip.request = some (.sent trip.sent))
    (ends : readStreamResponse cfg.write cfg.chunkBytes { requestBytes := trip.sent } events =
      ⟨read, some err⟩) :
    ({ trip.responseRead read err with events } : RoundTrip).Tracks cfg := by
  cases err with
  | none =>
    refine ⟨.sent trip.sent, sent, ?_⟩
    simp only [streamRoundTrip, ends]
    rfl
  | some met =>
    cases isCause : isStreamContextDoneCause met with
    | true =>
      simp only [RoundTrip.responseRead, isCause, if_true]
      refine ⟨.sent trip.sent, sent, ?_⟩
      simp [streamRoundTrip, ends, isCause]
    | false =>
      simp only [RoundTrip.responseRead, isCause, Bool.false_eq_true, if_false]
      refine ⟨by simp, .sent trip.sent, sent, ?_⟩
      simp [streamRoundTrip, ends, isCause]

theorem responseRead_events (read : ReadState) (err : Option StreamError) :
    (trip.responseRead read err).events = trip.events := by
  unfold RoundTrip.responseRead
  split
  · rfl
  · split <;> rfl

theorem tracks_writeFails (tracks : trip.Tracks cfg)
    (failed : WriteFails trip cause next) : next.Tracks cfg := by
  cases failed with
  | start phase =>
    simp only [RoundTrip.Tracks, phase] at tracks
    refine ⟨.startFailed cause, rfl, ?_⟩
    simp only [tracks.2.2]
    rfl
  | chunk => exact tracks_bodyFailed _
  | last => exact ⟨.endFailed trip.sent cause, rfl, rfl⟩
  | cancel _ phase =>
    simp only [RoundTrip.Tracks, phase] at tracks
    exact tracks.2

theorem tracks_step (tracks : trip.Tracks cfg) (stepped : TripStep cfg trip action next) :
    next.Tracks cfg := by
  cases stepped with
  | contextDone | closeDone | connectionLost | deliver => exact tracks
  | startWritten _ writing first =>
    simp only [RoundTrip.Tracks, writing] at tracks
    rcases first with rfl | rfl <;> exact ⟨rfl, tracks.2⟩
  | chunkWritten ended phase =>
    simp only [RoundTrip.Tracks, phase] at tracks
    exact tracks_bodyRead tracks ended
  | endWritten phase =>
    simp only [RoundTrip.Tracks, phase] at tracks
    refine ⟨rfl, ?_⟩
    simp only [tracks.2.1]
    rfl
  | cancelWritten _ phase =>
    simp only [RoundTrip.Tracks, phase] at tracks
    exact tracks.2
  | refused _ _ failed => exact tracks_writeFails tracks failed
  | broken _ _ failed =>
    have after := tracks_writeFails tracks failed
    exact after
  | emptyRead ended phase =>
    simp only [RoundTrip.Tracks, phase] at tracks
    exact tracks_bodyRead tracks ended
  | tooLarge => exact tracks_bodyFailed _
  | chunk _ _ phase =>
    simp only [RoundTrip.Tracks, phase] at tracks
    exact tracks
  | receive _ _ phase =>
    simp only [RoundTrip.Tracks, phase] at tracks
    exact ⟨tracks.1, trip.events, rfl, tracks.2⟩
  | next msg _ phase handled =>
    simp only [RoundTrip.Tracks, phase] at tracks
    obtain ⟨sent, _, events, waits⟩ := tracks
    refine ⟨sent, ?_⟩
    simp only [events]
    refine (readStreamLoop_append waits [.message msg]).trans ?_
    simp only [readStreamLoop, handled]
  | finish msg read err phase handled =>
    simp only [RoundTrip.Tracks, phase] at tracks
    obtain ⟨sent, _, events, waits⟩ := tracks
    have ends : readStreamResponse cfg.write cfg.chunkBytes { requestBytes := trip.sent }
        trip.events = ⟨read, some err⟩ := by
      rw [events]
      refine (readStreamLoop_append waits [.message msg]).trans ?_
      simp only [readStreamLoop, handled]
    have after := @tracks_responseRead cfg trip _ read err sent ends
    rwa [← responseRead_events read err] at after
  | pickContext cause phase =>
    simp only [RoundTrip.Tracks, phase] at tracks
    have isCause : isStreamContextDoneCause (.context cause) = true := by
      cases cause <;> rfl
    have ends : readStreamResponse cfg.write cfg.chunkBytes { requestBytes := trip.sent }
        (trip.events ++ [.contextDone cause]) =
        ⟨{ trip.read with cancels := trip.read.cancels ++ [streamCancelReason cause] },
          some (some (.context cause))⟩ :=
      readStreamLoop_append tracks.2 [.contextDone cause]
    refine ⟨by simp, .sent trip.sent, tracks.1, ?_⟩
    simp [streamRoundTrip, ends, isCause]
  | pickDone phase =>
    simp only [RoundTrip.Tracks, phase] at tracks
    exact tracks_responseRead tracks.1 (readStreamLoop_append tracks.2 [.sessionDone])

theorem cancelled_mono (holds : trip.Cancelled) (phase : next.phase = trip.phase)
    (started : next.startWritten = trip.startWritten) (up : next.up = true → trip.up = true)
    (done : next.done = false → trip.done = false) (read : next.read = trip.read)
    (events : next.events = trip.events) : next.Cancelled := by
  intro err returned written isUp isOpen
  have told := holds err (phase ▸ returned) (started ▸ written) (up isUp) (done isOpen)
  unfold RoundTrip.AgentTold
  rw [read, events]
  exact told

theorem cancelled_of_told (told : next.AgentTold) : next.Cancelled := fun _ _ _ _ _ => told

theorem cancelled_of_running (running : ∀ err, next.phase ≠ .returned err) : next.Cancelled :=
  fun err returned _ _ _ => absurd returned (running err)

theorem cancelled_bodyFailed (err : StreamError) : (trip.bodyFailed err).Cancelled :=
  cancelled_of_told (.inr (by simp [RoundTrip.bodyFailed]))

theorem cancelled_bodyRead (ended : Option (Except (Option ContextCause) Unit)) :
    (trip.bodyRead ended).Cancelled := by
  unfold RoundTrip.bodyRead
  split
  · exact cancelled_of_running (by simp)
  · exact cancelled_of_running (by simp)
  · exact cancelled_bodyFailed _

theorem cancelled_responseRead {read : ReadState} {err : Option StreamError}
    (handled : err = none → (trip.responseRead read err).AgentTold)
    (apart : ∀ met, err = some met → isStreamContextDoneCause met = false) :
    (trip.responseRead read err).Cancelled := by
  cases err with
  | none => exact cancelled_of_told (handled rfl)
  | some met =>
    refine cancelled_of_told (.inr ?_)
    simp [RoundTrip.responseRead, apart met rfl]

theorem cancelled_writeFails_iff (tracks : trip.Tracks cfg) (failed : WriteFails trip cause next) :
    next.Cancelled ↔ (trip.phase = .writingEnd → trip.up = false ∨ trip.done = true) := by
  cases failed with
  | start phase =>
    simp only [RoundTrip.Tracks, phase] at tracks
    refine iff_of_true ?_ fun last => by rw [phase] at last; cases last
    intro err _ written
    cases tracks.1.symm.trans written
  | chunk _ phase =>
    exact iff_of_true (cancelled_bodyFailed _) fun last => by rw [phase] at last; cases last
  | last phase =>
    simp only [RoundTrip.Tracks, phase] at tracks
    constructor
    · intro told _
      by_contra running
      rw [not_or, Bool.not_eq_false, Bool.not_eq_true] at running
      rcases told _ rfl tracks.1 running.1 running.2 with ⟨_, member, -⟩ | cancelled
      · simp only [tracks.2.1, List.not_mem_nil] at member
      · exact cancelled rfl
    · intro down err _ _ isUp isOpen
      rcases down phase with isDown | isDone
      · cases isDown.symm.trans isUp
      · cases isDone.symm.trans isOpen
  | cancel _ phase =>
    simp only [RoundTrip.Tracks, phase] at tracks
    refine iff_of_true (cancelled_of_told (.inr tracks.1)) fun last => ?_
    rw [phase] at last
    cases last

theorem cancelled_step_iff (tracks : trip.Tracks cfg) (holds : trip.Cancelled)
    (stepped : TripStep cfg trip action next) :
    next.Cancelled ↔ trip.EndsRequest action := by
  cases stepped with
  | refused _ _ failed => exact cancelled_writeFails_iff tracks failed
  | contextDone | deliver => exact iff_of_true (cancelled_mono holds rfl rfl id id rfl rfl) trivial
  | closeDone =>
    refine iff_of_true (cancelled_mono holds rfl rfl id ?_ rfl rfl) trivial
    intro isOpen
    cases isOpen
  | connectionLost =>
    refine iff_of_true (cancelled_mono holds rfl rfl ?_ id rfl rfl) trivial
    intro isUp
    cases isUp
  | startWritten _ _ first =>
    refine iff_of_true (cancelled_of_running ?_) trivial
    rcases first with rfl | rfl <;> simp
  | chunkWritten ended => exact iff_of_true (cancelled_bodyRead ended) trivial
  | cancelWritten _ phase =>
    simp only [RoundTrip.Tracks, phase] at tracks
    exact iff_of_true (cancelled_of_told (.inr tracks.1)) trivial
  | broken =>
    refine iff_of_true ?_ trivial
    intro err _ _ isUp
    cases isUp
  | emptyRead ended => exact iff_of_true (cancelled_bodyRead ended) trivial
  | tooLarge => exact iff_of_true (cancelled_bodyFailed _) trivial
  | finish msg _ _ phase handled =>
    simp only [RoundTrip.Tracks, phase] at tracks
    obtain ⟨-, _, events, -⟩ := tracks
    refine iff_of_true (cancelled_responseRead ?_ ?_) trivial
    · rintro rfl
      refine .inl ⟨msg, ?_, handleResponseMessage_terminal handled⟩
      rw [responseRead_events, events]
      simp
    · rintro _ rfl
      exact handleResponseMessage_cause handled
  | pickContext => exact iff_of_true (cancelled_of_running (by simp)) trivial
  | pickDone =>
    refine iff_of_true (cancelled_of_running fun err returned => ?_) trivial
    cases returned
  | endWritten | chunk | receive | next =>
    exact iff_of_true (cancelled_of_running (by simp)) trivial

end Steps

theorem tracks_initial (cfg : TripConfig) : RoundTrip.Tracks cfg {} := ⟨rfl, rfl, rfl⟩

/-- A run tells the agent of every stream that is given up while the session is up exactly
when no write of `http.request.end` is given up then. -/
theorem stream_cancelled_iff (cfg : TripConfig) (actions : List TripAction) :
    Always (RoundTrip.step cfg) RoundTrip.Cancelled {} actions ↔
      Guarded (RoundTrip.step cfg) (fun trip action =>
        (trip.step cfg action).isSome = true → trip.EndsRequest action) {} actions :=
  always_iff_guarded (RoundTrip.Tracks cfg)
    (fun _ _ _ tracks stepped => tracks_step tracks (trip_step_inv stepped))
    (fun _ _ _ tracks holds stepped => cancelled_step_iff tracks holds (trip_step_inv stepped))
    (tracks_initial cfg)
    (cancelled_of_running (by simp))

def Flow.read : Flow → ReadState
  | .next read => read
  | .done read _ => read

theorem handleResponseMessage_cancels (write : PublicWriter) (chunkBytes : Int) (read : ReadState)
    (msg : Message) :
    (handleResponseMessage write chunkBytes read msg).read.cancels = read.cancels := by
  have body (before : ReadState) (chunk : Bytes) :
      (before.writeResponseBody write chunk).1.cancels = before.cancels := by
    rw [writeResponseBody_fst]
  have whole : (handleWholeResponse write read msg.envelope).1.cancels = read.cancels := by
    unfold handleWholeResponse
    repeat' split
    · rfl
    · rfl
    · exact body _ _
  unfold handleResponseMessage
  repeat' split
  all_goals try rfl
  next wrote => exact congrArg (·.1.cancels) wrote ▸ body read _
  next wrote => exact congrArg (·.1.cancels) wrote ▸ body read _
  next answered => exact congrArg (·.1.cancels) answered ▸ whole

/-- The loop itself cancels only the stream whose context has ended. -/
theorem readStreamLoop_cancels (write : PublicWriter) (chunkBytes : Int) (read : ReadState)
    (events : List StreamEvent) :
    (readStreamLoop write chunkBytes read events).state.cancels = read.cancels ∨
      ∃ cause, (readStreamLoop write chunkBytes read events).returned =
          some (some (.context cause)) ∧
        (readStreamLoop write chunkBytes read events).state.cancels =
          read.cancels ++ [streamCancelReason cause] := by
  induction events generalizing read with
  | nil => exact .inl rfl
  | cons event _ ih =>
    cases event with
    | contextDone cause => exact .inr ⟨cause, rfl, rfl⟩
    | sessionDone => exact .inl rfl
    | message msg =>
      have kept := handleResponseMessage_cancels write chunkBytes read msg
      simp only [readStreamLoop]
      cases handled : handleResponseMessage write chunkBytes read msg with
      | next after =>
        rw [handled] at kept
        rw [← kept]
        exact ih after
      | done =>
        rw [handled] at kept
        exact .inl kept

theorem streamRoundTrip_cancels {request : RequestPhase} {write : PublicWriter} {chunkBytes : Int}
    {events : List StreamEvent} {read : ReadState} {err : Option StreamError}
    (returned : streamRoundTrip (.ok ()) request write chunkBytes events = ⟨read, some err⟩) :
    read.cancels.length ≤ 1 ∧ (err = none → read.cancels = []) := by
  cases request with
  | startFailed | bodyFailed | endFailed =>
    cases returned
    simp
  | sent requestBytes =>
    have loop := readStreamLoop_cancels write (effectiveChunkBytes chunkBytes)
      { result := { requestBytes } } events
    simp only [streamRoundTrip, readStreamResponse] at returned
    rcases outcome : readStreamLoop write (effectiveChunkBytes chunkBytes)
      { result := { requestBytes } } events with ⟨after, ending⟩
    rw [outcome] at loop returned
    rcases loop with kept | ⟨cause, rfl, cancelled⟩
    · replace kept : after.cancels = [] := kept
      dsimp only at returned
      split at returned
      · split at returned <;> cases returned <;> simp [kept]
      · cases returned
        simp [kept]
    · have isCause : isStreamContextDoneCause (.context cause) = true := by
        cases cause <;> rfl
      simp only [isCause, if_true] at returned
      cases returned
      rw [cancelled]
      simp

/-- The steps of a round trip add up to `streamRoundTrip`: when they have returned, it returns
the same for what they saw.  The stream was cancelled at most once, and not if all went well. -/
theorem outcome_of_returned (cfg : TripConfig) (actions : List TripAction) :
    Always (RoundTrip.step cfg) (fun trip => ∀ err, trip.phase = .returned err →
      (∃ request, trip.request = some request ∧
        streamRoundTrip (.ok ()) request cfg.write cfg.chunkBytes trip.events =
          ⟨trip.read, some err⟩) ∧
      trip.read.cancels.length ≤ 1 ∧ (err = none → trip.read.cancels = [])) {} actions := by
  have tracked : Always (RoundTrip.step cfg) (RoundTrip.Tracks cfg) {} actions :=
    always_of_invariant (fun _ _ _ tracks stepped => tracks_step tracks (trip_step_inv stepped))
      (tracks_initial cfg) actions
  apply tracked.mono
  intro trip tracks err phase
  simp only [RoundTrip.Tracks, phase] at tracks
  obtain ⟨request, asked, returned⟩ := tracks
  exact ⟨⟨request, asked, returned⟩, streamRoundTrip_cancels returned⟩

def uploadConfig : TripConfig :=
  { maxBodyBytes := 1024, chunkBytes := 32, write := fun _ chunk => (chunk.length, none) }

/-- The body has been sent when the client goes away, before `http.request.end` is
written. -/
def abandonedUpload : List TripAction :=
  [.written, .readBody 5 (some (.ok ())), .written, .contextDone .canceled,
    .refused (some .canceled)]

theorem stream_abandoned_silently :
    ∃ trip, exec (RoundTrip.step uploadConfig) {} abandonedUpload = some trip ∧
      trip.phase = .returned (some (.writeTunnel (some .canceled))) ∧ trip.startWritten = true ∧
      trip.up = true ∧ trip.done = false ∧ trip.read.cancels = [] ∧ trip.events = [] ∧
      ¬ trip.Cancelled := by
  refine ⟨_, rfl, rfl, rfl, rfl, rfl, rfl, rfl, fun told => ?_⟩
  rcases told _ rfl rfl rfl rfl with ⟨_, member, -⟩ | cancelled
  · cases member
  · exact cancelled rfl

end Porthook.Gateway
