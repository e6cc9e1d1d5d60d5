import Mathlib.Logic.Function.Basic
import Porthook.Foundations.Channel
import Porthook.Foundations.Transition
import Porthook.Gateway.Response

/-!
# The gateway side of one agent session

An `agentSession` is shared by the read loop of the agent connection and by one handler per public
request.  `localStep` is what a handler does to its own variables, and `Session.step` adds what the
goroutines share.  `deliver` looks its queue up and sends to it in two steps.
-/

namespace Porthook.Gateway

open Porthook.Protocol

inductive StreamKind where
  | http
  | ws
  deriving DecidableEq

def StreamKind.pendingBuffer : StreamKind → Nat
  | .http => 32
  | .ws => 64

structure Stream where
  kind : StreamKind
  id : StreamID
  write : PublicWriter

/-- What a session is created with.  A `maxConcurrentStreams` of zero means no
limit. -/
structure SessionConfig (Handler : Type) where
  maxConcurrentStreams : Nat
  chunkBytes : Int
  stream : Handler → Stream

/-- The `select` a handler receives in: the response loop of
`readStreamResponse`, the answer to `ws.open`, or `pumpAgentToPublic`. -/
inductive Mode where
  | response
  | opening
  | relay
  deriving DecidableEq

inductive Phase where
  | idle
  | checked
  | acquired
  | sending
  | receiving (mode : Mode)
  | handling (mode : Mode) (msg : Message)
  | accepted (accept : Accept)
  | leaving (err : Option StreamError)
  | removed (err : Option StreamError)
  | returned (err : Option StreamError)

/-- The variables of a handler.  `relayed` lists what `pumpAgentToPublic` has
written to the public connection. -/
structure HandlerState where
  phase : Phase := .idle
  queue : Channel Message := .make 0
  read : ReadState := {}
  relayed : List (MessageType × Bytes) := []

/-- The answer to `ws.open`. -/
def wsOpenAnswer (msg : Message) : Except StreamError Accept :=
  match msg.envelope.typ with
  | .wsAccept =>
    match decodePayload Accept.decode msg.envelope with
    | .error err => .error (.payload err)
    | .ok accept => .ok accept
  | .wsError =>
    match decodePayload ErrorPayload.decode msg.envelope with
    | .error err => .error (.payload err)
    | .ok payload => .error (.agentError payload.message)
  | typ => .error (.unexpectedMessage typ)

/-- One message in `pumpAgentToPublic`: `none` keeps the pump going, `some err`
is its return value. -/
def pumpAgentToPublic (write : PublicWriter) (relayed : List (MessageType × Bytes))
    (msg : Message) : Option (Option StreamError) :=
  match msg.envelope.typ with
  | .wsMessageText | .wsMessageBinary =>
    (write relayed.length msg.body).2.map fun cause => some (.publicWrite cause)
  | .wsClose =>
    match decodePayload Close.decode msg.envelope with
    | .error err => some (some (.payload err))
    | .ok _ => some none
  | .wsCancel =>
    -- a payload that does not decode leaves the reason empty
    match decodePayload StreamCancel.decode msg.envelope with
    | .error _ => some (some (.relayCanceled []))
    | .ok payload => some (some (.relayCanceled payload.reason))
  | typ => some (some (.unexpectedMessage typ))

inductive LocalEvent where
  | checkDone
  | requestSent
  | requestFailed (err : StreamError)
  | receive
  | handle
  | relayStarted
  | handshakeFailed (err : StreamError)
  | contextDone (cause : ContextCause)
  | sessionDone
  | relayEnded (err : Option StreamError)

def StreamKind.firstMode : StreamKind → Mode
  | .http => .response
  | .ws => .opening

def HandlerState.handleMessage (stream : Stream) (chunkBytes : Int) (state : HandlerState)
    (mode : Mode) (msg : Message) : HandlerState :=
  match mode with
  | .response =>
    match handleResponseMessage stream.write chunkBytes state.read msg with
    | .next read => { state with read, phase := .receiving .response }
    | .done read err => { state with read, phase := .leaving err }
  | .opening =>
    match wsOpenAnswer msg with
    | .ok accept => { state with phase := .accepted accept }
    | .error err => { state with phase := .leaving (some err) }
  | .relay =>
    match pumpAgentToPublic stream.write state.relayed msg with
    | none =>
      { state with
        phase := .receiving .relay
        relayed := state.relayed ++ [(msg.envelope.typ, msg.body)] }
    | some err => { state with phase := .leaving err }

def localStep (stream : Stream) (chunkBytes : Int) (done : Bool) (state : HandlerState) :
    LocalEvent → Option HandlerState
  | .checkDone =>
    match state.phase with
    | .idle => some { state with
        phase := if done then .returned (some .agentDisconnected) else .checked }
    | _ => none
  | .requestSent =>
    match state.phase with
    | .sending => some { state with phase := .receiving stream.kind.firstMode }
    | _ => none
  | .requestFailed err =>
    match state.phase with
    | .sending => some { state with phase := .leaving (some err) }
    | _ => none
  | .receive =>
    match state.phase with
    | .receiving mode => state.queue.receive?.map fun taken =>
      { state with queue := taken.2, phase := .handling mode taken.1 }
    | _ => none
  | .handle =>
    match state.phase with
    | .handling mode msg => some (state.handleMessage stream chunkBytes mode msg)
    | _ => none
  | .relayStarted =>
    match state.phase with
    | .accepted _ => some { state with phase := .receiving .relay }
    | _ => none
  | .handshakeFailed err =>
    match state.phase with
    | .accepted _ => some { state with phase := .leaving (some err) }
    | _ => none
  | .contextDone cause =>
    match state.phase with
    | .receiving .response => some { state with
        read := { state.read with
          cancels := state.read.cancels ++ [streamCancelReason cause] }
        phase := .leaving (some (.context cause)) }
    | .receiving _ => some { state with phase := .leaving (some (.context cause)) }
    | _ => none
  | .sessionDone =>
    -- `pumpAgentToPublic` does not watch the done channel
    match state.phase with
    | .receiving .response | .receiving .opening =>
      if done then some { state with phase := .leaving (some .agentDisconnected) } else none
    | _ => none
  | .relayEnded err =>
    match state.phase with
    | .receiving .relay => some { state with phase := .leaving err }
    | _ => none

inductive ReadLoop (Handler : Type) where
  | reading
  | delivering (target : Handler) (msg : Message)
  | ponging
  | stopped

/-- `agentSession`, with its handlers and its read loop.  `contextDone` is the
context of the agent's HTTP request, which the read loop runs under. -/
structure Session (Handler : Type) where
  pending : StreamID → Option Handler := fun _ => none
  streams : Nat := 0
  done : Bool := false
  contextDone : Bool := false
  readLoop : ReadLoop Handler := .reading
  handler : Handler → HandlerState := fun _ => {}

inductive SessionAction (Handler : Type) where
  | advance (handler : Handler) (event : LocalEvent)
  | acquireStream (handler : Handler)
  | addPending (handler : Handler)
  | removePending (handler : Handler)
  | releaseStream (handler : Handler)
  | read (msg : Message)
  | readFailed
  | pongWritten
  | pongFailed
  | deliver
  | abandonDelivery
  | closeDone
  | cancelContext

def isDelivered : MessageType → Bool
  | .httpResponse | .httpResponseStart | .httpResponseBody | .httpResponseEnd
  | .httpStreamError | .wsAccept | .wsError | .wsMessageText | .wsMessageBinary
  | .wsClose | .wsCancel => true
  | _ => false

variable {Handler : Type} [DecidableEq Handler]

def Session.target? (session : Session Handler) (msg : Message) : Option Handler :=
  if isDelivered msg.envelope.typ then session.pending msg.envelope.streamID else none

def Session.setHandler (session : Session Handler) (handler : Handler) (state : HandlerState) :
    Session Handler :=
  { session with handler := Function.update session.handler handler state }

def Session.setPhase (session : Session Handler) (handler : Handler) (phase : Phase) :
    Session Handler :=
  session.setHandler handler { session.handler handler with phase }

def Session.step (cfg : SessionConfig Handler) (session : Session Handler) :
    SessionAction Handler → Option (Session Handler)
  | .advance handler event =>
    (localStep (cfg.stream handler) (effectiveChunkBytes cfg.chunkBytes) session.done
      (session.handler handler) event).map (session.setHandler handler)
  | .acquireStream handler =>
    match (session.handler handler).phase with
    | .checked =>
      if cfg.maxConcurrentStreams = 0 then some (session.setPhase handler .acquired)
      else if session.streams < cfg.maxConcurrentStreams then
        some { session.setPhase handler .acquired with streams := session.streams + 1 }
      else some (session.setPhase handler (.returned (some .streamLimitExceeded)))
    | _ => none
  | .addPending handler =>
    match (session.handler handler).phase with
    | .acquired => some { session.setHandler handler
            { session.handler handler with
              phase := .sending
              queue := .make (cfg.stream handler).kind.pendingBuffer } with
          pending := Function.update session.pending (cfg.stream handler).id (some handler) }
    | _ => none
  | .removePending handler =>
    match (session.handler handler).phase with
    | .leaving err => some
        { session.setPhase handler (.removed err) with
          pending := Function.update session.pending (cfg.stream handler).id none }
    | _ => none
  | .releaseStream handler =>
    match (session.handler handler).phase with
    | .removed err => some
        { session.setPhase handler (.returned err) with streams := session.streams - 1 }
    | _ => none
  | .read msg =>
    match session.readLoop with
    | .reading =>
      if msg.envelope.typ = .ping then some { session with readLoop := .ponging }
      else
        match session.target? msg with
        | some target => some { session with readLoop := .delivering target msg }
        | none => some session
    | _ => none
  | .readFailed =>
    match session.readLoop with
    | .reading => some { session with readLoop := .stopped, done := true }
    | _ => none
  | .pongWritten =>
    match session.readLoop with
    | .ponging => some { session with readLoop := .reading }
    | _ => none
  | .pongFailed =>
    match session.readLoop with
    | .ponging => some { session with readLoop := .stopped, done := true }
    | _ => none
  | .deliver =>
    match session.readLoop with
    | .delivering target msg =>
      ((session.handler target).queue.send? msg).map fun queue =>
        { session.setHandler target { session.handler target with queue } with
          readLoop := .reading }
    | _ => none
  | .abandonDelivery =>
    match session.readLoop with
    | .delivering _ _ =>
      if session.done || session.contextDone then some { session with readLoop := .reading }
      else none
    | _ => none
  | .closeDone => some { session with done := true }
  | .cancelContext => some { session with contextDone := true }

@[simp]
theorem setHandler_same (session : Session Handler) (handler : Handler) (state : HandlerState) :
    (session.setHandler handler state).handler handler = state := by
  simp [Session.setHandler]

@[simp]
theorem setHandler_other (session : Session Handler) {handler other : Handler}
    (state : HandlerState) (different : other ≠ handler) :
    (session.setHandler handler state).handler other = session.handler other := by
  simp [Session.setHandler, different]

@[simp]
theorem setHandler_pending (session : Session Handler) (handler : Handler)
    (state : HandlerState) : (session.setHandler handler state).pending = session.pending := rfl

@[simp]
theorem setHandler_done (session : Session Handler) (handler : Handler) (state : HandlerState) :
    (session.setHandler handler state).done = session.done := rfl

@[simp]
theorem setHandler_contextDone (session : Session Handler) (handler : Handler)
    (state : HandlerState) :
    (session.setHandler handler state).contextDone = session.contextDone := rfl

@[simp]
theorem setHandler_readLoop (session : Session Handler) (handler : Handler) (state : HandlerState) :
    (session.setHandler handler state).readLoop = session.readLoop := rfl

/-- The steps of a handler, one constructor per event, with what each of them
needs. -/
inductive LocalStep (stream : Stream) (chunkBytes : Int) (done : Bool) (state : HandlerState) :
    LocalEvent → HandlerState → Prop where
  | checkDone : state.phase = .idle →
      LocalStep stream chunkBytes done state .checkDone { state with
        phase := if done then .returned (some .agentDisconnected) else .checked }
  | requestSent : state.phase = .sending → LocalStep stream chunkBytes done state .requestSent
        { state with phase := .receiving stream.kind.firstMode }
  | requestFailed (err : StreamError) : state.phase = .sending →
      LocalStep stream chunkBytes done state (.requestFailed err)
        { state with phase := .leaving (some err) }
  | receive (mode : Mode) (msg : Message) (rest : Channel Message) :
      state.phase = .receiving mode → state.queue.receive? = some (msg, rest) →
      LocalStep stream chunkBytes done state .receive
        { state with queue := rest, phase := .handling mode msg }
  | handle (mode : Mode) (msg : Message) : state.phase = .handling mode msg →
      LocalStep stream chunkBytes done state .handle
        (state.handleMessage stream chunkBytes mode msg)
  | relayStarted (accept : Accept) : state.phase = .accepted accept →
      LocalStep stream chunkBytes done state .relayStarted { state with phase := .receiving .relay }
  | handshakeFailed (accept : Accept) (err : StreamError) : state.phase = .accepted accept →
      LocalStep stream chunkBytes done state (.handshakeFailed err)
        { state with phase := .leaving (some err) }
  | contextDone (mode : Mode) (cause : ContextCause) (read : ReadState) :
      state.phase = .receiving mode →
      read = (if mode = .response then
        { state.read with cancels := state.read.cancels ++ [streamCancelReason cause] }
        else state.read) →
      LocalStep stream chunkBytes done state (.contextDone cause)
        { state with read, phase := .leaving (some (.context cause)) }
  | sessionDone (mode : Mode) : state.phase = .receiving mode → mode ≠ .relay → done = true →
      LocalStep stream chunkBytes done state .sessionDone
        { state with phase := .leaving (some .agentDisconnected) }
  | relayEnded (err : Option StreamError) : state.phase = .receiving .relay →
      LocalStep stream chunkBytes done state (.relayEnded err) { state with phase := .leaving err }

theorem localStep_inv {stream : Stream} {chunkBytes : Int} {done : Bool}
    {state next : HandlerState} {event : LocalEvent}
    (stepped : localStep stream chunkBytes done state event = some next) :
    LocalStep stream chunkBytes done state event next := by
  cases event with
  | receive =>
    simp only [localStep] at stepped
    split at stepped
    next mode phase =>
      obtain ⟨⟨msg, rest⟩, received, rfl⟩ := Option.map_eq_some_iff.mp stepped
      exact .receive mode msg rest phase received
    · cases stepped
  | contextDone cause =>
    simp only [localStep] at stepped
    split at stepped
    next phase =>
      cases stepped
      exact .contextDone .response cause _ phase rfl
    next mode other phase =>
      cases stepped
      exact .contextDone mode cause _ phase (if_neg other).symm
    · cases stepped
  | sessionDone =>
    simp only [localStep] at stepped
    repeat' split at stepped
    all_goals cases stepped
    next phase isDone => exact .sessionDone .response phase (by decide) isDone
    next phase isDone => exact .sessionDone .opening phase (by decide) isDone
  | _ =>
    simp only [localStep] at stepped
    split at stepped <;> cases stepped
    next phase =>
      constructor
      exact phase

/-- The steps of a session, one constructor per outcome. -/
inductive SessionStep (cfg : SessionConfig Handler) (session : Session Handler) :
    SessionAction Handler → Session Handler → Prop where
  | advance (handler : Handler) (event : LocalEvent) (state : HandlerState) :
      LocalStep (cfg.stream handler) (effectiveChunkBytes cfg.chunkBytes) session.done
        (session.handler handler) event state →
      SessionStep cfg session (.advance handler event) (session.setHandler handler state)
  | acquired (handler : Handler) (streams : Nat) : (session.handler handler).phase = .checked →
      (cfg.maxConcurrentStreams = 0 ∧ streams = session.streams ∨
        session.streams < cfg.maxConcurrentStreams ∧ streams = session.streams + 1) →
      SessionStep cfg session (.acquireStream handler)
        { session.setPhase handler .acquired with streams }
  | limited (handler : Handler) : (session.handler handler).phase = .checked →
      cfg.maxConcurrentStreams ≠ 0 → cfg.maxConcurrentStreams ≤ session.streams →
      SessionStep cfg session (.acquireStream handler)
        (session.setPhase handler (.returned (some .streamLimitExceeded)))
  | addPending (handler : Handler) : (session.handler handler).phase = .acquired →
      SessionStep cfg session (.addPending handler) { session.setHandler handler
            { session.handler handler with
              phase := .sending
              queue := .make (cfg.stream handler).kind.pendingBuffer } with
          pending := Function.update session.pending (cfg.stream handler).id (some handler) }
  | removePending (handler : Handler) (err : Option StreamError) :
      (session.handler handler).phase = .leaving err →
      SessionStep cfg session (.removePending handler)
        { session.setPhase handler (.removed err) with
          pending := Function.update session.pending (cfg.stream handler).id none }
  | releaseStream (handler : Handler) (err : Option StreamError) :
      (session.handler handler).phase = .removed err →
      SessionStep cfg session (.releaseStream handler)
        { session.setPhase handler (.returned err) with streams := session.streams - 1 }
  | ping (msg : Message) : session.readLoop = .reading → msg.envelope.typ = .ping →
      SessionStep cfg session (.read msg) { session with readLoop := .ponging }
  | found (msg : Message) (target : Handler) : session.readLoop = .reading →
      session.target? msg = some target →
      SessionStep cfg session (.read msg) { session with readLoop := .delivering target msg }
  | dropped (msg : Message) : session.readLoop = .reading → session.target? msg = none →
      SessionStep cfg session (.read msg) session
  | readFailed : session.readLoop = .reading →
      SessionStep cfg session .readFailed { session with readLoop := .stopped, done := true }
  | pongWritten : session.readLoop = .ponging →
      SessionStep cfg session .pongWritten { session with readLoop := .reading }
  | pongFailed : session.readLoop = .ponging →
      SessionStep cfg session .pongFailed { session with readLoop := .stopped, done := true }
  | deliver (target : Handler) (msg : Message) (queue : Channel Message) :
      session.readLoop = .delivering target msg →
      (session.handler target).queue.send? msg = some queue →
      SessionStep cfg session .deliver
        { session.setHandler target { session.handler target with queue } with
          readLoop := .reading }
  | abandonDelivery (target : Handler) (msg : Message) : session.readLoop = .delivering target msg →
      (session.done = true ∨ session.contextDone = true) →
      SessionStep cfg session .abandonDelivery { session with readLoop := .reading }
  | closeDone : SessionStep cfg session .closeDone { session with done := true }
  | cancelContext : SessionStep cfg session .cancelContext { session with contextDone := true }

theorem step_inv {cfg : SessionConfig Handler} {session next : Session Handler}
    {action : SessionAction Handler} (stepped : session.step cfg action = some next) :
    SessionStep cfg session action next := by
  cases action with
  | advance handler event =>
    obtain ⟨state, moved, rfl⟩ := Option.map_eq_some_iff.mp stepped
    exact .advance handler event state (localStep_inv moved)
  | acquireStream handler =>
    simp only [Session.step] at stepped
    split at stepped
    next phase =>
      split at stepped
      next unlimited =>
        cases stepped
        exact .acquired handler _ phase (.inl ⟨unlimited, rfl⟩)
      next limit =>
        split at stepped <;> cases stepped
        next room => exact .acquired handler _ phase (.inr ⟨room, rfl⟩)
        next noRoom => exact .limited handler phase limit (Nat.le_of_not_lt noRoom)
    · cases stepped
  | read msg =>
    simp only [Session.step] at stepped
    repeat' split at stepped
    all_goals cases stepped
    next reading isPing => exact .ping msg reading isPing
    next reading _ _ target found => exact .found msg target reading found
    next reading _ _ missing => exact .dropped msg reading missing
  | deliver =>
    simp only [Session.step] at stepped
    split at stepped
    next target msg delivering =>
      obtain ⟨queue, sent, rfl⟩ := Option.map_eq_some_iff.mp stepped
      exact .deliver target msg queue delivering sent
    · cases stepped
  | abandonDelivery =>
    simp only [Session.step] at stepped
    split at stepped
    next target msg delivering =>
      split at stepped <;> cases stepped
      next ended => exact .abandonDelivery target msg delivering (by simpa using ended)
    · cases stepped
  | closeDone =>
    cases stepped
    exact .closeDone
  | cancelContext =>
    cases stepped
    exact .cancelContext
  | _ =>
    simp only [Session.step] at stepped
    split at stepped <;> cases stepped
    next phase =>
      constructor
      exact phase

end Porthook.Gateway
