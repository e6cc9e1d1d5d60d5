import Porthook.Gateway.Session
import Porthook.Protocol.Wire

/-!
# The two ends of a tunneled WebSocket

The gateway end is `handlePublicWebSocket`, which opens the stream with `openWSStream`; the agent
end is `handleWSStream`.  In both, one pump moves what their own connection (the leg) reads into
the tunnel, and the other one moves what the tunnel delivers to the leg.
-/

namespace Porthook.WebSocket

open Protocol Gateway

/-- `websocket.MessageText` and `websocket.MessageBinary`. -/
inductive Kind where
  | text
  | binary
  deriving DecidableEq

structure Item where
  kind : Kind
  data : Bytes
  deriving DecidableEq

def Kind.frameType : Kind → MessageType
  | .text => .wsMessageText
  | .binary => .wsMessageBinary

def itemOf (msg : Message) : Option Item :=
  match msg.envelope.typ with
  | .wsMessageText => some ⟨.text, msg.body⟩
  | .wsMessageBinary => some ⟨.binary, msg.body⟩
  | _ => none

/-- How a leg's `Read` fails, as `websocket.CloseStatus` tells it. -/
inductive ReadError where
  | closeFrame (code : Int)
  | failure

/-- The errors of a pump.  Those of a write wrap the end of its context, if that
is what they met. -/
inductive RelayError where
  | context (cause : ContextCause)
  | tunnelWrite (cause : Option ContextCause)
  | legWrite (cause : Option ContextCause)
  | legRead
  | payload (err : PayloadError)
  | canceled (reason : Bytes)
  | unexpectedMessage (typ : MessageType)

def RelayError.cause? : RelayError → Option ContextCause
  | .context cause => some cause
  | .tunnelWrite cause | .legWrite cause => cause
  | _ => none

inductive Notice where
  | close (code : Int) (reason : Bytes)
  | cancel (reason : Bytes)

def Notice.typ : Notice → MessageType
  | .close _ _ => .wsClose
  | .cancel _ => .wsCancel

def Notice.payload : Notice → Json
  | .close code reason => Close.encode ⟨code, reason⟩
  | .cancel reason => StreamCancel.encode ⟨reason⟩

/-- What the two relays do differently: the reason for a failed read, the error for the end of the
context, and what they send when their outcome is an error. -/
structure Leg where
  readFailed : Bytes
  contextError : ContextCause → ContextCause
  lastNotice : RelayError → Option Notice

/-- `relayPublicWebSocket` reads `context.Cause` and notifies the agent of the end
of its context. -/
def publicLeg : Leg where
  readFailed := ascii "public websocket connection failed"
  contextError := id
  lastNotice err := err.cause?.map fun cause => .cancel (streamCancelReason cause)

/-- `relayWSStream` reads `ctx.Err` and sends nothing at its end. -/
def localLeg : Leg where
  readFailed := ascii "local websocket connection failed"
  contextError
    | .deadlineExceeded => .deadlineExceeded
    | _ => .canceled
  lastNotice _ := none

/-- `pumpPublicToAgent` and `pumpLocalToGateway`. -/
inductive Reader where
  | reading
  | sending (item : Item)
  | notifying (notice : Notice) (result : Option RelayError)
  | returned

/-- `pumpAgentToPublic` and `pumpGatewayToLocal`. -/
inductive Writer where
  | selecting
  | handling (msg : Message)
  | returned

/-- The relay itself: it waits for the first pump, then for the second. -/
inductive Waiter where
  | first
  | second (err : Option RelayError)
  | notifying (notice : Notice) (outcome : RelayError)
  | returned (outcome : Option RelayError)

/-- The variables of a relay.  `errCh` has room for both results, so no pump
blocks in it; `cause` is the cause of `relayCtx` once it is done. -/
structure Relay where
  reader : Reader := .reading
  writer : Writer := .selecting
  waiter : Waiter := .first
  errCh : List (Option RelayError) := []
  cause : Option ContextCause := none

def Relay.returnReader (relay : Relay) (err : Option RelayError) : Relay :=
  { relay with reader := .returned, errCh := relay.errCh ++ [err] }

def Relay.returnWriter (relay : Relay) (err : Option RelayError) : Relay :=
  { relay with writer := .returned, errCh := relay.errCh ++ [err] }

def Relay.cancel (relay : Relay) (cause : ContextCause) : Relay :=
  { relay with cause := some (relay.cause.getD cause) }

/-- `closeOrCancelForReadError` and `closeOrCancelForLocalReadError`: the notice
and what they return. -/
def closeOrCancelForReadError (leg : Leg) : ReadError → Notice × Option RelayError
  | .closeFrame code => (.close code [], none)
  | .failure => (.cancel leg.readFailed, some .legRead)

def Relay.readFailed (leg : Leg) (relay : Relay) (err : ReadError) : Relay :=
  match relay.cause with
  | some cause => relay.returnReader (some (.context (leg.contextError cause)))
  | none =>
    let (notice, result) := closeOrCancelForReadError leg err
    { relay with reader := .notifying notice result }

def relayOutcome (first second : Option RelayError) : Option RelayError :=
  match first, second with
  | none, _ | _, none => none
  | some err, some _ => some err

def Leg.finish (leg : Leg) (outcome : Option RelayError) : Waiter :=
  match outcome with
  | none => .returned none
  | some err =>
    match leg.lastNotice err with
    | none => .returned (some err)
    | some notice => .notifying notice err

inductive Ending where
  | openFailed (err : StreamError)
  | handshakeFailed
  | dialFailed
  | acceptFailed
  | relayed (outcome : Option RelayError)

/-- `opening` to `refusing` are phases of the gateway, `dialling` to `accepting` of
the agent.  In `leaving` the deferred cleanup has still to run. -/
inductive Phase where
  | idle
  | opening
  | waiting
  | upgrading (accept : Accept)
  | refusing
  | dialling
  | failing (code message : Bytes)
  | accepting (subprotocol : Bytes)
  | relaying (relay : Relay)
  | leaving (ending : Ending)
  | ended (ending : Ending)

structure End where
  phase : Phase := .idle
  queue : Channel Message := .make 0
  done : Bool := false
  legRead : List Item := []
  legWritten : List Item := []
  legClosed : Option Close := none
  taken : List Message := []
  sent : List Frame := []

def End.setRelay (state : End) (relay : Relay) : End := { state with phase := .relaying relay }

def End.handleMessage (state : End) (relay : Relay) (msg : Message) : End :=
  match itemOf msg with
  | some item =>
    { state.setRelay { relay with writer := .selecting } with
      legWritten := state.legWritten ++ [item] }
  | none =>
    match msg.envelope.typ with
    | .wsClose =>
      match decodePayload Close.decode msg.envelope with
      | .error err => state.setRelay (relay.returnWriter (some (.payload err)))
      | .ok payload =>
        { state.setRelay (relay.returnWriter none) with legClosed := some payload }
    | .wsCancel =>
      -- a payload that does not decode leaves the reason empty
      match decodePayload StreamCancel.decode msg.envelope with
      | .error _ => state.setRelay (relay.returnWriter (some (.canceled [])))
      | .ok payload => state.setRelay (relay.returnWriter (some (.canceled payload.reason)))
    | typ => state.setRelay (relay.returnWriter (some (.unexpectedMessage typ)))

inductive RelayEvent where
  | contextDone (cause : ContextCause)
  | read (item : Item)
  | readFailed (err : ReadError)
  | take
  | contextEnded
  | handle
  | legWriteFailed (cause : Option ContextCause)
  | receive

def relayStep (leg : Leg) (state : End) (relay : Relay) : RelayEvent → Option End
  | .contextDone cause => some (state.setRelay (relay.cancel cause))
  | .read item =>
    match relay.reader with
    | .reading => some
        { state.setRelay { relay with reader := .sending item } with
          legRead := state.legRead ++ [item] }
    | _ => none
  | .readFailed err =>
    match relay.reader with
    | .reading => some (state.setRelay (relay.readFailed leg err))
    | _ => none
  | .take =>
    match relay.writer with
    | .selecting => state.queue.receive?.map fun received =>
      { state.setRelay { relay with writer := .handling received.1 } with
        queue := received.2, taken := state.taken ++ [received.1] }
    | _ => none
  | .contextEnded =>
    match relay.writer, relay.cause with
    | .selecting, some cause => some
        (state.setRelay (relay.returnWriter (some (.context (leg.contextError cause)))))
    | _, _ => none
  | .handle =>
    match relay.writer with
    | .handling msg => some (state.handleMessage relay msg)
    | _ => none
  | .legWriteFailed cause =>
    match relay.writer with
    | .handling msg =>
      if (itemOf msg).isSome then
        some (state.setRelay (relay.returnWriter (some (.legWrite cause))))
      else none
    | _ => none
  | .receive =>
    match relay.waiter, relay.errCh with
    | .first, err :: rest => some
        (state.setRelay ({ relay with waiter := .second err, errCh := rest }.cancel .canceled))
    | .second first, second :: rest => some
        (state.setRelay { relay with
          waiter := leg.finish (relayOutcome first second), errCh := rest })
    | _, _ => none

def relayPublicWebSocket : End → Relay → RelayEvent → Option End := relayStep publicLeg

def relayWSStream : End → Relay → RelayEvent → Option End := relayStep localLeg

inductive Side where
  | gateway
  | agent
  deriving DecidableEq

def Side.leg : Side → Leg
  | .gateway => publicLeg
  | .agent => localLeg

def Side.relay : Side → End → Relay → RelayEvent → Option End
  | .gateway => relayPublicWebSocket
  | .agent => relayWSStream

theorem Side.relay_eq (side : Side) : side.relay = relayStep side.leg := by
  cases side <;> rfl

/-- What an end does without the rest of its side: the `select` of
`openWSStream`, the public handshake, the local dial and the relay. -/
inductive Event where
  | answer
  | openContextDone (cause : ContextCause)
  | openSessionDone
  | upgraded
  | upgradeFailed
  | targetInvalid (text : Bytes)
  | dialFailed (text : Bytes)
  | dialled (subprotocol : Bytes)
  | relay (event : RelayEvent)
  | relayReturned

/-- One event; `done` is the done channel of the gateway's session. -/
def endStep (side : Side) (done : Bool) (state : End) : Event → Option End
  | .answer =>
    match state.phase with
    | .waiting => state.queue.receive?.map fun received =>
      { state with
        queue := received.2
        taken := state.taken ++ [received.1]
        phase := match wsOpenAnswer received.1 with
          | .ok accept => .upgrading accept
          | .error err => .leaving (.openFailed err) }
    | _ => none
  | .openContextDone cause =>
    match state.phase with
    | .waiting => some { state with phase := .leaving (.openFailed (.context cause)) }
    | _ => none
  | .openSessionDone =>
    match state.phase with
    | .waiting =>
      if done then some { state with phase := .leaving (.openFailed .agentDisconnected) }
      else none
    | _ => none
  | .upgraded =>
    match state.phase with
    | .upgrading _ => some (state.setRelay {})
    | _ => none
  | .upgradeFailed =>
    match state.phase with
    | .upgrading _ => some { state with phase := .refusing }
    | _ => none
  | .targetInvalid text =>
    match state.phase with
    | .dialling => some { state with phase := .failing (ascii "invalid_local_target") text }
    | _ => none
  | .dialFailed text =>
    match state.phase with
    | .dialling => some { state with
        phase := .failing (ascii "local_dial_failed")
          (ascii "dial local websocket endpoint: " ++ text) }
    | _ => none
  | .dialled subprotocol =>
    match state.phase with
    | .dialling => some { state with phase := .accepting subprotocol }
    | _ => none
  | .relay event =>
    match state.phase with
    | .relaying relay => side.relay state relay event
    | _ => none
  | .relayReturned =>
    match state.phase with
    | .relaying relay =>
      match relay.waiter with
      | .returned outcome => some { state with phase := .leaving (.relayed outcome) }
      | _ => none
    | _ => none

structure StreamConfig where
  id : StreamID
  tunnelID : Bytes
  request : Open

def StreamConfig.text (cfg : StreamConfig) (typ : MessageType) (payload : Json) : Frame :=
  .text (newStream typ cfg.id cfg.tunnelID (some payload))

def Relay.outgoing (cfg : StreamConfig) (relay : Relay) : Option (Except FrameError Frame) :=
  match relay.reader, relay.waiter with
  | .sending item, _ => some (binaryBody item.kind.frameType cfg.id cfg.tunnelID item.data)
  | .notifying notice _, _ | _, .notifying notice _ =>
    some (.ok (cfg.text notice.typ notice.payload))
  | _, _ => none

def End.outgoing (cfg : StreamConfig) (state : End) : Option (Except FrameError Frame) :=
  match state.phase with
  | .opening => some (.ok (cfg.text .wsOpen cfg.request.encode))
  | .refusing => some (.ok (cfg.text .wsCancel
      (StreamCancel.encode ⟨ascii "public websocket handshake failed"⟩)))
  | .failing code message =>
    some (.ok (cfg.text .wsError (ErrorPayload.encode ⟨code, message⟩)))
  | .accepting subprotocol => some (.ok (cfg.text .wsAccept (Accept.encode ⟨subprotocol⟩)))
  | .relaying relay => relay.outgoing cfg
  | _ => none

/-- The relay after its write returned; a notice is sent as well as it can be. -/
def Relay.afterWrite (relay : Relay) (err : Option (Option ContextCause)) : Relay :=
  match relay.reader, relay.waiter with
  | .sending _, _ =>
    match err with
    | none => { relay with reader := .reading }
    | some cause => relay.returnReader (some (.tunnelWrite cause))
  | .notifying _ result, _ => relay.returnReader result
  | _, .notifying _ outcome => { relay with waiter := .returned (some outcome) }
  | _, _ => relay

def End.afterWrite (state : End) (err : Option (Option ContextCause)) : End :=
  match state.phase, err with
  | .opening, none => { state with phase := .waiting }
  | .opening, some cause => { state with phase := .leaving (.openFailed (.writeTunnel cause)) }
  | .refusing, _ => { state with phase := .leaving .handshakeFailed }
  | .failing _ _, _ => { state with phase := .leaving .dialFailed }
  | .accepting _, none => state.setRelay {}
  | .accepting _, some _ => { state with phase := .leaving .acceptFailed }
  | .relaying relay, err => state.setRelay (relay.afterWrite err)
  | _, _ => state

theorem afterWrite_eq (state : End) (err : Option (Option ContextCause)) :
    ∃ phase, state.afterWrite err = { state with phase } := by
  unfold End.afterWrite
  split <;> exact ⟨_, rfl⟩

theorem handleMessage_eq (state : End) (relay : Relay) (msg : Message) :
    ∃ phase legWritten legClosed,
      state.handleMessage relay msg = { state with phase, legWritten, legClosed } := by
  unfold End.handleMessage
  split
  · exact ⟨_, _, _, rfl⟩
  split
  · split <;> exact ⟨_, _, _, rfl⟩
  · split <;> exact ⟨_, _, _, rfl⟩
  · exact ⟨_, _, _, rfl⟩

/-- The steps of a relay, with what each of them needs. -/
inductive RelayStep (leg : Leg) (state : End) (relay : Relay) : RelayEvent → End → Prop where
  | contextDone (cause : ContextCause) :
      RelayStep leg state relay (.contextDone cause) (state.setRelay (relay.cancel cause))
  | read (item : Item) : relay.reader = .reading → RelayStep leg state relay (.read item)
        { state.setRelay { relay with reader := .sending item } with
          legRead := state.legRead ++ [item] }
  | readFailed (err : ReadError) : relay.reader = .reading →
      RelayStep leg state relay (.readFailed err) (state.setRelay (relay.readFailed leg err))
  | take (msg : Message) (rest : Channel Message) : relay.writer = .selecting →
      state.queue.receive? = some (msg, rest) →
      RelayStep leg state relay .take
        { state.setRelay { relay with writer := .handling msg } with
          queue := rest, taken := state.taken ++ [msg] }
  | contextEnded (cause : ContextCause) : relay.writer = .selecting → relay.cause = some cause →
      RelayStep leg state relay .contextEnded
        (state.setRelay (relay.returnWriter (some (.context (leg.contextError cause)))))
  | handle (msg : Message) : relay.writer = .handling msg →
      RelayStep leg state relay .handle (state.handleMessage relay msg)
  | legWriteFailed (msg : Message) (cause : Option ContextCause) : relay.writer = .handling msg →
      RelayStep leg state relay (.legWriteFailed cause)
        (state.setRelay (relay.returnWriter (some (.legWrite cause))))
  | receiveFirst (err : Option RelayError) (rest : List (Option RelayError)) :
      relay.waiter = .first → relay.errCh = err :: rest →
      RelayStep leg state relay .receive
        (state.setRelay ({ relay with waiter := .second err, errCh := rest }.cancel .canceled))
  | receiveSecond (first second : Option RelayError) (rest : List (Option RelayError)) :
      relay.waiter = .second first → relay.errCh = second :: rest →
      RelayStep leg state relay .receive (state.setRelay { relay with
        waiter := leg.finish (relayOutcome first second), errCh := rest })

variable {state next : End}

theorem relayStep_inv {leg : Leg} {relay : Relay} {event : RelayEvent}
    (stepped : relayStep leg state relay event = some next) :
    RelayStep leg state relay event next := by
  cases event with
  | contextDone cause =>
    cases stepped
    exact .contextDone cause
  | take =>
    simp only [relayStep] at stepped
    split at stepped
    next selecting =>
      obtain ⟨⟨msg, rest⟩, received, rfl⟩ := Option.map_eq_some_iff.mp stepped
      exact .take msg rest selecting received
    · cases stepped
  | contextEnded =>
    simp only [relayStep] at stepped
    split at stepped <;> cases stepped
    next cause selecting ended => exact .contextEnded cause selecting ended
  | legWriteFailed cause =>
    simp only [relayStep] at stepped
    repeat' split at stepped
    all_goals cases stepped
    next msg handling _ => exact .legWriteFailed msg cause handling
  | receive =>
    simp only [relayStep] at stepped
    split at stepped <;> cases stepped
    next err rest waiter errCh => exact .receiveFirst err rest waiter errCh
    next first second rest waiter errCh => exact .receiveSecond first second rest waiter errCh
  | _ =>
    simp only [relayStep] at stepped
    split at stepped <;> cases stepped
    next phase =>
      constructor
      exact phase

theorem relayStep_phase {leg : Leg} {relay : Relay} {event : RelayEvent}
    (stepped : RelayStep leg state relay event next) :
    ∃ after, next.phase = .relaying after := by
  cases stepped with
  | handle =>
    unfold End.handleMessage
    split
    · exact ⟨_, rfl⟩
    split
    · split <;> exact ⟨_, rfl⟩
    · split <;> exact ⟨_, rfl⟩
    · exact ⟨_, rfl⟩
  | _ => exact ⟨_, rfl⟩

inductive EndStep (side : Side) (done : Bool) (state : End) : Event → End → Prop where
  | answer (msg : Message) (rest : Channel Message) : state.phase = .waiting →
      state.queue.receive? = some (msg, rest) →
      EndStep side done state .answer { state with
        queue := rest
        taken := state.taken ++ [msg]
        phase := match wsOpenAnswer msg with
          | .ok accept => .upgrading accept
          | .error err => .leaving (.openFailed err) }
  | openContextDone (cause : ContextCause) : state.phase = .waiting →
      EndStep side done state (.openContextDone cause)
        { state with phase := .leaving (.openFailed (.context cause)) }
  | openSessionDone : state.phase = .waiting → done = true →
      EndStep side done state .openSessionDone
        { state with phase := .leaving (.openFailed .agentDisconnected) }
  | upgraded (accept : Accept) : state.phase = .upgrading accept →
      EndStep side done state .upgraded (state.setRelay {})
  | upgradeFailed (accept : Accept) : state.phase = .upgrading accept →
      EndStep side done state .upgradeFailed { state with phase := .refusing }
  | undialled (event : Event) (code message : Bytes) : state.phase = .dialling →
      EndStep side done state event { state with phase := .failing code message }
  | dialled (subprotocol : Bytes) : state.phase = .dialling →
      EndStep side done state (.dialled subprotocol) { state with phase := .accepting subprotocol }
  | relay (relay : Relay) (event : RelayEvent) (next : End) : state.phase = .relaying relay →
      RelayStep side.leg state relay event next → EndStep side done state (.relay event) next
  | relayReturned (relay : Relay) (outcome : Option RelayError) :
      state.phase = .relaying relay → relay.waiter = .returned outcome →
      EndStep side done state .relayReturned { state with phase := .leaving (.relayed outcome) }

theorem endStep_inv {side : Side} {done : Bool} {event : Event}
    (stepped : endStep side done state event = some next) :
    EndStep side done state event next := by
  cases event with
  | answer =>
    simp only [endStep] at stepped
    split at stepped
    next waiting =>
      obtain ⟨⟨msg, rest⟩, received, rfl⟩ := Option.map_eq_some_iff.mp stepped
      exact .answer msg rest waiting received
    · cases stepped
  | openSessionDone =>
    simp only [endStep] at stepped
    split at stepped
    next waiting =>
      split at stepped <;> cases stepped
      next isDone => exact .openSessionDone waiting isDone
    · cases stepped
  | targetInvalid | dialFailed =>
    simp only [endStep] at stepped
    split at stepped <;> cases stepped
    next dialling => exact .undialled _ _ _ dialling
  | relay event =>
    simp only [endStep] at stepped
    split at stepped
    next relay relaying =>
      rw [Side.relay_eq] at stepped
      exact .relay relay event next relaying (relayStep_inv stepped)
    · cases stepped
  | relayReturned =>
    simp only [endStep] at stepped
    split at stepped
    next relay relaying =>
      split at stepped <;> cases stepped
      next outcome returned => exact .relayReturned relay outcome relaying returned
    · cases stepped
  | _ =>
    simp only [endStep] at stepped
    split at stepped <;> cases stepped
    next phase =>
      constructor
      exact phase

theorem endStep_histories {side : Side} {done : Bool} {event : Event}
    (stepped : EndStep side done state event next) :
    state.taken <+: next.taken ∧ next.sent = state.sent := by
  cases stepped with
  | answer => exact ⟨List.prefix_append _ _, rfl⟩
  | relay relay _ _ _ moved =>
    cases moved with
    | take => exact ⟨List.prefix_append _ _, rfl⟩
    | handle msg =>
      obtain ⟨_, _, _, same⟩ := handleMessage_eq state relay msg
      rw [same]
      exact ⟨List.prefix_rfl, rfl⟩
    | _ => exact ⟨List.prefix_rfl, rfl⟩
  | _ => exact ⟨List.prefix_rfl, rfl⟩

end Porthook.WebSocket
