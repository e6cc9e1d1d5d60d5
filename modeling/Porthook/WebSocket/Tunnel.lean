import Mathlib.Logic.Function.Basic
import Porthook.WebSocket.Notices

/-!
# Tunneled WebSockets on one agent connection

The gateway's read loop and the agent's `serve` look a message's stream up in their table and put
the message into its queue.  The connection delivers in order in each direction.  The messages
carry the stream that wrote them, which nobody reads: the loops go by the ids.
-/

namespace Porthook.WebSocket

open Protocol Gateway Transition

def Side.other : Side → Side
  | .gateway => .agent
  | .agent => .gateway

structure TunnelConfig (Stream : Type) where
  stream : Stream → StreamConfig
  tunneled : Stream → Bool

/-- Where a loop is; `busy` stands for its work for the other streams. -/
inductive Loop (Stream : Type) where
  | reading
  | delivering (target : Stream) (msg : Message)
  | busy
  | stopped

/-- `table` is the gateway's `pending` and the agent's `activeStreams`, `link` what a side has
written and its peer has not read yet; `lost` says that a loop has given up a message of a stream.
-/
structure Tunnel (Stream : Type) where
  up : Bool := true
  done : Bool := false
  contextDone : Side → Bool := fun _ => false
  ends : Side → Stream → End := fun _ _ => {}
  table : Side → StreamID → Option Stream := fun _ _ => none
  loop : Side → Loop Stream := fun _ => .reading
  link : Side → List (Stream × Frame) := fun _ => []
  lost : Side → Stream → Bool := fun _ _ => false

inductive TunnelAction (Stream : Type) where
  | advance (side : Side) (stream : Stream) (event : Event)
  | register (stream : Stream)
  | write (side : Side) (stream : Stream)
  | writeFailed (side : Side) (stream : Stream) (cause : Option ContextCause)
  | cleanUp (side : Side) (stream : Stream)
  | read (side : Side)
  | readFailed (side : Side)
  | deliver (side : Side)
  | abandon (side : Side)
  | resume (side : Side)
  | other (side : Side) (stream : Stream) (frame : Frame)
  | connectionLost
  | closeDone
  | cancelContext (side : Side)

def isWebSocketType : MessageType → Bool
  | .wsOpen | .wsAccept | .wsError | .wsClose | .wsCancel | .wsMessageText | .wsMessageBinary =>
    true
  | _ => false

variable {Stream : Type} [DecidableEq Stream]

def Tunnel.setEnd (tunnel : Tunnel Stream) (side : Side) (stream : Stream) (state : End) :
    Tunnel Stream :=
  { tunnel with
    ends := Function.update tunnel.ends side (Function.update (tunnel.ends side) stream state) }

def Tunnel.setTable (tunnel : Tunnel Stream) (side : Side) (id : StreamID)
    (entry : Option Stream) : Tunnel Stream :=
  { tunnel with
    table := Function.update tunnel.table side (Function.update (tunnel.table side) id entry) }

def Tunnel.setLoop (tunnel : Tunnel Stream) (side : Side) (loop : Loop Stream) : Tunnel Stream :=
  { tunnel with loop := Function.update tunnel.loop side loop }

def Tunnel.setLink (tunnel : Tunnel Stream) (side : Side) (link : List (Stream × Frame)) :
    Tunnel Stream :=
  { tunnel with link := Function.update tunnel.link side link }

/-- A loop ends.  The gateway's closes the done channel; with the agent's the
session's context and the connection end. -/
def Tunnel.stop (tunnel : Tunnel Stream) (side : Side) : Tunnel Stream :=
  match side with
  | .gateway => { tunnel.setLoop .gateway .stopped with done := true }
  | .agent =>
    { tunnel.setLoop .agent .stopped with
      up := false, contextDone := Function.update tunnel.contextDone .agent true }

def Tunnel.lookUp (tunnel : Tunnel Stream) (side : Side) (msg : Message) : Tunnel Stream :=
  match tunnel.table side msg.envelope.streamID with
  | some target => tunnel.setLoop side (.delivering target msg)
  | none => tunnel.setLoop side .busy

/-- `ws.open` at the agent: `addActiveStream` and the goroutine; an empty id is not
entered. -/
def Tunnel.start (tunnel : Tunnel Stream) (stream : Stream) (id : StreamID) : Tunnel Stream :=
  let started := tunnel.setEnd .agent stream { phase := .dialling, queue := .make 64 }
  if id = [] then started else started.setTable .agent id (some stream)

def Tunnel.received (tunnel : Tunnel Stream) (side : Side) (stream : Stream) (msg : Message) :
    Tunnel Stream :=
  match side with
  | .gateway =>
    if isDelivered msg.envelope.typ then tunnel.lookUp .gateway msg
    else tunnel.setLoop .gateway .busy
  | .agent =>
    match msg.envelope.typ with
    | .wsOpen =>
      match decodePayload Open.decode msg.envelope with
      | .error _ => tunnel
      | .ok _ => tunnel.start stream msg.envelope.streamID
    | .wsMessageText | .wsMessageBinary | .wsClose | .wsCancel => tunnel.lookUp .agent msg
    | _ => tunnel.setLoop .agent .busy

/-- The deferred `stream.Close` of the gateway, and `removeActiveStream` of the
agent, which closes the done channel of the stream it finds. -/
def Tunnel.remove (cfg : TunnelConfig Stream) (tunnel : Tunnel Stream) (side : Side)
    (stream : Stream) : Tunnel Stream :=
  let id := (cfg.stream stream).id
  match side with
  | .gateway => tunnel.setTable .gateway id none
  | .agent =>
    if id = [] then tunnel
    else
      match tunnel.table .agent id with
      | none => tunnel
      | some found =>
        (tunnel.setEnd .agent found { tunnel.ends .agent found with done := true }).setTable
          .agent id none

/-- The other branches of the `select` in which a loop delivers. -/
def Tunnel.givesUp (tunnel : Tunnel Stream) (side : Side) (target : Stream) : Bool :=
  match side with
  | .gateway => tunnel.done || tunnel.contextDone .gateway
  | .agent => (tunnel.ends .agent target).done || tunnel.contextDone .agent

def isOtherFrame (cfg : StreamConfig) (frame : Frame) : Bool :=
  match frame.read with
  | .error _ => true
  | .ok msg => msg.envelope.streamID = cfg.id && !isWebSocketType msg.envelope.typ

def Tunnel.step (cfg : TunnelConfig Stream) (tunnel : Tunnel Stream) :
    TunnelAction Stream → Option (Tunnel Stream)
  | .advance side stream event =>
    (endStep side tunnel.done (tunnel.ends side stream) event).map (tunnel.setEnd side stream)
  | .register stream =>
    match cfg.tunneled stream, (tunnel.ends .gateway stream).phase with
    | true, .idle => some
        ((tunnel.setEnd .gateway stream { phase := .opening, queue := .make 64 }).setTable
          .gateway (cfg.stream stream).id (some stream))
    | _, _ => none
  | .write side stream =>
    match (tunnel.ends side stream).outgoing (cfg.stream stream) with
    | none => none
    | some (.error _) => some
        (tunnel.setEnd side stream ((tunnel.ends side stream).afterWrite (some none)))
    | some (.ok frame) =>
      if tunnel.up then
        some ((tunnel.setEnd side stream
          { (tunnel.ends side stream).afterWrite none with
            sent := (tunnel.ends side stream).sent ++ [frame] }).setLink side
              (tunnel.link side ++ [(stream, frame)]))
      else none
  | .writeFailed side stream cause =>
    match (tunnel.ends side stream).outgoing (cfg.stream stream) with
    | some (.ok _) => some
        { tunnel.setEnd side stream ((tunnel.ends side stream).afterWrite (some cause)) with
          up := false }
    | _ => none
  | .cleanUp side stream =>
    match (tunnel.ends side stream).phase with
    | .leaving ending => some ((tunnel.setEnd side stream
          { tunnel.ends side stream with phase := .ended ending }).remove cfg side stream)
    | _ => none
  | .read side =>
    match tunnel.loop side, tunnel.link side.other with
    | .reading, (stream, frame) :: rest =>
      let tunnel := tunnel.setLink side.other rest
      match frame.read with
      | .error _ => some (tunnel.stop side)
      | .ok msg => some (tunnel.received side stream msg)
    | _, _ => none
  | .readFailed side =>
    match tunnel.loop side with
    | .reading => some (tunnel.stop side)
    | _ => none
  | .deliver side =>
    match tunnel.loop side with
    | .delivering target msg =>
      ((tunnel.ends side target).queue.send? msg).map fun queue =>
        (tunnel.setEnd side target { tunnel.ends side target with queue }).setLoop side .reading
    | _ => none
  | .abandon side =>
    match tunnel.loop side with
    | .delivering target _ =>
      if tunnel.givesUp side target then
        some { tunnel.setLoop side .reading with
          lost := Function.update tunnel.lost side
            (Function.update (tunnel.lost side) target true) }
      else none
    | _ => none
  | .resume side =>
    match tunnel.loop side with
    | .busy => some (tunnel.setLoop side .reading)
    | _ => none
  | .other side stream frame =>
    if !cfg.tunneled stream && isOtherFrame (cfg.stream stream) frame then
      some (tunnel.setLink side (tunnel.link side ++ [(stream, frame)]))
    else none
  | .connectionLost => some { tunnel with up := false }
  | .closeDone => some { tunnel with done := true }
  | .cancelContext side =>
    some { tunnel with contextDone := Function.update tunnel.contextDone side true }

/-- The steps of a tunnel, one constructor per outcome. -/
inductive TunnelStep (cfg : TunnelConfig Stream) (tunnel : Tunnel Stream) :
    TunnelAction Stream → Tunnel Stream → Prop where
  | advance (side : Side) (stream : Stream) (event : Event) (state : End) :
      EndStep side tunnel.done (tunnel.ends side stream) event state →
      TunnelStep cfg tunnel (.advance side stream event) (tunnel.setEnd side stream state)
  | register (stream : Stream) : cfg.tunneled stream = true →
      (tunnel.ends .gateway stream).phase = .idle →
      TunnelStep cfg tunnel (.register stream)
        ((tunnel.setEnd .gateway stream { phase := .opening, queue := .make 64 }).setTable
          .gateway (cfg.stream stream).id (some stream))
  | unbuilt (side : Side) (stream : Stream) (err : FrameError) :
      (tunnel.ends side stream).outgoing (cfg.stream stream) = some (.error err) →
      TunnelStep cfg tunnel (.write side stream)
        (tunnel.setEnd side stream ((tunnel.ends side stream).afterWrite (some none)))
  | written (side : Side) (stream : Stream) (frame : Frame) :
      (tunnel.ends side stream).outgoing (cfg.stream stream) = some (.ok frame) →
      tunnel.up = true →
      TunnelStep cfg tunnel (.write side stream) ((tunnel.setEnd side stream
          { (tunnel.ends side stream).afterWrite none with
            sent := (tunnel.ends side stream).sent ++ [frame] }).setLink side
              (tunnel.link side ++ [(stream, frame)]))
  | writeFailed (side : Side) (stream : Stream) (cause : Option ContextCause) (frame : Frame) :
      (tunnel.ends side stream).outgoing (cfg.stream stream) = some (.ok frame) →
      TunnelStep cfg tunnel (.writeFailed side stream cause)
        { tunnel.setEnd side stream ((tunnel.ends side stream).afterWrite (some cause)) with
          up := false }
  | cleanUp (side : Side) (stream : Stream) (ending : Ending) :
      (tunnel.ends side stream).phase = .leaving ending →
      TunnelStep cfg tunnel (.cleanUp side stream) ((tunnel.setEnd side stream
          { tunnel.ends side stream with phase := .ended ending }).remove cfg side stream)
  | broken (side : Side) (stream : Stream) (frame : Frame) (rest : List (Stream × Frame))
      (err : FrameError) : tunnel.loop side = .reading →
      tunnel.link side.other = (stream, frame) :: rest → frame.read = .error err →
      TunnelStep cfg tunnel (.read side) ((tunnel.setLink side.other rest).stop side)
  | found (side : Side) (stream : Stream) (frame : Frame) (rest : List (Stream × Frame))
      (msg : Message) (target : Stream) : tunnel.loop side = .reading →
      tunnel.link side.other = (stream, frame) :: rest → frame.read = .ok msg →
      tunnel.table side msg.envelope.streamID = some target →
      TunnelStep cfg tunnel (.read side)
        ((tunnel.setLink side.other rest).setLoop side (.delivering target msg))
  | dropped (side : Side) (stream : Stream) (frame : Frame) (rest : List (Stream × Frame))
      (msg : Message) (loop : Loop Stream) : tunnel.loop side = .reading →
      tunnel.link side.other = (stream, frame) :: rest → frame.read = .ok msg →
      (itemOf msg = none ∨ tunnel.table side msg.envelope.streamID = none) →
      (loop = .reading ∨ loop = .busy) →
      TunnelStep cfg tunnel (.read side) ((tunnel.setLink side.other rest).setLoop side loop)
  | started (stream : Stream) (frame : Frame) (rest : List (Stream × Frame)) (msg : Message) :
      tunnel.loop .agent = .reading → tunnel.link .gateway = (stream, frame) :: rest →
      frame.read = .ok msg → msg.envelope.typ = .wsOpen →
      TunnelStep cfg tunnel (.read .agent)
        ((tunnel.setLink .gateway rest).start stream msg.envelope.streamID)
  | readFailed (side : Side) : tunnel.loop side = .reading →
      TunnelStep cfg tunnel (.readFailed side) (tunnel.stop side)
  | deliver (side : Side) (target : Stream) (msg : Message) (queue : Channel Message) :
      tunnel.loop side = .delivering target msg →
      (tunnel.ends side target).queue.send? msg = some queue →
      TunnelStep cfg tunnel (.deliver side)
        ((tunnel.setEnd side target { tunnel.ends side target with queue }).setLoop side .reading)
  | abandon (side : Side) (target : Stream) (msg : Message) :
      tunnel.loop side = .delivering target msg →
      TunnelStep cfg tunnel (.abandon side)
        { tunnel.setLoop side .reading with
          lost := Function.update tunnel.lost side
            (Function.update (tunnel.lost side) target true) }
  | resume (side : Side) : tunnel.loop side = .busy →
      TunnelStep cfg tunnel (.resume side) (tunnel.setLoop side .reading)
  | other (side : Side) (stream : Stream) (frame : Frame) : cfg.tunneled stream = false →
      isOtherFrame (cfg.stream stream) frame = true →
      TunnelStep cfg tunnel (.other side stream frame)
        (tunnel.setLink side (tunnel.link side ++ [(stream, frame)]))
  | connectionLost : TunnelStep cfg tunnel .connectionLost { tunnel with up := false }
  | closeDone : TunnelStep cfg tunnel .closeDone { tunnel with done := true }
  | cancelContext (side : Side) : TunnelStep cfg tunnel (.cancelContext side)
        { tunnel with contextDone := Function.update tunnel.contextDone side true }

section Inversion

variable {cfg : TunnelConfig Stream} {tunnel next : Tunnel Stream} {stream : Stream}
  {frame : Frame} {rest : List (Stream × Frame)} {msg : Message}

omit [DecidableEq Stream] in
theorem setLoop_self {side : Side} {loop : Loop Stream} (same : tunnel.loop side = loop) :
    tunnel.setLoop side loop = tunnel := by
  simp [Tunnel.setLoop, ← same]

theorem itemOf_eq_none (other : msg.envelope.typ ≠ .wsMessageText)
    (another : msg.envelope.typ ≠ .wsMessageBinary) : itemOf msg = none := by
  unfold itemOf
  split
  next isText => exact absurd isText other
  next isBinary => exact absurd isBinary another
  · rfl

theorem lookUp_inv {side : Side} (reading : tunnel.loop side = .reading)
    (link : tunnel.link side.other = (stream, frame) :: rest) (read : frame.read = .ok msg) :
    TunnelStep cfg tunnel (.read side) ((tunnel.setLink side.other rest).lookUp side msg) := by
  unfold Tunnel.lookUp
  split
  next target found => exact .found side stream frame rest msg target reading link read found
  next missing =>
    exact .dropped side stream frame rest msg .busy reading link read (.inr missing) (.inr rfl)

theorem received_inv (side : Side) (reading : tunnel.loop side = .reading)
    (link : tunnel.link side.other = (stream, frame) :: rest) (read : frame.read = .ok msg) :
    TunnelStep cfg tunnel (.read side)
      ((tunnel.setLink side.other rest).received side stream msg) := by
  cases side with
  | gateway =>
    simp only [Tunnel.received]
    split
    · exact lookUp_inv reading link read
    next undelivered =>
      have noItem : itemOf msg = none := by
        apply itemOf_eq_none
        · intro isText
          rw [isText] at undelivered
          exact undelivered rfl
        · intro isBinary
          rw [isBinary] at undelivered
          exact undelivered rfl
      exact .dropped .gateway stream frame rest msg .busy reading link read (.inl noItem) (.inr rfl)
  | agent =>
    simp only [Tunnel.received]
    split
    next isOpen =>
      have noItem : itemOf msg = none := by simp [itemOf, isOpen]
      split
      · have dropped : TunnelStep cfg tunnel (.read .agent)
            ((tunnel.setLink Side.agent.other rest).setLoop .agent .reading) :=
          .dropped .agent stream frame rest msg .reading reading link read (.inl noItem) (.inl rfl)
        rwa [setLoop_self] at dropped
        exact reading
      · exact .started stream frame rest msg reading link read isOpen
    iterate 4
      · exact lookUp_inv reading link read
    next notOpen notText notBinary _ _ =>
      exact .dropped .agent stream frame rest msg .busy reading link read
        (.inl (itemOf_eq_none notText notBinary)) (.inr rfl)

theorem tunnel_step_inv {action : TunnelAction Stream}
    (stepped : tunnel.step cfg action = some next) : TunnelStep cfg tunnel action next := by
  cases action with
  | advance side stream event =>
    obtain ⟨state, moved, rfl⟩ := Option.map_eq_some_iff.mp stepped
    exact .advance side stream event state (endStep_inv moved)
  | register stream =>
    simp only [Tunnel.step] at stepped
    split at stepped <;> cases stepped
    next tunneled idle => exact .register stream tunneled idle
  | write side stream =>
    simp only [Tunnel.step] at stepped
    repeat' split at stepped
    all_goals cases stepped
    next err outgoing => exact .unbuilt side stream err outgoing
    next frame outgoing isUp => exact .written side stream frame outgoing isUp
  | writeFailed side stream cause =>
    simp only [Tunnel.step] at stepped
    split at stepped <;> cases stepped
    next frame outgoing => exact .writeFailed side stream cause frame outgoing
  | cleanUp side stream =>
    simp only [Tunnel.step] at stepped
    split at stepped <;> cases stepped
    next ending leaving => exact .cleanUp side stream ending leaving
  | read side =>
    simp only [Tunnel.step] at stepped
    split at stepped
    next stream frame rest reading link =>
      split at stepped <;> cases stepped
      next err broken => exact .broken side stream frame rest err reading link broken
      next msg read => exact received_inv side reading link read
    · cases stepped
  | readFailed side =>
    simp only [Tunnel.step] at stepped
    split at stepped <;> cases stepped
    next reading => exact .readFailed side reading
  | deliver side =>
    simp only [Tunnel.step] at stepped
    split at stepped
    next target msg delivering =>
      obtain ⟨queue, sent, rfl⟩ := Option.map_eq_some_iff.mp stepped
      exact .deliver side target msg queue delivering sent
    · cases stepped
  | abandon side =>
    simp only [Tunnel.step] at stepped
    repeat' split at stepped
    all_goals cases stepped
    next target msg delivering _ => exact .abandon side target msg delivering
  | resume side =>
    simp only [Tunnel.step] at stepped
    split at stepped <;> cases stepped
    next busy => exact .resume side busy
  | other side stream frame =>
    simp only [Tunnel.step] at stepped
    split at stepped <;> cases stepped
    next admitted =>
      simp only [Bool.and_eq_true, Bool.not_eq_true'] at admitted
      exact .other side stream frame admitted.1 admitted.2
  | connectionLost =>
    cases stepped
    exact .connectionLost
  | closeDone =>
    cases stepped
    exact .closeDone
  | cancelContext side =>
    cases stepped
    exact .cancelContext side

end Inversion

def chatConfig : TunnelConfig Bool where
  stream first := if first then chatStream else { chatStream with id := ascii "str_b" }
  tunneled _ := true

end Porthook.WebSocket
