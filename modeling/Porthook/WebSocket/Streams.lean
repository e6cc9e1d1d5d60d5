import Porthook.WebSocket.Tunnel

/-!
# Whose message is it

The loops find the stream of a message by its id.  As long as no stream is opened under the id of a
live one, that is the stream that wrote the message.
-/

namespace Porthook.WebSocket

open Protocol Gateway Transition

variable {Stream : Type} [DecidableEq Stream]

def Phase.isLive : Phase → Bool
  | .idle | .ended _ => false
  | _ => true

def Phase.isEarly : Phase → Bool
  | .idle | .opening => true
  | _ => false

section Changes

variable (cfg : TunnelConfig Stream) (tunnel : Tunnel Stream) (action : TunnelAction Stream)
  (next : Tunnel Stream)

inductive EndChange (side : Side) (stream : Stream) : End → Prop where
  | same : EndChange side stream (tunnel.ends side stream)
  | closed (id : StreamID) : tunnel.table side id = some stream →
      EndChange side stream { tunnel.ends side stream with done := true }
  | advanced (event : Event) (state : End) : action = .advance side stream event →
      EndStep side tunnel.done (tunnel.ends side stream) event state → EndChange side stream state
  | registered : side = .gateway → action = .register stream →
      (tunnel.ends side stream).phase = .idle → cfg.tunneled stream = true →
      EndChange side stream { phase := .opening, queue := .make 64 }
  | started (frame : Frame) (rest : List (Stream × Frame)) (msg : Message) : side = .agent →
      tunnel.link .gateway = (stream, frame) :: rest → frame.read = .ok msg →
      msg.envelope.typ = .wsOpen → next.link .gateway = rest →
      EndChange side stream { phase := .dialling, queue := .make 64 }
  | unbuilt (err : FrameError) :
      (tunnel.ends side stream).outgoing (cfg.stream stream) = some (.error err) →
      EndChange side stream ((tunnel.ends side stream).afterWrite (some none))
  | written (frame : Frame) : action = .write side stream →
      (tunnel.ends side stream).outgoing (cfg.stream stream) = some (.ok frame) →
      EndChange side stream { (tunnel.ends side stream).afterWrite none with
        sent := (tunnel.ends side stream).sent ++ [frame] }
  | writeFailed (cause : Option ContextCause) (frame : Frame) :
      action = .writeFailed side stream cause →
      (tunnel.ends side stream).outgoing (cfg.stream stream) = some (.ok frame) →
      EndChange side stream ((tunnel.ends side stream).afterWrite (some cause))
  | delivered (msg : Message) (queue : Channel Message) :
      tunnel.loop side = .delivering stream msg →
      (tunnel.ends side stream).queue.send? msg = some queue →
      EndChange side stream { tunnel.ends side stream with queue }
  | ended (ending : Ending) (done : Bool) : action = .cleanUp side stream →
      (tunnel.ends side stream).phase = .leaving ending →
      EndChange side stream { tunnel.ends side stream with phase := .ended ending, done }

inductive LinkChange (side : Side) : List (Stream × Frame) → Prop where
  | same : LinkChange side (tunnel.link side)
  | written (stream : Stream) (frame : Frame) : action = .write side stream →
      (tunnel.ends side stream).outgoing (cfg.stream stream) = some (.ok frame) →
      LinkChange side (tunnel.link side ++ [(stream, frame)])
  | other (stream : Stream) (frame : Frame) : action = .other side stream frame →
      cfg.tunneled stream = false → isOtherFrame (cfg.stream stream) frame = true →
      LinkChange side (tunnel.link side ++ [(stream, frame)])
  | read (stream : Stream) (frame : Frame) (rest : List (Stream × Frame)) :
      tunnel.link side = (stream, frame) :: rest → LinkChange side rest

inductive TableChange (side : Side) (id : StreamID) : Option Stream → Prop where
  | same : TableChange side id (tunnel.table side id)
  | registered (stream : Stream) : side = .gateway → id = (cfg.stream stream).id →
      (next.ends side stream).phase.isLive = true → TableChange side id (some stream)
  | started (stream : Stream) (frame : Frame) (rest : List (Stream × Frame)) (msg : Message) :
      tunnel.link .gateway = (stream, frame) :: rest → frame.read = .ok msg →
      id = msg.envelope.streamID → id ≠ [] → (next.ends side stream).phase.isLive = true →
      TableChange side id (some stream)
  | removed : TableChange side id none

end Changes

section Summaries

variable {cfg : TunnelConfig Stream} {tunnel next : Tunnel Stream} {action : TunnelAction Stream}

theorem ends_setEnd (tunnel : Tunnel Stream) (side other : Side) (stream found : Stream)
    (state : End) : (tunnel.setEnd side stream state).ends other found =
      if other = side ∧ found = stream then state else tunnel.ends other found := by
  by_cases sameSide : other = side
  · subst sameSide
    by_cases same : found = stream
    · subst same
      simp [Tunnel.setEnd]
    · simp [Tunnel.setEnd, same]
  · simp [Tunnel.setEnd, sameSide]

omit [DecidableEq Stream] in
theorem table_setTable (tunnel : Tunnel Stream) (side other : Side) (id otherID : StreamID)
    (entry : Option Stream) : (tunnel.setTable side id entry).table other otherID =
      if other = side ∧ otherID = id then entry else tunnel.table other otherID := by
  by_cases sameSide : other = side
  · subst sameSide
    by_cases same : otherID = id
    · subst same
      simp [Tunnel.setTable]
    · simp [Tunnel.setTable, same]
  · simp [Tunnel.setTable, sameSide]

variable {side : Side}

theorem endChange_setEnd {stream : Stream} {state : End}
    (own : EndChange cfg tunnel action next side stream state) (other : Side)
    (found : Stream) : EndChange cfg tunnel action next other found
      ((tunnel.setEnd side stream state).ends other found) := by
  rw [ends_setEnd]
  split
  next same =>
    obtain ⟨rfl, rfl⟩ := same
    exact own
  · exact .same

omit [DecidableEq Stream] in
theorem link_setLink (tunnel : Tunnel Stream) (side other : Side)
    (link : List (Stream × Frame)) : (tunnel.setLink side link).link other =
      if other = side then link else tunnel.link other := by
  by_cases same : other = side
  · subst same
    simp [Tunnel.setLink]
  · simp [Tunnel.setLink, same]

omit [DecidableEq Stream] in
theorem linkChange_setLink {link : List (Stream × Frame)}
    (own : LinkChange cfg tunnel action side link) (other : Side) :
    LinkChange cfg tunnel action other ((tunnel.setLink side link).link other) := by
  rw [link_setLink]
  split
  next same =>
    subst same
    exact own
  · exact .same

theorem remove_link (tunnel : Tunnel Stream) (side : Side) (stream : Stream) :
    (tunnel.remove cfg side stream).link = tunnel.link := by
  unfold Tunnel.remove
  cases side with
  | gateway => rfl
  | agent =>
    dsimp only
    split
    · rfl
    · split <;> rfl

theorem start_link (tunnel : Tunnel Stream) (stream : Stream) (id : StreamID) :
    (tunnel.start stream id).link = tunnel.link := by
  unfold Tunnel.start
  dsimp only
  split <;> rfl

omit [DecidableEq Stream] in
theorem stop_link (tunnel : Tunnel Stream) (side : Side) :
    (tunnel.stop side).link = tunnel.link := by
  cases side <;> rfl

theorem start_ends (tunnel : Tunnel Stream) (stream : Stream) (id : StreamID) :
    (tunnel.start stream id).ends =
      (tunnel.setEnd .agent stream { phase := .dialling, queue := .make 64 }).ends := by
  unfold Tunnel.start
  dsimp only
  split <;> rfl

theorem remove_ends (cfg : TunnelConfig Stream) (tunnel : Tunnel Stream) (side : Side)
    (stream : Stream) : (tunnel.remove cfg side stream).ends = tunnel.ends ∨
      ∃ found, side = .agent ∧ tunnel.table .agent (cfg.stream stream).id = some found ∧
        (tunnel.remove cfg side stream).ends = (tunnel.setEnd .agent found
          { tunnel.ends .agent found with done := true }).ends := by
  unfold Tunnel.remove
  cases side with
  | gateway => exact .inl rfl
  | agent =>
    dsimp only
    split
    · exact .inl rfl
    · split
      · exact .inl rfl
      next found isFound => exact .inr ⟨found, rfl, isFound, rfl⟩

theorem ends_step (stepped : TunnelStep cfg tunnel action next) (side : Side) (stream : Stream) :
    EndChange cfg tunnel action next side stream (next.ends side stream) := by
  cases stepped with
  | advance _ _ event state moved =>
    exact endChange_setEnd (.advanced event state rfl moved) side stream
  | register _ tunneled idle =>
    exact endChange_setEnd (.registered rfl rfl idle tunneled) side stream
  | unbuilt _ _ err outgoing => exact endChange_setEnd (.unbuilt err outgoing) side stream
  | written _ _ frame outgoing =>
    exact endChange_setEnd (.written frame rfl outgoing) side stream
  | writeFailed _ _ cause frame outgoing =>
    exact endChange_setEnd (.writeFailed cause frame rfl outgoing) side stream
  | cleanUp actor own ending leaving =>
    have ended : ∀ next, EndChange cfg tunnel (.cleanUp actor own) next side stream
        ((tunnel.setEnd actor own
          { tunnel.ends actor own with phase := .ended ending }).ends side stream) :=
      fun _ => endChange_setEnd (.ended ending _ rfl leaving) side stream
    rcases remove_ends cfg (tunnel.setEnd actor own
      { tunnel.ends actor own with phase := .ended ending }) actor own with
      same | ⟨found, isAgent, isFound, changed⟩
    · rw [same]
      exact ended _
    · subst isAgent
      rw [changed, ends_setEnd]
      split
      next same =>
        obtain ⟨rfl, rfl⟩ := same
        rw [ends_setEnd]
        split
        next own =>
          obtain ⟨_, rfl⟩ := own
          exact .ended ending true rfl leaving
        · exact .closed _ isFound
      · exact ended _
  | started own frame rest msg _ link read isOpen =>
    have popped : ((tunnel.setLink .gateway rest).start own msg.envelope.streamID).link .gateway =
        rest := by
      rw [start_link, link_setLink, if_pos rfl]
    rw [start_ends]
    exact endChange_setEnd (.started frame rest msg rfl link read isOpen popped) side stream
  | deliver _ _ msg queue delivering sent =>
    exact endChange_setEnd (.delivered msg queue delivering sent) side stream
  | broken actor | readFailed actor =>
    cases actor <;> exact .same
  | found | dropped | abandon | resume | other | connectionLost | closeDone | cancelContext =>
    exact .same

theorem link_step (stepped : TunnelStep cfg tunnel action next) (side : Side) :
    LinkChange cfg tunnel action side (next.link side) := by
  cases stepped with
  | written _ own frame outgoing =>
    exact linkChange_setLink (.written own frame rfl outgoing) side
  | cleanUp =>
    rw [remove_link]
    exact .same
  | broken _ own frame rest _ _ link =>
    rw [stop_link]
    exact linkChange_setLink (.read own frame rest link) side
  | found _ own frame rest _ _ _ link
  | dropped _ own frame rest _ _ _ link =>
    exact linkChange_setLink (.read own frame rest link) side
  | started own frame rest _ _ link =>
    rw [start_link]
    exact linkChange_setLink (.read own frame rest link) side
  | readFailed =>
    rw [stop_link]
    exact .same
  | other _ own frame untunneled isOther =>
    exact linkChange_setLink (.other own frame rfl untunneled isOther) side
  | advance | register | unbuilt | writeFailed | deliver | abandon | resume | connectionLost
  | closeDone | cancelContext => exact .same

omit [DecidableEq Stream] in
theorem tableChange_setTable {id : StreamID} {entry : Option Stream}
    (own : TableChange cfg tunnel next side id entry) (other : Side) (otherID : StreamID) :
    TableChange cfg tunnel next other otherID
      ((tunnel.setTable side id entry).table other otherID) := by
  rw [table_setTable]
  split
  next same =>
    obtain ⟨rfl, rfl⟩ := same
    exact own
  · exact .same

theorem start_table {id : StreamID} (named : id ≠ []) (tunnel : Tunnel Stream) (stream : Stream) :
    (tunnel.start stream id).table = (tunnel.setTable .agent id (some stream)).table := by
  rw [Tunnel.start, if_neg named]
  rfl

theorem table_step (stepped : TunnelStep cfg tunnel action next) (side : Side) (id : StreamID) :
    TableChange cfg tunnel next side id (next.table side id) := by
  cases stepped with
  | register own =>
    refine tableChange_setTable (.registered own rfl rfl ?_) side id
    show ((Tunnel.setEnd _ _ _ _).ends .gateway own).phase.isLive = true
    rw [ends_setEnd, if_pos ⟨rfl, rfl⟩]
    rfl
  | cleanUp actor =>
    unfold Tunnel.remove
    cases actor with
    | gateway => exact tableChange_setTable .removed side id
    | agent =>
      dsimp only
      split
      · exact .same
      · split
        · exact .same
        next found isFound => exact tableChange_setTable .removed side id
  | started own frame rest msg _ link read =>
    have isLive : (((tunnel.setLink .gateway rest).start own msg.envelope.streamID).ends .agent
        own).phase.isLive = true := by
      rw [start_ends, ends_setEnd, if_pos ⟨rfl, rfl⟩]
      rfl
    by_cases named : msg.envelope.streamID = []
    · rw [Tunnel.start, if_pos named]
      exact .same
    · rw [start_table named]
      exact tableChange_setTable (.started own frame rest msg link read rfl named isLive) side id
  | broken actor | readFailed actor => cases actor <;> exact .same
  | advance | unbuilt | written | writeFailed | found | dropped | deliver | abandon | resume | other
  | connectionLost | closeDone | cancelContext => exact .same

theorem cleanUp_table {stream : Stream}
    (stepped : TunnelStep cfg tunnel (.cleanUp side stream) next) :
    next.table side (cfg.stream stream).id = none ∨
      side = .agent ∧ (cfg.stream stream).id = [] := by
  cases stepped with
  | cleanUp =>
    unfold Tunnel.remove
    cases side with
    | gateway =>
      left
      rw [table_setTable, if_pos ⟨rfl, rfl⟩]
    | agent =>
      dsimp only
      split
      next unnamed => exact .inr ⟨rfl, unnamed⟩
      · left
        split
        next missing => exact missing
        next found isFound => rw [table_setTable, if_pos ⟨rfl, rfl⟩]

end Summaries

def Reader.hand : Reader → List Item
  | .sending item => [item]
  | _ => []

def Phase.hand : Phase → List Item
  | .relaying relay => relay.reader.hand
  | _ => []

theorem read_text {cfg : StreamConfig} (wellFormed : receivedFrom 0 cfg.id = cfg.id)
    (typ : MessageType) (payload : Json) :
    (cfg.text typ payload).read = .ok (textMessage
      ⟨typ, cfg.id, receivedFrom 0 cfg.tunnelID, some payload.received⟩) := by
  simp [StreamConfig.text, Frame.read, Envelope.received, newStream, wellFormed]

theorem itemOf_binaryMessage (item : Item) (streamID tunnelID : Bytes) :
    itemOf (binaryMessage item.kind.frameType streamID tunnelID item.data) = some item := by
  rcases item with ⟨kind, _⟩
  cases kind <;> rfl

variable {state : End}

/-- A message that an end writes arrives with the id of its stream, with the item
that the end has in its hand, and with the type that belongs to its phase. -/
theorem outgoing_read {cfg : StreamConfig} {frame : Frame}
    (wellFormed : receivedFrom 0 cfg.id = cfg.id)
    (outgoing : state.outgoing cfg = some (.ok frame)) :
    ∃ msg, frame.read = .ok msg ∧ msg.envelope.streamID = cfg.id ∧
      isWebSocketType msg.envelope.typ = true ∧ (itemOf msg).toList = state.phase.hand ∧
      (msg.envelope.typ = .wsOpen → state.phase = .opening) ∧
      (msg.envelope.typ = .wsError → ∃ code message, state.phase = .failing code message) := by
  unfold End.outgoing at outgoing
  split at outgoing
  next phase =>
    cases outgoing
    exact ⟨_, read_text wellFormed _ _, rfl, rfl, by simp [Phase.hand, phase, itemOf, textMessage],
      fun _ => phase, by rintro ⟨⟩⟩
  next phase =>
    cases outgoing
    exact ⟨_, read_text wellFormed _ _, rfl, rfl, by simp [Phase.hand, phase, itemOf, textMessage],
      (by rintro ⟨⟩), by rintro ⟨⟩⟩
  next code message phase =>
    cases outgoing
    exact ⟨_, read_text wellFormed _ _, rfl, rfl, by simp [Phase.hand, phase, itemOf, textMessage],
      (by rintro ⟨⟩), fun _ => ⟨code, message, phase⟩⟩
  next subprotocol phase =>
    cases outgoing
    exact ⟨_, read_text wellFormed _ _, rfl, rfl, by simp [Phase.hand, phase, itemOf, textMessage],
      (by rintro ⟨⟩), by rintro ⟨⟩⟩
  next relay phase =>
    rcases relay with ⟨reader, writer, waiter, errCh, cause⟩
    have notice_read (notice : Notice) :
        ∃ msg, (cfg.text notice.typ notice.payload).read = .ok msg ∧
          msg.envelope.streamID = cfg.id ∧ isWebSocketType msg.envelope.typ = true ∧
          itemOf msg = none ∧ msg.envelope.typ ≠ .wsOpen ∧ msg.envelope.typ ≠ .wsError := by
      cases notice <;> exact ⟨_, read_text wellFormed _ _, rfl, rfl, rfl, (by simp [textMessage,
        Notice.typ]), by simp [textMessage, Notice.typ]⟩
    cases reader with
    | sending item =>
      simp only [Relay.outgoing, Option.some.injEq] at outgoing
      refine ⟨_, read_binaryBody outgoing, rfl, ?_, ?_, ?_, ?_⟩
      · cases item.kind <;> rfl
      · rw [itemOf_binaryMessage]
        simp [Phase.hand, Reader.hand, phase]
      · intro isOpen
        cases kind : item.kind <;> simp [binaryMessage, newStream, kind, Kind.frameType] at isOpen
      · intro isError
        cases kind : item.kind <;>
          simp [binaryMessage, newStream, kind, Kind.frameType] at isError
    | notifying notice result =>
      simp only [Relay.outgoing, Option.some.injEq, Except.ok.injEq] at outgoing
      subst outgoing
      obtain ⟨msg, read, id, typ, noItem, notOpen, notError⟩ := notice_read notice
      exact ⟨msg, read, id, typ, by simp [noItem, Phase.hand, Reader.hand, phase],
        fun isOpen => absurd isOpen notOpen, fun isError => absurd isError notError⟩
    | reading | returned =>
      cases waiter with
      | notifying notice outcome =>
        simp only [Relay.outgoing, Option.some.injEq, Except.ok.injEq] at outgoing
        subst outgoing
        obtain ⟨msg, read, id, typ, noItem, notOpen, notError⟩ := notice_read notice
        exact ⟨msg, read, id, typ, by simp [noItem, Phase.hand, Reader.hand, phase],
          fun isOpen => absurd isOpen notOpen, fun isError => absurd isError notError⟩
      | _ => simp [Relay.outgoing] at outgoing
  · cases outgoing

theorem endStep_live {side : Side} {done : Bool} {next : End} {event : Event}
    (stepped : EndStep side done state event next) :
    state.phase.isLive = true ∧ next.phase.isLive = true ∧ next.phase.isEarly = false := by
  cases stepped with
  | answer msg _ waiting =>
    refine ⟨by rw [waiting]; rfl, ?_⟩
    dsimp only
    cases wsOpenAnswer msg <;> exact ⟨rfl, rfl⟩
  | relay _ _ _ relaying moved =>
    obtain ⟨_, phase⟩ := relayStep_phase moved
    rw [relaying, phase]
    exact ⟨rfl, rfl, rfl⟩
  | openContextDone _ phase | openSessionDone phase | upgraded _ phase | upgradeFailed _ phase
  | undialled _ _ _ phase | dialled _ phase | relayReturned _ _ phase =>
    rw [phase]
    exact ⟨rfl, rfl, rfl⟩

theorem outgoing_live {cfg : StreamConfig} {built : Except FrameError Frame}
    (outgoing : state.outgoing cfg = some built) (err : Option (Option ContextCause)) :
    state.phase.isLive = true ∧ (state.afterWrite err).phase.isLive = true ∧
      (state.afterWrite err).phase.isEarly = false := by
  unfold End.outgoing at outgoing
  unfold End.afterWrite
  split at outgoing
  next phase => cases err <;> simp [phase, Phase.isLive, Phase.isEarly]
  next phase => simp [phase, Phase.isLive, Phase.isEarly]
  next phase => simp [phase, Phase.isLive, Phase.isEarly]
  next phase => cases err <;> simp [phase, Phase.isLive, Phase.isEarly, End.setRelay]
  next phase => simp [phase, Phase.isLive, Phase.isEarly, End.setRelay]
  · cases outgoing

/-- A stream is live as long as one of its ends is at work or a message of it is
on the connection. -/
def Tunnel.Live (tunnel : Tunnel Stream) (stream : Stream) : Prop :=
  (∃ side, (tunnel.ends side stream).phase.isLive = true) ∨
    ∃ side frame, (stream, frame) ∈ tunnel.link side

/-- The condition on a step: a stream is opened, or uses the connection, only
while no other live stream has its id. -/
def Tunnel.Distinct (cfg : TunnelConfig Stream) (tunnel : Tunnel Stream) :
    TunnelAction Stream → Prop
  | .register stream | .other _ stream _ => ∀ live, tunnel.Live live →
      (cfg.stream live).id = (cfg.stream stream).id → live = stream
  | _ => True

section Live

variable {cfg : TunnelConfig Stream} {tunnel next : Tunnel Stream} {action : TunnelAction Stream}

variable {side : Side} {stream : Stream} {state : End}

omit [DecidableEq Stream] in
theorem live_of_endChange (change : EndChange cfg tunnel action next side stream state)
    (isLive : state.phase.isLive) :
    tunnel.Live stream ∨ action = .register stream := by
  cases change with
  | same | closed => exact .inl (.inl ⟨side, isLive⟩)
  | advanced _ _ _ moved => exact .inl (.inl ⟨side, (endStep_live moved).1⟩)
  | registered _ isRegister => exact .inr isRegister
  | started frame _ _ _ link =>
    exact .inl (.inr ⟨.gateway, frame, by simp [link]⟩)
  | unbuilt _ outgoing | written _ _ outgoing =>
    exact .inl (.inl ⟨side, (outgoing_live outgoing none).1⟩)
  | writeFailed _ _ _ outgoing =>
    exact .inl (.inl ⟨side, (outgoing_live outgoing none).1⟩)
  | delivered => exact .inl (.inl ⟨side, isLive⟩)
  | ended => cases isLive

theorem mem_link_step (stepped : TunnelStep cfg tunnel action next) {frame : Frame}
    (member : (stream, frame) ∈ next.link side) :
    (stream, frame) ∈ tunnel.link side ∨ (action = .write side stream ∧
        (tunnel.ends side stream).outgoing (cfg.stream stream) = some (.ok frame)) ∨
      (action = .other side stream frame ∧ cfg.tunneled stream = false ∧
        isOtherFrame (cfg.stream stream) frame = true) := by
  have change := link_step stepped side
  generalize next.link side = link at change member
  cases change with
  | same => exact .inl member
  | written _ _ isWrite outgoing =>
    rcases List.mem_append.mp member with earlier | added
    · exact .inl earlier
    · cases List.mem_singleton.mp added
      exact .inr (.inl ⟨isWrite, outgoing⟩)
  | other _ _ isOther untunneled matched =>
    rcases List.mem_append.mp member with earlier | added
    · exact .inl earlier
    · cases List.mem_singleton.mp added
      exact .inr (.inr ⟨isOther, untunneled, matched⟩)
  | read _ _ _ link =>
    left
    rw [link]
    exact List.mem_cons_of_mem _ member

theorem live_step (stepped : TunnelStep cfg tunnel action next) (live : next.Live stream) :
    tunnel.Live stream ∨ action = .register stream ∨
      ∃ side frame, action = .other side stream frame := by
  rcases live with ⟨side, isLive⟩ | ⟨side, frame, member⟩
  · exact (live_of_endChange (ends_step stepped side stream) isLive).imp_right .inl
  rcases mem_link_step stepped member with earlier | ⟨_, outgoing⟩ | ⟨isOther, _, _⟩
  · exact .inl (.inr ⟨side, frame, earlier⟩)
  · exact .inl (.inl ⟨side, (outgoing_live outgoing none).1⟩)
  · exact .inr (.inr ⟨side, frame, isOther⟩)

def opens (frame : Frame) : Bool :=
  match frame.read with
  | .error _ => false
  | .ok msg => msg.envelope.typ = .wsOpen

def Tunnel.openings (tunnel : Tunnel Stream) (stream : Stream) : Nat :=
  (tunnel.link .gateway).countP fun entry => entry.1 = stream && opens entry.2

structure TunnelInv (cfg : TunnelConfig Stream) (tunnel : Tunnel Stream) : Prop where
  idle : ∀ side stream, (tunnel.ends side stream).phase = .idle → tunnel.ends side stream = {}
  tabled : ∀ side id stream, tunnel.table side id = some stream →
    (cfg.stream stream).id = id ∧ (tunnel.ends side stream).phase.isLive = true
  named : tunnel.table .agent [] = none
  unique : ∀ first second, tunnel.Live first → tunnel.Live second →
    (cfg.stream first).id = (cfg.stream second).id → first = second
  framed : ∀ side stream frame msg, (stream, frame) ∈ tunnel.link side → frame.read = .ok msg →
    msg.envelope.streamID = (cfg.stream stream).id
  once : ∀ stream, tunnel.openings stream ≤ 1
  unopened : ∀ stream, (tunnel.ends .agent stream).phase ≠ .idle → tunnel.openings stream = 0
  early : ∀ stream, (tunnel.ends .gateway stream).phase.isEarly = true →
    tunnel.openings stream = 0 ∧ (tunnel.ends .agent stream).phase = .idle

theorem endChange_idle (inv : TunnelInv cfg tunnel)
    (change : EndChange cfg tunnel action next side stream state)
    (idle : state.phase = .idle) : state = {} ∧ (tunnel.ends side stream).phase = .idle := by
  have not_live : ∀ {state : End}, state.phase = .idle → state.phase.isLive ≠ true := by
    intro state idle
    simp [idle, Phase.isLive]
  cases change with
  | same => exact ⟨inv.idle side stream idle, idle⟩
  | closed id tabled => exact absurd (inv.tabled side id stream tabled).2 (not_live idle)
  | advanced _ _ _ moved => exact absurd (endStep_live moved).2.1 (not_live idle)
  | registered | started => cases idle
  | unbuilt _ outgoing => exact absurd (outgoing_live outgoing _).2.1 (not_live idle)
  | written _ _ outgoing =>
    exact absurd (outgoing_live outgoing none).2.1 (not_live idle)
  | writeFailed _ _ _ outgoing =>
    exact absurd (outgoing_live outgoing _).2.1 (not_live idle)
  | delivered _ queue _ sent =>
    -- there is no queue yet that could take the message
    rw [inv.idle side stream idle] at sent
    cases sent
  | ended => cases idle

theorem nonidle_step (inv : TunnelInv cfg tunnel) (stepped : TunnelStep cfg tunnel action next)
    (opened : (tunnel.ends side stream).phase ≠ .idle) :
    (next.ends side stream).phase ≠ .idle :=
  fun idle => opened (endChange_idle inv (ends_step stepped side stream) idle).2

omit [DecidableEq Stream] in
theorem live_or_cleanUp (change : EndChange cfg tunnel action next side stream state)
    (isLive : (tunnel.ends side stream).phase.isLive) :
    state.phase.isLive = true ∨ action = .cleanUp side stream := by
  cases change with
  | same | closed | delivered => exact .inl isLive
  | advanced _ _ _ moved => exact .inl (endStep_live moved).2.1
  | registered | started => exact .inl rfl
  | unbuilt _ outgoing => exact .inl (outgoing_live outgoing _).2.1
  | written _ _ outgoing => exact .inl (outgoing_live outgoing none).2.1
  | writeFailed _ _ _ outgoing => exact .inl (outgoing_live outgoing _).2.1
  | ended _ _ isCleanUp => exact .inr isCleanUp

theorem tabled_step (inv : TunnelInv cfg tunnel) (stepped : TunnelStep cfg tunnel action next)
    {id : StreamID} (tabled : next.table side id = some stream) :
    (cfg.stream stream).id = id ∧ (next.ends side stream).phase.isLive = true := by
  have change := table_step stepped side id
  have ends := ends_step stepped side stream
  rw [tabled] at change
  generalize entry : some stream = found at change
  cases change with
  | same =>
    obtain ⟨isID, isLive⟩ := inv.tabled side id stream entry.symm
    refine ⟨isID, (live_or_cleanUp ends isLive).resolve_right ?_⟩
    rintro rfl
    rcases cleanUp_table stepped with removed | ⟨isAgent, unnamed⟩
    · rw [isID, tabled] at removed
      cases removed
    · rw [isAgent, ← isID, unnamed, inv.named] at entry
      cases entry
  | registered _ _ isID isLive =>
    cases entry
    exact ⟨isID.symm, isLive⟩
  | started _ frame _ msg link read isID _ isLive =>
    cases entry
    refine ⟨?_, isLive⟩
    rw [isID, inv.framed .gateway stream frame msg (by simp [link]) read]
  | removed => cases entry

theorem named_step (inv : TunnelInv cfg tunnel) (stepped : TunnelStep cfg tunnel action next) :
    next.table .agent [] = none := by
  have change := table_step stepped .agent []
  generalize next.table .agent [] = entry at change
  cases change with
  | same => exact inv.named
  | registered _ isGateway => cases isGateway
  | started _ _ _ _ _ _ _ named => exact absurd rfl named
  | removed => rfl

theorem unique_step (inv : TunnelInv cfg tunnel) (distinct : tunnel.Distinct cfg action)
    (stepped : TunnelStep cfg tunnel action next) (first second : Stream)
    (liveFirst : next.Live first) (liveSecond : next.Live second)
    (same : (cfg.stream first).id = (cfg.stream second).id) : first = second := by
  have opened : ∀ {stream}, (action = .register stream ∨
      ∃ side frame, action = .other side stream frame) →
      ∀ live, tunnel.Live live → (cfg.stream live).id = (cfg.stream stream).id → live = stream := by
    rintro _ (rfl | ⟨_, _, rfl⟩)
    · exact distinct
    · exact distinct
  rcases live_step stepped liveFirst with firstBefore | firstOpened
  · rcases live_step stepped liveSecond with secondBefore | secondOpened
    · exact inv.unique first second firstBefore secondBefore same
    · exact opened secondOpened first firstBefore same
  · rcases live_step stepped liveSecond with secondBefore | secondOpened
    · exact (opened firstOpened second secondBefore same.symm).symm
    · rcases firstOpened with rfl | ⟨side, frame, rfl⟩ <;>
        rcases secondOpened with isSame | ⟨_, _, isSame⟩ <;> cases isSame <;> rfl

theorem openings_append (link : List (Stream × Frame)) (stream own : Stream) (frame : Frame) :
    (link ++ [(own, frame)]).countP (fun entry => entry.1 = stream && opens entry.2) =
      link.countP (fun entry => entry.1 = stream && opens entry.2) +
        if own = stream ∧ opens frame = true then 1 else 0 := by
  rw [List.countP_append]
  simp [List.countP_cons]

omit [DecidableEq Stream] in
theorem endChange_early (change : EndChange cfg tunnel action next .gateway stream state)
    (isEarly : state.phase.isEarly) :
    (tunnel.ends .gateway stream).phase.isEarly = true := by
  have not_early : ∀ {phase : Phase}, phase.isEarly = false → phase.isEarly ≠ true := by
    intro phase late
    simp [late]
  cases change with
  | same | closed | delivered => exact isEarly
  | advanced _ _ _ moved =>
    exact absurd isEarly (not_early (endStep_live moved).2.2)
  | registered _ _ idle => rw [idle]; rfl
  | started _ _ _ isAgent => cases isAgent
  | unbuilt _ outgoing => exact absurd isEarly (not_early (outgoing_live outgoing _).2.2)
  | written _ _ outgoing =>
    exact absurd isEarly (not_early (outgoing_live outgoing none).2.2)
  | writeFailed _ _ _ outgoing =>
    exact absurd isEarly (not_early (outgoing_live outgoing _).2.2)
  | ended => cases isEarly

omit [DecidableEq Stream] in
theorem agent_opened (change : EndChange cfg tunnel action next .agent stream state)
    (before : (tunnel.ends .agent stream).phase = .idle) (opened : state.phase ≠ .idle) :
    ∃ frame rest, tunnel.link .gateway = (stream, frame) :: rest ∧ opens frame = true ∧
      next.link .gateway = rest := by
  have not_live : (tunnel.ends .agent stream).phase.isLive ≠ true := by
    simp [before, Phase.isLive]
  cases change with
  | same | closed | delivered => exact absurd before opened
  | advanced _ _ _ moved => exact absurd (endStep_live moved).1 not_live
  | registered isGateway => cases isGateway
  | started frame rest _ _ link read isOpen popped =>
    exact ⟨frame, rest, link, by simp [opens, read, isOpen], popped⟩
  | unbuilt _ outgoing | written _ _ outgoing =>
    exact absurd (outgoing_live outgoing none).1 not_live
  | writeFailed _ _ _ outgoing =>
    exact absurd (outgoing_live outgoing none).1 not_live
  | ended _ _ _ leaving =>
    rw [before] at leaving
    cases leaving

section WellFormed

variable (wellFormed : ∀ stream, receivedFrom 0 (cfg.stream stream).id = (cfg.stream stream).id)

include wellFormed

theorem framed_step (inv : TunnelInv cfg tunnel) (stepped : TunnelStep cfg tunnel action next)
    {side : Side} {stream : Stream} {frame : Frame} {msg : Message}
    (member : (stream, frame) ∈ next.link side) (read : frame.read = .ok msg) :
    msg.envelope.streamID = (cfg.stream stream).id := by
  rcases mem_link_step stepped member with earlier | ⟨_, outgoing⟩ | ⟨_, _, isOther⟩
  · exact inv.framed side stream frame msg earlier read
  · obtain ⟨_, readBack, id, _⟩ := outgoing_read (wellFormed stream) outgoing
    rw [read] at readBack
    cases readBack
    exact id
  · rw [isOtherFrame, read] at isOther
    simp only [Bool.and_eq_true, decide_eq_true_eq] at isOther
    exact isOther.1

theorem openings_step (stepped : TunnelStep cfg tunnel action next) (stream : Stream) :
    next.openings stream ≤ tunnel.openings stream ∨
      next.openings stream = tunnel.openings stream + 1 ∧ action = .write .gateway stream ∧
        (tunnel.ends .gateway stream).phase = .opening := by
  unfold Tunnel.openings
  have change := link_step stepped .gateway
  generalize next.link .gateway = link at change
  cases change with
  | same => exact .inl (Nat.le_refl _)
  | written own _ isWrite outgoing =>
    rw [openings_append]
    split
    next isOpening =>
      obtain ⟨rfl, isOpening⟩ := isOpening
      obtain ⟨_, read, _, _, _, opening, _⟩ := outgoing_read (wellFormed own) outgoing
      simp only [opens, read, decide_eq_true_eq] at isOpening
      exact .inr ⟨rfl, isWrite, opening isOpening⟩
    · exact .inl (Nat.le_refl _)
  | other _ _ _ _ matched =>
    rw [openings_append, if_neg]
    · exact .inl (Nat.le_refl _)
    rintro ⟨_, isOpening⟩
    unfold opens at isOpening
    split at isOpening
    · cases isOpening
    next msg read =>
      simp only [decide_eq_true_eq] at isOpening
      simp [isOtherFrame, read, isOpening, isWebSocketType] at matched
  | read _ _ _ link =>
    left
    rw [link]
    exact List.Sublist.countP_le (List.sublist_cons_self _ _)

theorem once_step (inv : TunnelInv cfg tunnel) (stepped : TunnelStep cfg tunnel action next)
    (stream : Stream) : next.openings stream ≤ 1 := by
  rcases openings_step wellFormed stepped stream with fewer | ⟨more, _, opening⟩
  · exact Nat.le_trans fewer (inv.once stream)
  · rw [more, (inv.early stream (by rw [opening]; rfl)).1]

theorem unopened_step (inv : TunnelInv cfg tunnel) (stepped : TunnelStep cfg tunnel action next)
    (stream : Stream) (opened : (next.ends .agent stream).phase ≠ .idle) :
    next.openings stream = 0 := by
  by_cases before : (tunnel.ends .agent stream).phase = .idle
  · -- the agent has just read the one message that opens the stream
    obtain ⟨_, _, link, isOpening, popped⟩ :=
      agent_opened (ends_step stepped .agent stream) before opened
    have once := inv.once stream
    simp only [Tunnel.openings, link, List.countP_cons, isOpening, decide_true, Bool.and_self,
      if_true] at once
    rw [Tunnel.openings, popped]
    omega
  · rcases openings_step wellFormed stepped stream with fewer | ⟨_, _, opening⟩
    · rw [inv.unopened stream before] at fewer
      exact Nat.le_zero.mp fewer
    · exact absurd (inv.early stream (by rw [opening]; rfl)).2 before

theorem early_step (inv : TunnelInv cfg tunnel) (stepped : TunnelStep cfg tunnel action next)
    (stream : Stream) (isEarly : (next.ends .gateway stream).phase.isEarly) :
    next.openings stream = 0 ∧ (next.ends .agent stream).phase = .idle := by
  have change := ends_step stepped .gateway stream
  obtain ⟨unopened, agentIdle⟩ := inv.early stream (endChange_early change isEarly)
  constructor
  · rcases openings_step wellFormed stepped stream with fewer | ⟨_, rfl, _⟩
    · rw [unopened] at fewer
      exact Nat.le_zero.mp fewer
    · -- the write that puts `ws.open` on the connection ends the early phase
      have late : (next.ends .gateway stream).phase.isEarly = false := by
        cases stepped with
        | unbuilt _ _ _ outgoing =>
          rw [ends_setEnd, if_pos ⟨rfl, rfl⟩]
          exact (outgoing_live outgoing _).2.2
        | written _ _ _ outgoing =>
          show ((Tunnel.setEnd _ _ _ _).ends .gateway stream).phase.isEarly = false
          rw [ends_setEnd, if_pos ⟨rfl, rfl⟩]
          exact (outgoing_live outgoing none).2.2
      rw [isEarly] at late
      cases late
  · by_contra opened
    obtain ⟨_, _, link, isOpening, _⟩ :=
      agent_opened (ends_step stepped .agent stream) agentIdle opened
    simp [Tunnel.openings, link, isOpening] at unopened

theorem tunnelInv_step (inv : TunnelInv cfg tunnel) (distinct : tunnel.Distinct cfg action)
    (stepped : TunnelStep cfg tunnel action next) : TunnelInv cfg next where
  idle side stream isIdle := (endChange_idle inv (ends_step stepped side stream) isIdle).1
  tabled _ _ _ tabled := tabled_step inv stepped tabled
  named := named_step inv stepped
  unique := unique_step inv distinct stepped
  framed _ _ _ _ member read := framed_step wellFormed inv stepped member read
  once := once_step wellFormed inv stepped
  unopened := unopened_step wellFormed inv stepped
  early := early_step wellFormed inv stepped

end WellFormed

end Live

/-- Where all streams have different ids, every run is one of distinct streams. -/
theorem guarded_distinct {cfg : TunnelConfig Stream}
    (distinct : ∀ first second, (cfg.stream first).id = (cfg.stream second).id → first = second)
    (tunnel : Tunnel Stream) (actions : List (TunnelAction Stream)) :
    Guarded (Tunnel.step cfg) (Tunnel.Distinct cfg) tunnel actions := by
  refine guarded_of_forall (fun tunnel action => ?_) tunnel actions
  cases action with
  | register stream | other _ stream => exact fun live _ same => distinct live stream same
  | _ => trivial

theorem tunnelInv_initial (cfg : TunnelConfig Stream) : TunnelInv cfg {} := by
  refine ⟨fun _ _ _ => rfl, fun _ _ _ tabled => (by cases tabled), rfl, ?_,
    fun _ _ _ _ member => (by cases member), fun _ => Nat.zero_le 1, fun _ _ => rfl,
    fun _ _ => ⟨rfl, rfl⟩⟩
  rintro _ _ (⟨_, isLive⟩ | ⟨_, _, member⟩)
  · cases isLive
  · cases member

end Porthook.WebSocket
