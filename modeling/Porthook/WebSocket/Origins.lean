import Porthook.WebSocket.Streams

/-!
# Where a message comes from

A message that an end finds in its queue was written by the other end of the same
stream.  So what such a message says about its writer is carried along with it: the
writer has been opened, and one that has written `ws.error` is over.
-/

namespace Porthook.WebSocket

open Protocol Gateway Transition

variable {Stream : Type} [DecidableEq Stream]

def Phase.isOver : Phase → Bool
  | .leaving _ | .ended _ => true
  | _ => false

/-- The gateway has its answer and works on it.  The phases of the agent count as
well; the gateway is never in one of them. -/
def Phase.isAnswered : Phase → Bool
  | .idle | .opening | .waiting | .leaving _ | .ended _ => false
  | _ => true

def End.Has (state : End) (msg : Message) : Prop := msg ∈ state.queue.items ∨ msg ∈ state.taken

/-- A message of one end of a stream: on the connection, in the hands of the loop
that reads it there, or with the other end. -/
inductive Tunnel.Carried (tunnel : Tunnel Stream) (side : Side) (stream : Stream)
    (msg : Message) : Prop where
  | linked (frame : Frame) : (stream, frame) ∈ tunnel.link side → frame.read = .ok msg →
      Carried tunnel side stream msg
  | looked : tunnel.loop side.other = .delivering stream msg → Carried tunnel side stream msg
  | arrived : (tunnel.ends side.other stream).Has msg → Carried tunnel side stream msg

section Steps

variable {cfg : TunnelConfig Stream} {tunnel next : Tunnel Stream} {action : TunnelAction Stream}

omit [DecidableEq Stream] in
theorem loop_setLoop (tunnel : Tunnel Stream) (side other : Side) (loop : Loop Stream) :
    (tunnel.setLoop side loop).loop other = if other = side then loop else tunnel.loop other := by
  by_cases same : other = side
  · subst same
    simp [Tunnel.setLoop]
  · simp [Tunnel.setLoop, same]

theorem remove_loop (tunnel : Tunnel Stream) (side : Side) (stream : Stream) :
    (tunnel.remove cfg side stream).loop = tunnel.loop := by
  unfold Tunnel.remove
  cases side with
  | gateway => rfl
  | agent =>
    dsimp only
    split
    · rfl
    · split <;> rfl

theorem start_loop (tunnel : Tunnel Stream) (stream : Stream) (id : StreamID) :
    (tunnel.start stream id).loop = tunnel.loop := by
  unfold Tunnel.start
  dsimp only
  split <;> rfl

omit [DecidableEq Stream] in
theorem stop_loop (tunnel : Tunnel Stream) (side : Side) :
    (tunnel.stop side).loop = (tunnel.setLoop side .stopped).loop := by
  cases side <;> rfl

variable {side : Side} {target stream : Stream} {msg : Message} {rest : List (Stream × Frame)}
    {state : End}

omit [DecidableEq Stream] in
theorem delivering_setLoop {other : Side} {loop : Loop Stream}
    (idle : ∀ target msg, loop ≠ .delivering target msg)
    (delivering : (tunnel.setLoop side loop).loop other = .delivering target msg) :
    tunnel.loop other = .delivering target msg := by
  rw [loop_setLoop] at delivering
  split at delivering
  · exact absurd delivering (idle target msg)
  · exact delivering

theorem delivering_step (stepped : TunnelStep cfg tunnel action next)
    (delivering : next.loop side = .delivering target msg) :
    tunnel.loop side = .delivering target msg ∨
      ∃ stream frame rest, tunnel.link side.other = (stream, frame) :: rest ∧
        frame.read = .ok msg ∧ tunnel.table side msg.envelope.streamID = some target := by
  cases stepped with
  | cleanUp =>
    rw [remove_loop] at delivering
    exact .inl delivering
  | broken =>
    rw [stop_loop] at delivering
    exact .inl (delivering_setLoop (by simp) delivering)
  | found _ own frame rest _ _ _ link read isFound =>
    rw [loop_setLoop] at delivering
    split at delivering
    next same =>
      subst same
      cases delivering
      exact .inr ⟨own, frame, rest, link, read, isFound⟩
    · exact .inl delivering
  | dropped _ _ _ _ _ _ _ _ _ _ isLoop =>
    refine .inl (delivering_setLoop ?_ delivering)
    rcases isLoop with rfl | rfl <;> simp
  | started =>
    rw [start_loop] at delivering
    exact .inl delivering
  | readFailed =>
    rw [stop_loop] at delivering
    exact .inl (delivering_setLoop (by simp) delivering)
  | deliver | abandon | resume => exact .inl (delivering_setLoop (by simp) delivering)
  | advance | register | unbuilt | written | writeFailed | other | connectionLost | closeDone
  | cancelContext => exact .inl delivering

theorem found_own (inv : TunnelInv cfg tunnel) {frame : Frame}
    (link : tunnel.link side.other = (stream, frame) :: rest) (read : frame.read = .ok msg)
    (found : tunnel.table side msg.envelope.streamID = some target) : target = stream := by
  have member : (stream, frame) ∈ tunnel.link side.other := by simp [link]
  obtain ⟨id, isLive⟩ := inv.tabled side _ target found
  rw [inv.framed side.other stream frame msg member read] at id
  exact inv.unique target stream (.inl ⟨side, isLive⟩) (.inr ⟨side.other, frame, member⟩) id

theorem endStep_has {done : Bool} {next : End} {event : Event}
    (stepped : EndStep side done state event next) (has : next.Has msg) :
    state.Has msg := by
  -- a message that is taken was at the head of the queue
  have taken : ∀ {received rest}, state.queue.receive? = some (received, rest) →
      msg ∈ rest.items ∨ msg ∈ state.taken ++ [received] → state.Has msg := by
    intro received rest isTaken has
    unfold End.Has
    rw [(Channel.receive?_eq_some isTaken).1]
    simp only [List.mem_append, List.mem_cons] at has ⊢
    tauto
  cases stepped with
  | answer _ _ _ isTaken => exact taken isTaken has
  | relay relay _ _ _ moved =>
    cases moved with
    | take _ _ _ isTaken => exact taken isTaken has
    | handle received =>
      obtain ⟨_, _, _, same⟩ := handleMessage_eq state relay received
      rwa [same] at has
    | _ => exact has
  | _ => exact has

omit [DecidableEq Stream] in
theorem has_step (change : EndChange cfg tunnel action next side stream state)
    (has : state.Has msg) :
    (tunnel.ends side stream).Has msg ∨ tunnel.loop side = .delivering stream msg := by
  have written : ∀ err, ((tunnel.ends side stream).afterWrite err).Has msg →
      (tunnel.ends side stream).Has msg := by
    intro err has
    obtain ⟨_, same⟩ := afterWrite_eq (tunnel.ends side stream) err
    rwa [same] at has
  cases change with
  | same | closed | ended => exact .inl has
  | advanced _ _ _ moved => exact .inl (endStep_has moved has)
  | registered | started => rcases has with queued | taken <;> contradiction
  | unbuilt | written
  | writeFailed =>
    exact .inl (written _ has)
  | delivered _ _ delivering sent =>
    rcases has with queued | taken
    · dsimp only at queued
      rw [(Channel.send?_eq_some sent).2.1, List.mem_append, List.mem_singleton] at queued
      rcases queued with earlier | rfl
      · exact .inl (.inl earlier)
      · exact .inr delivering
    · exact .inl (.inr taken)

theorem carried_step (inv : TunnelInv cfg tunnel) (stepped : TunnelStep cfg tunnel action next)
    (carried : next.Carried side stream msg)
    (isWebSocket : isWebSocketType msg.envelope.typ) :
    tunnel.Carried side stream msg ∨ ∃ frame, action = .write side stream ∧
      (tunnel.ends side stream).outgoing (cfg.stream stream) = some (.ok frame) ∧
        frame.read = .ok msg := by
  cases carried with
  | linked frame member read =>
    rcases mem_link_step stepped member with earlier | ⟨isWrite, outgoing⟩ | ⟨_, _, isOther⟩
    · exact .inl (.linked frame earlier read)
    · exact .inr ⟨frame, isWrite, outgoing, read⟩
    · rw [isOtherFrame, read] at isOther
      simp [isWebSocket] at isOther
  | looked delivering =>
    rcases delivering_step stepped delivering with earlier | ⟨_, frame, _, link, read, found⟩
    · exact .inl (.looked earlier)
    have same : side.other.other = side := by cases side <;> rfl
    cases found_own inv link read found
    rw [same] at link
    exact .inl (.linked frame (by simp [link]) read)
  | arrived has =>
    rcases has_step (ends_step stepped side.other stream) has with earlier | delivering
    · exact .inl (.arrived earlier)
    · exact .inl (.looked delivering)

theorem idle_of_opening (inv : TunnelInv cfg tunnel) {frame : Frame}
    (link : tunnel.link .gateway = (stream, frame) :: rest) (read : frame.read = .ok msg)
    (isOpen : msg.envelope.typ = .wsOpen) : (tunnel.ends .agent stream).phase = .idle := by
  by_contra opened
  have unopened := inv.unopened stream opened
  simp [Tunnel.openings, link, opens, read, isOpen] at unopened

theorem endStep_over {done : Bool} {next : End} {event : Event}
    (stepped : EndStep side done state event next) : state.phase.isOver = false := by
  cases stepped <;> simp [*, Phase.isOver]

theorem over_step (inv : TunnelInv cfg tunnel) (stepped : TunnelStep cfg tunnel action next)
    (isOver : (tunnel.ends side stream).phase.isOver) :
    (next.ends side stream).phase.isOver = true := by
  have not_writing : ∀ {built}, (tunnel.ends side stream).outgoing (cfg.stream stream) =
      some built → False := by
    intro built outgoing
    unfold End.outgoing at outgoing
    split at outgoing <;> simp_all [Phase.isOver]
  have change := ends_step stepped side stream
  generalize next.ends side stream = state at change
  cases change with
  | same | closed | delivered => exact isOver
  | advanced _ _ _ moved =>
    rw [endStep_over moved] at isOver
    cases isOver
  | registered _ _ idle =>
    rw [idle] at isOver
    cases isOver
  | started _ _ _ isAgent link read isOpen =>
    subst isAgent
    rw [idle_of_opening inv link read isOpen] at isOver
    cases isOver
  | unbuilt _ outgoing | written _ _ outgoing
  | writeFailed _ _ _ outgoing =>
    exact (not_writing outgoing).elim
  | ended => rfl

/-- What a message says about the end that wrote it. -/
structure Origins (tunnel : Tunnel Stream) : Prop where
  opened : ∀ side stream msg, tunnel.Carried side stream msg →
    isWebSocketType msg.envelope.typ = true → (tunnel.ends side stream).phase ≠ .idle
  refused : ∀ side stream msg, tunnel.Carried side stream msg → msg.envelope.typ = .wsError →
    (tunnel.ends side stream).phase.isOver = true
  answered : ∀ stream, (tunnel.ends .gateway stream).phase.isAnswered = true →
    (tunnel.ends .agent stream).phase ≠ .idle

theorem opened_step (inv : TunnelInv cfg tunnel) (origins : Origins tunnel)
    (stepped : TunnelStep cfg tunnel action next) (carried : next.Carried side stream msg)
    (isWebSocket : isWebSocketType msg.envelope.typ) :
    (next.ends side stream).phase ≠ .idle := by
  apply nonidle_step inv stepped
  rcases carried_step inv stepped carried isWebSocket with earlier | ⟨_, _, outgoing, _⟩
  · exact origins.opened side stream msg earlier isWebSocket
  intro idle
  have isLive := (outgoing_live outgoing none).1
  rw [idle] at isLive
  cases isLive

section WellFormed

variable (wellFormed : ∀ stream, receivedFrom 0 (cfg.stream stream).id = (cfg.stream stream).id)

include wellFormed

theorem error_step (inv : TunnelInv cfg tunnel) (origins : Origins tunnel)
    (stepped : TunnelStep cfg tunnel action next) {side : Side} {stream : Stream} {msg : Message}
    (carried : next.Carried side stream msg) (isError : msg.envelope.typ = .wsError) :
    (next.ends side stream).phase.isOver = true := by
  rcases carried_step inv stepped carried (by rw [isError]; rfl) with
    earlier | ⟨frame, rfl, outgoing, read⟩
  · exact over_step inv stepped (origins.refused side stream msg earlier isError)
  obtain ⟨_, readBack, _, _, _, _, failing⟩ := outgoing_read (wellFormed stream) outgoing
  rw [read] at readBack
  cases readBack
  obtain ⟨_, _, phase⟩ := failing isError
  cases stepped with
  | unbuilt _ _ _ unbuilt =>
    rw [unbuilt] at outgoing
    cases outgoing
  | written =>
    show ((Tunnel.setEnd _ _ _ _).ends side stream).phase.isOver = true
    rw [ends_setEnd, if_pos ⟨rfl, rfl⟩]
    simp [End.afterWrite, phase, Phase.isOver]

end WellFormed

theorem accept_of_answer {msg : Message} {accept : Accept}
    (answered : wsOpenAnswer msg = .ok accept) : msg.envelope.typ = .wsAccept := by
  unfold wsOpenAnswer at answered
  split at answered
  next isAccept => exact isAccept
  · split at answered <;> cases answered
  · cases answered

theorem afterWrite_answered {state : End} {err : Option (Option ContextCause)}
    (isAnswered : (state.afterWrite err).phase.isAnswered) :
    state.phase.isAnswered = true := by
  unfold End.afterWrite at isAnswered
  split at isAnswered
  · cases isAnswered
  · cases isAnswered
  · cases isAnswered
  · cases isAnswered
  next phase => rw [phase]; rfl
  · cases isAnswered
  next phase => rw [phase]; rfl
  · exact isAnswered

theorem endStep_answered {side : Side} {done : Bool} {state next : End} {event : Event}
    (stepped : EndStep side done state event next) (isAnswered : next.phase.isAnswered) :
    state.phase.isAnswered = true ∨ ∃ msg ∈ state.queue.items, msg.envelope.typ = .wsAccept := by
  cases stepped with
  | answer msg _ _ received =>
    dsimp only at isAnswered
    cases answered : wsOpenAnswer msg with
    | ok =>
      refine .inr ⟨msg, ?_, accept_of_answer answered⟩
      rw [(Channel.receive?_eq_some received).1]
      exact List.mem_cons_self
    | error =>
      rw [answered] at isAnswered
      cases isAnswered
  | openContextDone | openSessionDone | relayReturned => cases isAnswered
  | upgraded _ phase | upgradeFailed _ phase | undialled _ _ _ phase | dialled _ phase
  | relay _ _ _ phase => exact .inl (by rw [phase]; rfl)

theorem answered_step (inv : TunnelInv cfg tunnel) (origins : Origins tunnel)
    (stepped : TunnelStep cfg tunnel action next) {stream : Stream}
    (isAnswered : (next.ends .gateway stream).phase.isAnswered) :
    (next.ends .agent stream).phase ≠ .idle := by
  have kept := origins.answered stream
  apply nonidle_step inv stepped
  have change := ends_step stepped .gateway stream
  generalize next.ends .gateway stream = state at change isAnswered
  cases change with
  | same | closed | delivered => exact kept isAnswered
  | advanced _ _ _ moved =>
    rcases endStep_answered moved isAnswered with before | ⟨msg, queued, isAccept⟩
    · exact kept before
    · exact origins.opened .agent stream msg (.arrived (.inl queued)) (by rw [isAccept]; rfl)
  | registered | ended => cases isAnswered
  | started _ _ _ isAgent => cases isAgent
  | unbuilt | written | writeFailed => exact kept (afterWrite_answered isAnswered)

theorem origins_step
    (wellFormed : ∀ stream, receivedFrom 0 (cfg.stream stream).id = (cfg.stream stream).id)
    (inv : TunnelInv cfg tunnel) (origins : Origins tunnel)
    (stepped : TunnelStep cfg tunnel action next) : Origins next where
  opened _ _ _ carried isWebSocket := opened_step inv origins stepped carried isWebSocket
  refused _ _ _ carried isError := error_step wellFormed inv origins stepped carried isError
  answered _ isAnswered := answered_step inv origins stepped isAnswered

end Steps

omit [DecidableEq Stream] in
theorem origins_initial : Origins ({} : Tunnel Stream) := by
  have nothing : ∀ side stream msg, ¬ ({} : Tunnel Stream).Carried side stream msg := by
    rintro _ _ _ (⟨_, member, _⟩ | delivering | has)
    · cases member
    · cases delivering
    · rcases has with queued | taken <;> contradiction
  exact ⟨fun side stream msg carried => absurd carried (nothing side stream msg),
    fun side stream msg carried => absurd carried (nothing side stream msg),
    fun _ isAnswered => (by cases isAnswered)⟩

end Porthook.WebSocket
