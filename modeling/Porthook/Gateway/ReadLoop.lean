import Porthook.Gateway.Session

/-!
# Who can hold up the read loop

`deliver` blocks while the queue it looked up is full, and with it waits every other stream of the
tunnel.  It watches the channel, the context and the session, but not the end of the stream it
delivers to.
-/

namespace Porthook.Gateway

open Porthook.Protocol Transition

/-- The handler comes back to a `select` on its queue unless something outside
of it intervenes; see `canReceive_iff`. -/
def HandlerState.canReceive (stream : Stream) (chunkBytes : Int) (state : HandlerState) : Bool :=
  match state.phase with
  | .sending | .receiving _ | .accepted _ => true
  | .handling mode msg =>
    match (state.handleMessage stream chunkBytes mode msg).phase with
    | .leaving _ => false
    | _ => true
  | _ => false

/-- The events that take a handler out of its receive loop, whatever it has
received so far. -/
def LocalEvent.leaves : LocalEvent → Prop
  | .requestFailed _ | .handshakeFailed _ | .contextDone _ | .relayEnded _ => True
  | _ => False

section Handlers

variable {stream : Stream} {chunkBytes : Int} {done : Bool} {state next : HandlerState}
  {event : LocalEvent}

theorem handleMessage_queue (mode : Mode) (msg : Message) :
    (state.handleMessage stream chunkBytes mode msg).queue = state.queue := by
  cases mode <;> simp only [HandlerState.handleMessage] <;> split <;> rfl

theorem handleMessage_phase (stream : Stream) (chunkBytes : Int) (state : HandlerState)
    (mode : Mode) (msg : Message) :
    (∃ after, (state.handleMessage stream chunkBytes mode msg).phase = .receiving after) ∨
      (∃ accept, (state.handleMessage stream chunkBytes mode msg).phase = .accepted accept) ∨
      ∃ err, (state.handleMessage stream chunkBytes mode msg).phase = .leaving err := by
  cases mode <;> simp only [HandlerState.handleMessage] <;> split <;> simp

theorem localStep_queue (stepped : LocalStep stream chunkBytes done state event next) :
    next.queue = state.queue ∨ ¬ next.queue.Full := by
  cases stepped with
  | receive _ _ _ _ received => exact .inr (Channel.not_full_of_receive? received)
  | handle mode msg => exact .inl (handleMessage_queue mode msg)
  | _ => exact .inl rfl

theorem localStep_queue_of_leaves (stepped : LocalStep stream chunkBytes done state event next)
    (leaves : event.leaves) : next.queue = state.queue := by
  cases stepped <;> first | rfl | exact leaves.elim

theorem localStep_canReceive (stepped : LocalStep stream chunkBytes false state event next)
    (receives : state.canReceive stream chunkBytes) (full : next.queue.Full) :
    next.canReceive stream chunkBytes = true ↔ ¬ event.leaves := by
  cases stepped with
  | receive _ _ _ _ received =>
    exact absurd full (Channel.not_full_of_receive? received)
  | handle mode msg phase =>
    simp only [HandlerState.canReceive, phase] at receives
    rcases handleMessage_phase stream chunkBytes state mode msg with
      ⟨after, waits⟩ | ⟨accept, waits⟩ | ⟨err, left⟩
    · simp [HandlerState.canReceive, waits, LocalEvent.leaves]
    · simp [HandlerState.canReceive, waits, LocalEvent.leaves]
    · simp [left] at receives
  | sessionDone _ _ _ isDone => cases isDone
  | checkDone phase => simp [HandlerState.canReceive, phase] at receives
  | _ => simp [HandlerState.canReceive, LocalEvent.leaves]

end Handlers

variable {Handler : Type} [DecidableEq Handler]

/-- The read loop waits inside `deliver` for room in the queue of `handler`. -/
def Session.BlockedOn (session : Session Handler) (handler : Handler) : Prop :=
  (∃ msg, session.readLoop = .delivering handler msg) ∧ (session.handler handler).queue.Full ∧
    session.done = false ∧ session.contextDone = false

def Session.canReceive (cfg : SessionConfig Handler) (session : Session Handler)
    (handler : Handler) : Bool :=
  (session.handler handler).canReceive (cfg.stream handler) (effectiveChunkBytes cfg.chunkBytes)

/-- Whoever the read loop waits for is registered and still receives. -/
def Session.NotStranded (cfg : SessionConfig Handler) (session : Session Handler) : Prop :=
  ∀ handler, session.BlockedOn handler → session.pending (cfg.stream handler).id = some handler ∧
      session.canReceive cfg handler = true

/-- Nobody leaves a queue that the read loop waits for, nobody else registers or unregisters its
stream id, and a message is only picked up for a handler that receives or has room. -/
def Session.KeepsReceiver (cfg : SessionConfig Handler) (session : Session Handler) :
    SessionAction Handler → Prop
  | .advance handler event => event.leaves → ¬ session.BlockedOn handler
  | .addPending handler | .removePending handler =>
    ∀ blocked, session.BlockedOn blocked → (cfg.stream handler).id ≠ (cfg.stream blocked).id
  | .read msg =>
    ∀ target, session.target? msg = some target →
      session.done = false → session.contextDone = false →
      (session.handler target).queue.Full → session.canReceive cfg target = true
  | _ => True

def Session.Indexed (cfg : SessionConfig Handler) (session : Session Handler) : Prop :=
  ∀ id handler, session.pending id = some handler → (cfg.stream handler).id = id

variable {cfg : SessionConfig Handler} {session next : Session Handler}
  {action : SessionAction Handler}

theorem indexed_step (indexed : session.Indexed cfg)
    (stepped : session.step cfg action = some next) : next.Indexed cfg := by
  have registered : ∀ (id : StreamID) (entry : Option Handler),
      (∀ handler, entry = some handler → (cfg.stream handler).id = id) →
      ∀ key handler, Function.update session.pending id entry key = some handler →
        (cfg.stream handler).id = key := by
    intro id entry own key handler found
    by_cases same : key = id
    · subst key
      rw [Function.update_self] at found
      exact own handler found
    · rw [Function.update_of_ne same] at found
      exact indexed key handler found
  cases step_inv stepped with
  | addPending =>
    exact registered _ _ fun other same => by rw [Option.some.inj same]
  | removePending => exact registered _ _ (by rintro _ ⟨⟩)
  | _ => exact indexed

variable {handler : Handler}

theorem notStranded_setHandler_iff {state : HandlerState} (holds : session.NotStranded cfg) :
    (session.setHandler handler state).NotStranded cfg ↔
      ((session.setHandler handler state).BlockedOn handler →
        session.pending (cfg.stream handler).id = some handler ∧
          state.canReceive (cfg.stream handler) (effectiveChunkBytes cfg.chunkBytes) = true) := by
  constructor
  · intro kept blocked
    simpa [Session.canReceive] using kept handler blocked
  · intro kept other blocked
    by_cases same : other = handler
    · subst other
      simpa [Session.canReceive] using kept blocked
    · have before : session.BlockedOn other := by
        simpa [Session.BlockedOn, setHandler_other session state same] using blocked
      simpa [Session.canReceive, setHandler_other session state same] using holds other before

omit [DecidableEq Handler] in
theorem not_blockedOn_of_left (holds : session.NotStranded cfg)
    (left : session.canReceive cfg handler = false) : ¬ session.BlockedOn handler := by
  intro blocked
  have receives := (holds handler blocked).2
  rw [left] at receives
  cases receives

theorem blockedOn_setHandler_same {state : HandlerState} :
    (session.setHandler handler state).BlockedOn handler ↔
      (∃ msg, session.readLoop = .delivering handler msg) ∧ state.queue.Full ∧
        session.done = false ∧ session.contextDone = false := by
  simp [Session.BlockedOn]

theorem notStranded_setPhase (phase : Phase) (holds : session.NotStranded cfg)
    (left : session.canReceive cfg handler = false) :
    (session.setPhase handler phase).NotStranded cfg := by
  refine (notStranded_setHandler_iff holds).mpr fun blocked => ?_
  exact absurd (blockedOn_setHandler_same.mp blocked) (not_blockedOn_of_left holds left)

omit [DecidableEq Handler] in
theorem notStranded_of_not_delivering
    (idle : ∀ handler msg, session.readLoop ≠ .delivering handler msg) :
    session.NotStranded cfg := by
  rintro handler ⟨⟨msg, delivering⟩, _⟩
  exact absurd delivering (idle handler msg)

theorem notStranded_advance_iff {event : LocalEvent} {state : HandlerState}
    (holds : session.NotStranded cfg)
    (stepped : LocalStep (cfg.stream handler) (effectiveChunkBytes cfg.chunkBytes) session.done
      (session.handler handler) event state) :
    (session.setHandler handler state).NotStranded cfg ↔
      (event.leaves → ¬ session.BlockedOn handler) := by
  rw [notStranded_setHandler_iff holds, blockedOn_setHandler_same]
  constructor
  · rintro kept leaves blocked
    have queue := localStep_queue_of_leaves stepped leaves
    have receives := (kept ⟨blocked.1, queue ▸ blocked.2.1, blocked.2.2⟩).2
    rw [blocked.2.2.1] at stepped
    exact (localStep_canReceive stepped (holds handler blocked).2
      (queue ▸ blocked.2.1)).mp receives leaves
  · rintro stays ⟨delivering, full, alive⟩
    have queue : state.queue = (session.handler handler).queue :=
      (localStep_queue stepped).resolve_right (not_not_intro full)
    have blocked : session.BlockedOn handler := ⟨delivering, queue ▸ full, alive⟩
    rw [alive.1] at stepped
    exact ⟨(holds handler blocked).1, (localStep_canReceive stepped (holds handler blocked).2
      full).mpr fun leaves => stays leaves blocked⟩

theorem notStranded_updatePending_iff {state : HandlerState} {id : StreamID}
    {entry : Option Handler} (holds : session.NotStranded cfg)
    (left : session.canReceive cfg handler = false)
    (queue : state.queue = (session.handler handler).queue ∨ ¬ state.queue.Full)
    (others : ∀ blocked, session.BlockedOn blocked → entry ≠ some blocked) :
    ({ session.setHandler handler state with
        pending := Function.update session.pending id entry } : Session Handler).NotStranded cfg ↔
      ∀ blocked, session.BlockedOn blocked → id ≠ (cfg.stream blocked).id := by
  have different : ∀ blocked, session.BlockedOn blocked → blocked ≠ handler := by
    rintro _ blocked rfl
    exact not_blockedOn_of_left holds left blocked
  constructor
  · intro kept blocked waits same
    have still : ({ session.setHandler handler state with
        pending := Function.update session.pending id entry } : Session Handler).BlockedOn
          blocked := by
      simpa [Session.BlockedOn, setHandler_other session state (different blocked waits)] using
        waits
    have registered := (kept blocked still).1
    simp only [← same, Function.update_self] at registered
    exact others blocked waits registered
  · intro apart blocked waits
    have before : session.BlockedOn blocked := by
      by_cases same : blocked = handler
      · subst blocked
        have full : state.queue.Full := by simpa using waits.2.1
        exact ⟨waits.1, (queue.resolve_right (not_not_intro full)) ▸ full, waits.2.2⟩
      · simpa [Session.BlockedOn, setHandler_other session state same] using waits
    have other := different blocked before
    refine ⟨?_, ?_⟩
    · simpa [Function.update_of_ne (apart blocked before).symm] using (holds blocked before).1
    · simpa [Session.canReceive, setHandler_other session state other] using
        (holds blocked before).2

theorem pendingBuffer_not_full (kind : StreamKind) :
    ¬ (Channel.make kind.pendingBuffer : Channel Message).Full := by
  cases kind <;> decide

theorem notStranded_step_iff (indexed : session.Indexed cfg) (holds : session.NotStranded cfg)
    (stepped : session.step cfg action = some next) :
    next.NotStranded cfg ↔ session.KeepsReceiver cfg action := by
  cases step_inv stepped with
  | advance _ _ _ moved => exact notStranded_advance_iff holds moved
  | acquired _ _ phase =>
    refine iff_of_true (notStranded_setPhase .acquired holds ?_) trivial
    simp [Session.canReceive, HandlerState.canReceive, phase]
  | limited _ phase =>
    refine iff_of_true (notStranded_setPhase _ holds ?_) trivial
    simp [Session.canReceive, HandlerState.canReceive, phase]
  | addPending handler phase =>
    have left : session.canReceive cfg handler = false := by
      simp [Session.canReceive, HandlerState.canReceive, phase]
    refine notStranded_updatePending_iff holds left
      (.inr (pendingBuffer_not_full (cfg.stream handler).kind)) ?_
    rintro _ waits same
    cases same
    exact not_blockedOn_of_left holds left waits
  | removePending handler _ phase =>
    have left : session.canReceive cfg handler = false := by
      simp [Session.canReceive, HandlerState.canReceive, phase]
    exact notStranded_updatePending_iff holds left (.inl rfl) (by rintro _ _ ⟨⟩)
  | releaseStream _ err phase =>
    refine iff_of_true (notStranded_setPhase (.returned err) holds ?_) trivial
    simp [Session.canReceive, HandlerState.canReceive, phase]
  | ping _ _ isPing =>
    refine iff_of_true (notStranded_of_not_delivering (by simp)) fun target found => ?_
    simp [Session.target?, isPing, isDelivered] at found
  | found msg target _ found =>
    have own : session.pending (cfg.stream target).id = some target := by
      unfold Session.target? at found
      split at found
      · rw [indexed _ _ found]
        exact found
      · cases found
    constructor
    · rintro kept _ same alive context full
      cases found.symm.trans same
      exact (kept target ⟨⟨msg, rfl⟩, full, alive, context⟩).2
    · rintro receives _ ⟨⟨_, delivering⟩, full, alive, context⟩
      cases delivering
      exact ⟨own, receives target found alive context full⟩
  | dropped _ _ missing =>
    refine iff_of_true holds fun target found => ?_
    rw [missing] at found
    cases found
  | readFailed | pongWritten | pongFailed | deliver | abandonDelivery =>
    exact iff_of_true (notStranded_of_not_delivering (by simp)) trivial
  | closeDone => exact iff_of_true (fun _ blocked => by cases blocked.2.2.1) trivial
  | cancelContext => exact iff_of_true (fun _ blocked => by cases blocked.2.2.2) trivial

/-- A run keeps the read loop from ever being stranded on a finished stream
exactly when all of its steps meet the condition. -/
theorem readLoop_notStranded_iff (cfg : SessionConfig Handler)
    (actions : List (SessionAction Handler)) :
    Always (Session.step cfg) (Session.NotStranded cfg) {} actions ↔
      Guarded (Session.step cfg) (fun session action =>
        (session.step cfg action).isSome = true → session.KeepsReceiver cfg action) {} actions :=
  always_iff_guarded (Session.Indexed cfg)
    (fun _ _ _ indexed stepped => indexed_step indexed stepped)
    (fun _ _ _ indexed holds stepped => notStranded_step_iff indexed holds stepped)
    (by rintro _ _ ⟨⟩)
    (notStranded_of_not_delivering (by simp))

def floodedConfig : SessionConfig Unit :=
  { maxConcurrentStreams := 0
    chunkBytes := 32
    stream := fun _ => ⟨.http, ascii "str_a", fun _ chunk => (chunk.length, none)⟩ }

/-- The agent fills the queue with 32 chunks and sends one more; then the public
client goes away and the handler returns. -/
def floodedRun : List (SessionAction Unit) :=
  let chunk := binaryMessage .httpResponseBody (ascii "str_a") [] [0]
  [.advance () .checkDone, .acquireStream (), .addPending (), .advance () .requestSent] ++
    (List.replicate 32 [.read chunk, .deliver]).flatten ++
    [.read chunk, .advance () (.contextDone .canceled), .removePending (), .releaseStream ()]

theorem readLoop_stranded_by_floodedRun :
    ∃ session, exec (Session.step floodedConfig) {} floodedRun = some session ∧
      (session.handler ()).phase = .returned (some (.context .canceled)) ∧
      session.BlockedOn () ∧ ¬ session.NotStranded floodedConfig := by
  refine ⟨_, rfl, rfl, ⟨⟨_, rfl⟩, ?_, rfl, rfl⟩, fun holds => ?_⟩
  · decide +kernel
  · have registered := (holds () ⟨⟨_, rfl⟩, by decide +kernel, rfl, rfl⟩).1
    cases registered

end Porthook.Gateway
