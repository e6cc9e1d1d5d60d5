import Porthook.Gateway.ReadLoop

/-!
# A response that was received before the session ended

The receive loop of `readStreamResponse` selects between its queue and `s.done`.  If both are
ready, Go takes either, so a handler whose complete response is already in its queue may still
return "agent disconnected".
-/

namespace Porthook.Gateway

open Protocol Transition

/-- The body of a response that is complete: a start and chunks, in any number
that the loop accepts, up to an `http.response.end`. -/
def completeBody? (chunkBytes : Int) : Bool → List Message → Option Bytes
  | _, [] => none
  | started, msg :: rest =>
    match msg.envelope.typ with
    | .httpResponseStart =>
      match decodePayload ResponseStart.decode msg.envelope with
      | .error _ => none
      | .ok _ => completeBody? chunkBytes true rest
    | .httpResponseBody =>
      if started then
        match responseBodyChunk msg chunkBytes with
        | .error _ => none
        | .ok chunk => (completeBody? chunkBytes true rest).map (chunk ++ ·)
      else none
    | .httpResponseEnd => some []
    | _ => none

def Accepts (write : PublicWriter) : Prop := ∀ index chunk, write index chunk = (chunk.length, none)

def drain (write : PublicWriter) (chunkBytes : Int) (read : ReadState) (msgs : List Message) :
    Outcome :=
  readStreamLoop write chunkBytes read (msgs.map .message)

section Loop

variable {write : PublicWriter} {chunkBytes : Int} {read : ReadState}

theorem drain_append (msgs later : List Message) : drain write chunkBytes read (msgs ++ later) =
      match (drain write chunkBytes read msgs).returned with
      | none => drain write chunkBytes (drain write chunkBytes read msgs).state later
      | some _ => drain write chunkBytes read msgs := by
  unfold drain
  induction msgs generalizing read with
  | nil => rfl
  | cons msg _ ih =>
    simp only [List.map_cons, List.cons_append, readStreamLoop]
    cases handleResponseMessage write chunkBytes read msg with
    | next => exact ih
    | done => rfl

theorem drain_append_of_returned {msgs : List Message} {result : Option StreamError}
    (returned : (drain write chunkBytes read msgs).returned = some result)
    (later : List Message) :
    drain write chunkBytes read (msgs ++ later) = drain write chunkBytes read msgs := by
  rw [drain_append, returned]

theorem drain_cons_next {msg : Message} {after : ReadState}
    (handled : handleResponseMessage write chunkBytes read msg = .next after)
    (rest : List Message) :
    drain write chunkBytes read (msg :: rest) = drain write chunkBytes after rest := by
  simp [drain, readStreamLoop, handled]

theorem drain_cons_done {msg : Message} {after : ReadState} {err : Option StreamError}
    (handled : handleResponseMessage write chunkBytes read msg = .done after err)
    (rest : List Message) : drain write chunkBytes read (msg :: rest) = ⟨after, some err⟩ := by
  simp [drain, readStreamLoop, handled]

theorem drain_append_congr {first second : ReadState} {left right : List Message}
    (same : drain write chunkBytes first left = drain write chunkBytes second right)
    (later : List Message) :
    drain write chunkBytes first (left ++ later) =
      drain write chunkBytes second (right ++ later) := by
  rw [drain_append, drain_append, same]

theorem drain_complete (accepts : Accepts write) {msgs : List Message} {body : Bytes}
    (complete : completeBody? chunkBytes read.responseStarted msgs = some body) :
    (drain write chunkBytes read msgs).returned = some none ∧
      (drain write chunkBytes read msgs).state.passed = read.passed ++ body ∧
      (drain write chunkBytes read msgs).state.result.responseBytes =
        read.result.responseBytes + body.length := by
  induction msgs generalizing read body with
  | nil => cases complete
  | cons msg _ ih =>
    simp only [completeBody?] at complete
    split at complete
    next isStart =>
      split at complete
      · cases complete
      next resp decoded =>
        have handled : handleResponseMessage write chunkBytes read msg =
            .next ({ read with responseStarted := true }.writeResponseStart
              { resp with status := clampStatus resp.status }) := by
          simp only [handleResponseMessage, isStart, decoded]
        rw [drain_cons_next handled]
        have later := @ih ({ read with
          responseStarted := true }.writeResponseStart
            { resp with status := clampStatus resp.status }) body complete
        rwa [writeResponseStart_passed] at later
    next isBody =>
      split at complete
      next started =>
        split at complete
        · cases complete
        next chunk accepted =>
          obtain ⟨_, remaining, rfl⟩ := Option.map_eq_some_iff.mp complete
          have written : (read.writeResponseBody write chunk).2 = none :=
            (writeResponseBody_eq_none_iff write read chunk).mpr (accepts _ _)
          have handled : handleResponseMessage write chunkBytes read msg =
              .next (read.writeResponseBody write chunk).1 := by
            simp only [handleResponseMessage, isBody, started, if_true, accepted]
            cases outcome : read.writeResponseBody write chunk with
            | mk =>
              rw [outcome] at written
              dsimp only at written
              subst written
              rfl
          rw [drain_cons_next handled]
          have after := writeResponseBody_fst write read chunk
          rw [accepts] at after
          have started_after : (read.writeResponseBody write chunk).1.responseStarted = true := by
            rw [after]
            exact started
          obtain ⟨returned, passed, count⟩ := ih (started_after.symm ▸ remaining)
          refine ⟨returned, ?_, ?_⟩
          · rw [passed, writeResponseBody_passed, List.append_assoc]
          · rw [count, after, List.length_append, Int.natCast_add, Int.add_assoc]
      · cases complete
    next isEnd =>
      cases complete
      cases started : read.responseStarted with
      | true =>
        have handled : handleResponseMessage write chunkBytes read msg = .done read none := by
          simp [handleResponseMessage, isEnd, started]
        rw [drain_cons_done handled]
        simp
      | false =>
        have handled : handleResponseMessage write chunkBytes read msg =
            .done (read.writeResponseStart { status := 200 }) none := by
          simp [handleResponseMessage, isEnd, started]
        rw [drain_cons_done handled]
        simp [ReadState.writeResponseStart, ReadState.passed, ReadState.bodyCalls]
    · cases complete

end Loop

/-- The outcome is that of the recorded messages, with later ones behind them
only if the session is done. -/
def Consumed (stream : Stream) (chunkBytes : Int) (done : Bool) (early : List Message)
    (outcome : Outcome) : Prop :=
  ∃ later, drain stream.write chunkBytes {} (early ++ later) = outcome ∧ (done = false → later = [])

def Phase.inHand : Phase → List Message
  | .handling _ msg => [msg]
  | _ => []

/-- The variables of `streamRoundTrip` where `early` was put into its queue
before the session was done. -/
def HandlerState.Owes (stream : Stream) (chunkBytes : Int) (done : Bool) (early : List Message)
    (state : HandlerState) : Prop :=
  match state.phase with
  | .idle | .checked | .acquired => state.queue.capacity = 0 ∧ state.read = {} ∧ early = []
  | .sending | .receiving .response | .handling .response _ =>
    Consumed stream chunkBytes done early
      (drain stream.write chunkBytes state.read (state.phase.inHand ++ state.queue.items))
  | .leaving err | .removed err | .returned err =>
    Consumed stream chunkBytes done early ⟨state.read, some err⟩ ∨
      done = true ∧ completeBody? chunkBytes false early = none ∨
      state.queue.capacity = 0 ∧ early = []
  | _ => False

def recordEarly (done : Bool) (early : List Message) (msg : Message) : List Message :=
  if done then early else early ++ [msg]

section Handler

variable {stream : Stream} {chunkBytes : Int} {done : Bool} {early : List Message}
variable {state next : HandlerState}

theorem Consumed.close {outcome : Outcome}
    (consumed : Consumed stream chunkBytes done early outcome) :
    Consumed stream chunkBytes true early outcome := by
  obtain ⟨later, same, _⟩ := consumed
  exact ⟨later, same, by rintro ⟨⟩⟩

theorem Consumed.deliver {read : ReadState} {msgs : List Message}
    (consumed : Consumed stream chunkBytes done early (drain stream.write chunkBytes read msgs))
    (msg : Message) :
    Consumed stream chunkBytes done (recordEarly done early msg)
      (drain stream.write chunkBytes read (msgs ++ [msg])) := by
  obtain ⟨later, same, empty⟩ := consumed
  cases done with
  | false =>
    cases empty rfl
    rw [List.append_nil] at same
    exact ⟨[], by rw [List.append_nil]; exact drain_append_congr same [msg], fun _ => rfl⟩
  | true =>
    refine ⟨later ++ [msg], ?_, by rintro ⟨⟩⟩
    rw [recordEarly, if_pos rfl, ← List.append_assoc]
    exact drain_append_congr same [msg]

theorem Consumed.deliver_returned {read : ReadState} {err : Option StreamError}
    (consumed : Consumed stream chunkBytes done early ⟨read, some err⟩) (msg : Message) :
    Consumed stream chunkBytes done (recordEarly done early msg) ⟨read, some err⟩ := by
  obtain ⟨later, same, empty⟩ := consumed
  cases done with
  | false =>
    cases empty rfl
    rw [List.append_nil] at same
    refine ⟨[], ?_, fun _ => rfl⟩
    rw [List.append_nil, recordEarly, if_neg (by simp),
      drain_append_of_returned (congrArg Outcome.returned same), same]
  | true => exact ⟨later, same, empty⟩

theorem Consumed.complete (accepts : Accepts stream.write) {outcome : Outcome}
    (consumed : Consumed stream chunkBytes done early outcome) {body : Bytes}
    (complete : completeBody? chunkBytes false early = some body) :
    outcome.returned = some none ∧ outcome.state.passed = body ∧
      outcome.state.result.responseBytes = body.length := by
  obtain ⟨_, same, _⟩ := consumed
  obtain ⟨returned, passed, count⟩ :=
    @drain_complete stream.write chunkBytes {} accepts early body complete
  rw [drain_append_of_returned returned] at same
  subst same
  exact ⟨returned, passed, by rw [count]; simp⟩

theorem HandlerState.Owes.close (owes : state.Owes stream chunkBytes done early) :
    state.Owes stream chunkBytes true early := by
  unfold HandlerState.Owes at owes ⊢
  split at owes
  iterate 3
    · exact owes
  iterate 3
    · exact owes.close
  iterate 3
    next phase =>
      rcases owes with consumed | ⟨_, incomplete⟩ | unregistered
      · exact .inl consumed.close
      · exact .inr (.inl ⟨rfl, incomplete⟩)
      · exact .inr (.inr unregistered)
  · exact owes.elim

theorem HandlerState.Owes.deliver (owes : state.Owes stream chunkBytes done early) {msg : Message}
    {queue : Channel Message} (sent : state.queue.send? msg = some queue) :
    { state with queue }.Owes stream chunkBytes done (recordEarly done early msg) := by
  obtain ⟨room, items, _⟩ := Channel.send?_eq_some sent
  -- a handler that has no queue gets nothing
  have positive : state.queue.capacity ≠ 0 := by
    intro zero
    have bounded := state.queue.bounded
    unfold Channel.Full at room
    omega
  unfold HandlerState.Owes at owes ⊢
  split at owes
  iterate 3
    · exact absurd owes.1 positive
  iterate 3
    next phase =>
      simp only [phase, items, ← List.append_assoc] at owes ⊢
      exact owes.deliver msg
  iterate 3
    next phase =>
      simp only [phase]
      rcases owes with consumed | ⟨isDone, incomplete⟩ | ⟨zero, _⟩
      · exact .inl (consumed.deliver_returned msg)
      · subst isDone
        exact .inr (.inl ⟨rfl, incomplete⟩)
      · exact absurd zero positive
  · exact owes.elim

/-- The condition on the steps of a handler: no deadline fires, its request is
written, and the done branch is taken only with an empty queue. -/
def LocalEvent.Drains (state : HandlerState) : LocalEvent → Prop
  | .contextDone _ | .requestFailed _ => False
  | .sessionDone => state.queue.items = []
  | _ => True

theorem HandlerState.Owes.localStep {event : LocalEvent} (http : stream.kind = .http)
    (accepts : Accepts stream.write) (owes : state.Owes stream chunkBytes done early)
    (drains : event.Drains state) (stepped : LocalStep stream chunkBytes done state event next) :
    next.Owes stream chunkBytes done early := by
  cases stepped with
  | checkDone phase =>
    simp only [HandlerState.Owes, phase] at owes
    cases done with
    | false => exact owes
    | true => exact .inr (.inr ⟨owes.1, owes.2.2⟩)
  | requestSent phase =>
    simp only [HandlerState.Owes, phase] at owes
    simp only [HandlerState.Owes, http, StreamKind.firstMode]
    exact owes
  | requestFailed => exact drains.elim
  | receive mode _ _ phase received =>
    obtain ⟨items, _⟩ := Channel.receive?_eq_some received
    cases mode with
    | response =>
      simp only [HandlerState.Owes, phase, Phase.inHand, items] at owes
      exact owes
    | opening | relay => simp [HandlerState.Owes, phase] at owes
  | handle mode _ phase =>
    cases mode with
    | response =>
      simp only [HandlerState.Owes, phase, Phase.inHand, List.singleton_append] at owes
      simp only [HandlerState.handleMessage]
      split
      next read handled =>
        rwa [drain_cons_next handled] at owes
      next read err handled =>
        rw [drain_cons_done handled] at owes
        exact .inl owes
    | opening | relay => simp [HandlerState.Owes, phase] at owes
  | relayStarted _ phase | handshakeFailed _ _ phase =>
    simp [HandlerState.Owes, phase] at owes
  | contextDone => exact drains.elim
  | sessionDone mode phase other isDone =>
    cases mode with
    | response =>
      have empty : state.queue.items = [] := drains
      simp only [HandlerState.Owes, phase, Phase.inHand, empty] at owes
      refine .inr (.inl ⟨isDone, ?_⟩)
      -- with a complete response the loop would have returned
      cases complete : completeBody? chunkBytes false early with
      | none => rfl
      | some => cases (owes.complete accepts complete).1
    | opening => simp [HandlerState.Owes, phase] at owes
    | relay => exact absurd rfl other
  | relayEnded _ phase => simp [HandlerState.Owes, phase] at owes

end Handler

variable {Handler : Type} [DecidableEq Handler]

/-- A session with the messages that each queue got before the session was
done. -/
structure Recorded (Handler : Type) where
  session : Session Handler := {}
  early : Handler → List Message := fun _ => []

def Recorded.records (recorded : Recorded Handler) : SessionAction Handler → Handler → List Message
  | .deliver =>
    match recorded.session.readLoop with
    | .delivering target msg => Function.update recorded.early target
        (recordEarly recorded.session.done (recorded.early target) msg)
    | _ => recorded.early
  | _ => recorded.early

def Recorded.step (cfg : SessionConfig Handler) (recorded : Recorded Handler)
    (action : SessionAction Handler) : Option (Recorded Handler) :=
  (recorded.session.step cfg action).map fun session => ⟨session, recorded.records action⟩

def SessionAction.isOwn (handler : Handler) : SessionAction Handler → Bool
  | .advance actor _ | .acquireStream actor | .addPending actor | .removePending actor
  | .releaseStream actor => actor = handler
  | _ => false

def Recorded.ownStep (cfg : SessionConfig Handler) (handler : Handler)
    (recorded : Recorded Handler) (action : SessionAction Handler) : Option (Recorded Handler) :=
  if action.isOwn handler then recorded.step cfg action else none

def Recorded.Drains (handler : Handler) (recorded : Recorded Handler) : SessionAction Handler → Prop
  | .advance actor event =>
    actor = handler → event.Drains (recorded.session.handler handler)
  | _ => True

def HandlerState.Answered (state : HandlerState) (body : Bytes) : Prop :=
  state.phase = .returned none ∧ state.read.passed = body ∧
    state.read.result.responseBytes = body.length

/-- A complete response that the handler had got before the session was done is
what it returns, and it can return it by steps of its own. -/
def Recorded.Kept (cfg : SessionConfig Handler) (handler : Handler)
    (recorded : Recorded Handler) : Prop :=
  ∀ body, completeBody? (effectiveChunkBytes cfg.chunkBytes) false (recorded.early handler) =
      some body →
    ((∃ err, (recorded.session.handler handler).phase = .returned err) →
      (recorded.session.handler handler).Answered body) ∧
    ∃ last, Reaches (Recorded.ownStep cfg handler) recorded last ∧
      (last.session.handler handler).Answered body

def Recorded.Owes (cfg : SessionConfig Handler) (handler : Handler)
    (recorded : Recorded Handler) : Prop :=
  (recorded.session.handler handler).Owes (cfg.stream handler)
    (effectiveChunkBytes cfg.chunkBytes) recorded.session.done (recorded.early handler)

section Session

variable {cfg : SessionConfig Handler} {handler : Handler} {recorded next : Recorded Handler}
variable {action : SessionAction Handler}

variable {session : Session Handler}

theorem owes_setHandler {early : Handler → List Message} {actor : Handler} {state : HandlerState}
    (owes : Recorded.Owes cfg handler ⟨session, early⟩)
    (own : actor = handler → state.Owes (cfg.stream handler)
      (effectiveChunkBytes cfg.chunkBytes) session.done (early handler)) :
    Recorded.Owes cfg handler ⟨session.setHandler actor state, early⟩ := by
  unfold Recorded.Owes
  by_cases same : actor = handler
  · subst same
    rw [setHandler_same]
    exact own rfl
  · rw [setHandler_other _ _ (Ne.symm same)]
    exact owes

theorem owes_step (http : (cfg.stream handler).kind = .http)
    (accepts : Accepts (cfg.stream handler).write) (owes : recorded.Owes cfg handler)
    (drains : recorded.Drains handler action)
    (stepped : recorded.step cfg action = some next) : next.Owes cfg handler := by
  obtain ⟨_, moved, rfl⟩ := Option.map_eq_some_iff.mp stepped
  cases step_inv moved with
  | advance _ _ _ local_ =>
    apply owes_setHandler owes
    rintro rfl
    exact HandlerState.Owes.localStep http accepts owes (drains rfl) local_
  | acquired _ _ phase =>
    apply owes_setHandler owes
    rintro rfl
    unfold Recorded.Owes HandlerState.Owes at owes
    rwa [phase] at owes
  | limited _ phase =>
    apply owes_setHandler owes
    rintro rfl
    unfold Recorded.Owes HandlerState.Owes at owes
    rw [phase] at owes
    exact .inr (.inr ⟨owes.1, owes.2.2⟩)
  | addPending _ phase =>
    apply owes_setHandler owes
    rintro rfl
    unfold Recorded.Owes HandlerState.Owes at owes
    rw [phase] at owes
    obtain ⟨_, fresh, empty⟩ := owes
    refine ⟨[], ?_, fun _ => rfl⟩
    dsimp only [Recorded.records]
    rw [empty, fresh]
    rfl
  | removePending _ _ phase | releaseStream _ _ phase =>
    apply owes_setHandler owes
    rintro rfl
    unfold Recorded.Owes HandlerState.Owes at owes
    rwa [phase] at owes
  | deliver target _ _ delivering sent =>
    by_cases same : target = handler
    · subst same
      unfold Recorded.Owes
      simp only [Recorded.records, delivering, Function.update_self, setHandler_same,
        setHandler_done]
      exact HandlerState.Owes.deliver owes sent
    · unfold Recorded.Owes
      simp only [Recorded.records, delivering, Function.update_of_ne (Ne.symm same),
        setHandler_other _ _ (Ne.symm same), setHandler_done]
      exact owes
  | readFailed | pongFailed | closeDone => exact HandlerState.Owes.close owes
  | ping | found | dropped | pongWritten | abandonDelivery | cancelContext => exact owes

/-- The steps that `streamRoundTrip` has left at most, with nothing more in its
queue. -/
def HandlerState.remaining (state : HandlerState) : Nat :=
  match state.phase with
  | .sending | .handling _ _ => 2 * state.queue.items.length + 5
  | .receiving _ => 2 * state.queue.items.length + 4
  | .leaving _ => 2
  | .removed _ => 1
  | _ => 0

theorem ownStep_of_step (own : action.isOwn handler)
    (moved : recorded.session.step cfg action = some session) :
    recorded.ownStep cfg handler action = some ⟨session, recorded.early⟩ := by
  rw [Recorded.ownStep, if_pos own, Recorded.step, moved]
  cases action with
  | deliver => cases own
  | _ => rfl

def Recorded.Progresses (cfg : SessionConfig Handler) (handler : Handler)
    (recorded : Recorded Handler) : Prop :=
  ∃ action next, recorded.ownStep cfg handler action = some next ∧
    recorded.Drains handler action ∧ next.early = recorded.early ∧
    (next.session.handler handler).remaining < (recorded.session.handler handler).remaining

theorem progresses_of_step (own : action.isOwn handler)
    (moved : recorded.session.step cfg action = some session)
    (drains : recorded.Drains handler action)
    (closer : (session.handler handler).remaining <
      (recorded.session.handler handler).remaining) : recorded.Progresses cfg handler :=
  ⟨action, ⟨session, recorded.early⟩, ownStep_of_step own moved, drains, rfl, closer⟩

theorem progresses_of_advance {event : LocalEvent} {state : HandlerState}
    (moved : localStep (cfg.stream handler) (effectiveChunkBytes cfg.chunkBytes)
      recorded.session.done (recorded.session.handler handler) event = some state)
    (drains : event.Drains (recorded.session.handler handler))
    (closer : state.remaining < (recorded.session.handler handler).remaining) :
    recorded.Progresses cfg handler := by
  have stepped : recorded.session.step cfg (.advance handler event) =
      some (recorded.session.setHandler handler state) := by
    rw [Session.step, moved, Option.map_some]
  refine progresses_of_step (by simp [SessionAction.isOwn]) stepped (fun _ => drains) ?_
  rw [setHandler_same]
  exact closer

theorem owes_progress (accepts : Accepts (cfg.stream handler).write)
    (owes : recorded.Owes cfg handler) {body : Bytes}
    (complete : completeBody? (effectiveChunkBytes cfg.chunkBytes) false
      (recorded.early handler) = some body)
    (running : ∀ err, (recorded.session.handler handler).phase ≠ .returned err) :
    recorded.Progresses cfg handler := by
  unfold Recorded.Owes HandlerState.Owes at owes
  split at owes
  iterate 3
    · rw [owes.2.2] at complete
      cases complete
  next phase =>
    have moved : localStep (cfg.stream handler) (effectiveChunkBytes cfg.chunkBytes)
        recorded.session.done (recorded.session.handler handler) .requestSent =
          some { recorded.session.handler handler with
            phase := .receiving (cfg.stream handler).kind.firstMode } := by
      simp only [localStep, phase]
    apply progresses_of_advance moved trivial
    simp [HandlerState.remaining, phase]
  next phase =>
    obtain ⟨returned, _⟩ := owes.complete accepts complete
    cases received : (recorded.session.handler handler).queue.receive? with
    | none =>
      rw [phase, (Channel.receive?_eq_none_iff _).mp received] at returned
      cases returned
    | some taken =>
      obtain ⟨items, _⟩ := Channel.receive?_eq_some received
      have moved : localStep (cfg.stream handler) (effectiveChunkBytes cfg.chunkBytes)
          recorded.session.done (recorded.session.handler handler) .receive =
            some { recorded.session.handler handler with
              queue := taken.2, phase := .handling .response taken.1 } := by
        simp [localStep, phase, received]
      apply progresses_of_advance moved trivial
      simp only [HandlerState.remaining, phase, items, List.length_cons]
      omega
  next msg phase =>
    have moved : localStep (cfg.stream handler) (effectiveChunkBytes cfg.chunkBytes)
        recorded.session.done (recorded.session.handler handler) .handle =
          some ((recorded.session.handler handler).handleMessage (cfg.stream handler)
            (effectiveChunkBytes cfg.chunkBytes) .response msg) := by
      simp only [localStep, phase]
    apply progresses_of_advance moved trivial
    simp only [HandlerState.remaining, phase, HandlerState.handleMessage]
    cases handleResponseMessage (cfg.stream handler).write (effectiveChunkBytes cfg.chunkBytes)
      (recorded.session.handler handler).read msg with
    | next | done => simp
  next err phase =>
    have moved : recorded.session.step cfg (.removePending handler) =
        some { recorded.session.setPhase handler (.removed err) with
          pending := Function.update recorded.session.pending (cfg.stream handler).id none } := by
      simp only [Session.step, phase]
    apply progresses_of_step (by simp [SessionAction.isOwn]) moved trivial
    simp [HandlerState.remaining, Session.setPhase, phase]
  next err phase =>
    have moved : recorded.session.step cfg (.releaseStream handler) =
        some { recorded.session.setPhase handler (.returned err) with
          streams := recorded.session.streams - 1 } := by
      simp only [Session.step, phase]
    apply progresses_of_step (by simp [SessionAction.isOwn]) moved trivial
    simp [HandlerState.remaining, Session.setPhase, phase]
  next err phase => exact absurd phase (running err)
  · exact owes.elim

omit [DecidableEq Handler] in
theorem answered_of_returned (accepts : Accepts (cfg.stream handler).write)
    (owes : recorded.Owes cfg handler) {body : Bytes}
    (complete : completeBody? (effectiveChunkBytes cfg.chunkBytes) false
      (recorded.early handler) = some body)
    (ended : ∃ err, (recorded.session.handler handler).phase = .returned err) :
    (recorded.session.handler handler).Answered body := by
  obtain ⟨_, phase⟩ := ended
  unfold Recorded.Owes HandlerState.Owes at owes
  rw [phase] at owes
  rcases owes with consumed | ⟨_, incomplete⟩ | ⟨_, empty⟩
  · obtain ⟨returned, passed, count⟩ := consumed.complete accepts complete
    cases returned
    exact ⟨phase, passed, count⟩
  · rw [complete] at incomplete
    cases incomplete
  · rw [empty] at complete
    cases complete

theorem kept_of_owes (http : (cfg.stream handler).kind = .http)
    (accepts : Accepts (cfg.stream handler).write) (owes : recorded.Owes cfg handler) :
    recorded.Kept cfg handler := by
  intro body complete
  refine ⟨answered_of_returned accepts owes complete, ?_⟩
  obtain ⟨last, reached, ended⟩ := reaches_of_progress
    (fun recorded : Recorded Handler => (recorded.session.handler handler).remaining)
    (fun recorded => recorded.Owes cfg handler ∧
      completeBody? (effectiveChunkBytes cfg.chunkBytes) false (recorded.early handler) = some body)
    (fun recorded => (recorded.session.handler handler).Answered body)
    (by
      rintro _ ⟨owes, complete⟩ unanswered
      obtain ⟨action, next, stepped, drains, same, closer⟩ := owes_progress accepts owes complete
        fun err phase => unanswered (answered_of_returned accepts owes complete ⟨err, phase⟩)
      refine ⟨action, next, stepped, ⟨?_, by rw [same]; exact complete⟩, closer⟩
      unfold Recorded.ownStep at stepped
      split at stepped
      · exact owes_step http accepts owes drains stepped
      · cases stepped)
    ⟨owes, complete⟩
  exact ⟨last, reached, ended⟩

end Session

/-- A handler whose request is written without an error, without a deadline, and that takes the done
branch only with an empty queue, returns each complete response that it had received before the
session was done. -/
theorem complete_response_returned (cfg : SessionConfig Handler) (handler : Handler)
    (http : (cfg.stream handler).kind = .http)
    (accepts : ∀ index chunk, (cfg.stream handler).write index chunk = (chunk.length, none))
    (actions : List (SessionAction Handler))
    (drains : Guarded (Recorded.step cfg) (Recorded.Drains handler) {} actions) :
    Always (Recorded.step cfg) (Recorded.Kept cfg handler) {} actions := by
  have initial : Recorded.Owes cfg handler {} := ⟨rfl, rfl, rfl⟩
  have kept := always_of_guarded
    (fun _ _ _ owes drains stepped => owes_step http accepts owes drains stepped) initial drains
  exact kept.mono fun _ owes => kept_of_owes http accepts owes

instance (state : HandlerState) (event : LocalEvent) : Decidable (event.Drains state) :=
  match event with
  | .contextDone _ | .requestFailed _ => inferInstanceAs (Decidable False)
  | .sessionDone => decidable_of_iff (state.queue.items.isEmpty = true) List.isEmpty_iff
  | .checkDone | .requestSent | .receive | .handle | .relayStarted | .handshakeFailed _
  | .relayEnded _ => inferInstanceAs (Decidable True)

instance (handler : Handler) (recorded : Recorded Handler) (action : SessionAction Handler) :
    Decidable (recorded.Drains handler action) :=
  match action with
  | .advance actor event => inferInstanceAs
      (Decidable (actor = handler → event.Drains (recorded.session.handler handler)))
  | .acquireStream _ | .addPending _ | .removePending _ | .releaseStream _ | .read _
  | .readFailed | .pongWritten | .pongFailed | .deliver | .abandonDelivery | .closeDone
  | .cancelContext => inferInstanceAs (Decidable True)

/-- The agent sends a complete response with a body of one byte. -/
def answeredConfig : SessionConfig Unit :=
  { maxConcurrentStreams := 64
    chunkBytes := 32
    stream := fun _ => ⟨.http, ascii "str_a", fun _ chunk => (chunk.length, none)⟩ }

def startRun : List (SessionAction Unit) :=
  [.advance () .checkDone, .acquireStream (), .addPending ()]

def responseRun : List (SessionAction Unit) :=
  let start := textMessage (newStream .httpResponseStart (ascii "str_a") (ascii "tun_a")
    (some (.object [(ascii "status", .number (ascii "200"))])))
  let chunk := binaryMessage .httpResponseBody (ascii "str_a") (ascii "tun_a") [7]
  let stop := textMessage (newStream .httpResponseEnd (ascii "str_a") (ascii "tun_a") none)
  [.read start, .deliver, .read chunk, .deliver, .read stop, .deliver]

def returnRun : List (SessionAction Unit) := [.removePending (), .releaseStream ()]

/-- The handler has the complete response in its queue when the agent goes
away; it takes the done branch, or the connection breaks the end of its
request. -/
theorem complete_response_discarded :
    (∃ last, exec (Recorded.step answeredConfig) {} (startRun ++ [.advance () .requestSent] ++
        responseRun ++ [.readFailed, .advance () .sessionDone] ++ returnRun) = some last ∧
      completeBody? 32 false (last.early ()) = some [7] ∧
      (last.session.handler ()).phase = .returned (some .agentDisconnected) ∧
      ¬ last.Kept answeredConfig ()) ∧
    ∃ last, exec (Recorded.step answeredConfig) {} (startRun ++ responseRun ++
        [.readFailed, .advance () (.requestFailed (.writeTunnel none))] ++ returnRun) =
        some last ∧
      completeBody? 32 false (last.early ()) = some [7] ∧
      (last.session.handler ()).phase = .returned (some (.writeTunnel none)) ∧
      ¬ last.Kept answeredConfig () := by
  refine ⟨⟨_, rfl, by decide +kernel, rfl, fun kept => ?_⟩,
    ⟨_, rfl, by decide +kernel, rfl, fun kept => ?_⟩⟩
  · have answered := (kept [7] (by decide +kernel)).1 ⟨_, rfl⟩
    cases answered.1
  · have answered := (kept [7] (by decide +kernel)).1 ⟨_, rfl⟩
    cases answered.1

/-- The handler takes the response out of its queue after the agent has gone. -/
theorem complete_response_returned_late :
    let run := startRun ++ [.advance () .requestSent] ++ responseRun ++ [.readFailed] ++
      (List.replicate 3 [.advance () .receive, .advance () .handle]).flatten ++ returnRun
    (∃ last, exec (Recorded.step answeredConfig) {} run = some last ∧
      (last.session.handler ()).Answered [7]) ∧
    Always (Recorded.step answeredConfig) (Recorded.Kept answeredConfig ()) {} run := by
  refine ⟨⟨_, rfl, rfl, by decide +kernel, by decide +kernel⟩, ?_⟩
  exact complete_response_returned answeredConfig () rfl (fun _ _ => rfl) _ (by decide +kernel)

end Porthook.Gateway
