import Porthook.Agent.Runner

/-!
# What one step of the agent does to one stream

`step_change` is the only place that looks into `Runner.step`: for each stream it says what a step
did to its variables and which messages it added for it.  The invariants of the agent follow from
the cases of `TaskChange`.
-/

namespace Porthook.Agent

open Porthook.Protocol

/-- The events of a stream, one constructor per outcome, with what each of them
needs. -/
inductive TaskStep (cfg : RunnerConfig) (contextDone : Bool) (task : Task) :
    TaskEvent → Task → Prop where
  | bodyCancelled : task.body = .selecting → (task.cancelled || contextDone) = true →
      TaskStep cfg contextDone task .bodyCancelled
        { task with body := .stopped, pipe := task.pipe.closeWriter false }
  | takeLast (rest : Channel RequestBodyChunk) : task.body = .selecting →
      task.chunks.receive? = some (.last, rest) →
      TaskStep cfg contextDone task .takeChunk
        { task with chunks := rest, body := .stopped, pipe := task.pipe.closeWriter true }
  | takeEmpty (rest : Channel RequestBodyChunk) : task.body = .selecting →
      task.chunks.receive? = some (.data [], rest) →
      TaskStep cfg contextDone task .takeChunk { task with chunks := rest }
  | takeData (bytes : Bytes) (rest : Channel RequestBodyChunk) : task.body = .selecting →
      task.chunks.receive? = some (.data bytes, rest) →
      TaskStep cfg contextDone task .takeChunk
        { task with chunks := rest, body := .writing bytes }
  | readPipe (rest : Bytes) (count : Nat) : task.body = .writing rest → task.pipe = .opened →
      0 < count → count ≤ rest.length →
      TaskStep cfg contextDone task (.readPipe count)
        { task with
          written := task.written ++ rest.take count
          body := if count = rest.length then .selecting else .writing (rest.drop count) }
  | pipeWriteFailed (rest : Bytes) : task.body = .writing rest → task.pipe ≠ .opened →
      TaskStep cfg contextDone task .pipeWriteFailed { task with body := .stopped }
  | closeReader :
      TaskStep cfg contextDone task .closeReader { task with pipe := task.pipe.closeReader }
  | callFailed (text : Bytes) : task.phase = .calling →
      TaskStep cfg contextDone task (.callFailed text) { task with phase := .failing text }
  | responded (resp : ResponseStart) : task.phase = .calling → task.kind = .stream →
      TaskStep cfg contextDone task (.responded resp) { task with phase := .writingStart resp }
  | respondedWhole (resp : Response) : task.phase = .calling → task.kind = .whole →
      TaskStep cfg contextDone task (.respondedWhole resp)
        { task with phase := .writingWhole resp, localBody := resp.body }
  | readTooLarge (data : Bytes) (err : Option ReadError) (text : Bytes) :
      task.phase = .streaming →
      TaskStep cfg contextDone task (.readLocal data err)
        { task with localBody := task.localBody ++ data, phase := .failing text }
  | readChunk (data : Bytes) (err : Option ReadError) : task.phase = .streaming →
      data.length ≤ cfg.responseChunk →
      TaskStep cfg contextDone task (.readLocal data err)
        { task with localBody := task.localBody ++ data, phase := .writingBody data err }
  | readNothing : task.phase = .streaming →
      TaskStep cfg contextDone task (.readLocal [] none) { task with phase := .streaming }
  | readEOF : task.phase = .streaming →
      TaskStep cfg contextDone task (.readLocal [] (some .eof))
        { task with phase := .writingEnd }
  | readFailure (text : Bytes) : task.phase = .streaming →
      TaskStep cfg contextDone task (.readLocal [] (some (.failure text)))
        { task with phase := .failing (ascii "read local response: " ++ text) }
  | reportNothing (text : Bytes) : task.phase = .failing text →
      (task.cancelled || contextDone) = true →
      TaskStep cfg contextDone task .reportFailure { task with phase := .finished }
  | reportFailure (text : Bytes) : task.phase = .failing text →
      (task.cancelled || contextDone) = false →
      TaskStep cfg contextDone task .reportFailure { task with phase := .writingError text }
  | takeMessage (rest : Channel Message) :
      TaskStep cfg contextDone task .takeMessage { task with wsInbound := rest }
  | relayEnvelope (typ : MessageType) (payload : Json) (frame : Frame) :
      task.phase = .relaying → isRelayEnvelope typ = true →
      frame = .text (newStream typ task.id cfg.tunnelID (some payload)) →
      TaskStep cfg contextDone task (.relayEnvelope typ payload)
        { task with phase := .writingRelay (.ok frame) }
  | relayMessage (typ : MessageType) (data : Bytes) : task.phase = .relaying →
      isRelayMessage typ = true →
      TaskStep cfg contextDone task (.relayMessage typ data)
        { task with phase := .writingRelay (binaryBody typ task.id cfg.tunnelID data) }
  | relayEnded : task.phase = .relaying →
      TaskStep cfg contextDone task .relayEnded { task with phase := .finished }
  | cleanUp : task.phase = .finished →
      TaskStep cfg contextDone task .cleanUp
        { task with phase := .cleaned, pipe := task.pipe.closeReader, cancelled := true }

theorem readLocal_inv {cfg : RunnerConfig} {contextDone : Bool} {task : Task} {data : Bytes}
    {err : Option ReadError} (streaming : task.phase = .streaming)
    (fits : data.length ≤ cfg.responseChunk) :
    TaskStep cfg contextDone task (.readLocal data err) (task.readLocal cfg data err) := by
  unfold Task.readLocal
  dsimp only
  split
  · exact .readTooLarge data err _ streaming
  split
  · exact .readChunk data err streaming fits
  next noData =>
    have empty : data = [] := not_not.mp noData
    subst empty
    rw [List.append_nil]
    split
    · exact .readNothing streaming
    · exact .readEOF streaming
    · exact .readFailure _ streaming

theorem taskStep_inv {cfg : RunnerConfig} {contextDone : Bool} {task after : Task}
    {event : TaskEvent} (stepped : taskStep cfg contextDone task event = some after) :
    TaskStep cfg contextDone task event after := by
  cases event with
  | bodyCancelled =>
    simp only [taskStep] at stepped
    split at stepped <;> cases stepped
    next cancelled => exact .bodyCancelled cancelled.1 cancelled.2
  | takeChunk =>
    simp only [taskStep] at stepped
    split at stepped
    next selecting =>
      obtain ⟨⟨chunk, rest⟩, received, rfl⟩ := Option.map_eq_some_iff.mp stepped
      rcases chunk with ⟨_ | ⟨_, _⟩⟩ | _
      · exact .takeEmpty rest selecting received
      · exact .takeData _ rest selecting received
      · exact .takeLast rest selecting received
    · cases stepped
  | readPipe count =>
    simp only [taskStep] at stepped
    split at stepped
    next rest writing =>
      split at stepped <;> cases stepped
      next reads => exact .readPipe rest count writing reads.1 reads.2.1 reads.2.2
    · cases stepped
  | pipeWriteFailed =>
    simp only [taskStep] at stepped
    split at stepped
    next rest writing =>
      split at stepped <;> cases stepped
      next closed => exact .pipeWriteFailed rest writing closed
    · cases stepped
  | closeReader =>
    cases stepped
    exact .closeReader
  | readLocal =>
    simp only [taskStep] at stepped
    split at stepped
    next streaming =>
      split at stepped <;> cases stepped
      next fits => exact readLocal_inv streaming fits
    · cases stepped
  | reportFailure =>
    simp only [taskStep] at stepped
    split at stepped <;> cases stepped
    next text failing =>
      split
      next stops => exact .reportNothing text failing stops
      next goesOn => exact .reportFailure text failing (Bool.eq_false_iff.mpr goesOn)
  | takeMessage =>
    simp only [taskStep] at stepped
    split at stepped
    · obtain ⟨taken, _, rfl⟩ := Option.map_eq_some_iff.mp stepped
      exact .takeMessage taken.2
    · cases stepped
  | relayEnvelope typ payload =>
    simp only [taskStep] at stepped
    split at stepped
    next relaying =>
      split at stepped <;> cases stepped
      next known => exact .relayEnvelope typ payload _ relaying known rfl
    · cases stepped
  | responded | respondedWhole | relayMessage =>
    simp only [taskStep] at stepped
    split at stepped
    next phase =>
      split at stepped <;> cases stepped
      next allowed => constructor <;> assumption
    · cases stepped
  | callFailed | relayEnded | cleanUp =>
    simp only [taskStep] at stepped
    split at stepped <;> cases stepped
    constructor
    assumption

def Runner.out (runner : Runner) (index : Nat) : List Frame :=
  runner.sent.filterMap fun entry => if entry.1 = index then some entry.2 else none

def bodyOffer? (msg : Message) : Option Offer :=
  match msg.envelope.typ with
  | .httpRequestBody =>
    match requestBodyData msg with
    | .error _ => some .garbled
    | .ok data => some (.chunk (.data data))
  | .httpRequestEnd => some (.chunk .last)
  | _ => none

def Oversized (cfg : RunnerConfig) (msg : Message) : Prop :=
  msg.envelope.typ = .httpRequestBody ∧
    match requestBodyData msg with
    | .error _ => False
    | .ok data => (data.length : Int) > cfg.streamChunkBytes

instance (cfg : RunnerConfig) (msg : Message) : Decidable (Oversized cfg msg) := by
  unfold Oversized
  cases requestBodyData msg <;> infer_instance

inductive Opened (msg : Message) : Task → Prop where
  | undecoded (err : PayloadError) : msg.envelope.typ = .httpRequest →
      decodePayload Request.decode msg.envelope = .error err →
      Opened msg { kind := .whole, id := msg.envelope.streamID, phase := .finished }
  | whole (request : Request) : msg.envelope.typ = .httpRequest →
      decodePayload Request.decode msg.envelope = .ok request →
      Opened msg { kind := .whole, id := msg.envelope.streamID, phase := .calling }
  | rejected (err : PayloadError) : msg.envelope.typ = .httpRequestStart →
      decodePayload RequestStart.decode msg.envelope = .error err →
      Opened msg { kind := .stream, id := msg.envelope.streamID, phase := .rejected }
  | stream (request : RequestStart) : msg.envelope.typ = .httpRequestStart →
      decodePayload RequestStart.decode msg.envelope = .ok request →
      Opened msg
        { kind := .stream, id := msg.envelope.streamID, phase := .calling
          chunks := .make 32, body := .selecting }
  | ws (payload : Open) : msg.envelope.typ = .wsOpen →
      decodePayload Open.decode msg.envelope = .ok payload →
      Opened msg
        { kind := .ws, id := msg.envelope.streamID, phase := .relaying
          wsInbound := .make 64 }

inductive TaskChange (cfg : RunnerConfig) (runner : Runner) (index : Nat) :
    RunnerAction → Task → List Frame → Prop where
  | unchanged (action : RunnerAction) : TaskChange cfg runner index action (runner.task index) []
  | advance (event : TaskEvent) (after : Task) :
      TaskStep cfg runner.contextDone (runner.task index) event after →
      TaskChange cfg runner index (.advance index event) after []
  | opened (msg : Message) (after : Task) : index = runner.started → Opened msg after →
      TaskChange cfg runner index (.read msg) after []
  | offered (msg : Message) (offer : Offer) :
      runner.active msg.envelope.streamID = some index → bodyOffer? msg = some offer →
      TaskChange cfg runner index (.read msg)
        { runner.task index with offered := (runner.task index).offered ++ [offer] } []
  | oversized (msg : Message) (offer : Offer) :
      runner.active msg.envelope.streamID = some index → bodyOffer? msg = some offer →
      Oversized cfg msg →
      TaskChange cfg runner index (.read msg)
        { runner.task index with
          offered := (runner.task index).offered ++ [offer], cancelled := true, done := true } []
  | cancelled (msg : Message) :
      TaskChange cfg runner index (.read msg)
        { runner.task index with
          cancelled := true, gatewayCancelled := true, done := true } []
  | enqueued (chunk : RequestBodyChunk) (chunks : Channel RequestBodyChunk) :
      runner.serve = .offering index chunk →
      (runner.task index).chunks.send? chunk = some chunks →
      TaskChange cfg runner index .enqueue
        { runner.task index with chunks, queued := (runner.task index).queued ++ [chunk] } []
  | inbound (wsInbound : Channel Message) :
      TaskChange cfg runner index .enqueue { runner.task index with wsInbound } []
  | written (frame : Frame) : (runner.task index).outgoing cfg = some (.ok frame) →
      TaskChange cfg runner index (.write index) ((runner.task index).afterWrite none) [frame]
  | unbuilt (err : FrameError) : (runner.task index).outgoing cfg = some (.error err) →
      TaskChange cfg runner index (.write index)
        ((runner.task index).afterWrite (some (FrameError.text err))) []
  | writeFailed (frame : Frame) (text : Bytes) :
      (runner.task index).outgoing cfg = some (.ok frame) →
      TaskChange cfg runner index (.writeFailed index text)
        ((runner.task index).afterWrite (some text)) []
  | ended (done : Bool) : (runner.task index).phase = .cleaned →
      TaskChange cfg runner index (.removeActiveStream index)
        { runner.task index with phase := .ended, done } []
  | closed (other : Nat) :
      TaskChange cfg runner index (.removeActiveStream other)
        { runner.task index with done := true } []

section Table

variable (runner : Runner)

@[simp]
theorem setTask_same (index : Nat) (task : Task) :
    (runner.setTask index task).task index = task := by
  simp [Runner.setTask]

theorem setTask_other {index other : Nat} (task : Task) (different : other ≠ index) :
    (runner.setTask index task).task other = runner.task other := by
  simp [Runner.setTask, different]

theorem addActiveStream_task (task : Task) (index : Nat) :
    (runner.addActiveStream task).task index =
      if index = runner.started then task else runner.task index := by
  by_cases same : index = runner.started <;>
    simp [Runner.addActiveStream, Runner.setTask, Function.update, same]

theorem offer_task (id : StreamID) (offer : Offer) (index : Nat) :
    (runner.offer id offer).task index =
      if runner.active id = some index then
        { runner.task index with offered := (runner.task index).offered ++ [offer] }
      else runner.task index := by
  unfold Runner.offer
  cases found : runner.active id with
  | none => simp
  | some registered =>
    by_cases same : registered = index
    · subst same
      simp
    · simp [setTask_other runner _ (Ne.symm same), same]

@[simp]
theorem offer_active (id : StreamID) (offer : Offer) :
    (runner.offer id offer).active = runner.active := by
  unfold Runner.offer
  split <;> rfl

theorem cancelActiveStream_task (id : StreamID) (byGateway : Bool) (index : Nat) :
    (runner.cancelActiveStream id byGateway).task index =
      if runner.active id = some index then
        { runner.task index with
          cancelled := true
          gatewayCancelled := (runner.task index).gatewayCancelled || byGateway
          done := true }
      else runner.task index := by
  unfold Runner.cancelActiveStream
  cases found : runner.active id with
  | none => simp
  | some registered =>
    by_cases same : registered = index
    · subst same
      simp
    · simp [setTask_other runner _ (Ne.symm same), same]

@[simp]
theorem deliverChunk_task (id : StreamID) (chunk : RequestBodyChunk) :
    (runner.deliverChunk id chunk).task = runner.task := by
  unfold Runner.deliverChunk
  split
  · rfl
  · split <;> rfl

@[simp]
theorem deliverMessage_task (id : StreamID) (msg : Message) :
    (runner.deliverMessage id msg).task = runner.task := by
  unfold Runner.deliverMessage
  split
  · rfl
  · split <;> rfl

end Table

section Message

variable {cfg : RunnerConfig} {runner : Runner} {msg : Message}

theorem addActiveStream_change {task : Task} (opened : Opened msg task) (index : Nat) :
    TaskChange cfg runner index (.read msg) ((runner.addActiveStream task).task index) [] := by
  rw [addActiveStream_task]
  split
  next isNew => exact .opened msg task isNew opened
  · exact .unchanged _

theorem offer_change {offer : Offer} (offered : bodyOffer? msg = some offer) (index : Nat) :
    TaskChange cfg runner index (.read msg)
      ((runner.offer msg.envelope.streamID offer).task index) [] := by
  rw [offer_task]
  split
  next found => exact .offered msg offer found offered
  · exact .unchanged _

theorem serveMessage_change (index : Nat) :
    TaskChange cfg runner index (.read msg) ((runner.serveMessage cfg msg).task index) [] := by
  unfold Runner.serveMessage
  dsimp only
  split
  next isRequest =>
    apply addActiveStream_change
    cases decoded : decodePayload Request.decode msg.envelope with
    | error err => exact .undecoded err isRequest decoded
    | ok request => exact .whole request isRequest decoded
  next isStart =>
    split
    next err rejected =>
      by_cases same : index = runner.started
      · subst same
        rw [setTask_same]
        exact .opened msg _ rfl (.rejected err isStart rejected)
      · rw [setTask_other runner _ same]
        exact .unchanged _
    next request decoded => exact addActiveStream_change (.stream request isStart decoded) index
  next isBody =>
    split
    next err garbled => exact offer_change (by simp [bodyOffer?, isBody, garbled]) index
    next data decoded =>
      have offered : bodyOffer? msg = some (.chunk (.data data)) := by
        simp [bodyOffer?, isBody, decoded]
      split
      next long =>
        rw [cancelActiveStream_task, offer_active, offer_task]
        split
        next found =>
          simp only [Bool.or_false]
          exact .oversized msg _ found offered ⟨isBody, by rw [decoded]; exact long⟩
        · exact .unchanged _
      · rw [deliverChunk_task]
        exact offer_change offered index
  next isEnd =>
    rw [deliverChunk_task]
    exact offer_change (by simp [bodyOffer?, isEnd]) index
  · split
    · exact .unchanged _
    rw [cancelActiveStream_task]
    split
    · simp only [Bool.or_true]
      exact .cancelled msg
    · exact .unchanged _
  next isOpen =>
    split
    · exact .unchanged _
    next payload decoded => exact addActiveStream_change (.ws payload isOpen decoded) index
  iterate 4
    · rw [deliverMessage_task]
      exact .unchanged _
  · exact .unchanged _
  · exact .unchanged _

structure SameSession (runner next : Runner) : Prop where
  sent : next.sent = runner.sent
  up : next.up = runner.up
  contextDone : next.contextDone = runner.contextDone
  started : next.started = runner.started

theorem SameSession.trans {first second third : Runner} (before : SameSession first second)
    (after : SameSession second third) : SameSession first third :=
  ⟨after.sent.trans before.sent, after.up.trans before.up,
    after.contextDone.trans before.contextDone, after.started.trans before.started⟩

theorem offer_session (runner : Runner) (id : StreamID) (offer : Offer) :
    SameSession runner (runner.offer id offer) := by
  unfold Runner.offer
  split <;> exact ⟨rfl, rfl, rfl, rfl⟩

theorem cancelActiveStream_session (runner : Runner) (id : StreamID) (byGateway : Bool) :
    SameSession runner (runner.cancelActiveStream id byGateway) := by
  unfold Runner.cancelActiveStream
  split <;> exact ⟨rfl, rfl, rfl, rfl⟩

theorem deliverChunk_session (runner : Runner) (id : StreamID) (chunk : RequestBodyChunk) :
    SameSession runner (runner.deliverChunk id chunk) := by
  unfold Runner.deliverChunk
  split
  · exact ⟨rfl, rfl, rfl, rfl⟩
  · split <;> exact ⟨rfl, rfl, rfl, rfl⟩

theorem deliverMessage_session (runner : Runner) (id : StreamID) (msg : Message) :
    SameSession runner (runner.deliverMessage id msg) := by
  unfold Runner.deliverMessage
  split
  · exact ⟨rfl, rfl, rfl, rfl⟩
  · split <;> exact ⟨rfl, rfl, rfl, rfl⟩

theorem serveMessage_session (cfg : RunnerConfig) (runner : Runner) (msg : Message) :
    SameSession runner (runner.serveMessage cfg msg) ∨
      SameSession { runner with started := runner.started + 1 } (runner.serveMessage cfg msg) ∧
        Opened msg ((runner.serveMessage cfg msg).task runner.started) := by
  have added {task : Task} (opened : Opened msg task) :
      SameSession { runner with started := runner.started + 1 } (runner.addActiveStream task) ∧
        Opened msg ((runner.addActiveStream task).task runner.started) := by
    refine ⟨⟨rfl, rfl, rfl, rfl⟩, ?_⟩
    rw [addActiveStream_task, if_pos rfl]
    exact opened
  have same : SameSession runner runner := ⟨rfl, rfl, rfl, rfl⟩
  unfold Runner.serveMessage
  dsimp only
  split
  next isRequest =>
    apply Or.inr
    apply added
    cases decoded : decodePayload Request.decode msg.envelope with
    | error err => exact .undecoded err isRequest decoded
    | ok request => exact .whole request isRequest decoded
  next isStart =>
    split
    next err rejected =>
      refine .inr ⟨⟨rfl, rfl, rfl, rfl⟩, ?_⟩
      rw [setTask_same]
      exact .rejected err isStart rejected
    next request decoded => exact .inr (added (.stream request isStart decoded))
  · split
    · exact .inl (offer_session ..)
    · split
      · exact .inl ((offer_session ..).trans (cancelActiveStream_session ..))
      · exact .inl ((offer_session ..).trans (deliverChunk_session ..))
  · exact .inl ((offer_session ..).trans (deliverChunk_session ..))
  · split
    · exact .inl same
    · exact .inl (cancelActiveStream_session ..)
  next isOpen =>
    split
    · exact .inl same
    next payload decoded => exact .inr (added (.ws payload isOpen decoded))
  iterate 4
    · exact .inl (deliverMessage_session ..)
  · exact .inl ⟨rfl, rfl, rfl, rfl⟩
  · exact .inl same

theorem serveMessage_sent (cfg : RunnerConfig) (runner : Runner) (msg : Message) :
    (runner.serveMessage cfg msg).sent = runner.sent := by
  rcases serveMessage_session cfg runner msg with same | ⟨same, _⟩ <;> exact same.sent

theorem opened_started {task : Task} (opened : Opened msg task) :
    (runner.serveMessage cfg msg).started = runner.started + 1 := by
  cases opened with
  | undecoded _ typ decoded | rejected _ typ decoded
  | whole _ typ decoded | stream _ typ decoded | ws _ typ decoded =>
    simp [Runner.serveMessage, typ, decoded, Runner.addActiveStream]

end Message

section Step

variable {cfg : RunnerConfig} {runner next : Runner} {action : RunnerAction}

theorem out_of_sent (same : next.sent = runner.sent) (index : Nat) :
    next.out index = runner.out index ++ [] := by
  simp [Runner.out, same]

theorem setTask_change {target index : Nat} {task : Task}
    (change : TaskChange cfg runner target action task []) (same : next.sent = runner.sent)
    (tasks : next.task = (runner.setTask target task).task) :
    ∃ frames, TaskChange cfg runner index action (next.task index) frames ∧
      next.out index = runner.out index ++ frames := by
  refine ⟨[], ?_, out_of_sent same index⟩
  rw [tasks]
  by_cases isTarget : index = target
  · subst isTarget
    rw [setTask_same]
    exact change
  · rw [setTask_other runner task isTarget]
    exact .unchanged _

theorem step_change (stepped : runner.step cfg action = some next) (index : Nat) :
    ∃ frames, TaskChange cfg runner index action (next.task index) frames ∧
      next.out index = runner.out index ++ frames := by
  have unchanged (tasks : next.task = runner.task) (same : next.sent = runner.sent) :
      ∃ frames, TaskChange cfg runner index action (next.task index) frames ∧
        next.out index = runner.out index ++ frames :=
    ⟨[], by rw [tasks]; exact .unchanged action, out_of_sent same index⟩
  cases action with
  | advance _ event =>
    obtain ⟨task, moved, rfl⟩ := Option.map_eq_some_iff.mp stepped
    exact setTask_change (.advance event task (taskStep_inv moved)) rfl rfl
  | read msg =>
    simp only [Runner.step] at stepped
    split at stepped <;> cases stepped
    exact ⟨[], serveMessage_change index, out_of_sent (serveMessage_sent cfg runner msg) index⟩
  | enqueue =>
    simp only [Runner.step] at stepped
    split at stepped
    next target chunk offering =>
      obtain ⟨chunks, sent, rfl⟩ := Option.map_eq_some_iff.mp stepped
      exact setTask_change (.enqueued chunk chunks offering sent) rfl rfl
    next target msg relaying =>
      obtain ⟨wsInbound, _, rfl⟩ := Option.map_eq_some_iff.mp stepped
      exact setTask_change (.inbound wsInbound) rfl rfl
    · cases stepped
  | write target =>
    simp only [Runner.step] at stepped
    split at stepped
    · cases stepped
    next err unbuilt =>
      cases stepped
      exact setTask_change (.unbuilt err unbuilt) rfl rfl
    next frame built =>
      split at stepped <;> cases stepped
      by_cases isTarget : index = target
      · subst isTarget
        refine ⟨[frame], ?_, by simp [Runner.out]⟩
        rw [setTask_same]
        exact .written frame built
      · refine ⟨[], ?_, by simp [Runner.out, Ne.symm isTarget]⟩
        rw [setTask_other runner _ isTarget]
        exact .unchanged _
  | writeFailed _ text =>
    simp only [Runner.step] at stepped
    split at stepped
    next frame built =>
      cases stepped
      exact setTask_change (.writeFailed frame text built) rfl rfl
    · cases stepped
  | removeActiveStream target =>
    simp only [Runner.step] at stepped
    split at stepped
    next cleaned =>
      split at stepped
      · cases stepped
        exact setTask_change (.ended _ cleaned) rfl rfl
      · split at stepped
        · cases stepped
          exact setTask_change (.ended _ cleaned) rfl rfl
        next registered found =>
          cases stepped
          refine ⟨[], ?_, out_of_sent rfl index⟩
          by_cases isTarget : index = target
          · subst isTarget
            by_cases isRegistered : index = registered
            · subst isRegistered
              simp only [setTask_same]
              exact .ended true cleaned
            · simp only [setTask_other _ _ isRegistered, setTask_same]
              exact .ended _ cleaned
          · by_cases isRegistered : index = registered
            · subst isRegistered
              simp only [setTask_same, setTask_other _ _ isTarget]
              exact .closed target
            · simp only [setTask_other _ _ isRegistered, setTask_other _ _ isTarget]
              exact .unchanged _
    · cases stepped
  | abandon =>
    simp only [Runner.step] at stepped
    split at stepped
    iterate 2
      · split at stepped <;> cases stepped
        exact unchanged rfl rfl
    · cases stepped
  | connectionLost | stop =>
    cases stepped
    exact unchanged rfl rfl
  | _ =>
    simp only [Runner.step] at stepped
    split at stepped <;> cases stepped
    exact unchanged rfl rfl

/-- Neither the connection nor the session's context recovers, messages stay
sent, and only a message from the gateway opens a stream. -/
structure Evolves (runner : Runner) (action : RunnerAction) (next : Runner) : Prop where
  up : next.up = true → runner.up = true
  contextDone : runner.contextDone = true → next.contextDone = true
  sent : runner.sent <+: next.sent
  started : next.started = runner.started ∨
    next.started = runner.started + 1 ∧
      ∃ msg, action = .read msg ∧ Opened msg (next.task runner.started)

theorem Evolves.started_le (evolves : Evolves runner action next) :
    runner.started ≤ next.started := by
  rcases evolves.started with same | ⟨added, _⟩ <;> omega

theorem Evolves.setTask (index : Nat) (task : Task) :
    Evolves runner action (runner.setTask index task) :=
  ⟨id, id, List.prefix_rfl, .inl rfl⟩

theorem step_session (stepped : runner.step cfg action = some next) :
    Evolves runner action next := by
  cases action with
  | advance target =>
    obtain ⟨task, _, rfl⟩ := Option.map_eq_some_iff.mp stepped
    exact .setTask target task
  | read msg =>
    simp only [Runner.step] at stepped
    split at stepped <;> cases stepped
    rcases serveMessage_session cfg runner msg with
      same | ⟨same, opened⟩
    · exact ⟨fun up => same.up ▸ up, fun done => same.contextDone ▸ done,
        same.sent ▸ List.prefix_rfl, .inl same.started⟩
    · exact ⟨fun up => same.up ▸ up, fun done => same.contextDone ▸ done,
        same.sent ▸ List.prefix_rfl, .inr ⟨same.started, msg, rfl, opened⟩⟩
  | enqueue =>
    simp only [Runner.step] at stepped
    split at stepped
    iterate 2
      · obtain ⟨_, _, rfl⟩ := Option.map_eq_some_iff.mp stepped
        exact ⟨id, id, List.prefix_rfl, .inl rfl⟩
    · cases stepped
  | abandon =>
    simp only [Runner.step] at stepped
    split at stepped
    iterate 2
      · split at stepped <;> cases stepped
        exact ⟨id, id, List.prefix_rfl, .inl rfl⟩
    · cases stepped
  | write =>
    simp only [Runner.step] at stepped
    split at stepped
    · cases stepped
    · cases stepped
      exact .setTask _ _
    · split at stepped <;> cases stepped
      exact ⟨id, id, List.prefix_append _ _, .inl rfl⟩
  | removeActiveStream =>
    simp only [Runner.step] at stepped
    split at stepped
    · split at stepped
      · cases stepped
        exact .setTask _ _
      · split at stepped <;> cases stepped <;> exact ⟨id, id, List.prefix_rfl, .inl rfl⟩
    · cases stepped
  | connectionLost | stop =>
    cases stepped
    exact ⟨by simp, by simp, List.prefix_rfl, .inl rfl⟩
  | _ =>
    simp only [Runner.step] at stepped
    split at stepped <;> cases stepped
    exact ⟨by simp [Runner.endSession], by simp [Runner.endSession, Runner.setTask],
      List.prefix_rfl, .inl rfl⟩

theorem writeFailed_up {target : Nat} {text : Bytes}
    (stepped : runner.step cfg (.writeFailed target text) = some next) : next.up = false := by
  simp only [Runner.step] at stepped
  split at stepped <;> cases stepped
  rfl

def Runner.Fresh (runner : Runner) : Prop :=
  ∀ index, runner.started ≤ index → (runner.task index).phase = .unstarted

theorem taskStep_unstarted {contextDone : Bool} {task after : Task} {event : TaskEvent}
    (unstarted : task.phase = .unstarted) (stepped : TaskStep cfg contextDone task event after) :
    after.phase = .unstarted := by
  cases stepped <;> simp_all

theorem fresh_step (fresh : runner.Fresh) (stepped : runner.step cfg action = some next) :
    next.Fresh := by
  intro index late
  have unstarted := fresh index (Nat.le_trans (step_session stepped).started_le late)
  obtain ⟨_, change, _⟩ := step_change stepped index
  generalize next.task index = after at change
  cases change with
  | opened _ _ _ opened =>
    simp only [Runner.step] at stepped
    split at stepped <;> cases stepped
    rw [opened_started opened] at late
    omega
  | advance _ _ moved => exact taskStep_unstarted unstarted moved
  | written _ outgoing | unbuilt _ outgoing | writeFailed _ _ outgoing =>
    simp [Task.outgoing, unstarted] at outgoing
  | ended _ cleaned =>
    rw [unstarted] at cleaned
    cases cleaned
  | _ => exact unstarted

end Step

end Porthook.Agent
