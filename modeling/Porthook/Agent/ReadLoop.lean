import Porthook.Agent.Step
import Porthook.WebSocket.Pumps

/-!
# Who can hold up `serve`

`deliverActiveStreamChunk` and `deliverActiveStreamMessage` block `serve` while the queue they
found is full.  They watch the done channel of the stream, but not whoever drains the queue, which
`requestBodyFromChunks` stops doing once the local service has answered.
-/

namespace Porthook.Agent

open Porthook.Protocol Transition

/-- `socket` holds what `handleWSStream` knows about the stream; its queue is that of the
stream. -/
structure Process where
  runner : Runner := {}
  socket : Nat → WebSocket.End := fun _ => { phase := .dialling }

inductive ProcessAction where
  | run (action : RunnerAction)
  | relay (index : Nat) (event : WebSocket.Event)
  | relayWrite (index : Nat)
  | relayWriteFailed (index : Nat) (cause : Option Gateway.ContextCause)
  | relayReturned (index : Nat)

def TaskEvent.isRelay : TaskEvent → Bool
  | .takeMessage | .relayEnvelope _ _ | .relayMessage _ _ | .relayEnded => true
  | _ => false

def RunnerAction.isRelay : RunnerAction → Bool
  | .advance _ event => event.isRelay
  | _ => false

def Task.isRelaying (task : Task) : Bool :=
  match task.kind, task.phase with
  | .ws, .relaying => true
  | _, _ => false

/-- The context of a relay ends only with that of its stream. -/
def isEnabled (contextDone : Bool) (task : Task) : WebSocket.Event → Bool
  | .relay (.contextDone _) => task.cancelled || contextDone
  | _ => true

def Process.setSocket (process : Process) (index : Nat) (state : WebSocket.End) : Process where
  runner := process.runner.setTask index
    { process.runner.task index with wsInbound := state.queue }
  socket := Function.update process.socket index state

def Process.endOf (process : Process) (index : Nat) : WebSocket.End :=
  { process.socket index with queue := (process.runner.task index).wsInbound }

def Process.streamConfig (cfg : RunnerConfig) (process : Process) (index : Nat) :
    WebSocket.StreamConfig :=
  ⟨(process.runner.task index).id, cfg.tunnelID, {}⟩

def Process.step (cfg : RunnerConfig) (process : Process) : ProcessAction → Option Process
  | .run action =>
    if action.isRelay then none
    else (process.runner.step cfg action).map fun runner => { process with runner }
  | .relay index event =>
    let task := process.runner.task index
    if task.isRelaying ∧ isEnabled process.runner.contextDone task event = true then
      (WebSocket.endStep .agent false (process.endOf index) event).map (process.setSocket index)
    else none
  | .relayWrite index =>
    if (process.runner.task index).isRelaying then
      match (process.socket index).outgoing (process.streamConfig cfg index) with
      | none => none
      | some (.error _) =>
        some (process.setSocket index ((process.endOf index).afterWrite (some none)))
      | some (.ok frame) =>
        if process.runner.up then
          let next := process.setSocket index ((process.endOf index).afterWrite none)
          some { next with
            runner := { next.runner with sent := process.runner.sent ++ [(index, frame)] } }
        else none
    else none
  | .relayWriteFailed index cause =>
    if (process.runner.task index).isRelaying then
      match (process.socket index).outgoing (process.streamConfig cfg index) with
      | some (.ok _) =>
        let next := process.setSocket index ((process.endOf index).afterWrite (some cause))
        some { next with runner := { next.runner with up := false } }
      | _ => none
    else none
  | .relayReturned index =>
    match (process.runner.task index).isRelaying, (process.socket index).phase with
    | true, .leaving ending => some
        { runner := process.runner.setTask index
            { process.runner.task index with phase := .finished }
          socket := Function.update process.socket index
            { process.socket index with phase := .ended ending } }
    | _, _ => none

inductive Queue where
  | chunks
  | messages
  deriving DecidableEq

def Task.Full (task : Task) : Queue → Prop
  | .chunks => task.chunks.Full
  | .messages => task.wsInbound.Full

instance (task : Task) : (queue : Queue) → Decidable (task.Full queue)
  | .chunks => inferInstanceAs (Decidable task.chunks.Full)
  | .messages => inferInstanceAs (Decidable task.wsInbound.Full)

def Serve.target? : Serve → Option (Queue × Nat)
  | .offering index _ => some (.chunks, index)
  | .relaying index _ => some (.messages, index)
  | _ => none

def Runner.BlockedOn (runner : Runner) (queue : Queue) (index : Nat) : Prop :=
  runner.serve.target? = some (queue, index) ∧ (runner.task index).Full queue ∧
    runner.contextDone = false

/-- The local connection is being dialled or accepted, or `pumpGatewayToLocal` runs. -/
def consumesMessages : WebSocket.Phase → Bool
  | .dialling | .accepting _ => true
  | .relaying { writer := .returned, .. } => false
  | .relaying _ => true
  | _ => false

def Process.consumes (process : Process) : Queue → Nat → Bool
  | .chunks, index => (process.runner.task index).body ≠ .stopped
  | .messages, index => consumesMessages (process.socket index).phase

/-- Whenever `serve` waits for a queue, somebody drains it or the stream is done. -/
def Process.NotStranded (process : Process) : Prop :=
  ∀ queue index, process.runner.BlockedOn queue index →
    process.consumes queue index = true ∨ (process.runner.task index).done = true

def Process.Waits (process : Process) (queue : Queue) (index : Nat) : Prop :=
  process.runner.BlockedOn queue index ∧ (process.runner.task index).done = false

def Runner.queueOf (runner : Runner) (id : StreamID) (kind : TaskKind) (queue : Queue) :
    Option (Queue × Nat) :=
  match runner.active id with
  | none => none
  | some index => if (runner.task index).kind = kind then some (queue, index) else none

def Runner.target? (cfg : RunnerConfig) (runner : Runner) (msg : Message) :
    Option (Queue × Nat) :=
  match msg.envelope.typ with
  | .httpRequestBody =>
    match requestBodyData msg with
    | .error _ => none
    | .ok data =>
      if data.length > cfg.streamChunkBytes then none
      else runner.queueOf msg.envelope.streamID .stream .chunks
  | .httpRequestEnd => runner.queueOf msg.envelope.streamID .stream .chunks
  | .wsMessageText | .wsMessageBinary | .wsClose | .wsCancel =>
    runner.queueOf msg.envelope.streamID .ws .messages
  | _ => none

/-- The goroutine of `requestBodyFromChunks` gives up: its context has ended, or a write into
the pipe has failed. -/
def TaskEvent.stopsBody : TaskEvent → Prop
  | .bodyCancelled | .pipeWriteFailed => True
  | _ => False

/-- The local connection is not there, its context has ended, a write to it has failed, or
the message in hand is the last. -/
def stopsMessages (phase : WebSocket.Phase) : WebSocket.Event → Prop
  | .targetInvalid _ | .dialFailed _ | .relay .contextEnded | .relay (.legWriteFailed _) => True
  | .relay .handle =>
    match phase with
    | .relaying { writer := .handling msg, .. } => WebSocket.itemOf msg = none
    | _ => False
  | _ => False

def isAccepting : WebSocket.Phase → Prop
  | .accepting _ => True
  | _ => False

/-- Nobody leaves a queue that `serve` waits for, and a message is picked up only for a queue that
has room or is drained, or for a stream that is done. -/
def Process.KeepsConsumer (cfg : RunnerConfig) (process : Process) : ProcessAction → Prop
  | .run (.advance index event) => event.stopsBody → ¬ process.Waits .chunks index
  | .run (.read msg) => ∀ queue index, process.runner.target? cfg msg = some (queue, index) →
      process.runner.contextDone = false → (process.runner.task index).Full queue →
      process.consumes queue index = true ∨ (process.runner.task index).done = true
  | .relay index event =>
    stopsMessages (process.socket index).phase event → ¬ process.Waits .messages index
  | .relayWriteFailed index _ =>
    isAccepting (process.socket index).phase → ¬ process.Waits .messages index
  | _ => True

/-- The steps of a process, one constructor per outcome. -/
inductive ProcessStep (cfg : RunnerConfig) (process : Process) :
    ProcessAction → Process → Prop where
  | run (action : RunnerAction) (runner : Runner) : action.isRelay = false →
      process.runner.step cfg action = some runner →
      ProcessStep cfg process (.run action) { process with runner }
  | relay (index : Nat) (event : WebSocket.Event) (state : WebSocket.End) :
      (process.runner.task index).isRelaying = true →
      isEnabled process.runner.contextDone (process.runner.task index) event = true →
      WebSocket.endStep .agent false (process.endOf index) event = some state →
      ProcessStep cfg process (.relay index event) (process.setSocket index state)
  | unbuilt (index : Nat) (err : FrameError) : (process.runner.task index).isRelaying = true →
      (process.socket index).outgoing (process.streamConfig cfg index) = some (.error err) →
      ProcessStep cfg process (.relayWrite index)
        (process.setSocket index ((process.endOf index).afterWrite (some none)))
  | written (index : Nat) (frame : Frame) (runner : Runner) :
      (process.runner.task index).isRelaying = true →
      (process.socket index).outgoing (process.streamConfig cfg index) = some (.ok frame) →
      process.runner.up = true →
      runner = { (process.setSocket index ((process.endOf index).afterWrite none)).runner with
        sent := process.runner.sent ++ [(index, frame)] } →
      ProcessStep cfg process (.relayWrite index)
        { process.setSocket index ((process.endOf index).afterWrite none) with runner }
  | writeFailed (index : Nat) (cause : Option Gateway.ContextCause) (frame : Frame)
      (runner : Runner) : (process.runner.task index).isRelaying = true →
      (process.socket index).outgoing (process.streamConfig cfg index) = some (.ok frame) →
      runner = { (process.setSocket index ((process.endOf index).afterWrite (some cause))).runner
        with up := false } →
      ProcessStep cfg process (.relayWriteFailed index cause)
        { process.setSocket index ((process.endOf index).afterWrite (some cause)) with runner }
  | returned (index : Nat) (ending : WebSocket.Ending) :
      (process.runner.task index).isRelaying = true →
      (process.socket index).phase = .leaving ending →
      ProcessStep cfg process (.relayReturned index)
        { runner := process.runner.setTask index
            { process.runner.task index with phase := .finished }
          socket := Function.update process.socket index
            { process.socket index with phase := .ended ending } }

section Steps

variable {cfg : RunnerConfig} {process next : Process} {action : ProcessAction}

theorem process_step_inv (stepped : process.step cfg action = some next) :
    ProcessStep cfg process action next := by
  cases action with
  | run action =>
    simp only [Process.step] at stepped
    split at stepped
    · cases stepped
    next own =>
      obtain ⟨runner, moved, rfl⟩ := Option.map_eq_some_iff.mp stepped
      exact .run action runner (Bool.eq_false_iff.mpr own) moved
  | relay index event =>
    simp only [Process.step] at stepped
    split at stepped
    next enabled =>
      obtain ⟨state, moved, rfl⟩ := Option.map_eq_some_iff.mp stepped
      exact .relay index event state enabled.1 enabled.2 moved
    · cases stepped
  | relayWrite index =>
    simp only [Process.step] at stepped
    split at stepped
    next relaying =>
      split at stepped
      · cases stepped
      next err outgoing =>
        cases stepped
        exact .unbuilt index err relaying outgoing
      next frame outgoing =>
        split at stepped <;> cases stepped
        next isUp => exact .written index frame _ relaying outgoing isUp rfl
    · cases stepped
  | relayWriteFailed index cause =>
    simp only [Process.step] at stepped
    split at stepped
    next relaying =>
      split at stepped <;> cases stepped
      next frame outgoing => exact .writeFailed index cause frame _ relaying outgoing rfl
    · cases stepped
  | relayReturned index =>
    simp only [Process.step] at stepped
    split at stepped <;> cases stepped
    next ending relaying leaving => exact .returned index ending relaying leaving

/-- What a step leaves of a queue: if it is full now, it was full before, and whoever drained
it still does. -/
structure Process.Keeps (process next : Process) (queue : Queue) (index : Nat) : Prop where
  full : (next.runner.task index).Full queue → (process.runner.task index).Full queue
  consumes : (next.runner.task index).Full queue → process.consumes queue index = true →
    next.consumes queue index = true
  done : (process.runner.task index).done = true → (next.runner.task index).done = true

theorem notStranded_of_keeps (holds : process.NotStranded)
    (serve : next.runner.serve = process.runner.serve)
    (context : next.runner.contextDone = process.runner.contextDone)
    (keeps : ∀ queue index, process.Keeps next queue index) : next.NotStranded := by
  rintro queue index ⟨target, full, goesOn⟩
  have kept := keeps queue index
  rw [serve] at target
  rw [context] at goesOn
  exact (holds queue index ⟨target, kept.full full, goesOn⟩).imp (kept.consumes full) kept.done

theorem notStranded_stop_iff {queue : Queue} {index : Nat} (holds : process.NotStranded)
    (serve : next.runner.serve = process.runner.serve)
    (context : next.runner.contextDone = process.runner.contextDone)
    (others : ∀ other number, (other, number) ≠ (queue, index) → process.Keeps next other number)
    (full : (next.runner.task index).Full queue ↔ (process.runner.task index).Full queue)
    (done : (next.runner.task index).done = (process.runner.task index).done)
    (stopped : next.consumes queue index = false) :
    next.NotStranded ↔ ¬ process.Waits queue index := by
  constructor
  · rintro kept ⟨⟨target, isFull, goesOn⟩, notDone⟩
    rcases kept queue index ⟨serve ▸ target, full.mpr isFull, context ▸ goesOn⟩ with
      consumes | isDone
    · rw [stopped] at consumes
      cases consumes
    · rw [done, notDone] at isDone
      cases isDone
  · intro free other number blocked
    by_cases same : (other, number) = (queue, index)
    · cases same
      obtain ⟨target, isFull, goesOn⟩ := blocked
      have wasBlocked : process.runner.BlockedOn queue index :=
        ⟨serve ▸ target, full.mp isFull, context ▸ goesOn⟩
      apply Or.inr
      rw [done]
      exact Bool.of_not_eq_false fun notDone => free ⟨wasBlocked, notDone⟩
    · obtain ⟨target, isFull, goesOn⟩ := blocked
      have kept := others other number same
      exact (holds other number ⟨serve ▸ target, kept.full isFull, context ▸ goesOn⟩).imp
        (kept.consumes isFull) kept.done

theorem notStranded_of_idle (idle : next.runner.serve.target? = none) : next.NotStranded := by
  rintro _ _ ⟨target, _⟩
  cases idle.symm.trans target

structure Task.SameQueues (task after : Task) : Prop where
  chunks : after.chunks = task.chunks
  wsInbound : after.wsInbound = task.wsInbound
  body : after.body = task.body
  done : task.done = true → after.done = true

theorem Task.SameQueues.refl (task : Task) : task.SameQueues task :=
  ⟨rfl, rfl, rfl, fun isDone => isDone⟩

theorem Task.SameQueues.trans {first second third : Task} (before : first.SameQueues second)
    (after : second.SameQueues third) : first.SameQueues third :=
  ⟨after.chunks.trans before.chunks, after.wsInbound.trans before.wsInbound,
    after.body.trans before.body, fun isDone => after.done (before.done isDone)⟩

theorem keeps_of_sameQueues {index : Nat}
    (same : (process.runner.task index).SameQueues (next.runner.task index))
    (socket : next.socket index = process.socket index) (queue : Queue) :
    process.Keeps next queue index := by
  cases queue with
  | chunks =>
    refine ⟨fun full => ?_, fun _ consumes => ?_, same.done⟩
    · rwa [Task.Full, same.chunks] at full
    · simp only [Process.consumes, same.body]
      exact consumes
  | messages =>
    refine ⟨fun full => ?_, fun _ consumes => ?_, same.done⟩
    · rwa [Task.Full, same.wsInbound] at full
    · simp only [Process.consumes, socket]
      exact consumes

section Task

variable {contextDone : Bool} {task after : Task} {event : TaskEvent}

theorem taskStep_messages (stepped : TaskStep cfg contextDone task event after)
    (own : event.isRelay = false) :
    after.wsInbound = task.wsInbound ∧ after.done = task.done := by
  cases stepped with
  | takeMessage => cases own
  | _ => exact ⟨rfl, rfl⟩

theorem taskStep_chunks (stepped : TaskStep cfg contextDone task event after)
    (goesOn : ¬ event.stopsBody) (full : after.chunks.Full) :
    task.chunks.Full ∧ (task.body ≠ .stopped → after.body ≠ .stopped) := by
  cases stepped with
  | bodyCancelled | pipeWriteFailed => exact absurd trivial goesOn
  | takeLast _ _ received | takeEmpty _ _ received
  | takeData _ _ _ received =>
    exact absurd full (Channel.not_full_of_receive? received)
  | readPipe =>
    refine ⟨full, fun _ => ?_⟩
    dsimp only
    split <;> simp
  | _ => exact ⟨full, id⟩

theorem taskStep_stopsBody (stepped : TaskStep cfg contextDone task event after)
    (stops : event.stopsBody) : after.chunks = task.chunks ∧ after.body = .stopped := by
  cases stepped with
  | bodyCancelled | pipeWriteFailed => exact ⟨rfl, rfl⟩
  | _ => cases stops

end Task

theorem keeps_setTask_other {index other : Nat} (task : Task) (different : other ≠ index)
    (queue : Queue) :
    process.Keeps { process with runner := process.runner.setTask index task } queue other := by
  refine keeps_of_sameQueues ?_ ?_ queue
  · simp only [setTask_other process.runner task different]
    exact .refl _
  · rfl

theorem keeps_advance {index : Nat} {event : TaskEvent} {after : Task}
    (own : event.isRelay = false)
    (stepped : TaskStep cfg process.runner.contextDone (process.runner.task index) event after)
    {queue : Queue} {other : Nat} (different : (queue, other) ≠ (.chunks, index)) :
    process.Keeps { process with runner := process.runner.setTask index after } queue other := by
  obtain ⟨wsInbound, done⟩ := taskStep_messages stepped own
  by_cases same : other = index
  · subst same
    cases queue with
    | chunks => exact absurd rfl different
    | messages =>
      refine ⟨fun full => ?_, fun _ consumes => consumes, fun isDone => ?_⟩
      · rwa [setTask_same, Task.Full, wsInbound] at full
      · rw [setTask_same, done]
        exact isDone
  · exact keeps_setTask_other after same queue

theorem notStranded_advance_iff {index : Nat} {event : TaskEvent} {after : Task}
    (holds : process.NotStranded) (own : event.isRelay = false)
    (stepped : TaskStep cfg process.runner.contextDone (process.runner.task index) event after) :
    ({ process with runner := process.runner.setTask index after } : Process).NotStranded ↔
      (event.stopsBody → ¬ process.Waits .chunks index) := by
  obtain ⟨_, done⟩ := taskStep_messages stepped own
  by_cases stops : event.stopsBody
  · obtain ⟨chunks, body⟩ := taskStep_stopsBody stepped stops
    have exactly : ({ process with runner := process.runner.setTask index after } :
        Process).NotStranded ↔ ¬ process.Waits .chunks index := by
      apply notStranded_stop_iff holds
      · rfl
      · rfl
      · exact fun _ _ => keeps_advance own stepped
      · rw [setTask_same, Task.Full, Task.Full, chunks]
      · rw [setTask_same, done]
      · simp [Process.consumes, body]
    rw [exactly]
    exact ⟨fun free _ => free, fun free => free stops⟩
  · refine iff_of_true ?_ (fun stopped => absurd stopped stops)
    apply notStranded_of_keeps holds
    · rfl
    · rfl
    intro queue other
    by_cases different : (queue, other) = (.chunks, index)
    · cases different
      refine ⟨fun full => ?_, fun full consumes => ?_, fun isDone => ?_⟩
      · rw [setTask_same] at full
        exact (taskStep_chunks stepped stops full).1
      · rw [setTask_same] at full
        have kept := (taskStep_chunks stepped stops full).2
        simp only [Process.consumes, setTask_same, decide_eq_true_eq] at consumes ⊢
        exact kept consumes
      · rw [setTask_same, done]
        exact isDone
    · exact keeps_advance own stepped different

end Steps

section Read

variable {cfg : RunnerConfig} {runner : Runner} {msg : Message}

theorem deliverChunk_target (reading : runner.serve = .reading) (id : StreamID)
    (chunk : RequestBodyChunk) :
    (runner.deliverChunk id chunk).serve.target? = runner.queueOf id .stream .chunks := by
  cases found : runner.active id with
  | none => simp [Runner.deliverChunk, Runner.queueOf, found, reading, Serve.target?]
  | some index =>
    by_cases kind : (runner.task index).kind = .stream <;>
      simp [Runner.deliverChunk, Runner.queueOf, found, kind, reading, Serve.target?]

theorem deliverMessage_target (reading : runner.serve = .reading) (id : StreamID) :
    (runner.deliverMessage id msg).serve.target? = runner.queueOf id .ws .messages := by
  cases found : runner.active id with
  | none => simp [Runner.deliverMessage, Runner.queueOf, found, reading, Serve.target?]
  | some index =>
    by_cases kind : (runner.task index).kind = .ws <;>
      simp [Runner.deliverMessage, Runner.queueOf, found, kind, reading, Serve.target?]

theorem offer_serve (id : StreamID) (offer : Offer) :
    (runner.offer id offer).serve = runner.serve := by
  unfold Runner.offer
  split <;> rfl

theorem cancelActiveStream_serve (id : StreamID) (byGateway : Bool) :
    (runner.cancelActiveStream id byGateway).serve = runner.serve := by
  unfold Runner.cancelActiveStream
  split <;> rfl

theorem offer_offered (id : StreamID) (offer : Offer) (index : Nat) :
    ∃ offered, (runner.offer id offer).task index = { runner.task index with offered } := by
  rw [offer_task]
  split <;> exact ⟨_, rfl⟩

theorem offer_queueOf (id other : StreamID) (offer : Offer) (kind : TaskKind) (queue : Queue) :
    (runner.offer id offer).queueOf other kind queue = runner.queueOf other kind queue := by
  unfold Runner.queueOf
  rw [offer_active]
  split
  · rfl
  next index found =>
    obtain ⟨_, same⟩ := @offer_offered runner id offer index
    rw [same]

theorem serveMessage_target (reading : runner.serve = .reading) :
    (runner.serveMessage cfg msg).serve.target? = runner.target? cfg msg := by
  have idle : runner.serve.target? = none := by rw [reading]; rfl
  have offering (id : StreamID) (offer : Offer) : (runner.offer id offer).serve = .reading := by
    rw [offer_serve, reading]
  cases typ : msg.envelope.typ with
  | httpRequestBody =>
    simp only [Runner.serveMessage, Runner.target?, typ]
    cases requestBodyData msg with
    | error =>
      rw [offer_serve]
      exact idle
    | ok =>
      dsimp only
      split
      · rw [cancelActiveStream_serve, offer_serve]; exact idle
      · rw [deliverChunk_target (offering _ _), offer_queueOf]
  | httpRequestEnd =>
    simp only [Runner.serveMessage, Runner.target?, typ]
    rw [deliverChunk_target (offering _ _), offer_queueOf]
  | wsMessageText | wsMessageBinary | wsClose | wsCancel =>
    simp only [Runner.serveMessage, Runner.target?, typ]
    exact deliverMessage_target reading _
  | httpStreamCancel =>
    simp only [Runner.serveMessage, Runner.target?, typ]
    split
    · exact idle
    · rw [cancelActiveStream_serve]; exact idle
  | httpRequestStart | wsOpen =>
    simp only [Runner.serveMessage, Runner.target?, typ]
    split <;> exact idle
  | ping => simp only [Runner.serveMessage, Runner.target?, typ, Serve.target?]
  | _ =>
    simp only [Runner.serveMessage, Runner.target?, typ]
    exact idle

theorem serveMessage_offered (found : runner.target? cfg msg ≠ none) (index : Nat) :
    ∃ offered, (runner.serveMessage cfg msg).task index = { runner.task index with offered } := by
  cases typ : msg.envelope.typ with
  | httpRequestBody =>
    simp only [Runner.serveMessage, Runner.target?, typ] at found ⊢
    cases decoded : requestBodyData msg with
    | error => exact offer_offered _ _ index
    | ok =>
      rw [decoded] at found
      dsimp only at found ⊢
      split at found
      · exact absurd rfl found
      next fits =>
        rw [if_neg fits, deliverChunk_task]
        exact offer_offered _ _ index
  | httpRequestEnd =>
    simp only [Runner.serveMessage, typ, deliverChunk_task]
    exact offer_offered _ _ index
  | wsMessageText | wsMessageBinary | wsClose | wsCancel =>
    simp only [Runner.serveMessage, typ, deliverMessage_task]
    exact ⟨_, rfl⟩
  | _ =>
    simp only [Runner.target?, typ] at found
    exact absurd rfl found

theorem serveMessage_contextDone (cfg : RunnerConfig) (runner : Runner) (msg : Message) :
    (runner.serveMessage cfg msg).contextDone = runner.contextDone := by
  rcases serveMessage_session cfg runner msg with same | ⟨same, _⟩ <;> exact same.contextDone

theorem notStranded_read_iff {process : Process} (reading : process.runner.serve = .reading) :
    ({ process with runner := process.runner.serveMessage cfg msg } : Process).NotStranded ↔
      process.KeepsConsumer cfg (.run (.read msg)) := by
  have target := @serveMessage_target cfg process.runner msg reading
  have context := serveMessage_contextDone cfg process.runner msg
  constructor
  · intro kept queue index found goesOn full
    obtain ⟨_, same⟩ := @serveMessage_offered cfg process.runner msg (by simp [found]) index
    have after := kept queue index ⟨target.trans found, by rw [same]; exact full,
      context.trans goesOn⟩
    cases queue with
    | chunks | messages => simpa [Process.consumes, same] using after
  · rintro keeps queue index ⟨isTarget, full, goesOn⟩
    have found := target.symm.trans isTarget
    obtain ⟨_, same⟩ := @serveMessage_offered cfg process.runner msg (by simp [found]) index
    rw [same] at full
    have before := keeps queue index found (context.symm.trans goesOn) full
    cases queue with
    | chunks | messages => simpa [Process.consumes, same] using before

end Read

section Rest

variable {cfg : RunnerConfig} {runner next : Runner} {action : RunnerAction}

theorem afterWrite_sameQueues (task : Task) (err : Option Bytes) :
    task.SameQueues (task.afterWrite err) := by
  unfold Task.afterWrite
  split <;> exact ⟨rfl, rfl, rfl, fun isDone => isDone⟩

theorem closed_sameQueues (task : Task) : task.SameQueues { task with done := true } :=
  ⟨rfl, rfl, rfl, fun _ => rfl⟩

theorem sameQueues_setTask {index : Nat} {after : Task}
    (same : (runner.task index).SameQueues after) (other : Nat) :
    (runner.task other).SameQueues ((runner.setTask index after).task other) := by
  by_cases isIndex : other = index
  · subst isIndex
    rw [setTask_same]
    exact same
  · rw [setTask_other runner after isIndex]
    exact .refl _

theorem removeActiveStream_sameQueues {index : Nat}
    (stepped : runner.step cfg (.removeActiveStream index) = some next) :
    next.serve = runner.serve ∧ next.contextDone = runner.contextDone ∧
      ∀ other, (runner.task other).SameQueues (next.task other) := by
  have ended : (runner.task index).SameQueues { runner.task index with phase := .ended } :=
    ⟨rfl, rfl, rfl, fun isDone => isDone⟩
  simp only [Runner.step] at stepped
  repeat' split at stepped
  all_goals cases stepped
  · exact ⟨rfl, rfl, sameQueues_setTask ended⟩
  · exact ⟨rfl, rfl, sameQueues_setTask ended⟩
  next registered found =>
    refine ⟨rfl, rfl, fun other => ?_⟩
    exact (sameQueues_setTask ended other).trans
      (sameQueues_setTask (closed_sameQueues _) other)

/-- What a step does that is neither an event of a stream nor a message: `serve` waits for no
queue after it, or its wait and the queues are as before. -/
theorem step_rest (stepped : runner.step cfg action = some next)
    (notEvent : ∀ index event, action ≠ .advance index event)
    (notMessage : ∀ msg, action ≠ .read msg) :
    next.serve.target? = none ∨ next.contextDone = true ∨
      next.serve = runner.serve ∧ next.contextDone = runner.contextDone ∧
        ∀ index, (runner.task index).SameQueues (next.task index) := by
  cases action with
  | advance index event => exact absurd rfl (notEvent index event)
  | read msg => exact absurd rfl (notMessage msg)
  | enqueue =>
    simp only [Runner.step] at stepped
    split at stepped
    · obtain ⟨_, _, rfl⟩ := Option.map_eq_some_iff.mp stepped; exact .inl rfl
    · obtain ⟨_, _, rfl⟩ := Option.map_eq_some_iff.mp stepped; exact .inl rfl
    · cases stepped
  | abandon =>
    simp only [Runner.step] at stepped
    split at stepped
    · split at stepped <;> cases stepped; exact .inl rfl
    · split at stepped <;> cases stepped; exact .inl rfl
    · cases stepped
  | write =>
    simp only [Runner.step] at stepped
    repeat' split at stepped
    all_goals cases stepped
    · exact .inr (.inr ⟨rfl, rfl, sameQueues_setTask (afterWrite_sameQueues _ _)⟩)
    exact .inr (.inr ⟨rfl, rfl, sameQueues_setTask (afterWrite_sameQueues _ _)⟩)
  | writeFailed =>
    simp only [Runner.step] at stepped
    split at stepped <;> cases stepped
    exact .inr (.inr ⟨rfl, rfl, sameQueues_setTask (afterWrite_sameQueues _ _)⟩)
  | removeActiveStream => exact .inr (.inr (removeActiveStream_sameQueues stepped))
  | connectionLost =>
    cases stepped
    exact .inr (.inr ⟨rfl, rfl, fun index => .refl _⟩)
  | stop =>
    cases stepped
    exact .inr (.inl rfl)
  | _ =>
    simp only [Runner.step] at stepped
    split at stepped <;> cases stepped
    exact .inl rfl

theorem notStranded_rest {process : Process} (holds : process.NotStranded)
    (stepped : process.runner.step cfg action = some next)
    (notEvent : ∀ index event, action ≠ .advance index event)
    (notMessage : ∀ msg, action ≠ .read msg) :
    ({ process with runner := next } : Process).NotStranded := by
  rcases step_rest stepped notEvent notMessage with idle | isDone | ⟨serve, context, queues⟩
  · exact notStranded_of_idle idle
  · rintro _ _ ⟨_, _, goesOn⟩
    cases isDone.symm.trans goesOn
  · apply notStranded_of_keeps holds serve context
    intro queue index
    refine keeps_of_sameQueues ?_ ?_ queue
    · exact queues index
    · rfl

end Rest

section Relays

variable {cfg : RunnerConfig} {process : Process} {index : Nat} {state next : WebSocket.End}
  {event : WebSocket.Event}

@[simp]
theorem consumesMessages_relaying (relay : WebSocket.Relay) :
    consumesMessages (.relaying relay) = true ↔ relay.writer ≠ .returned := by
  rcases relay with ⟨_, writer, _, _, _⟩
  cases writer <;> simp [consumesMessages]

theorem consumesMessages_of_writer {before after : WebSocket.Relay}
    (writer : after.writer = before.writer) :
    consumesMessages (.relaying before) = true → consumesMessages (.relaying after) = true := by
  rw [consumesMessages_relaying, consumesMessages_relaying, writer]
  exact id

theorem relayStep_messages {relay : WebSocket.Relay} {event : WebSocket.RelayEvent}
    (relaying : state.phase = .relaying relay)
    (stepped : WebSocket.RelayStep WebSocket.localLeg state relay event next)
    (goesOn : ¬ stopsMessages state.phase (.relay event)) (full : next.queue.Full) :
    state.queue.Full ∧
      (consumesMessages state.phase = true → consumesMessages next.phase = true) := by
  rw [relaying] at goesOn ⊢
  cases stepped with
  | take _ _ _ received => exact absurd full (Channel.not_full_of_receive? received)
  | contextEnded | legWriteFailed =>
    exact absurd trivial goesOn
  | handle msg handling =>
    obtain ⟨_, _, _, same⟩ := WebSocket.handleMessage_eq state relay msg
    rcases WebSocket.handleMessage_phase state relay msg with
      ⟨item, isItem, isPhase⟩ | ⟨noItem, err, _⟩
    · rw [isPhase]
      rw [same] at full
      exact ⟨full, fun _ => rfl⟩
    · rcases relay with ⟨_, _, _, _, _⟩
      cases handling
      exact absurd noItem goesOn
  | readFailed =>
    refine ⟨full, consumesMessages_of_writer ?_⟩
    unfold WebSocket.Relay.readFailed
    split <;> rfl
  | _ => exact ⟨full, consumesMessages_of_writer rfl⟩

theorem endStep_messages (counted : state.Counted)
    (stepped : WebSocket.endStep .agent false state event = some next)
    (goesOn : ¬ stopsMessages state.phase event) (full : next.queue.Full) :
    state.queue.Full ∧
      (consumesMessages state.phase = true → consumesMessages next.phase = true) := by
  have moved := WebSocket.endStep_inv stepped
  cases moved with
  | answer _ _ _ received => exact absurd full (Channel.not_full_of_receive? received)
  | openContextDone _ phase | upgraded _ phase | upgradeFailed _ phase =>
    refine ⟨full, fun consumes => ?_⟩
    rw [phase] at consumes
    cases consumes
  | openSessionDone _ isDone => cases isDone
  | undialled event _ _ dialling =>
    cases event with
    | targetInvalid | dialFailed => exact absurd trivial goesOn
    | _ => simp [WebSocket.endStep, dialling] at stepped
  | dialled => exact ⟨full, fun _ => rfl⟩
  | relay _ _ _ relaying moved => exact relayStep_messages relaying moved goesOn full
  | relayReturned relay _ relaying returned =>
    refine ⟨full, fun consumes => ?_⟩
    rw [relaying, consumesMessages_relaying] at consumes
    exact absurd ((counted relay relaying).returned (by rw [returned]; rfl)).2 consumes

theorem endStep_stopsMessages (stepped : WebSocket.endStep .agent false state event = some next)
    (stops : stopsMessages state.phase event) :
    next.queue = state.queue ∧ consumesMessages next.phase = false := by
  have moved := WebSocket.endStep_inv stepped
  cases moved with
  | undialled => exact ⟨rfl, rfl⟩
  | relay relay _ _ relaying moved =>
    rw [relaying] at stops
    cases moved with
    | contextEnded | legWriteFailed => exact ⟨rfl, rfl⟩
    | handle msg handling =>
      obtain ⟨_, _, _, same⟩ :=
        WebSocket.handleMessage_eq state relay msg
      refine ⟨by rw [same], ?_⟩
      rcases relay with ⟨_, _, _, _, _⟩
      cases handling
      rcases WebSocket.handleMessage_phase state _ msg with
        ⟨item, isItem, _⟩ | ⟨_, err, isPhase⟩
      · cases isItem.symm.trans stops
      · rw [isPhase]
        rfl
    | _ => exact stops.elim
  | _ => exact stops.elim

theorem afterWrite_writer (relay : WebSocket.Relay) (err : Option (Option Gateway.ContextCause)) :
    (relay.afterWrite err).writer = relay.writer := by
  unfold WebSocket.Relay.afterWrite
  split
  · split <;> rfl
  · rfl
  · rfl
  · rfl

theorem afterWrite_messages (err : Option (Option Gateway.ContextCause))
    (kept : err = none ∨ ¬ isAccepting state.phase) :
    consumesMessages state.phase = true →
      consumesMessages (state.afterWrite err).phase = true := by
  intro consumes
  unfold WebSocket.End.afterWrite
  split
  next phase => rw [phase] at consumes; cases consumes
  next phase => rw [phase] at consumes; cases consumes
  next phase => rw [phase] at consumes; cases consumes
  next phase => rw [phase] at consumes; cases consumes
  · rfl
  next phase =>
    rcases kept with none | notAccepting
    · cases none
    · rw [phase] at notAccepting
      exact absurd trivial notAccepting
  next relay phase =>
    rw [phase] at consumes
    exact consumesMessages_of_writer (afterWrite_writer relay _) consumes
  · exact consumes

theorem afterWrite_accepting (accepting : isAccepting state.phase)
    (cause : Option Gateway.ContextCause) :
    consumesMessages (state.afterWrite (some cause)).phase = false := by
  cases phase : state.phase with
  | accepting => simp [WebSocket.End.afterWrite, phase, consumesMessages]
  | _ =>
    rw [phase] at accepting
    exact accepting.elim

theorem afterWrite_queue (state : WebSocket.End) (err : Option (Option Gateway.ContextCause)) :
    (state.afterWrite err).queue = state.queue := by
  obtain ⟨_, same⟩ := WebSocket.afterWrite_eq state err
  rw [same]

theorem keeps_setSocket (state : WebSocket.End) {queue : Queue} {other : Nat}
    (different : (queue, other) ≠ (.messages, index)) :
    process.Keeps (process.setSocket index state) queue other := by
  by_cases same : other = index
  · subst same
    cases queue with
    | messages => exact absurd rfl different
    | chunks =>
      simp only [Process.setSocket]
      refine ⟨fun full => ?_, fun _ consumes => ?_, fun isDone => ?_⟩
      · rwa [setTask_same] at full
      · simp only [Process.consumes, setTask_same] at consumes ⊢
        exact consumes
      · rw [setTask_same]
        exact isDone
  · refine keeps_of_sameQueues ?_ ?_ queue
    · simp only [Process.setSocket, setTask_other process.runner _ same]
      exact .refl _
    · simp only [Process.setSocket, Function.update_of_ne same]

theorem keeps_setSocket_same (state : WebSocket.End)
    (kept : state.queue.Full → (process.runner.task index).wsInbound.Full ∧
      (consumesMessages (process.socket index).phase = true →
        consumesMessages state.phase = true)) :
    process.Keeps (process.setSocket index state) .messages index := by
  have queue : ((process.setSocket index state).runner.task index).wsInbound = state.queue := by
    simp [Process.setSocket]
  have socket : (process.setSocket index state).socket index = state := by
    simp [Process.setSocket]
  refine ⟨fun full => ?_, fun full consumes => ?_, fun isDone => ?_⟩
  · rw [Task.Full, queue] at full
    exact (kept full).1
  · rw [Task.Full, queue] at full
    simp only [Process.consumes, socket]
    exact (kept full).2 consumes
  · simp only [Process.setSocket, setTask_same]
    exact isDone

theorem notStranded_socket_iff (holds : process.NotStranded) (state : WebSocket.End)
    (queue : state.queue = (process.runner.task index).wsInbound)
    (stopped : consumesMessages state.phase = false) :
    (process.setSocket index state).NotStranded ↔ ¬ process.Waits .messages index := by
  apply notStranded_stop_iff holds
  · rfl
  · rfl
  · exact fun _ _ different => keeps_setSocket state different
  · simp only [Process.setSocket, setTask_same, Task.Full, queue]
  · simp only [Process.setSocket, setTask_same]
  · simp [Process.setSocket, Process.consumes, stopped]

theorem notStranded_socket (holds : process.NotStranded) (state : WebSocket.End)
    (kept : state.queue.Full → (process.runner.task index).wsInbound.Full ∧
      (consumesMessages (process.socket index).phase = true →
        consumesMessages state.phase = true)) :
    (process.setSocket index state).NotStranded := by
  apply notStranded_of_keeps holds
  · rfl
  · rfl
  intro queue other
  by_cases same : (queue, other) = (.messages, index)
  · cases same
    exact keeps_setSocket_same state kept
  · exact keeps_setSocket state same

theorem notStranded_relay_iff (holds : process.NotStranded)
    (counted : (process.socket index).Counted)
    (stepped : WebSocket.endStep .agent false (process.endOf index) event = some next) :
    (process.setSocket index next).NotStranded ↔
      process.KeepsConsumer cfg (.relay index event) := by
  by_cases stops : stopsMessages (process.socket index).phase event
  · obtain ⟨queue, stopped⟩ := endStep_stopsMessages stepped stops
    rw [notStranded_socket_iff holds next queue stopped]
    exact ⟨fun free _ => free, fun free => free stops⟩
  · refine iff_of_true ?_ (fun stopped => absurd stopped stops)
    have own : (process.endOf index).Counted := counted
    exact notStranded_socket holds next (endStep_messages own stepped stops)

theorem notStranded_write (holds : process.NotStranded)
    (err : Option (Option Gateway.ContextCause))
    (kept : err = none ∨ ¬ isAccepting (process.socket index).phase) :
    (process.setSocket index ((process.endOf index).afterWrite err)).NotStranded := by
  apply notStranded_socket holds
  rw [afterWrite_queue]
  exact fun full => ⟨full, @afterWrite_messages (process.endOf index) err kept⟩

theorem notStranded_writeFailed_iff (holds : process.NotStranded)
    (cause : Option Gateway.ContextCause) :
    (process.setSocket index ((process.endOf index).afterWrite (some cause))).NotStranded ↔
      process.KeepsConsumer cfg (.relayWriteFailed index cause) := by
  by_cases accepting : isAccepting (process.socket index).phase
  · have stopped := @afterWrite_accepting (process.endOf index) accepting cause
    rw [notStranded_socket_iff holds _ (afterWrite_queue _ _) stopped]
    exact ⟨fun free _ => free, fun free => free accepting⟩
  · exact iff_of_true (notStranded_write holds _ (.inr accepting))
      (fun isAccepting => absurd isAccepting accepting)

theorem not_accepting_of_unbuilt {own : WebSocket.StreamConfig} {err : FrameError}
    (outgoing : state.outgoing own = some (.error err)) : ¬ isAccepting state.phase := by
  intro accepting
  cases phase : state.phase with
  | accepting => simp [WebSocket.End.outgoing, phase] at outgoing
  | _ =>
    rw [phase] at accepting
    exact accepting.elim

theorem notStranded_returned {ending : WebSocket.Ending} (holds : process.NotStranded)
    (leaving : (process.socket index).phase = .leaving ending) :
    ({ runner := process.runner.setTask index
        { process.runner.task index with phase := .finished }
       socket := Function.update process.socket index
        { process.socket index with phase := .ended ending } } : Process).NotStranded := by
  apply notStranded_of_keeps holds
  · rfl
  · rfl
  intro queue other
  by_cases same : other = index
  · subst same
    refine ⟨fun full => ?_, fun _ consumes => ?_, fun isDone => ?_⟩
    · rw [setTask_same] at full
      cases queue <;> exact full
    · cases queue with
      | chunks =>
        simp only [Process.consumes, setTask_same] at consumes ⊢
        exact consumes
      | messages =>
        simp only [Process.consumes, leaving] at consumes
        cases consumes
    · rw [setTask_same]
      exact isDone
  · refine keeps_of_sameQueues ?_ ?_ queue
    · simp only [setTask_other process.runner _ same]
      exact .refl _
    · simp only [Function.update_of_ne same]

end Relays

section Runs

variable {cfg : RunnerConfig} {process next : Process} {action : ProcessAction}

theorem sockets_step {property : WebSocket.End → Prop}
    (holds : ∀ index, property (process.socket index))
    (queued : ∀ state queue, property state → property { state with queue })
    (moves : ∀ state event after, property state →
      WebSocket.EndStep .agent false state event after → property after)
    (writes : ∀ state err, property state → property (state.afterWrite err))
    (ends : ∀ state ending, property state → property { state with phase := .ended ending })
    (stepped : ProcessStep cfg process action next) (index : Nat) :
    property (next.socket index) := by
  have own (index : Nat) : property (process.endOf index) := queued _ _ (holds index)
  have updated (target : Nat) (state : WebSocket.End) (kept : property state) :
      property (Function.update process.socket target state index) := by
    by_cases same : index = target
    · subst same
      rw [Function.update_self]
      exact kept
    · rw [Function.update_of_ne same]
      exact holds index
  cases stepped with
  | run => exact holds index
  | relay target event state _ _ moved =>
    exact updated target state (moves _ event _ (own target) (WebSocket.endStep_inv moved))
  | unbuilt target => exact updated target _ (writes _ _ (own target))
  | written target
  | writeFailed target =>
    exact updated target _ (writes _ _ (own target))
  | returned target => exact updated target _ (ends _ _ (holds target))

def Process.Counted (process : Process) : Prop := ∀ index, (process.socket index).Counted

theorem counted_process_step (counted : process.Counted)
    (stepped : ProcessStep cfg process action next) : next.Counted := by
  refine sockets_step counted ?_ ?_ ?_ ?_ stepped
  · exact fun state queue counted => counted
  · exact fun state event after counted moved => WebSocket.counted_endStep counted moved
  · exact fun state err counted => WebSocket.counted_afterWrite counted err
  · exact fun state ending _ => WebSocket.counted_of_phase (by simp)

theorem notStranded_step_iff (counted : process.Counted) (holds : process.NotStranded)
    (stepped : ProcessStep cfg process action next) :
    next.NotStranded ↔ process.KeepsConsumer cfg action := by
  cases stepped with
  | run action _ isRelay moved =>
    cases action with
    | advance =>
      obtain ⟨_, taken, rfl⟩ := Option.map_eq_some_iff.mp moved
      exact notStranded_advance_iff holds isRelay (taskStep_inv taken)
    | read =>
      simp only [Runner.step] at moved
      split at moved <;> cases moved
      next reading => exact notStranded_read_iff reading
    | _ => exact iff_of_true (notStranded_rest holds moved (by simp) (by simp)) trivial
  | relay index _ _ _ _ moved =>
    exact notStranded_relay_iff holds (counted index) moved
  | unbuilt _ _ _ outgoing =>
    exact iff_of_true
      (notStranded_write holds _ (.inr (not_accepting_of_unbuilt outgoing))) trivial
  | written _ _ _ _ _ _ isRunner =>
    subst isRunner
    exact iff_of_true (notStranded_write holds none (.inl rfl)) trivial
  | writeFailed _ cause _ _ _ _ isRunner =>
    subst isRunner
    exact notStranded_writeFailed_iff holds cause
  | returned _ _ _ leaving =>
    exact iff_of_true (notStranded_returned holds leaving) trivial

/-- A run keeps `serve` from ever waiting for a queue that nobody drains exactly when all of
its steps meet the condition. -/
theorem serve_notStranded_iff (cfg : RunnerConfig) (actions : List ProcessAction) :
    Always (Process.step cfg) Process.NotStranded {} actions ↔
      Guarded (Process.step cfg) (fun process action =>
        (process.step cfg action).isSome = true → process.KeepsConsumer cfg action) {} actions := by
  refine always_iff_guarded Process.Counted ?_ ?_ ?_ (notStranded_of_idle rfl)
  · intro process action next counted stepped
    exact counted_process_step counted (process_step_inv stepped)
  · intro process action next counted holds stepped
    exact notStranded_step_iff counted holds (process_step_inv stepped)
  · exact fun index => WebSocket.counted_of_phase (by simp)

end Runs

def floodedRunner : RunnerConfig := ⟨32 * 1024, 1024 * 1024, ascii "tun_a"⟩

/-- The local service answers before it has read the request body, and the transport closes the
pipe. The first chunk ends the goroutine that reads the queue, 32 more fill it, and `serve` waits.
-/
def floodedRun : List ProcessAction :=
  let chunk := binaryMessage .httpRequestBody (ascii "str_a") (ascii "tun_a") [0]
  let start := textMessage (newStream .httpRequestStart (ascii "str_a") (ascii "tun_a")
    (some (RequestStart.encode { method := ascii "POST", path := ascii "/upload" })))
  [.run (.read start), .run (.advance 0 (.responded ⟨200, []⟩)), .run (.write 0),
    .run (.advance 0 .closeReader), .run (.read chunk), .run .enqueue,
    .run (.advance 0 .takeChunk), .run (.advance 0 .pipeWriteFailed)] ++
    (List.replicate 32 [.run (.read chunk), .run .enqueue]).flatten ++ [.run (.read chunk)]

theorem serve_stranded_by_early_answer :
    ∃ process, exec (Process.step floodedRunner) {} floodedRun = some process ∧
      (process.runner.task 0).phase = .streaming ∧
      process.runner.BlockedOn .chunks 0 ∧ (process.runner.task 0).body = .stopped ∧
      (process.runner.task 0).done = false ∧ ¬ process.NotStranded := by
  have reached : ∃ process, exec (Process.step floodedRunner) {} floodedRun = some process ∧
      (process.runner.task 0).phase = .streaming ∧
      process.runner.BlockedOn .chunks 0 ∧ (process.runner.task 0).body = .stopped ∧
      (process.runner.task 0).done = false :=
    ⟨_, rfl, rfl, ⟨rfl, by decide +kernel, rfl⟩, rfl, rfl⟩
  obtain ⟨process, executed, streaming, blocked, stopped, notDone⟩ := reached
  refine ⟨process, executed, streaming, blocked, stopped, notDone, fun holds => ?_⟩
  rcases holds .chunks 0 blocked with consumes | isDone
  · simp [Process.consumes, stopped] at consumes
  · cases notDone.symm.trans isDone

end Porthook.Agent
