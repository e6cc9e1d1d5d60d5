import Porthook.Foundations.Transition
import Porthook.Tunnel.Duplex

/-!
# Waiting in a circle

A local service that sends without reading can close a circle of four goroutines, each waiting for
the next.  As long as the response stays small enough until the request is written, or what is
left of the request fits into the buffers, this does not happen.
-/

namespace Porthook

open Transition

variable {State : Type}

def StreamTask.hand : StreamTask → Option ResponseItem
  | .writing item => some item
  | _ => none

def Duplex.AllBlocked (duplex : Duplex State) : Prop :=
  (duplex.handler.left ≠ [] ∧ duplex.down.Full) ∧
    (duplex.serve ≠ none ∧ duplex.chunks.Full ∧ duplex.task ≠ .gone) ∧
    (duplex.task.hand ≠ none ∧ duplex.up.Full) ∧
    (duplex.readLoop ≠ none ∧ duplex.pending.Full)

instance (duplex : Duplex State) : Decidable duplex.AllBlocked := by
  unfold Duplex.AllBlocked
  infer_instance

def Duplex.unread (duplex : Duplex State) : Nat :=
  duplex.request.count .chunk + if duplex.body = .piping then 1 else 0

/-- The service sends only after the request is written, or while the response so far still fits
into the queue and the connection, or if the rest of the request does. -/
def Duplex.Paced (cfg : DuplexConfig State) (duplex : Duplex State) : DuplexAction → Prop
  | .serviceSend | .serviceFinish =>
    duplex.handler.left = [] ∨ duplex.response.length < cfg.upCapacity + 33 ∨
      duplex.unread ≤ cfg.downCapacity + 32
  | _ => True

instance (cfg : DuplexConfig State) (duplex : Duplex State) (action : DuplexAction) :
    Decidable (duplex.Paced cfg action) := by
  unfold Duplex.Paced
  split <;> infer_instance

def Duplex.outstanding (duplex : Duplex State) : Nat :=
  duplex.response.length + duplex.task.hand.toList.length

def Duplex.InBounds (cfg : DuplexConfig State) (duplex : Duplex State) : Prop :=
  duplex.handler.left = [] ∨ duplex.outstanding ≤ cfg.upCapacity + 33 ∨
    duplex.unread ≤ cfg.downCapacity + 32

variable {cfg : DuplexConfig State} {duplex : Duplex State}

theorem inBounds_speak {task : StreamTask} (service : State) (paced : duplex.Paced cfg .serviceSend)
    (spoken : ∃ item, task = .writing item) :
    Duplex.InBounds cfg { duplex with service, task } := by
  obtain ⟨_, rfl⟩ := spoken
  rcases paced with written | room | ahead
  · exact .inl written
  · refine .inr (.inl ?_)
    unfold Duplex.outstanding
    exact room
  · exact .inr (.inr ahead)

theorem Duplex.served_frame (duplex : Duplex State) (item : RequestItem) :
    (duplex.served item).handler = duplex.handler ∧
      (duplex.served item).response = duplex.response ∧
      (duplex.served item).outstanding = duplex.outstanding := by
  unfold Duplex.served
  split <;> refine ⟨rfl, rfl, ?_⟩ <;>
    simp_all [Duplex.outstanding, Duplex.response, StreamTask.hand]

theorem Duplex.served_unread {item : RequestItem} {down : Channel RequestItem}
    (idle : duplex.serve = none) (taken : duplex.down.items = item :: down.items) :
    ({ duplex with down }.served item).unread ≤ duplex.unread := by
  unfold Duplex.served
  split <;> simp [Duplex.unread, Duplex.request, idle, taken, List.count_cons]

theorem Duplex.InBounds.of_le {next : Duplex State} (bounded : duplex.InBounds cfg)
    (left : duplex.handler.left = [] → next.handler.left = [])
    (outstanding : next.outstanding ≤ duplex.outstanding)
    (unread : next.unread ≤ duplex.unread) : next.InBounds cfg := by
  rcases bounded with written | room | ahead
  · exact .inl (left written)
  · exact .inr (.inl (Nat.le_trans outstanding room))
  · exact .inr (.inr (Nat.le_trans unread ahead))

theorem inBounds_step {next : Duplex State} {action : DuplexAction} (bounded : duplex.InBounds cfg)
    (paced : duplex.Paced cfg action)
    (moves : duplex.Moves cfg action next) : next.InBounds cfg := by
  cases moves with
  | writeRequest writing sent capacity =>
    rename_i item rest down
    have left : duplex.handler.left = item :: rest := by rw [writing]; rfl
    refine bounded.of_le (by simp [left]) (Nat.le_refl _) ?_
    simp [Duplex.unread, Duplex.request, sent, left]
  | serveRead idle taken capacity =>
    obtain ⟨handler, response, outstanding⟩ := Duplex.served_frame { duplex with down := _ } _
    refine bounded.of_le ?_ (Nat.le_of_eq outstanding) (Duplex.served_unread idle taken)
    rw [handler]
    exact id
  | enqueue held sent capacity =>
    refine bounded.of_le id (Nat.le_refl _) ?_
    simp [Duplex.unread, Duplex.request, sent, held]
  | abandon held gone =>
    refine bounded.of_le id (Nat.le_refl _) ?_
    simp [Duplex.unread, Duplex.request, held, List.count_cons]
  | takeChunk selecting taken capacity =>
    rename_i item chunks
    refine bounded.of_le id (Nat.le_refl _) ?_
    cases item <;>
      simp [Duplex.unread, Duplex.request, taken, selecting, DuplexBody.took]
  | serviceRead piping =>
    refine bounded.of_le id (Nat.le_refl _) ?_
    simp [Duplex.unread, Duplex.request, piping]
  | serviceReadEnd closed => exact bounded
  | serviceSend sent => exact inBounds_speak _ paced (StreamTask.sent_eq_some sent).2
  | serviceFinish finished =>
    exact inBounds_speak _ paced (StreamTask.finished_eq_some finished).2
  | writeResponse writing sent capacity =>
    rename_i item up
    refine bounded.of_le id ?_ (Nat.le_refl _)
    cases item <;>
      simp [Duplex.outstanding, Duplex.response, sent, writing, StreamTask.written,
        StreamTask.hand] <;> omega
  | loopRead idle taken capacity =>
    refine bounded.of_le id ?_ (Nat.le_refl _)
    simp [Duplex.outstanding, Duplex.response, idle, taken]
  | deliver held sent capacity =>
    refine bounded.of_le id ?_ (Nat.le_refl _)
    simp [Duplex.outstanding, Duplex.response, held, sent]
  | receive receiving taken capacity =>
    refine .inl ?_
    dsimp only
    split <;> rfl

structure Duplex.Stuck (cfg : DuplexConfig State) (duplex : Duplex State) : Prop where
  writeRequest : ∀ item rest, duplex.handler = .writing item rest → duplex.down.Full
  serveRead : duplex.serve = none → duplex.down.items = []
  enqueue : ∀ item, duplex.serve = some item → duplex.chunks.Full ∧ duplex.task ≠ .gone
  takeChunk : duplex.body = .selecting → duplex.chunks.items = []
  serviceRead : duplex.body ≠ .selecting → cfg.service.receive duplex.service = none
  serviceSend : duplex.task = .calling ∨ duplex.task = .streaming →
    cfg.service.send duplex.service = none ∧ cfg.service.finishes duplex.service = false
  writeResponse : ∀ item, duplex.task = .writing item → duplex.up.Full
  loopRead : duplex.readLoop = none → duplex.up.items = []
  deliver : ∀ item, duplex.readLoop = some item → duplex.pending.Full
  receive : duplex.handler = .receiving → duplex.pending.items = []

theorem Duplex.stuck_of_none
    (none_enabled : ∀ action, duplex.step cfg action = none) : duplex.Stuck cfg where
  writeRequest item rest writing := by
    have disabled := none_enabled .writeRequest
    simp only [Duplex.step, writing, Option.map_eq_none_iff, Channel.send?_eq_none_iff] at disabled
    exact disabled
  serveRead idle := by
    have disabled := none_enabled .serveRead
    simp only [Duplex.step, idle, Option.map_eq_none_iff, Channel.receive?_eq_none_iff] at disabled
    exact disabled
  enqueue item held := by
    have disabled := none_enabled .enqueue
    simp only [Duplex.step, held, Option.map_eq_none_iff, Channel.send?_eq_none_iff] at disabled
    refine ⟨disabled, fun gone => ?_⟩
    have abandoned := none_enabled .abandon
    simp [Duplex.step, held, gone] at abandoned
  takeChunk selecting := by
    have disabled := none_enabled .takeChunk
    simp only [Duplex.step, selecting, Option.map_eq_none_iff,
      Channel.receive?_eq_none_iff] at disabled
    exact disabled
  serviceRead notSelecting := by
    cases body : duplex.body with
    | selecting => exact absurd body notSelecting
    | piping =>
      have disabled := none_enabled .serviceRead
      simpa [Duplex.step, body] using disabled
    | closed =>
      have disabled := none_enabled .serviceReadEnd
      simpa [Duplex.step, body] using disabled
  serviceSend calling := by
    have noSend := none_enabled .serviceSend
    have noFinish := none_enabled .serviceFinish
    obtain ⟨sent, finished⟩ := StreamTask.speaks calling
    constructor
    · cases spoken : cfg.service.send duplex.service with
      | none => rfl
      | some => simp [Duplex.step, spoken, sent] at noSend
    · cases ended : cfg.service.finishes duplex.service with
      | false => rfl
      | true => simp [Duplex.step, ended, finished] at noFinish
  writeResponse item writing := by
    have disabled := none_enabled .writeResponse
    simp only [Duplex.step, writing, Option.map_eq_none_iff, Channel.send?_eq_none_iff] at disabled
    exact disabled
  loopRead idle := by
    have disabled := none_enabled .loopRead
    simp only [Duplex.step, idle, Option.map_eq_none_iff, Channel.receive?_eq_none_iff] at disabled
    exact disabled
  deliver item held := by
    have disabled := none_enabled .deliver
    simp only [Duplex.step, held, Option.map_eq_none_iff, Channel.send?_eq_none_iff] at disabled
    exact disabled
  receive receiving := by
    have disabled := none_enabled .receive
    simp only [Duplex.step, receiving, Option.map_eq_none_iff,
      Channel.receive?_eq_none_iff] at disabled
    exact disabled

theorem Duplex.BodyAhead.request_eq (ahead : duplex.BodyAhead) (nonempty : duplex.request ≠ []) :
    duplex.body ≠ .closed ∧ ∃ chunks, duplex.request = List.replicate chunks .chunk ++ [.last] := by
  unfold Duplex.BodyAhead at ahead
  split at ahead
  · exact absurd ahead nonempty
  next notClosed => exact ⟨notClosed, ahead⟩

theorem DuplexInv.receiving_not_stuck (holds : DuplexInv cfg duplex)
    (receiving : duplex.handler = .receiving) :
    ¬ duplex.Stuck cfg := by
  intro stuck
  have noPending := stuck.receive receiving
  have noneHeld : duplex.readLoop = none := by
    cases held : duplex.readLoop with
    | none => rfl
    | some item =>
      have positive : 0 < duplex.pending.capacity := by rw [holds.pendingCapacity]; decide
      exact absurd noPending ((stuck.deliver item held).ne_nil positive)
  have noUp := stuck.loopRead noneHeld
  have left : duplex.handler.left = [] := by rw [receiving]; rfl
  -- Nothing of the response is on its way, so the goroutine has not ended it.
  have alive : duplex.task ≠ .gone := by
    intro gone
    have last := holds.ended gone (by simp [receiving])
    simp [Duplex.response, noPending, noneHeld, noUp] at last
  have noRequest : duplex.chunks.items = [] → duplex.request = [] := by
    intro noChunks
    have idle : duplex.serve = none := by
      cases held : duplex.serve with
      | none => rfl
      | some item =>
        have positive : 0 < duplex.chunks.capacity := by rw [holds.chunksCapacity]; decide
        exact absurd noChunks ((stuck.enqueue item held).1.ne_nil positive)
    simp [Duplex.request, noChunks, idle, stuck.serveRead idle, left]
  have notCalling : ¬ (duplex.task = .calling ∨ duplex.task = .streaming) := by
    intro calling
    obtain ⟨noSend, noFinish⟩ := stuck.serviceSend calling
    have opened : duplex.task ≠ .unopened := by
      rcases calling with task | task <;> simp [task]
    by_cases selecting : duplex.body = .selecting
    · have ahead := holds.opened opened alive
      rw [Duplex.BodyAhead, if_neg (by simp [selecting]),
        noRequest (stuck.takeChunk selecting)] at ahead
      obtain ⟨_, request⟩ := ahead
      simp at request
    · have noReceive := stuck.serviceRead selecting
      simpa [noSend, noFinish, noReceive] using cfg.service.live duplex.service
  cases task : duplex.task with
  | unopened =>
    obtain ⟨noChunks, _, _, request⟩ := holds.unopened task
    rw [noRequest noChunks] at request
    cases request
  | calling => exact notCalling (.inl task)
  | streaming => exact notCalling (.inr task)
  | writing item =>
    have positive : 0 < duplex.up.capacity := by rw [holds.upCapacity]; exact cfg.upCapacity_pos
    exact absurd noUp ((stuck.writeResponse item task).ne_nil positive)
  | gone => exact alive task

theorem DuplexInv.writing_stuck {item : RequestItem} {rest : List RequestItem}
    (holds : DuplexInv cfg duplex) (writing : duplex.handler = .writing item rest)
    (stuck : duplex.Stuck cfg) :
    duplex.AllBlocked := by
  have downFull := stuck.writeRequest item rest writing
  have downPositive : 0 < duplex.down.capacity := by
    rw [holds.downCapacity]
    exact cfg.downCapacity_pos
  cases held : duplex.serve with
  | none => exact absurd (stuck.serveRead held) (downFull.ne_nil downPositive)
  | some served =>
    obtain ⟨chunksFull, alive⟩ := stuck.enqueue served held
    have opened : duplex.task ≠ .unopened := by
      intro unopened
      have idle := (holds.unopened unopened).2.1
      rw [held] at idle
      cases idle
    have chunksPositive : 0 < duplex.chunks.capacity := by rw [holds.chunksCapacity]; decide
    have notSelecting : duplex.body ≠ .selecting := fun selecting =>
      chunksFull.ne_nil chunksPositive (stuck.takeChunk selecting)
    have noReceive := stuck.serviceRead notSelecting
    have notCalling : ¬ (duplex.task = .calling ∨ duplex.task = .streaming) :=
      fun calling => by
        obtain ⟨noSend, noFinish⟩ := stuck.serviceSend calling
        simpa [noSend, noFinish, noReceive] using cfg.service.live duplex.service
    cases task : duplex.task with
    | unopened => exact absurd task opened
    | calling => exact absurd (.inl task) notCalling
    | streaming => exact absurd (.inr task) notCalling
    | gone => exact absurd task alive
    | writing response =>
      have upFull := stuck.writeResponse response task
      have upPositive : 0 < duplex.up.capacity := by
        rw [holds.upCapacity]
        exact cfg.upCapacity_pos
      cases delivering : duplex.readLoop with
      | none => exact absurd (stuck.loopRead delivering) (upFull.ne_nil upPositive)
      | some delivered =>
        exact ⟨⟨by simp [writing, DuplexHandler.left], downFull⟩,
          ⟨by simp [held], chunksFull, alive⟩,
          ⟨by simp [task, StreamTask.hand], upFull⟩,
          by simp [delivering], stuck.deliver delivered delivering⟩

theorem DuplexInv.not_allBlocked (holds : DuplexInv cfg duplex)
    (bounded : duplex.InBounds cfg) : ¬ duplex.AllBlocked := by
  rintro ⟨⟨writing, downFull⟩, ⟨serving, chunksFull, alive⟩, ⟨responding, upFull⟩,
    delivering, pendingFull⟩
  obtain ⟨_, _, left⟩ := List.exists_cons_of_ne_nil writing
  obtain ⟨_, held⟩ := Option.ne_none_iff_exists'.mp serving
  obtain ⟨_, hand⟩ := Option.ne_none_iff_exists'.mp responding
  obtain ⟨_, inHand⟩ := Option.ne_none_iff_exists'.mp delivering
  have opened : duplex.task ≠ .unopened := by
    intro unopened
    rw [unopened] at hand
    cases hand
  unfold Channel.Full at downFull chunksFull upFull pendingFull
  rw [holds.downCapacity] at downFull
  rw [holds.chunksCapacity] at chunksFull
  rw [holds.upCapacity] at upFull
  rw [holds.pendingCapacity] at pendingFull
  have requestLength : cfg.downCapacity + 34 ≤ duplex.request.length := by
    simp only [Duplex.request, held, left, List.length_append, Option.toList_some,
      List.length_cons, List.length_nil, downFull, chunksFull]
    omega
  have outstanding : duplex.outstanding = cfg.upCapacity + 34 := by
    simp only [Duplex.outstanding, Duplex.response, hand, inHand, List.length_append,
      Option.toList_some, List.length_cons, List.length_nil, upFull, pendingFull]
    omega
  have nonempty : duplex.request ≠ [] := by
    intro empty
    rw [empty, List.length_nil] at requestLength
    omega
  obtain ⟨_, _, request⟩ := (holds.opened opened alive).request_eq nonempty
  have unread : cfg.downCapacity + 33 ≤ duplex.unread := by
    rw [request] at requestLength
    simp only [List.length_append, List.length_replicate, List.length_cons,
      List.length_nil] at requestLength
    simp only [Duplex.unread, request, List.count_append, List.count_replicate_self]
    omega
  rcases bounded with written | _ | _
  · rw [left] at written
    cases written
  · omega
  · omega

/-- The circle is not closed, and an unfinished stream has a step to take. -/
def Duplex.Moving (cfg : DuplexConfig State) (duplex : Duplex State) : Prop :=
  ¬ duplex.AllBlocked ∧
    (duplex.handler ≠ .returned → ∃ action next, duplex.step cfg action = some next)

theorem DuplexInv.moving (holds : DuplexInv cfg duplex)
    (bounded : duplex.InBounds cfg) : duplex.Moving cfg := by
  refine ⟨holds.not_allBlocked bounded, fun unfinished => ?_⟩
  by_contra noStep
  have stuck : duplex.Stuck cfg := Duplex.stuck_of_none fun action => by
    cases stepped : duplex.step cfg action with
    | none => rfl
    | some next => exact absurd ⟨action, next, stepped⟩ noStep
  cases handler : duplex.handler with
  | writing =>
    exact holds.not_allBlocked bounded (holds.writing_stuck handler stuck)
  | receiving => exact holds.receiving_not_stuck handler stuck
  | returned => exact unfinished handler

/-- Where the service paces its response, no state of any run has the circle, and
in every one of them something moves until the stream is finished. -/
theorem stream_never_blocked (cfg : DuplexConfig State) (actions : List DuplexAction)
    (paced : Guarded (Duplex.step cfg) (Duplex.Paced cfg) (Duplex.initial cfg) actions) :
    Always (Duplex.step cfg) (Duplex.Moving cfg) (Duplex.initial cfg) actions := by
  have kept : Always (Duplex.step cfg) (fun duplex => DuplexInv cfg duplex ∧ duplex.InBounds cfg)
      (Duplex.initial cfg) actions := by
    refine always_of_guarded (fun duplex action next both met stepped => ?_)
      ⟨duplexInv_initial cfg, ?_⟩ paced
    · have moves := Duplex.moves_of_step stepped
      exact ⟨duplexInv_step both.1 moves, inBounds_step both.2 met moves⟩
    · refine .inr (.inl ?_)
      simp [Duplex.outstanding, Duplex.response, Duplex.initial, StreamTask.hand]
  exact kept.mono fun duplex both => both.1.moving both.2

/-- A service that echoes: it reads a chunk and sends one, and ends with the request. -/
def echoService : LocalService (Bool × Bool) where
  receive
    | (false, false) => some fun more => (more, !more)
    | _ => none
  send
    | (true, ended) => some (false, ended)
    | _ => none
  finishes
    | (false, true) => true
    | _ => false
  initial := (false, false)
  live := by rintro ⟨_ | _, _ | _⟩ <;> simp

def echoConfig : DuplexConfig (Bool × Bool) where
  chunks := 1
  downCapacity := 1
  upCapacity := 1
  service := echoService
  downCapacity_pos := by decide
  upCapacity_pos := by decide

def echoRun : List DuplexAction :=
  [.writeRequest, .serveRead, .writeRequest, .serveRead, .enqueue, .takeChunk, .serviceRead,
    .serviceSend, .writeResponse, .writeRequest, .serveRead, .enqueue, .takeChunk,
    .serviceReadEnd, .serviceFinish, .loopRead, .deliver, .writeResponse, .receive, .loopRead,
    .deliver, .receive]

theorem stream_never_blocked_echo :
    (exec (Duplex.step echoConfig) (Duplex.initial echoConfig) echoRun).map Duplex.handler =
        some .returned ∧
      Always (Duplex.step echoConfig) (Duplex.Moving echoConfig) (Duplex.initial echoConfig)
        echoRun :=
  ⟨by decide, stream_never_blocked echoConfig echoRun (by decide)⟩

/-- A service that sends `36` messages before it reads anything. -/
def eagerService : LocalService Nat where
  receive left := if left = 0 then some fun _ => 0 else none
  send left := if left = 0 then none else some (left - 1)
  finishes _ := false
  initial := 36
  live left := by by_cases done : left = 0 <;> simp [done]

def eagerConfig : DuplexConfig Nat where
  chunks := 40
  downCapacity := 1
  upCapacity := 1
  service := eagerService
  downCapacity_pos := by decide
  upCapacity_pos := by decide

/-- The request backs up to the handler and the response to the stream goroutine. -/
def eagerRun : List DuplexAction :=
  [.writeRequest, .serveRead, .writeRequest, .serveRead, .enqueue, .takeChunk] ++
    (List.replicate 32 [.writeRequest, .serveRead, .enqueue]).flatten ++
    [.writeRequest, .serveRead, .writeRequest] ++
    (List.replicate 32 [.serviceSend, .writeResponse, .loopRead, .deliver]).flatten ++
    [.serviceSend, .writeResponse, .loopRead, .serviceSend, .writeResponse, .serviceSend]

theorem Duplex.AllBlocked.step_eq_none (blocked : duplex.AllBlocked)
    (piping : duplex.body = .piping) (deaf : cfg.service.receive duplex.service = none)
    (action : DuplexAction) :
    duplex.step cfg action = none := by
  obtain ⟨⟨writing, downFull⟩, ⟨serving, chunksFull, alive⟩, ⟨responding, upFull⟩,
    delivering, pendingFull⟩ := blocked
  obtain ⟨_, held⟩ := Option.ne_none_iff_exists'.mp serving
  obtain ⟨_, inHand⟩ := Option.ne_none_iff_exists'.mp delivering
  have noSend {Item : Type} {channel : Channel Item} (full : channel.Full) (item : Item) :
      channel.send? item = none := (channel.send?_eq_none_iff item).mpr full
  cases handler : duplex.handler with
  | receiving | returned => simp [handler, DuplexHandler.left] at writing
  | writing =>
    cases task : duplex.task with
    | writing =>
      cases action <;>
        simp [Duplex.step, handler, task, held, inHand, piping, deaf, noSend downFull,
          noSend chunksFull, noSend upFull, noSend pendingFull, StreamTask.sent,
          StreamTask.finished]
    | _ => simp [task, StreamTask.hand] at responding

/-- With an upload of forty chunks and an answer of thirty-six messages that is
sent first, all four goroutines wait for each other and no step is enabled. -/
theorem stream_deadlocks :
    ∃ last, exec (Duplex.step eagerConfig) (Duplex.initial eagerConfig) eagerRun = some last ∧
      last.AllBlocked ∧ last.handler ≠ .returned ∧
      ∀ action, last.step eagerConfig action = none := by
  have reached : ∃ last ∈ exec (Duplex.step eagerConfig) (Duplex.initial eagerConfig) eagerRun,
      last.AllBlocked ∧ last.handler ≠ .returned ∧ last.body = .piping ∧
        (eagerConfig.service.receive last.service).isNone = true := by
    decide +kernel
  obtain ⟨last, executed, blocked, unfinished, piping, deaf⟩ := reached
  exact ⟨last, executed, blocked, unfinished,
    blocked.step_eq_none piping (Option.isNone_iff_eq_none.mp deaf)⟩

end Porthook
