import Porthook.Foundations.Channel

/-!
# One stream, end to end

One HTTP stream on one tunnel, with everything that can block on the way: the handler writes the
whole request before it reads the response, both read loops wait for room in the queue of the
stream, and the connection holds a bounded number of messages in each direction.
-/

namespace Porthook

inductive RequestItem where
  | start
  | chunk
  | last
  deriving DecidableEq

/-- `last` is `http.response.end`, or the error that takes its place. -/
inductive ResponseItem where
  | head
  | chunk
  | last
  deriving DecidableEq

/-- A local service.  `receive` is defined where it is ready to read from the
request, and told whether it got a chunk or the end of the body. -/
structure LocalService (State : Type) where
  receive : State → Option (Bool → State)
  send : State → Option State
  finishes : State → Bool
  initial : State
  live : ∀ state, (receive state).isSome ∨ (send state).isSome ∨ finishes state = true

/-- The number of chunks in the request, and the room on the connection. -/
structure DuplexConfig (State : Type) where
  chunks : Nat
  downCapacity : Nat
  upCapacity : Nat
  service : LocalService State
  downCapacity_pos : 0 < downCapacity
  upCapacity_pos : 0 < upCapacity

/-- `streamRoundTrip`: what it still writes, and then `readStreamResponse`. -/
inductive DuplexHandler where
  | writing (item : RequestItem) (rest : List RequestItem)
  | receiving
  | returned
  deriving DecidableEq

/-- The goroutine of `requestBodyFromChunks`; `closed` after the end of the body. -/
inductive DuplexBody where
  | selecting
  | piping
  | closed
  deriving DecidableEq

inductive StreamTask where
  | unopened
  | calling
  | streaming
  | writing (item : ResponseItem)
  | gone
  deriving DecidableEq

/-- `serve` and `readLoop` hold the message that they are delivering. -/
structure Duplex (State : Type) where
  handler : DuplexHandler
  down : Channel RequestItem
  serve : Option RequestItem
  chunks : Channel RequestItem
  body : DuplexBody
  service : State
  task : StreamTask
  up : Channel ResponseItem
  readLoop : Option ResponseItem
  pending : Channel ResponseItem

variable {State : Type}

def Duplex.initial (cfg : DuplexConfig State) : Duplex State where
  handler := .writing .start (List.replicate cfg.chunks .chunk ++ [.last])
  down := .make cfg.downCapacity
  serve := none
  chunks := .make 32
  body := .selecting
  service := cfg.service.initial
  task := .unopened
  up := .make cfg.upCapacity
  readLoop := none
  pending := .make 32

inductive DuplexAction where
  | writeRequest
  | serveRead
  | enqueue
  | abandon
  | takeChunk
  | serviceRead
  | serviceReadEnd
  | serviceSend
  | serviceFinish
  | writeResponse
  | loopRead
  | deliver
  | receive
  deriving DecidableEq

def DuplexHandler.written : List RequestItem → DuplexHandler
  | [] => .receiving
  | item :: rest => .writing item rest

def StreamTask.sent : StreamTask → Option StreamTask
  | .calling => some (.writing .head)
  | .streaming => some (.writing .chunk)
  | _ => none

def StreamTask.finished : StreamTask → Option StreamTask
  | .calling | .streaming => some (.writing .last)
  | _ => none

def StreamTask.written : ResponseItem → StreamTask
  | .last => .gone
  | _ => .streaming

/-- The body goroutine with a chunk.  The first message never gets into the queue. -/
def DuplexBody.took : RequestItem → DuplexBody
  | .start => .selecting
  | .chunk => .piping
  | .last => .closed

/-- `serve` with a message: the first one opens the stream, and a stream that is
over is not in the table any more. -/
def Duplex.served (duplex : Duplex State) (item : RequestItem) : Duplex State :=
  match item, duplex.task with
  | .start, .unopened => { duplex with task := .calling }
  | .start, _ => duplex
  | _, .gone | _, .unopened => duplex
  | _, _ => { duplex with serve := some item }

def Duplex.step (cfg : DuplexConfig State) (duplex : Duplex State) :
    DuplexAction → Option (Duplex State)
  | .writeRequest =>
    match duplex.handler with
    | .writing item rest => (duplex.down.send? item).map fun down =>
      { duplex with down, handler := .written rest }
    | _ => none
  | .serveRead =>
    match duplex.serve with
    | none => duplex.down.receive?.map fun taken =>
      { duplex with down := taken.2 }.served taken.1
    | some _ => none
  | .enqueue =>
    match duplex.serve with
    | some item => (duplex.chunks.send? item).map fun chunks =>
      { duplex with chunks, serve := none }
    | none => none
  | .abandon =>
    -- The `done` branch of `deliverActiveStreamChunk`.
    match duplex.serve, duplex.task with
    | some _, .gone => some { duplex with serve := none }
    | _, _ => none
  | .takeChunk =>
    match duplex.body with
    | .selecting => duplex.chunks.receive?.map fun taken =>
      { duplex with chunks := taken.2, body := .took taken.1 }
    | _ => none
  | .serviceRead =>
    match duplex.body with
    | .piping => (cfg.service.receive duplex.service).map fun next =>
      { duplex with body := .selecting, service := next true }
    | _ => none
  | .serviceReadEnd =>
    match duplex.body with
    | .closed => (cfg.service.receive duplex.service).map fun next =>
      { duplex with service := next false }
    | _ => none
  | .serviceSend =>
    match cfg.service.send duplex.service, duplex.task.sent with
    | some service, some task => some { duplex with service, task }
    | _, _ => none
  | .serviceFinish =>
    if cfg.service.finishes duplex.service then
      duplex.task.finished.map fun task => { duplex with task }
    else none
  | .writeResponse =>
    match duplex.task with
    | .writing item => (duplex.up.send? item).map fun up =>
      { duplex with up, task := .written item }
    | _ => none
  | .loopRead =>
    match duplex.readLoop with
    | none => duplex.up.receive?.map fun taken =>
      { duplex with up := taken.2, readLoop := some taken.1 }
    | some _ => none
  | .deliver =>
    match duplex.readLoop with
    | some item => (duplex.pending.send? item).map fun pending =>
      { duplex with pending, readLoop := none }
    | none => none
  | .receive =>
    match duplex.handler with
    | .receiving => duplex.pending.receive?.map fun taken =>
      { duplex with
        pending := taken.2
        handler := if taken.1 = .last then .returned else .receiving }
    | _ => none

def DuplexHandler.left : DuplexHandler → List RequestItem
  | .writing item rest => item :: rest
  | _ => []

def Duplex.request (duplex : Duplex State) : List RequestItem :=
  duplex.chunks.items ++ (duplex.serve.toList ++ (duplex.down.items ++ duplex.handler.left))

def Duplex.response (duplex : Duplex State) : List ResponseItem :=
  duplex.pending.items ++ (duplex.readLoop.toList ++ duplex.up.items)

/-- The moves of the tunnel, each with what it took. -/
inductive Duplex.Moves (cfg : DuplexConfig State) (duplex : Duplex State) :
    DuplexAction → Duplex State → Prop where
  | writeRequest {item : RequestItem} {rest : List RequestItem} {down : Channel RequestItem}
      (writing : duplex.handler = .writing item rest)
      (sent : down.items = duplex.down.items ++ [item])
      (capacity : down.capacity = duplex.down.capacity) :
      Moves cfg duplex .writeRequest { duplex with down, handler := .written rest }
  | serveRead {item : RequestItem} {down : Channel RequestItem} (idle : duplex.serve = none)
      (taken : duplex.down.items = item :: down.items)
      (capacity : down.capacity = duplex.down.capacity) :
      Moves cfg duplex .serveRead ({ duplex with down }.served item)
  | enqueue {item : RequestItem} {chunks : Channel RequestItem} (held : duplex.serve = some item)
      (sent : chunks.items = duplex.chunks.items ++ [item])
      (capacity : chunks.capacity = duplex.chunks.capacity) :
      Moves cfg duplex .enqueue { duplex with chunks, serve := none }
  | abandon {item : RequestItem} (held : duplex.serve = some item) (gone : duplex.task = .gone) :
      Moves cfg duplex .abandon { duplex with serve := none }
  | takeChunk {item : RequestItem} {chunks : Channel RequestItem}
      (selecting : duplex.body = .selecting)
      (taken : duplex.chunks.items = item :: chunks.items)
      (capacity : chunks.capacity = duplex.chunks.capacity) :
      Moves cfg duplex .takeChunk { duplex with chunks, body := .took item }
  | serviceRead {service : State} (piping : duplex.body = .piping) :
      Moves cfg duplex .serviceRead { duplex with body := .selecting, service }
  | serviceReadEnd {service : State} (closed : duplex.body = .closed) :
      Moves cfg duplex .serviceReadEnd { duplex with service }
  | serviceSend {service : State} {task : StreamTask} (sent : duplex.task.sent = some task) :
      Moves cfg duplex .serviceSend { duplex with service, task }
  | serviceFinish {task : StreamTask} (finished : duplex.task.finished = some task) :
      Moves cfg duplex .serviceFinish { duplex with task }
  | writeResponse {item : ResponseItem} {up : Channel ResponseItem}
      (writing : duplex.task = .writing item)
      (sent : up.items = duplex.up.items ++ [item])
      (capacity : up.capacity = duplex.up.capacity) :
      Moves cfg duplex .writeResponse { duplex with up, task := .written item }
  | loopRead {item : ResponseItem} {up : Channel ResponseItem} (idle : duplex.readLoop = none)
      (taken : duplex.up.items = item :: up.items)
      (capacity : up.capacity = duplex.up.capacity) :
      Moves cfg duplex .loopRead { duplex with up, readLoop := some item }
  | deliver {item : ResponseItem} {pending : Channel ResponseItem}
      (held : duplex.readLoop = some item)
      (sent : pending.items = duplex.pending.items ++ [item])
      (capacity : pending.capacity = duplex.pending.capacity) :
      Moves cfg duplex .deliver { duplex with pending, readLoop := none }
  | receive {item : ResponseItem} {pending : Channel ResponseItem}
      (receiving : duplex.handler = .receiving)
      (taken : duplex.pending.items = item :: pending.items)
      (capacity : pending.capacity = duplex.pending.capacity) :
      Moves cfg duplex .receive
        { duplex with
          pending, handler := if item = .last then .returned else .receiving }

theorem Duplex.moves_of_step {cfg : DuplexConfig State} {duplex next : Duplex State}
    {action : DuplexAction} (stepped : duplex.step cfg action = some next) :
    duplex.Moves cfg action next := by
  cases action <;> unfold Duplex.step at stepped <;> dsimp only at stepped
  case writeRequest =>
    split at stepped
    next item rest writing =>
      rcases Option.map_eq_some_iff.mp stepped with ⟨_, sent, rfl⟩
      rcases Channel.send?_eq_some sent with ⟨_, items, capacity⟩
      exact .writeRequest writing items capacity
    · cases stepped
  case serveRead =>
    split at stepped
    next idle =>
      rcases Option.map_eq_some_iff.mp stepped with ⟨⟨_, _⟩, received, rfl⟩
      rcases Channel.receive?_eq_some received with ⟨items, capacity⟩
      exact .serveRead idle items capacity
    · cases stepped
  case enqueue =>
    split at stepped
    next item held =>
      rcases Option.map_eq_some_iff.mp stepped with ⟨_, sent, rfl⟩
      rcases Channel.send?_eq_some sent with ⟨_, items, capacity⟩
      exact .enqueue held items capacity
    · cases stepped
  case abandon =>
    split at stepped
    next held gone =>
      cases stepped
      exact .abandon held gone
    · cases stepped
  case takeChunk =>
    split at stepped
    next selecting =>
      rcases Option.map_eq_some_iff.mp stepped with ⟨⟨_, _⟩, received, rfl⟩
      rcases Channel.receive?_eq_some received with ⟨items, capacity⟩
      exact .takeChunk selecting items capacity
    · cases stepped
  case serviceRead =>
    split at stepped
    next piping =>
      rcases Option.map_eq_some_iff.mp stepped with ⟨_, _, rfl⟩
      exact .serviceRead piping
    · cases stepped
  case serviceReadEnd =>
    split at stepped
    next closed =>
      rcases Option.map_eq_some_iff.mp stepped with ⟨_, _, rfl⟩
      exact .serviceReadEnd closed
    · cases stepped
  case serviceSend =>
    split at stepped
    next service task _ sent =>
      cases stepped
      exact .serviceSend sent
    · cases stepped
  case serviceFinish =>
    split at stepped
    · rcases Option.map_eq_some_iff.mp stepped with ⟨_, finished, rfl⟩
      exact .serviceFinish finished
    · cases stepped
  case writeResponse =>
    split at stepped
    next item writing =>
      rcases Option.map_eq_some_iff.mp stepped with ⟨_, sent, rfl⟩
      rcases Channel.send?_eq_some sent with ⟨_, items, capacity⟩
      exact .writeResponse writing items capacity
    · cases stepped
  case loopRead =>
    split at stepped
    next idle =>
      rcases Option.map_eq_some_iff.mp stepped with ⟨⟨_, _⟩, received, rfl⟩
      rcases Channel.receive?_eq_some received with ⟨items, capacity⟩
      exact .loopRead idle items capacity
    · cases stepped
  case deliver =>
    split at stepped
    next item held =>
      rcases Option.map_eq_some_iff.mp stepped with ⟨_, sent, rfl⟩
      rcases Channel.send?_eq_some sent with ⟨_, items, capacity⟩
      exact .deliver held items capacity
    · cases stepped
  case receive =>
    split at stepped
    next receiving =>
      rcases Option.map_eq_some_iff.mp stepped with ⟨⟨_, _⟩, received, rfl⟩
      rcases Channel.receive?_eq_some received with ⟨items, capacity⟩
      exact .receive receiving items capacity
    · cases stepped

/-- The request that an open stream still has before it: chunks and one end, until
the body is closed. -/
def Duplex.BodyAhead (duplex : Duplex State) : Prop :=
  if duplex.body = .closed then duplex.request = []
  else ∃ chunks, duplex.request = List.replicate chunks .chunk ++ [.last]

structure DuplexInv (cfg : DuplexConfig State) (duplex : Duplex State) : Prop where
  downCapacity : duplex.down.capacity = cfg.downCapacity
  chunksCapacity : duplex.chunks.capacity = 32
  upCapacity : duplex.up.capacity = cfg.upCapacity
  pendingCapacity : duplex.pending.capacity = 32
  unopened : duplex.task = .unopened →
    duplex.chunks.items = [] ∧ duplex.serve = none ∧ duplex.body = .selecting ∧
      duplex.request = .start :: (List.replicate cfg.chunks .chunk ++ [.last])
  opened : duplex.task ≠ .unopened → duplex.task ≠ .gone → duplex.BodyAhead
  unended : duplex.task ≠ .gone → .last ∉ duplex.response
  ended : duplex.task = .gone → duplex.handler ≠ .returned → .last ∈ duplex.response

@[simp]
theorem DuplexHandler.left_written (rest : List RequestItem) :
    (DuplexHandler.written rest).left = rest := by
  cases rest <;> rfl

theorem duplexInv_initial (cfg : DuplexConfig State) : DuplexInv cfg (Duplex.initial cfg) where
  downCapacity := rfl
  chunksCapacity := rfl
  upCapacity := rfl
  pendingCapacity := rfl
  unopened := fun _ => ⟨rfl, rfl, rfl, rfl⟩
  opened := fun isOpen => absurd rfl isOpen
  unended := fun _ => by simp [Duplex.response, Duplex.initial]
  ended := by rintro ⟨⟩

variable {task : StreamTask} {down : Channel RequestItem}

theorem StreamTask.sent_eq_some {next : StreamTask} (sent : task.sent = some next) :
    (task = .calling ∨ task = .streaming) ∧ ∃ item, next = .writing item := by
  cases task <;> simp only [StreamTask.sent, Option.some.injEq, reduceCtorEq] at sent <;>
    subst sent <;> simp

theorem StreamTask.finished_eq_some {next : StreamTask} (finished : task.finished = some next) :
    (task = .calling ∨ task = .streaming) ∧ ∃ item, next = .writing item := by
  cases task <;> simp only [StreamTask.finished, Option.some.injEq, reduceCtorEq] at finished <;>
    subst finished <;> simp

theorem StreamTask.speaks (calling : task = .calling ∨ task = .streaming) :
    task.sent = some (.writing (if task = .calling then .head else .chunk)) ∧
      task.finished = some (.writing .last) := by
  rcases calling with rfl | rfl <;> exact ⟨rfl, rfl⟩

theorem DuplexInv.speak {cfg : DuplexConfig State} {duplex : Duplex State}
    (holds : DuplexInv cfg duplex) (service : State)
    (spoken : (duplex.task = .calling ∨ duplex.task = .streaming) ∧ ∃ item, task = .writing item) :
    DuplexInv cfg { duplex with service, task } := by
  rcases spoken with ⟨before, _, rfl⟩
  have isOpen : duplex.task ≠ .unopened ∧ duplex.task ≠ .gone := by
    rcases before with before | before <;> simp [before]
  exact {
    downCapacity := holds.downCapacity
    chunksCapacity := holds.chunksCapacity
    upCapacity := holds.upCapacity
    pendingCapacity := holds.pendingCapacity
    unopened := by rintro ⟨⟩
    opened := fun _ _ => holds.opened isOpen.1 isOpen.2
    unended := fun _ => holds.unended isOpen.2
    ended := fun gone => by cases gone }

theorem Duplex.BodyAhead.not_start {duplex : Duplex State} (ahead : duplex.BodyAhead) :
    .start ∉ duplex.request := by
  unfold Duplex.BodyAhead at ahead
  split at ahead
  · simp [ahead]
  · obtain ⟨_, request⟩ := ahead
    simp [request, List.mem_replicate]

theorem Duplex.BodyAhead.of_request {duplex next : Duplex State} (ahead : duplex.BodyAhead)
    (request : next.request = duplex.request) (body : next.body = duplex.body) :
    next.BodyAhead := by
  unfold Duplex.BodyAhead
  rw [request, body]
  exact ahead

theorem Duplex.BodyAhead.took {duplex : Duplex State} {item : RequestItem}
    (ahead : ∃ chunks, item :: duplex.request = List.replicate chunks .chunk ++ [.last])
    (body : duplex.body = .took item) : duplex.BodyAhead := by
  obtain ⟨chunks, request⟩ := ahead
  unfold Duplex.BodyAhead
  cases chunks with
  | zero =>
    obtain ⟨rfl, nothing⟩ := List.cons.inj request
    rw [if_pos (show duplex.body = .closed from body)]
    exact nothing
  | succ chunks =>
    obtain ⟨rfl, rest⟩ := List.cons.inj request
    rw [if_neg (by rw [body]; simp [DuplexBody.took])]
    exact ⟨chunks, rest⟩

theorem DuplexInv.dropped {cfg : DuplexConfig State} {duplex : Duplex State}
    (holds : DuplexInv cfg duplex) (capacity : down.capacity = duplex.down.capacity)
    (gone : duplex.task = .gone) :
    DuplexInv cfg { duplex with down } :=
  { holds with
    downCapacity := capacity.trans holds.downCapacity
    unopened := by
      intro unopened
      dsimp only at unopened
      rw [gone] at unopened
      cases unopened
    opened := fun _ alive => absurd gone alive }

theorem DuplexInv.serveRead {cfg : DuplexConfig State} {duplex : Duplex State} {item : RequestItem}
    (holds : DuplexInv cfg duplex) (idle : duplex.serve = none)
    (taken : duplex.down.items = item :: down.items)
    (capacity : down.capacity = duplex.down.capacity) :
    DuplexInv cfg ({ duplex with down }.served item) := by
  unfold Duplex.served
  split
  next unopened =>
    obtain ⟨noChunks, _, selecting, request⟩ := holds.unopened unopened
    have alive : duplex.task ≠ .gone := by rw [show duplex.task = .unopened from unopened]; simp
    exact { holds with
      downCapacity := capacity.trans holds.downCapacity
      unopened := by rintro ⟨⟩
      opened := by
        intro _ _
        simp only [Duplex.request, noChunks, idle, taken, Option.toList_none, List.nil_append,
          List.cons_append, List.cons.injEq, true_and] at request
        rw [Duplex.BodyAhead, if_neg (by simp [selecting])]
        exact ⟨cfg.chunks, by simpa [Duplex.request, noChunks, idle] using request⟩
      unended := fun _ => holds.unended alive
      ended := fun gone => by cases gone }
  next opened =>
    by_cases gone : duplex.task = .gone
    · exact holds.dropped capacity gone
    · have start : RequestItem.start ∈ duplex.request := by simp [Duplex.request, taken]
      exact absurd start (holds.opened opened gone).not_start
  next gone => exact holds.dropped capacity gone
  next notStart unopened =>
    obtain ⟨noChunks, _, _, request⟩ := holds.unopened unopened
    simp only [Duplex.request, noChunks, idle, taken, Option.toList_none, List.nil_append,
      List.cons_append, List.cons.injEq] at request
    exact absurd request.1 notStart
  next item _ _ _ _ notUnopened _ =>
    have request : Duplex.request { duplex with down, serve := some item } = duplex.request := by
      simp [Duplex.request, idle, taken]
    exact { holds with
      downCapacity := capacity.trans holds.downCapacity
      unopened := fun unopened => absurd unopened notUnopened
      opened := fun opened alive => (holds.opened opened alive).of_request request rfl }

section Preserved

variable {cfg : DuplexConfig State} {duplex : Duplex State}

variable {item : RequestItem} {chunks : Channel RequestItem} {up pending : Channel ResponseItem}

theorem DuplexInv.writeRequest {rest : List RequestItem} {down : Channel RequestItem}
    (holds : DuplexInv cfg duplex) (writing : duplex.handler = .writing item rest)
    (sent : down.items = duplex.down.items ++ [item])
    (capacity : down.capacity = duplex.down.capacity) :
    DuplexInv cfg { duplex with down, handler := .written rest } := by
  have left : duplex.handler.left = item :: rest := by rw [writing]; rfl
  have request : Duplex.request { duplex with down, handler := .written rest } =
      duplex.request := by
    simp [Duplex.request, sent, left]
  exact { holds with
    downCapacity := capacity.trans holds.downCapacity
    unopened := fun unopened => by rw [request]; exact holds.unopened unopened
    opened := fun opened alive => (holds.opened opened alive).of_request request rfl
    ended := fun gone _ => holds.ended gone (by simp [writing]) }

theorem DuplexInv.enqueue (holds : DuplexInv cfg duplex) (held : duplex.serve = some item)
    (sent : chunks.items = duplex.chunks.items ++ [item])
    (capacity : chunks.capacity = duplex.chunks.capacity) :
    DuplexInv cfg { duplex with chunks, serve := none } := by
  have request : Duplex.request { duplex with chunks, serve := none } = duplex.request := by
    simp [Duplex.request, sent, held]
  exact { holds with
    chunksCapacity := capacity.trans holds.chunksCapacity
    unopened := by
      intro unopened
      have idle := (holds.unopened unopened).2.1
      rw [held] at idle
      cases idle
    opened := fun opened alive => (holds.opened opened alive).of_request request rfl }

theorem DuplexInv.takeChunk (holds : DuplexInv cfg duplex) (selecting : duplex.body = .selecting)
    (taken : duplex.chunks.items = item :: chunks.items)
    (capacity : chunks.capacity = duplex.chunks.capacity) :
    DuplexInv cfg { duplex with chunks, body := .took item } := by
  have request : duplex.request =
      item :: Duplex.request { duplex with chunks, body := .took item } := by
    simp [Duplex.request, taken]
  exact { holds with
    chunksCapacity := capacity.trans holds.chunksCapacity
    unopened := by
      intro unopened
      have empty := (holds.unopened unopened).1
      rw [taken] at empty
      cases empty
    opened := by
      intro opened alive
      have ahead := holds.opened opened alive
      rw [Duplex.BodyAhead, if_neg (by simp [selecting]), request] at ahead
      exact .took ahead rfl }

theorem DuplexInv.writeResponse {item : ResponseItem} (holds : DuplexInv cfg duplex)
    (writing : duplex.task = .writing item) (sent : up.items = duplex.up.items ++ [item])
    (capacity : up.capacity = duplex.up.capacity) :
    DuplexInv cfg { duplex with up, task := .written item } := by
  have isOpen : duplex.task ≠ .unopened ∧ duplex.task ≠ .gone := by simp [writing]
  have response : Duplex.response { duplex with up, task := .written item } =
      duplex.response ++ [item] := by
    simp [Duplex.response, sent]
  have after : StreamTask.written item ≠ .gone → item ≠ .last := by
    rintro alive rfl
    exact alive rfl
  exact { holds with
    upCapacity := capacity.trans holds.upCapacity
    unopened := fun unopened => by cases item <;> cases unopened
    opened := fun _ _ => holds.opened isOpen.1 isOpen.2
    unended := by
      intro alive
      rw [response, List.mem_append, List.mem_singleton, not_or]
      exact ⟨holds.unended isOpen.2, fun last => after alive last.symm⟩
    ended := by
      intro gone _
      rw [response]
      cases item with
      | last => simp
      | head => cases gone
      | chunk => cases gone }

theorem DuplexInv.carry {readLoop : Option ResponseItem} (holds : DuplexInv cfg duplex)
    (upCapacity : up.capacity = duplex.up.capacity)
    (pendingCapacity : pending.capacity = duplex.pending.capacity)
    (response : Duplex.response { duplex with up, pending, readLoop } = duplex.response) :
    DuplexInv cfg { duplex with up, pending, readLoop } :=
  { holds with
    upCapacity := upCapacity.trans holds.upCapacity
    pendingCapacity := pendingCapacity.trans holds.pendingCapacity
    unended := fun alive => by rw [response]; exact holds.unended alive
    ended := fun gone running => by rw [response]; exact holds.ended gone running }

theorem DuplexInv.receive {item : ResponseItem} (holds : DuplexInv cfg duplex)
    (receiving : duplex.handler = .receiving) (taken : duplex.pending.items = item :: pending.items)
    (capacity : pending.capacity = duplex.pending.capacity) :
    DuplexInv cfg { duplex with
      pending, handler := if item = .last then .returned else .receiving } := by
  have response : duplex.response = item :: Duplex.response { duplex with
      pending, handler := if item = .last then .returned else .receiving } := by
    simp [Duplex.response, taken]
  have left : (if item = ResponseItem.last then DuplexHandler.returned
      else .receiving).left = duplex.handler.left := by
    rw [receiving]
    split <;> rfl
  have request : Duplex.request { duplex with
      pending, handler := if item = .last then .returned else .receiving } =
      duplex.request := by
    simp only [Duplex.request, left]
  exact { holds with
    pendingCapacity := capacity.trans holds.pendingCapacity
    unopened := fun unopened => by rw [request]; exact holds.unopened unopened
    opened := fun opened alive => (holds.opened opened alive).of_request request rfl
    unended := by
      intro alive last
      apply holds.unended alive
      rw [response]
      exact List.mem_cons_of_mem _ last
    ended := by
      intro gone running
      have last := holds.ended gone (by simp [receiving])
      rw [response, List.mem_cons] at last
      rcases last with rfl | later
      · simp at running
      · exact later }

end Preserved

theorem duplexInv_step {cfg : DuplexConfig State} {duplex next : Duplex State}
    {action : DuplexAction} (holds : DuplexInv cfg duplex)
    (moves : duplex.Moves cfg action next) : DuplexInv cfg next := by
  cases moves with
  | writeRequest writing sent capacity => exact holds.writeRequest writing sent capacity
  | serveRead idle taken capacity => exact holds.serveRead idle taken capacity
  | enqueue held sent capacity => exact holds.enqueue held sent capacity
  | abandon _ gone =>
    exact { holds with
      unopened := by
        intro unopened
        dsimp only at unopened
        rw [gone] at unopened
        cases unopened
      opened := fun _ alive => absurd gone alive }
  | takeChunk selecting taken capacity => exact holds.takeChunk selecting taken capacity
  | serviceRead piping =>
    exact { holds with
      unopened := by
        intro unopened
        have selecting := (holds.unopened unopened).2.2.1
        rw [piping] at selecting
        cases selecting
      opened := by
        intro opened alive
        have ahead := holds.opened opened alive
        rw [Duplex.BodyAhead, if_neg (by simp [piping])] at ahead
        rw [Duplex.BodyAhead, if_neg (by simp)]
        exact ahead }
  | serviceReadEnd => exact { holds with }
  | serviceSend sent => exact holds.speak _ (StreamTask.sent_eq_some sent)
  | serviceFinish finished => exact holds.speak _ (StreamTask.finished_eq_some finished)
  | writeResponse writing sent capacity => exact holds.writeResponse writing sent capacity
  | loopRead idle taken capacity =>
    exact holds.carry capacity rfl (by simp [Duplex.response, idle, taken])
  | deliver held sent capacity =>
    exact holds.carry rfl capacity (by simp [Duplex.response, held, sent])
  | receive receiving taken capacity => exact holds.receive receiving taken capacity

end Porthook
