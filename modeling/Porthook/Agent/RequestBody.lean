import Porthook.Agent.Step

/-!
# The request body that reaches the local service

Nothing is lost or reordered between the queue of a stream and its pipe.  But a message that does
not decode, a chunk that is too large, or one that loses the race against the end of the stream is
dropped, and the messages behind it are still queued.
-/

namespace Porthook.Agent

open Porthook.Protocol Transition

def dataOf (chunks : List RequestBodyChunk) : Bytes := chunks.flatMap RequestBodyChunk.bytes

def sentBytes : List Offer → Bytes
  | [] => []
  | .chunk chunk :: rest => chunk.bytes ++ sentBytes rest
  | .garbled :: _ => []

/-- The local request has seen the beginning of what was sent, and a clean end
only after all of it. -/
def Task.Faithful (task : Task) : Prop :=
  task.written <+: sentBytes task.offered ∧ (task.pipe = .eof →
      Offer.garbled ∉ task.offered ∧ task.written = sentBytes task.offered)

/-- The condition on a step: the gateway sends nothing for a body that it has
ended, and a chunk is queued only if everything before it was. -/
def Runner.KeepsOrder (runner : Runner) : RunnerAction → Prop
  | .read msg => ∀ _offer ∈ bodyOffer? msg, ∀ index ∈ runner.active msg.envelope.streamID,
      Offer.chunk .last ∉ (runner.task index).offered
  | .enqueue =>
    match runner.serve with
    | .offering index chunk =>
      (runner.task index).offered = (runner.task index).queued.map .chunk ++ [.chunk chunk]
    | _ => True
  | _ => True

instance (runner : Runner) (action : RunnerAction) : Decidable (runner.KeepsOrder action) :=
  match action with
  | .read msg => inferInstanceAs (Decidable (∀ _offer ∈ bodyOffer? msg,
      ∀ index ∈ runner.active msg.envelope.streamID,
        Offer.chunk .last ∉ (runner.task index).offered))
  | .enqueue => by
    unfold Runner.KeepsOrder
    cases runner.serve <;> infer_instance
  | .advance .. | .readFailed | .pongWritten | .pongFailed | .abandon | .write .. |
    .writeFailed .. | .removeActiveStream .. | .connectionLost | .stop => isTrue trivial

@[simp]
theorem dataOf_nil : dataOf [] = [] := rfl

@[simp]
theorem dataOf_cons (chunk : RequestBodyChunk) (rest : List RequestBodyChunk) :
    dataOf (chunk :: rest) = chunk.bytes ++ dataOf rest := rfl

@[simp]
theorem dataOf_append (first second : List RequestBodyChunk) :
    dataOf (first ++ second) = dataOf first ++ dataOf second := List.flatMap_append

theorem sentBytes_map_append (queued : List RequestBodyChunk) (rest : List Offer) :
    sentBytes (queued.map .chunk ++ rest) = dataOf queued ++ sentBytes rest := by
  induction queued with
  | nil => rfl
  | cons _ _ ih => simp [sentBytes, ih]

def EndsLast (offered : List Offer) : Prop := Offer.chunk .last ∉ offered.dropLast

/-- Where the queued bytes are: in the pipe, in the hands of the goroutine, or
still in the queue. -/
def Task.Account (task : Task) : Prop :=
  match task.body with
  | .selecting => dataOf task.queued = task.written ++ dataOf task.chunks.items ∧ task.pipe ≠ .eof
  | .writing rest =>
    dataOf task.queued = task.written ++ (rest ++ dataOf task.chunks.items) ∧ task.pipe ≠ .eof
  | .stopped => task.written <+: dataOf task.queued ∧
      (task.pipe = .eof → .last ∈ task.queued ∧ task.written = dataOf task.queued)

structure BodyInv (task : Task) : Prop where
  order : task.queued.map .chunk <+: task.offered
  endsLast : EndsLast task.offered
  waiting : task.chunks.items <:+ task.queued
  account : task.Account

theorem EndsLast.append {offered : List Offer} (unended : Offer.chunk .last ∉ offered)
    (offer : Offer) : EndsLast (offered ++ [offer]) := by
  unfold EndsLast
  rwa [List.dropLast_concat]

theorem EndsLast.eq_nil {before after : List Offer}
    (ends : EndsLast (before ++ Offer.chunk .last :: after)) : after = [] := by
  cases after with
  | nil => rfl
  | cons => simp [EndsLast] at ends

variable {task : Task} {rest : Channel RequestBodyChunk}

theorem BodyInv.offered_eq (inv : BodyInv task) {before after : List RequestBodyChunk}
    (ended : task.queued = before ++ .last :: after) :
    after = [] ∧ task.offered = task.queued.map .chunk := by
  obtain ⟨_, offered⟩ := inv.order
  have ends := inv.endsLast
  rw [← offered, ended, List.map_append, List.map_cons, List.append_assoc, List.cons_append] at ends
  obtain ⟨after_nil, rfl⟩ := List.append_eq_nil_iff.mp ends.eq_nil
  exact ⟨List.map_eq_nil_iff.mp after_nil, by rw [← offered, List.append_nil]⟩

theorem BodyInv.written_isPrefix (inv : BodyInv task) : task.written <+: dataOf task.queued := by
  have account := inv.account
  unfold Task.Account at account
  split at account
  · exact ⟨_, account.1.symm⟩
  · exact ⟨_, account.1.symm⟩
  · exact account.1

theorem BodyInv.faithful (inv : BodyInv task) : task.Faithful := by
  constructor
  · obtain ⟨_, offered⟩ := inv.order
    rw [← offered, sentBytes_map_append]
    exact inv.written_isPrefix.trans (List.prefix_append _ _)
  · intro ended
    have account := inv.account
    unfold Task.Account at account
    split at account
    · exact absurd ended account.2
    · exact absurd ended account.2
    obtain ⟨isLast, whole⟩ := account.2 ended
    obtain ⟨_, _, queued⟩ := List.append_of_mem isLast
    have offered := (inv.offered_eq queued).2
    refine ⟨by simp [offered], ?_⟩
    rw [whole, offered, ← List.append_nil (task.queued.map _), sentBytes_map_append]
    exact (List.append_nil _).symm

theorem BodyInv.frame {after : Task} (inv : BodyInv task) (queued : after.queued = task.queued)
    (offered : after.offered = task.offered) (chunks : after.chunks = task.chunks)
    (body : after.body = task.body) (written : after.written = task.written)
    (pipe : after.pipe = .eof ↔ task.pipe = .eof) :
    BodyInv after := by
  refine ⟨by rw [queued, offered]; exact inv.order, offered ▸ inv.endsLast,
    by rw [queued, chunks]; exact inv.waiting, ?_⟩
  have account := inv.account
  unfold Task.Account at account ⊢
  rw [body, written, queued, chunks]
  simpa only [ne_eq, pipe] using account

theorem BodyInv.offer (inv : BodyInv task) (unended : Offer.chunk .last ∉ task.offered)
    (offer : Offer) :
    BodyInv { task with offered := task.offered ++ [offer] } :=
  ⟨inv.order.trans (List.prefix_append _ _), .append unended offer, inv.waiting, inv.account⟩

theorem BodyInv.enqueue {chunk : RequestBodyChunk} {chunks : Channel RequestBodyChunk}
    (inv : BodyInv task) (sent : task.chunks.send? chunk = some chunks)
    (complete : task.offered = task.queued.map .chunk ++ [.chunk chunk]) :
    BodyInv { task with chunks, queued := task.queued ++ [chunk] } := by
  obtain ⟨_, items, _⟩ := Channel.send?_eq_some sent
  have unended : .last ∉ task.queued := by
    intro isLast
    have ends := inv.endsLast
    rw [complete, EndsLast, List.dropLast_concat] at ends
    exact ends (List.mem_map_of_mem isLast)
  refine ⟨by rw [complete]; simp, inv.endsLast, ?_, ?_⟩
  · obtain ⟨taken, waiting⟩ := inv.waiting
    exact ⟨taken, by simp only [items]; rw [← waiting, List.append_assoc]⟩
  · have account := inv.account
    unfold Task.Account at account ⊢
    dsimp only
    split at account
    · simp only [items, dataOf_append, account.1, List.append_assoc]
      exact ⟨trivial, account.2⟩
    · simp only [items, dataOf_append, account.1, List.append_assoc]
      exact ⟨trivial, account.2⟩
    · simp only [dataOf_append]
      exact ⟨account.1.trans (List.prefix_append _ _),
        fun ended => absurd (account.2 ended).1 unended⟩

theorem closeReader_eq_eof_iff (pipe : Pipe) : pipe.closeReader = .eof ↔ pipe = .eof := by
  cases pipe <;> simp [Pipe.closeReader]

theorem closeWriter_false_ne_eof {pipe : Pipe} (unfinished : pipe ≠ .eof) :
    pipe.closeWriter false ≠ .eof := by
  cases pipe <;> simp_all [Pipe.closeWriter]

theorem BodyInv.takeData {bytes : Bytes} (inv : BodyInv task) (selecting : task.body = .selecting)
    (received : task.chunks.receive? = some (.data bytes, rest)) :
    dataOf task.queued = task.written ++ (bytes ++ dataOf rest.items) ∧
      rest.items <:+ task.queued ∧ task.pipe ≠ .eof := by
  obtain ⟨items, _⟩ := Channel.receive?_eq_some received
  have account := inv.account
  simp only [Task.Account, selecting, items, dataOf_cons, RequestBodyChunk.bytes] at account
  exact ⟨account.1, (List.suffix_cons _ rest.items).trans (items ▸ inv.waiting), account.2⟩

/-- The goroutine takes the end of the body.  The queue is empty behind it, so
all of the body was written. -/
theorem BodyInv.takeLast (inv : BodyInv task) (selecting : task.body = .selecting)
    (received : task.chunks.receive? = some (.last, rest)) :
    task.written = dataOf task.queued ∧ .last ∈ task.queued ∧ rest.items <:+ task.queued := by
  obtain ⟨items, _⟩ := Channel.receive?_eq_some received
  have account := inv.account
  simp only [Task.Account, selecting, items, dataOf_cons, RequestBodyChunk.bytes] at account
  obtain ⟨_, queued⟩ := inv.waiting
  rw [items] at queued
  obtain ⟨nothing, _⟩ := inv.offered_eq queued.symm
  refine ⟨by simpa [nothing] using account.1.symm, by rw [← queued]; simp, ?_⟩
  exact (List.suffix_cons _ rest.items).trans (items ▸ inv.waiting)

theorem BodyInv.readPipe {rest : Bytes} {count : Nat} (inv : BodyInv task)
    (writing : task.body = .writing rest) :
    BodyInv { task with
      written := task.written ++ rest.take count
      body := if count = rest.length then .selecting else .writing (rest.drop count) } := by
  have account := inv.account
  simp only [Task.Account, writing] at account
  refine ⟨inv.order, inv.endsLast, inv.waiting, ?_⟩
  by_cases all : count = rest.length
  · simpa [Task.Account, all] using account
  simp only [Task.Account, if_neg all]
  rw [account.1, List.append_assoc, ← List.append_assoc (rest.take count), List.take_append_drop]
  exact ⟨rfl, account.2⟩

theorem BodyInv.stop (inv : BodyInv task) {pipe : Pipe} (cut : pipe ≠ .eof) :
    BodyInv { task with body := .stopped, pipe } :=
  ⟨inv.order, inv.endsLast, inv.waiting, inv.written_isPrefix, fun ended => absurd ended cut⟩

theorem BodyInv.pipe_ne_eof (inv : BodyInv task) (running : task.body ≠ .stopped) :
    task.pipe ≠ .eof := by
  have account := inv.account
  unfold Task.Account at account
  split at account
  · exact account.2
  · exact account.2
  next stopped => exact absurd stopped running

theorem BodyInv.event {cfg : RunnerConfig} {contextDone : Bool} {after : Task} {event : TaskEvent}
    (inv : BodyInv task) (stepped : TaskStep cfg contextDone task event after) : BodyInv after := by
  cases stepped with
  | bodyCancelled selecting =>
    exact inv.stop (closeWriter_false_ne_eof (inv.pipe_ne_eof (by simp [selecting])))
  | takeLast _ selecting received =>
    obtain ⟨whole, isLast, waiting⟩ := inv.takeLast selecting received
    exact ⟨inv.order, inv.endsLast, waiting, ⟨[], by rw [whole, List.append_nil]⟩,
      fun _ => ⟨isLast, whole⟩⟩
  | takeEmpty _ selecting received =>
    obtain ⟨queued, waiting, notEnded⟩ := inv.takeData selecting received
    refine ⟨inv.order, inv.endsLast, waiting, ?_⟩
    simp only [Task.Account, selecting]
    exact ⟨queued, notEnded⟩
  | takeData _ _ selecting received =>
    obtain ⟨queued, waiting, notEnded⟩ := inv.takeData selecting received
    exact ⟨inv.order, inv.endsLast, waiting, queued, notEnded⟩
  | readPipe _ _ writing => exact inv.readPipe writing
  | pipeWriteFailed _ writing => exact inv.stop (inv.pipe_ne_eof (by simp [writing]))
  | closeReader | cleanUp => exact inv.frame rfl rfl rfl rfl rfl (closeReader_eq_eof_iff _)
  | _ => exact inv.frame rfl rfl rfl rfl rfl Iff.rfl

theorem BodyInv.afterWrite (inv : BodyInv task) (err : Option Bytes) :
    BodyInv (task.afterWrite err) := by
  unfold Task.afterWrite
  split <;> exact inv.frame rfl rfl rfl rfl rfl Iff.rfl

theorem BodyInv.opened {msg : Message} (opened : Opened msg task) :
    BodyInv task := by
  cases opened <;>
    exact ⟨List.prefix_rfl, by simp [EndsLast], List.suffix_rfl, by simp [Task.Account]⟩

theorem bodyInv_step {cfg : RunnerConfig} {runner next : Runner} {action : RunnerAction}
    (inv : ∀ index, BodyInv (runner.task index)) (keeps : runner.KeepsOrder action)
    (stepped : runner.step cfg action = some next) (index : Nat) :
    BodyInv (next.task index) := by
  obtain ⟨_, change, _⟩ := step_change stepped index
  generalize next.task index = after at change
  cases change with
  | unchanged => exact inv index
  | advance _ _ moved => exact (inv index).event moved
  | opened _ _ _ opened => exact .opened opened
  | offered _ offer found offered =>
    exact (inv index).offer (keeps offer offered index found) offer
  | oversized _ offer found offered =>
    exact ((inv index).offer (keeps offer offered index found) offer).frame
      rfl rfl rfl rfl rfl Iff.rfl
  | enqueued _ _ offering sent =>
    simp only [Runner.KeepsOrder, offering] at keeps
    exact (inv index).enqueue sent keeps
  | written | unbuilt | writeFailed => exact (inv index).afterWrite _
  | cancelled | inbound | ended | closed =>
    exact (inv index).frame rfl rfl rfl rfl rfl Iff.rfl

/-- In every run that meets the condition, every local request sees a prefix of
its body, and a clean end only after the whole of it. -/
theorem requestBody_faithful (cfg : RunnerConfig) (actions : List RunnerAction)
    (guarded : Guarded (Runner.step cfg) Runner.KeepsOrder {} actions) :
    Always (Runner.step cfg) (fun runner => ∀ index, (runner.task index).Faithful) {} actions := by
  have inv : Always (Runner.step cfg) (fun runner => ∀ index, BodyInv (runner.task index))
      {} actions :=
    always_of_guarded (fun _ _ _ inv keeps stepped => bodyInv_step inv keeps stepped)
      (fun _ => ⟨List.prefix_rfl, by simp [EndsLast], List.suffix_rfl, by simp [Task.Account]⟩)
      guarded
  exact inv.mono fun _ holds index => (holds index).faithful

def uploadConfig : RunnerConfig := ⟨4, 0, []⟩

def uploadStart : Message := textMessage (newStream .httpRequestStart (ascii "s") [] none)

def uploadChunk (text : String) : Message :=
  binaryMessage .httpRequestBody (ascii "s") [] (ascii text)

def uploadEnd : Message := textMessage (newStream .httpRequestEnd (ascii "s") [] none)

def uploadGarbled : Message :=
  textMessage ⟨.httpRequestBody, ascii "s", [], some (.object [(ascii "data", .bool true)])⟩

def uploadRead : List RunnerAction :=
  [.advance 0 .takeChunk, .advance 0 (.readPipe 1), .advance 0 .takeChunk,
    .advance 0 (.readPipe 1), .advance 0 .takeChunk]

theorem requestBody_faithful_upload :
    Always (Runner.step uploadConfig) (fun runner => ∀ index, (runner.task index).Faithful) {}
      ([.read uploadStart, .read (uploadChunk "a"), .enqueue, .read (uploadChunk "b"), .enqueue,
        .read uploadEnd, .enqueue] ++ uploadRead) :=
  requestBody_faithful uploadConfig _ (by decide +kernel)

/-- The chunk in the middle is skipped, and the body ends as if it were whole. -/
theorem requestBody_hole : ∃ runner, exec (Runner.step uploadConfig) {}
        ([.read uploadStart, .read (uploadChunk "a"), .enqueue, .read uploadGarbled,
          .read (uploadChunk "c"), .enqueue, .read uploadEnd, .enqueue] ++ uploadRead) =
        some runner ∧
      (runner.task 0).written = ascii "ac" ∧ (runner.task 0).pipe = .eof ∧
      ¬ (runner.task 0).Faithful := by
  refine ⟨_, rfl, by decide +kernel, by decide +kernel, fun faithful => ?_⟩
  have intact := (faithful.2 (by decide +kernel)).1
  exact intact (by decide +kernel)

end Porthook.Agent
