import Porthook.Agent.Step

/-!
# What the agent sends for one stream

The messages of an HTTP stream are an optional start with its chunks, then at most one terminal.
The terminal can be missing: after an opening message that does not decode, and after a chunk that
is too large, when `handleHTTPStream` takes the agent's own cancellation for one by the gateway.
-/

namespace Porthook.Agent

open Porthook.Protocol Transition

def Frame.typ : Frame → Option MessageType
  | .text envelope => some envelope.typ
  | .binary data => (decodeBinaryBodyFrame data).toOption.map BinaryBodyFrame.typ

def Runner.outTypes (runner : Runner) (index : Nat) : List (Option MessageType) :=
  (runner.out index).map Frame.typ

def Started (types : List (Option MessageType)) : Prop :=
  ∃ chunks, types = some .httpResponseStart :: List.replicate chunks (some .httpResponseBody)

/-- `(http.response.start http.response.body*)?` -/
def Opening (types : List (Option MessageType)) : Prop := types = [] ∨ Started types

/-- A terminal message after such an opening; `http.response.end` needs a start. -/
def Answered (types : List (Option MessageType)) : Prop :=
  ∃ opening terminal, types = opening ++ [some terminal] ∧ Opening opening ∧
    (terminal = .httpResponseEnd ∧ Started opening ∨ terminal = .httpStreamError ∨
      terminal = .httpResponse)

def OutputLanguage (types : List (Option MessageType)) : Prop := Opening types ∨ Answered types

def TaskPhase.isOver : TaskPhase → Bool
  | .rejected | .finished | .cleaned | .ended => true
  | _ => false

def Runner.Expecting (runner : Runner) (index : Nat) : Prop :=
  runner.up = true ∧ runner.contextDone = false ∧ (runner.task index).gatewayCancelled = false

/-- The condition on a step: the messages that open a stream decode, and no
chunk for an open stream is too large. -/
def Runner.Acceptable (cfg : RunnerConfig) (runner : Runner) : RunnerAction → Prop
  | .read msg =>
    (msg.envelope.typ = .httpRequest → (decodePayload Request.decode msg.envelope).isOk = true) ∧
    (msg.envelope.typ = .httpRequestStart →
      (decodePayload RequestStart.decode msg.envelope).isOk = true) ∧
    (Oversized cfg msg → ∀ index ∈ runner.active msg.envelope.streamID,
      (runner.task index).gatewayCancelled = true)
  | _ => True

instance (cfg : RunnerConfig) (runner : Runner) (action : RunnerAction) :
    Decidable (runner.Acceptable cfg action) := by
  cases action <;> unfold Runner.Acceptable <;> infer_instance

theorem Started.append {types : List (Option MessageType)} (started : Started types) :
    Started (types ++ [some .httpResponseBody]) := by
  obtain ⟨chunks, rfl⟩ := started
  exact ⟨chunks + 1, by rw [List.replicate_succ', List.cons_append]⟩

theorem not_answered_nil : ¬ Answered [] := by
  rintro ⟨_, _, types, _⟩
  simp at types

def Task.Shape (task : Task) (types : List (Option MessageType)) : Prop :=
  match task.phase with
  | .unstarted | .rejected | .calling | .writingStart _ | .writingWhole _ => types = []
  | .streaming | .writingBody _ _ | .writingEnd => Started types
  | .failing _ | .writingError _ => Opening types
  | .relaying | .writingRelay _ => task.kind = .ws
  | .finished | .cleaned | .ended => task.kind = .ws ∨ OutputLanguage types

/-- A goroutine that still works is cancelled only by the gateway, and one that
is over has answered, unless `excused`. -/
def Task.Settled (task : Task) (excused : Prop) (types : List (Option MessageType)) : Prop :=
  match task.phase with
  | .rejected => False
  | .finished | .cleaned | .ended =>
    task.kind = .ws ∨ Answered types ∨ task.gatewayCancelled = true ∨ excused
  | .unstarted => True
  | _ => task.cancelled = true → task.gatewayCancelled = true

structure OutputInv (strict excused : Prop) (task : Task) (types : List (Option MessageType)) :
    Prop where
  shape : task.Shape types
  settled : strict → task.Settled excused types

section Task

variable {strict excused : Prop} {cfg : RunnerConfig} {task after : Task}
  {types : List (Option MessageType)}

theorem OutputInv.frame (inv : OutputInv strict excused task types)
    (phase : after.phase = task.phase) (kind : after.kind = task.kind)
    (cancelled : after.cancelled = task.cancelled)
    (gateway : after.gatewayCancelled = task.gatewayCancelled) :
    OutputInv strict excused after types := by
  obtain ⟨shape, settled⟩ := inv
  unfold Task.Shape at shape
  unfold Task.Settled at settled
  refine ⟨?_, fun holds => ?_⟩
  · unfold Task.Shape
    rw [phase, kind]
    exact shape
  · unfold Task.Settled
    rw [phase, kind, cancelled, gateway]
    exact settled holds

theorem OutputInv.event {contextDone : Bool} {event : TaskEvent}
    (inv : OutputInv strict excused task types) (ended : contextDone = true → excused)
    (stepped : TaskStep cfg contextDone task event after) :
    OutputInv strict excused after types := by
  have shape := inv.shape
  have settled := inv.settled
  unfold Task.Shape at shape
  unfold Task.Settled at settled
  cases stepped with
  | callFailed _ calling =>
    simp only [calling] at shape settled
    exact ⟨.inl shape, settled⟩
  | responded _ calling | respondedWhole _ calling =>
    simp only [calling] at shape settled
    exact ⟨shape, settled⟩
  | readTooLarge _ _ _ streaming | readFailure _ streaming =>
    simp only [streaming] at shape settled
    exact ⟨.inr shape, settled⟩
  | readChunk _ _ streaming | readNothing streaming | readEOF streaming =>
    simp only [streaming] at shape settled
    exact ⟨shape, settled⟩
  | reportNothing _ failing stops =>
    simp only [failing] at shape settled
    refine ⟨.inr (.inl shape), fun holds => ?_⟩
    rcases Bool.or_eq_true_iff.mp stops with cancelled | done
    · exact .inr (.inr (.inl (settled holds cancelled)))
    · exact .inr (.inr (.inr (ended done)))
  | reportFailure _ failing =>
    simp only [failing] at shape settled
    exact ⟨shape, settled⟩
  | relayEnvelope _ _ _ relaying | relayMessage _ _ relaying =>
    simp only [relaying] at shape settled
    exact ⟨shape, settled⟩
  | relayEnded relaying =>
    simp only [relaying] at shape
    exact ⟨.inl shape, fun _ => .inl shape⟩
  | cleanUp finished =>
    simp only [finished] at shape settled
    exact ⟨shape, settled⟩
  | _ => exact inv.frame rfl rfl rfl rfl

theorem typ_binaryBody {typ : MessageType} {id tunnelID data : Bytes} {frame : Frame}
    (built : binaryBody typ id tunnelID data = .ok frame) : Frame.typ frame = some typ := by
  unfold binaryBody at built
  cases encoded : newBinaryBodyFrame typ id tunnelID data with
  | error =>
    rw [encoded] at built
    cases built
  | ok =>
    rw [encoded] at built
    cases built
    simp only [Frame.typ, decodeBinaryBodyFrame_newBinaryBodyFrame encoded]
    rfl

theorem OutputInv.written {frame : Frame} (inv : OutputInv strict excused task types)
    (outgoing : task.outgoing cfg = some (.ok frame)) :
    OutputInv strict excused (task.afterWrite none) (types ++ [Frame.typ frame]) := by
  have shape := inv.shape
  have settled := inv.settled
  cases phase : task.phase with
  | writingStart =>
    simp only [Task.outgoing, phase, Option.some.injEq, Except.ok.injEq] at outgoing
    subst outgoing
    simp only [Task.Shape, Task.Settled, phase] at shape settled
    simp only [Task.afterWrite, phase]
    exact ⟨⟨0, by simp [shape, Frame.typ, newStream]⟩, settled⟩
  | writingBody _ err =>
    simp only [Task.outgoing, phase, Option.some.injEq] at outgoing
    simp only [Task.Shape, Task.Settled, phase] at shape settled
    rw [typ_binaryBody outgoing]
    rcases err with _ | ⟨_ | text⟩ <;> simp only [Task.afterWrite, phase]
    · exact ⟨shape.append, settled⟩
    · exact ⟨shape.append, settled⟩
    · exact ⟨.inr shape.append, settled⟩
  | writingEnd =>
    simp only [Task.outgoing, phase, Option.some.injEq, Except.ok.injEq] at outgoing
    subst outgoing
    simp only [Task.Shape, phase] at shape
    simp only [Task.afterWrite, phase]
    have answered : Answered (types ++ [some .httpResponseEnd]) :=
      ⟨types, _, rfl, .inr shape, .inl ⟨rfl, shape⟩⟩
    exact ⟨.inr (.inr answered), fun _ => .inr (.inl answered)⟩
  | writingWhole =>
    simp only [Task.outgoing, phase, Option.some.injEq, Except.ok.injEq] at outgoing
    subst outgoing
    simp only [Task.Shape, phase] at shape
    simp only [Task.afterWrite, phase]
    have answered : Answered (types ++ [some .httpResponse]) :=
      ⟨types, _, rfl, .inl shape, .inr (.inr rfl)⟩
    exact ⟨.inr (.inr answered), fun _ => .inr (.inl answered)⟩
  | writingError =>
    simp only [Task.outgoing, phase, Option.some.injEq, Except.ok.injEq] at outgoing
    subst outgoing
    simp only [Task.Shape, phase] at shape
    simp only [Task.afterWrite, phase]
    have answered : Answered (types ++ [some .httpStreamError]) :=
      ⟨types, _, rfl, shape, .inr (.inl rfl)⟩
    exact ⟨.inr (.inr answered), fun _ => .inr (.inl answered)⟩
  | writingRelay =>
    simp only [Task.Shape, Task.Settled, phase] at shape settled
    simp only [Task.afterWrite, phase]
    exact ⟨shape, settled⟩
  | _ => simp [Task.outgoing, phase] at outgoing

/-- A write that fails leads to the error path of `handleHTTPStream`, or to the
end of the goroutine; the latter needs an excuse. -/
theorem OutputInv.failed {text : Bytes} (inv : OutputInv strict excused task types)
    {built : Except FrameError Frame} (outgoing : task.outgoing cfg = some built)
    (broken : (∃ frame, built = .ok frame) → excused) :
    OutputInv strict excused (task.afterWrite (some text)) types := by
  have shape := inv.shape
  have settled := inv.settled
  cases phase : task.phase with
  | writingStart =>
    simp only [Task.Shape, Task.Settled, phase] at shape settled
    simp only [Task.afterWrite, phase]
    exact ⟨.inl shape, settled⟩
  | writingBody _ err =>
    simp only [Task.Shape, Task.Settled, phase] at shape settled
    rcases err with _ | ⟨_ | text⟩ <;> simp only [Task.afterWrite, phase] <;>
      exact ⟨.inr shape, settled⟩
  | writingEnd =>
    simp only [Task.outgoing, phase, Option.some.injEq] at outgoing
    simp only [Task.Shape, phase] at shape
    simp only [Task.afterWrite, phase]
    exact ⟨.inr (.inl (.inr shape)), fun _ => .inr (.inr (.inr (broken ⟨_, outgoing.symm⟩)))⟩
  | writingWhole =>
    simp only [Task.outgoing, phase, Option.some.injEq] at outgoing
    simp only [Task.Shape, phase] at shape
    simp only [Task.afterWrite, phase]
    exact ⟨.inr (.inl (.inl shape)), fun _ => .inr (.inr (.inr (broken ⟨_, outgoing.symm⟩)))⟩
  | writingError =>
    simp only [Task.outgoing, phase, Option.some.injEq] at outgoing
    simp only [Task.Shape, phase] at shape
    simp only [Task.afterWrite, phase]
    exact ⟨.inr (.inl shape), fun _ => .inr (.inr (.inr (broken ⟨_, outgoing.symm⟩)))⟩
  | writingRelay =>
    simp only [Task.Shape, phase] at shape
    simp only [Task.afterWrite, phase]
    exact ⟨.inl shape, fun _ => .inl shape⟩
  | _ => simp [Task.outgoing, phase] at outgoing

theorem OutputInv.weaken {excused' : Prop} (inv : OutputInv strict excused task types)
    (implied : excused → excused') : OutputInv strict excused' task types := by
  refine ⟨inv.shape, fun holds => ?_⟩
  have settled := inv.settled holds
  unfold Task.Settled at settled ⊢
  split at settled <;> first | exact settled | skip
  all_goals
    rcases settled with ws | answered | cancelled | excuse
    · exact .inl ws
    · exact .inr (.inl answered)
    · exact .inr (.inr (.inl cancelled))
    · exact .inr (.inr (.inr (implied excuse)))

theorem OutputInv.cancel (inv : OutputInv strict excused task types) (gateway : Bool)
    (allowed : strict → gateway = true) (same : task.gatewayCancelled = true → gateway = true) :
    OutputInv strict excused { task with
      cancelled := true, gatewayCancelled := gateway, done := true } types := by
  refine ⟨inv.shape, fun holds => ?_⟩
  have settled := inv.settled holds
  unfold Task.Settled at settled ⊢
  dsimp only
  split at settled
  · exact settled
  iterate 3
    · rcases settled with ws | answered | cancelled | excuse
      · exact .inl ws
      · exact .inr (.inl answered)
      · exact .inr (.inr (.inl (same cancelled)))
      · exact .inr (.inr (.inr excuse))
  · trivial
  · exact fun _ => allowed holds

theorem OutputInv.opened {msg : Message} (opened : Opened msg task)
    (decodes : strict → (msg.envelope.typ = .httpRequest →
        (decodePayload Request.decode msg.envelope).isOk = true) ∧
      (msg.envelope.typ = .httpRequestStart →
        (decodePayload RequestStart.decode msg.envelope).isOk = true)) :
    OutputInv strict excused task [] := by
  cases opened with
  | undecoded _ typ failed =>
    refine ⟨.inr (.inl (.inl rfl)), fun holds => ?_⟩
    have isOk := (decodes holds).1 typ
    rw [failed] at isOk
    cases isOk
  | rejected _ typ failed =>
    refine ⟨rfl, fun holds => ?_⟩
    have isOk := (decodes holds).2 typ
    rw [failed] at isOk
    cases isOk
  | whole | stream | ws => exact ⟨rfl, by rintro _ ⟨⟩⟩

end Task

def Runner.OutputsInv (strict : Prop) (runner : Runner) : Prop :=
  runner.Fresh ∧ ∀ index, OutputInv strict (runner.up = false ∨ runner.contextDone = true)
    (runner.task index) (runner.outTypes index)

theorem outputsInv_step {strict : Prop} {cfg : RunnerConfig} {runner next : Runner}
    {action : RunnerAction} (inv : runner.OutputsInv strict)
    (acceptable : strict → runner.Acceptable cfg action)
    (stepped : runner.step cfg action = some next) : next.OutputsInv strict := by
  refine ⟨fresh_step inv.1 stepped, fun index => ?_⟩
  obtain ⟨frames, change, out⟩ := step_change stepped index
  have session := step_session stepped
  have excuse : (runner.up = false ∨ runner.contextDone = true) →
      next.up = false ∨ next.contextDone = true := by
    rintro (down | done)
    · exact .inl (Bool.eq_false_iff.mpr fun up => by rw [session.up up] at down; cases down)
    · exact .inr (session.contextDone done)
  have before := (inv.2 index).weaken excuse
  have types : next.outTypes index = runner.outTypes index ++ frames.map Frame.typ := by
    simp [Runner.outTypes, out]
  rw [types]
  clear types out
  generalize next.task index = after at change
  cases change with
  | written _ outgoing => exact before.written outgoing
  | unbuilt _ outgoing =>
    rw [List.map_nil, List.append_nil]
    exact before.failed outgoing fun ⟨frame, built⟩ => by cases built
  | writeFailed _ _ outgoing =>
    rw [List.map_nil, List.append_nil]
    exact before.failed outgoing fun _ => .inl (writeFailed_up stepped)
  | opened _ _ _ opened =>
    have silent := (inv.2 index).shape
    simp only [Task.Shape, inv.1 index (by omega)] at silent
    rw [silent]
    exact .opened opened fun holds => ⟨(acceptable holds).1, (acceptable holds).2.1⟩
  | advance _ _ moved =>
    rw [List.map_nil, List.append_nil]
    exact before.event (fun done => excuse (.inr done)) moved
  | oversized _ _ found _ long =>
    rw [List.map_nil, List.append_nil]
    exact (before.cancel _ (fun holds => (acceptable holds).2.2 long index found) id).frame
      rfl rfl rfl rfl
  | cancelled =>
    rw [List.map_nil, List.append_nil]
    exact before.cancel true (fun _ => rfl) (fun _ => rfl)
  | ended _ cleaned =>
    rw [List.map_nil, List.append_nil]
    refine ⟨?_, fun holds => ?_⟩
    · simpa [Task.Shape, cleaned] using before.shape
    · simpa [Task.Settled, cleaned] using before.settled holds
  | unchanged | offered | enqueued | inbound | closed =>
    rw [List.map_nil, List.append_nil]
    exact before.frame rfl rfl rfl rfl

theorem Task.Shape.language {task : Task} {types : List (Option MessageType)}
    (shape : task.Shape types) (http : task.kind ≠ .ws) : OutputLanguage types := by
  unfold Task.Shape at shape
  split at shape
  iterate 5
    · exact .inl (.inl shape)
  iterate 3
    · exact .inl (.inr shape)
  iterate 2
    · exact .inl shape
  iterate 2
    · exact absurd shape http
  iterate 3
    · exact shape.resolve_left http

theorem Task.Settled.answered {task : Task} {excused : Prop} {types : List (Option MessageType)}
    (settled : task.Settled excused types) (http : task.kind ≠ .ws)
    (isOver : task.phase.isOver) :
    Answered types ∨ task.gatewayCancelled = true ∨ excused := by
  cases phase : task.phase with
  | rejected => simp [Task.Settled, phase] at settled
  | finished | cleaned | ended =>
    simp only [Task.Settled, phase] at settled
    exact settled.resolve_left http
  | _ => simp [phase, TaskPhase.isOver] at isOver

/-- What the agent sends for an HTTP stream is in the language; and in a run that meets the
condition it has answered every stream that is over while the session is up, unless the gateway
cancelled it. -/
theorem agentOutput_answered (cfg : RunnerConfig) (actions : List RunnerAction) :
    Always (Runner.step cfg) (fun runner => ∀ index, (runner.task index).kind ≠ .ws →
        OutputLanguage (runner.outTypes index)) {} actions ∧
      (Guarded (Runner.step cfg) (Runner.Acceptable cfg) {} actions →
        Always (Runner.step cfg) (fun runner => ∀ index, (runner.task index).kind ≠ .ws →
          (runner.task index).phase.isOver = true → runner.Expecting index →
          Answered (runner.outTypes index)) {} actions) := by
  have initial (strict : Prop) : Runner.OutputsInv strict {} :=
    ⟨fun _ _ => rfl, fun _ => ⟨rfl, fun _ => trivial⟩⟩
  constructor
  · have inv : Always (Runner.step cfg) (Runner.OutputsInv False) {} actions :=
      always_of_guarded (fun _ _ _ inv _ stepped => outputsInv_step inv False.elim stepped)
        (initial False) (guarded_true _ _)
    exact inv.mono fun runner holds index http => (holds.2 index).shape.language http
  · intro guarded
    have inv : Always (Runner.step cfg) (Runner.OutputsInv True) {} actions :=
      always_of_guarded (fun _ _ _ inv acceptable stepped =>
        outputsInv_step inv (fun _ => acceptable) stepped) (initial True) guarded
    refine inv.mono fun runner holds index http isOver expecting => ?_
    rcases ((holds.2 index).settled trivial).answered http isOver with
      answered | cancelled | down | done
    · exact answered
    · simp [expecting.2.2] at cancelled
    · simp [expecting.1] at down
    · simp [expecting.2.1] at done

def downloadConfig : RunnerConfig := ⟨4, 0, []⟩

def downloadStart : Message := textMessage (newStream .httpRequestStart (ascii "s") [] none)

theorem agentOutput_answered_download : Always (Runner.step downloadConfig) (fun runner => ∀ index,
        (runner.task index).kind ≠ .ws → (runner.task index).phase.isOver = true →
        runner.Expecting index → Answered (runner.outTypes index)) {}
      [.read downloadStart, .advance 0 (.responded ⟨200, []⟩), .write 0,
        .advance 0 (.readLocal (ascii "ok") (some .eof)), .write 0, .write 0] :=
  (agentOutput_answered downloadConfig _).2 (by decide +kernel)

/-- A chunk of five bytes where four are allowed: the agent cancels the stream,
the local call fails with it, and nobody tells the gateway. -/
theorem agentOutput_unanswered : ∃ runner, exec (Runner.step downloadConfig) {}
        [.read downloadStart, .read (binaryMessage .httpRequestBody (ascii "s") [] (ascii "large")),
          .advance 0 (.callFailed (ascii "context canceled")), .advance 0 .reportFailure] =
        some runner ∧
      (runner.task 0).kind = .stream ∧ (runner.task 0).phase.isOver = true ∧
      runner.Expecting 0 ∧ ¬ Answered (runner.outTypes 0) := by
  exact ⟨_, rfl, rfl, rfl, ⟨rfl, rfl, rfl⟩, not_answered_nil⟩

end Porthook.Agent
