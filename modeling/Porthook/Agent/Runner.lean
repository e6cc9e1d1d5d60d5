import Mathlib.Logic.Function.Basic
import Porthook.Foundations.Channel
import Porthook.Foundations.Transition
import Porthook.Protocol.Wire

/-!
# The agent side of one session

`Runner.serve` reads the gateway's messages and starts one goroutine per stream.  A stream
opened with `http.request.start` has two: `requestBodyFromChunks` moves queued chunks into the
pipe of the local request, and `handleHTTPStream` writes the local response back.
-/

namespace Porthook.Agent

open Porthook.Protocol

def defaultStreamChunkBytes : Int := 32 * 1024

def defaultMaxResponseBodyBytes : Int := 1024 * 1024

structure RunnerConfig where
  streamChunkBytes : Int
  maxResponseBodyBytes : Int
  tunnelID : Bytes

def RunnerConfig.responseLimit (cfg : RunnerConfig) : Int :=
  if cfg.maxResponseBodyBytes ≤ 0 then defaultMaxResponseBodyBytes else cfg.maxResponseBodyBytes

def RunnerConfig.responseChunk (cfg : RunnerConfig) : Int :=
  if cfg.streamChunkBytes ≤ 0 then defaultStreamChunkBytes else cfg.streamChunkBytes

inductive TaskKind where
  | whole
  | stream
  | ws
  deriving DecidableEq

inductive RequestBodyChunk where
  | data (bytes : Bytes)
  | last
  deriving DecidableEq

/-- A message about the request body as `serve` reads it; `garbled` is one
whose payload does not decode. -/
inductive Offer where
  | chunk (chunk : RequestBodyChunk)
  | garbled
  deriving DecidableEq

inductive BodyWriter where
  | selecting
  | writing (rest : Bytes)
  | stopped
  deriving DecidableEq

/-- The pipe that feeds the local request: `eof` and `failed` were set by the
writer, `abandoned` by the reader. -/
inductive Pipe where
  | opened
  | eof
  | failed
  | abandoned
  deriving DecidableEq

inductive ReadError where
  | eof
  | failure (text : Bytes)
  deriving DecidableEq

/-- The goroutine of `handleHTTPStream`, `handleHTTPRequest` or `handleWSStream`.  A stream whose
opening message did not decode is `rejected` from the start. -/
inductive TaskPhase where
  | unstarted
  | rejected
  | calling
  | writingStart (resp : ResponseStart)
  | streaming
  | writingBody (chunk : Bytes) (err : Option ReadError)
  | writingEnd
  | writingWhole (resp : Response)
  | failing (text : Bytes)
  | writingError (text : Bytes)
  | relaying
  | writingRelay (frame : Except FrameError Frame)
  | finished
  | cleaned
  | ended

structure Task where
  kind : TaskKind := .stream
  id : StreamID := []
  cancelled : Bool := false
  gatewayCancelled : Bool := false
  done : Bool := false
  chunks : Channel RequestBodyChunk := .make 0
  wsInbound : Channel Message := .make 0
  body : BodyWriter := .stopped
  pipe : Pipe := .opened
  written : Bytes := []
  phase : TaskPhase := .unstarted
  offered : List Offer := []
  queued : List RequestBodyChunk := []
  localBody : Bytes := []

/-- `writer.Close` and `writer.CloseWithError`; a pipe that the reader has
closed stays closed. -/
def Pipe.closeWriter (pipe : Pipe) (clean : Bool) : Pipe :=
  match pipe with
  | .opened => if clean then .eof else .failed
  | closed => closed

def Pipe.closeReader : Pipe → Pipe
  | .opened => .abandoned
  | closed => closed

def RequestBodyChunk.bytes : RequestBodyChunk → Bytes
  | .data bytes => bytes
  | .last => []

def Task.take (task : Task) (chunk : RequestBodyChunk) : Task :=
  match chunk with
  | .last => { task with body := .stopped, pipe := task.pipe.closeWriter true }
  | .data [] => task
  | .data bytes => { task with body := .writing bytes }

def Task.readLocal (cfg : RunnerConfig) (task : Task) (data : Bytes) (err : Option ReadError) :
    Task :=
  let total := task.localBody.length + data.length
  let task := { task with localBody := task.localBody ++ data }
  if data ≠ [] ∧ (total : Int) > cfg.responseLimit then
    { task with phase := .failing (ascii "read local response: local response body exceeds " ++
        decimal cfg.responseLimit ++ ascii " bytes") }
  else if data ≠ [] then { task with phase := .writingBody data err }
  else
    match err with
    | none => { task with phase := .streaming }
    | some .eof => { task with phase := .writingEnd }
    | some (.failure text) =>
      { task with phase := .failing (ascii "read local response: " ++ text) }

def FrameError.text : FrameError → Bytes
  | .unsupportedType typ => ascii "unsupported binary body message type " ++ typ.name
  | .streamIDRequired => ascii "stream id is required"
  | .streamIDTooLong => ascii "stream id is too long"
  | .tunnelIDTooLong => ascii "tunnel id is too long"
  | .tooShort => ascii "binary body frame is too short"
  | .invalidMagic => ascii "invalid binary body frame magic"
  | .unsupportedFrameType kind => ascii "unsupported binary body frame type " ++ decimal kind.toNat
  | .truncatedMetadata => ascii "binary body frame has truncated stream metadata"

def clampStatus (status : Int) : Int := if status ≤ 0 then 502 else status

def Task.outgoing (cfg : RunnerConfig) (task : Task) : Option (Except FrameError Frame) :=
  let text (typ : MessageType) (payload : Option Json) : Option (Except FrameError Frame) :=
    some (.ok (.text (newStream typ task.id cfg.tunnelID payload)))
  match task.phase with
  | .writingStart resp =>
    text .httpResponseStart (some { resp with status := clampStatus resp.status }.encode)
  | .writingBody chunk _ => some (binaryBody .httpResponseBody task.id cfg.tunnelID chunk)
  | .writingEnd => text .httpResponseEnd none
  | .writingWhole resp => text .httpResponse (some resp.encode)
  | .writingError message => text .httpStreamError
      (some (ErrorPayload.encode ⟨ascii "local_request_failed", message⟩))
  | .writingRelay frame => some frame
  | _ => none

def Task.afterWrite (task : Task) (err : Option Bytes) : Task :=
  match task.phase, err with
  | .writingStart _, none => { task with phase := .streaming }
  | .writingStart _, some text => { task with phase := .failing text }
  | .writingBody _ none, none => { task with phase := .streaming }
  | .writingBody _ (some .eof), none => { task with phase := .writingEnd }
  | .writingBody _ (some (.failure text)), none =>
    { task with phase := .failing (ascii "read local response: " ++ text) }
  | .writingBody _ _, some text =>
    { task with phase := .failing (ascii "read local response: " ++ text) }
  | .writingRelay _, none => { task with phase := .relaying }
  | _, _ => { task with phase := .finished }

inductive TaskEvent where
  | bodyCancelled
  | takeChunk
  | readPipe (count : Nat)
  | pipeWriteFailed
  | closeReader
  | callFailed (text : Bytes)
  | responded (resp : ResponseStart)
  | respondedWhole (resp : Response)
  | readLocal (data : Bytes) (err : Option ReadError)
  | reportFailure
  | takeMessage
  | relayEnvelope (typ : MessageType) (payload : Json)
  | relayMessage (typ : MessageType) (data : Bytes)
  | relayEnded
  | cleanUp

def isRelayEnvelope : MessageType → Bool
  | .wsAccept | .wsError | .wsClose | .wsCancel => true
  | _ => false

def isRelayMessage : MessageType → Bool
  | .wsMessageText | .wsMessageBinary => true
  | _ => false

/-- One event; `contextDone` is the state of the session's context, from which
every stream's context derives. -/
def taskStep (cfg : RunnerConfig) (contextDone : Bool) (task : Task) : TaskEvent → Option Task
  | .bodyCancelled =>
    if task.body = .selecting ∧ (task.cancelled || contextDone) = true then
      some { task with body := .stopped, pipe := task.pipe.closeWriter false }
    else none
  | .takeChunk =>
    if task.body = .selecting then
      task.chunks.receive?.map fun taken => { task with chunks := taken.2 }.take taken.1
    else none
  | .readPipe count =>
    match task.body with
    | .writing rest =>
      if task.pipe = .opened ∧ 0 < count ∧ count ≤ rest.length then
        some { task with
          written := task.written ++ rest.take count
          body := if count = rest.length then .selecting else .writing (rest.drop count) }
      else none
    | _ => none
  | .pipeWriteFailed =>
    match task.body with
    | .writing _ => if task.pipe = .opened then none else some { task with body := .stopped }
    | _ => none
  | .closeReader => some { task with pipe := task.pipe.closeReader }
  | .callFailed text =>
    match task.phase with
    | .calling => some { task with phase := .failing text }
    | _ => none
  | .responded resp =>
    match task.phase with
    | .calling => if task.kind = .stream then some { task with phase := .writingStart resp }
        else none
    | _ => none
  | .respondedWhole resp =>
    match task.phase with
    | .calling =>
      if task.kind = .whole then
        some { task with phase := .writingWhole resp, localBody := resp.body }
      else none
    | _ => none
  | .readLocal data err =>
    match task.phase with
    | .streaming =>
      if data.length ≤ cfg.responseChunk then some (task.readLocal cfg data err) else none
    | _ => none
  | .reportFailure =>
    -- the error is only sent if nobody has cancelled the stream
    match task.phase with
    | .failing text => some { task with
        phase := if task.cancelled || contextDone then .finished else .writingError text }
    | _ => none
  | .takeMessage =>
    if task.kind = .ws then
      task.wsInbound.receive?.map fun taken => { task with wsInbound := taken.2 }
    else none
  | .relayEnvelope typ payload =>
    match task.phase with
    | .relaying =>
      if isRelayEnvelope typ then
        let frame := Frame.text (newStream typ task.id cfg.tunnelID (some payload))
        some { task with phase := .writingRelay (.ok frame) }
      else none
    | _ => none
  | .relayMessage typ data =>
    match task.phase with
    | .relaying =>
      if isRelayMessage typ then
        some { task with phase := .writingRelay (binaryBody typ task.id cfg.tunnelID data) }
      else none
    | _ => none
  | .relayEnded =>
    match task.phase with
    | .relaying => some { task with phase := .finished }
    | _ => none
  | .cleanUp =>
    -- the deferred body.Close and cancelStream
    match task.phase with
    | .finished => some { task with
        phase := .cleaned
        pipe := task.pipe.closeReader
        cancelled := true }
    | _ => none

/-- Where `serve` is: it blocks in `deliverActiveStreamChunk` (`offering`) or
`deliverActiveStreamMessage` (`relaying`) while the queue is full. -/
inductive Serve where
  | reading
  | offering (task : Nat) (chunk : RequestBodyChunk)
  | relaying (task : Nat) (msg : Message)
  | ponging
  | returned

/-- The agent during one session.  `sent` lists the messages it has written for
its streams, in the order in which they are on the connection. -/
structure Runner where
  started : Nat := 0
  task : Nat → Task := fun _ => {}
  active : StreamID → Option Nat := fun _ => none
  serve : Serve := .reading
  contextDone : Bool := false
  up : Bool := true
  sent : List (Nat × Frame) := []

inductive RunnerAction where
  | advance (task : Nat) (event : TaskEvent)
  | read (msg : Message)
  | readFailed
  | pongWritten
  | pongFailed
  | enqueue
  | abandon
  | write (task : Nat)
  | writeFailed (task : Nat) (text : Bytes)
  | removeActiveStream (task : Nat)
  | connectionLost
  | stop

def Runner.setTask (runner : Runner) (index : Nat) (task : Task) : Runner :=
  { runner with task := Function.update runner.task index task }

/-- Start a goroutine and enter it into the table; an empty id is not entered. -/
def Runner.addActiveStream (runner : Runner) (task : Task) : Runner :=
  { runner.setTask runner.started task with
    started := runner.started + 1
    active := if task.id = [] then runner.active
      else Function.update runner.active task.id (some runner.started) }

def Runner.cancelActiveStream (runner : Runner) (id : StreamID) (byGateway : Bool) : Runner :=
  match runner.active id with
  | none => runner
  | some index =>
    runner.setTask index { runner.task index with
      cancelled := true
      gatewayCancelled := (runner.task index).gatewayCancelled || byGateway
      done := true }

def Runner.offer (runner : Runner) (id : StreamID) (offer : Offer) : Runner :=
  match runner.active id with
  | none => runner
  | some index =>
    runner.setTask index { runner.task index with
      offered := (runner.task index).offered ++ [offer] }

/-- The lookup of `deliverActiveStreamChunk`: an unknown stream, or one without
a chunk queue, drops the chunk. -/
def Runner.deliverChunk (runner : Runner) (id : StreamID) (chunk : RequestBodyChunk) : Runner :=
  match runner.active id with
  | none => runner
  | some index =>
    if (runner.task index).kind = .stream then { runner with serve := .offering index chunk }
    else runner

def Runner.deliverMessage (runner : Runner) (id : StreamID) (msg : Message) : Runner :=
  match runner.active id with
  | none => runner
  | some index =>
    if (runner.task index).kind = .ws then { runner with serve := .relaying index msg }
    else runner

def requestBodyData (msg : Message) : Except PayloadError Bytes :=
  if msg.binaryBody then .ok msg.body
  else (decodePayload BodyChunk.decode msg.envelope).map BodyChunk.data

def Runner.serveMessage (cfg : RunnerConfig) (runner : Runner) (msg : Message) : Runner :=
  let id := msg.envelope.streamID
  match msg.envelope.typ with
  | .httpRequest =>
    -- the payload is decoded by the goroutine, which returns if it cannot
    let phase := match decodePayload Request.decode msg.envelope with
      | .error _ => TaskPhase.finished
      | .ok _ => .calling
    runner.addActiveStream { kind := .whole, id, phase }
  | .httpRequestStart =>
    match decodePayload RequestStart.decode msg.envelope with
    | .error _ =>
      { runner.setTask runner.started { kind := .stream, id, phase := .rejected } with
        started := runner.started + 1 }
    | .ok _ => runner.addActiveStream
        { kind := .stream, id, phase := .calling, chunks := .make 32, body := .selecting }
  | .httpRequestBody =>
    match requestBodyData msg with
    | .error _ => runner.offer id .garbled
    | .ok data =>
      let runner := runner.offer id (.chunk (.data data))
      if data.length > cfg.streamChunkBytes then runner.cancelActiveStream id false
      else runner.deliverChunk id (.data data)
  | .httpRequestEnd => (runner.offer id (.chunk .last)).deliverChunk id .last
  | .httpStreamCancel =>
    match decodePayload StreamCancel.decode msg.envelope with
    | .error _ => runner
    | .ok _ => runner.cancelActiveStream id true
  | .wsOpen =>
    match decodePayload Open.decode msg.envelope with
    | .error _ => runner
    | .ok _ => runner.addActiveStream { kind := .ws, id, phase := .relaying, wsInbound := .make 64 }
  | .wsMessageText | .wsMessageBinary | .wsClose | .wsCancel => runner.deliverMessage id msg
  | .ping => { runner with serve := .ponging }
  | _ => runner

/-- `serve` returns; `runOnce` then cancels the session's context. -/
def Runner.endSession (runner : Runner) : Runner :=
  { runner with serve := .returned, contextDone := true, up := false }

def Runner.step (cfg : RunnerConfig) (runner : Runner) : RunnerAction → Option Runner
  | .advance index event =>
    (taskStep cfg runner.contextDone (runner.task index) event).map (runner.setTask index)
  | .read msg =>
    match runner.serve with
    | .reading => some (runner.serveMessage cfg msg)
    | _ => none
  | .readFailed =>
    match runner.serve with
    | .reading => some runner.endSession
    | _ => none
  | .pongWritten =>
    match runner.serve with
    | .ponging => some { runner with serve := .reading }
    | _ => none
  | .pongFailed =>
    match runner.serve with
    | .ponging => some runner.endSession
    | _ => none
  | .enqueue =>
    match runner.serve with
    | .offering index chunk =>
      ((runner.task index).chunks.send? chunk).map fun chunks =>
        { runner.setTask index { runner.task index with
            chunks
            queued := (runner.task index).queued ++ [chunk] } with serve := .reading }
    | .relaying index msg =>
      ((runner.task index).wsInbound.send? msg).map fun wsInbound =>
        { runner.setTask index { runner.task index with wsInbound } with serve := .reading }
    | _ => none
  | .abandon =>
    match runner.serve with
    | .offering index _ | .relaying index _ =>
      if (runner.task index).done || runner.contextDone then
        some { runner with serve := .reading }
      else none
    | _ => none
  | .write index =>
    match (runner.task index).outgoing cfg with
    | none => none
    | some (.error err) =>
      -- the frame is not built, and the connection not touched
      some (runner.setTask index ((runner.task index).afterWrite (some (FrameError.text err))))
    | some (.ok frame) =>
      if runner.up then
        some { runner.setTask index ((runner.task index).afterWrite none) with
          sent := runner.sent ++ [(index, frame)] }
      else none
  | .writeFailed index text =>
    -- a write that fails leaves the connection unusable
    match (runner.task index).outgoing cfg with
    | some (.ok _) => some
        { runner.setTask index ((runner.task index).afterWrite (some text)) with up := false }
    | _ => none
  | .removeActiveStream index =>
    match (runner.task index).phase with
    | .cleaned =>
      let id := (runner.task index).id
      let runner := runner.setTask index { runner.task index with phase := .ended }
      if id = [] then some runner
      else
        match runner.active id with
        | none => some runner
        | some registered => some
            { runner.setTask registered { runner.task registered with done := true } with
              active := Function.update runner.active id none }
    | _ => none
  | .connectionLost => some { runner with up := false }
  | .stop => some { runner with contextDone := true }

end Porthook.Agent
