import Porthook.Protocol.Messages

/-!
# Reading one stream's response

`readStreamResponse` is a loop around a `select`.  Its model consumes the events in the order in
which the `select` picks them and records what it hands to the two callbacks.  The agent is not
trusted: messages of any type and payload may arrive in any order.
-/

namespace Porthook.Gateway

open Porthook.Protocol

def defaultStreamChunkBytes : Int := 32 * 1024

def effectiveChunkBytes (chunkBytes : Int) : Int :=
  if chunkBytes ≤ 0 then defaultStreamChunkBytes else chunkBytes

/-- The causes with which a stream's context can end. -/
inductive ContextCause where
  | requestTimeout
  | idleTimeout
  | maxLifetimeExceeded
  | deadlineExceeded
  | canceled
  deriving DecidableEq

/-- The errors of a round trip, as far as `errors.Is` tells them apart. -/
inductive StreamError where
  | streamLimitExceeded
  | requestBodyTooLarge
  | context (cause : ContextCause)
  | agentDisconnected
  | writeTunnel (cause : Option ContextCause)
  | readRequestBody (cause : Option ContextCause)
  | payload (cause : PayloadError)
  | bodyBeforeStart
  | chunkTooLarge (limit : Int)
  | publicWrite (cause : Bytes)
  | shortWrite
  | agentError (message : Bytes)
  | relayCanceled (reason : Bytes)
  | unexpectedMessage (typ : MessageType)
  deriving DecidableEq

/-- `errors.Is` against one of the context causes; the tunnel write and the
body read wrap what they met. -/
def StreamError.isCause (cause : ContextCause) : StreamError → Bool
  | .context met => met = cause
  | .writeTunnel met => met = some cause
  | .readRequestBody met => met = some cause
  | _ => false

def isStreamContextDoneCause (err : StreamError) : Bool :=
  err.isCause .canceled || err.isCause .deadlineExceeded || err.isCause .requestTimeout ||
    err.isCause .idleTimeout || err.isCause .maxLifetimeExceeded

def streamCancelReason : ContextCause → Bytes
  | .requestTimeout => ascii "gateway timed out waiting for a response"
  | .idleTimeout => ascii "gateway stream idle timeout"
  | .maxLifetimeExceeded => ascii "gateway stream exceeded its maximum lifetime"
  | .deadlineExceeded => ascii "gateway stream timeout"
  | .canceled => ascii "public request canceled"

def streamCancelReasonForError (err : StreamError) : Bytes :=
  if err = .requestBodyTooLarge then ascii "public request body too large"
  else if err.isCause .deadlineExceeded then streamCancelReason .deadlineExceeded
  else if err.isCause .canceled then streamCancelReason .canceled
  else ascii "gateway stream failed"

structure RoundTripResult where
  status : Int := 0
  requestBytes : Int := 0
  responseBytes : Int := 0

inductive Call where
  | start (resp : ResponseStart)
  | body (chunk : Bytes)

/-- The public side of the stream: what the `n`-th `writeResponseBody` returns
for a chunk, with the text of its error if any. -/
abbrev PublicWriter := Nat → Bytes → Nat × Option Bytes

/-- The variables of the loop, and what it did so far: its callback
invocations and the reasons of the `http.stream.cancel` messages it sent. -/
structure ReadState where
  responseStarted : Bool := false
  result : RoundTripResult := {}
  calls : List Call := []
  cancels : List Bytes := []

def ReadState.bodyCalls (state : ReadState) : List Bytes :=
  state.calls.filterMap fun call =>
    match call with
    | .body chunk => some chunk
    | .start _ => none

inductive Flow where
  | next (state : ReadState)
  | done (state : ReadState) (err : Option StreamError)

def responseBodyChunk (msg : Message) (chunkBytes : Int) : Except StreamError Bytes :=
  let decoded : Except StreamError Bytes :=
    if msg.binaryBody then .ok msg.body
    else
      match decodePayload BodyChunk.decode msg.envelope with
      | .error err => .error (.payload err)
      | .ok payload => .ok payload.data
  match decoded with
  | .error err => .error err
  | .ok chunk => if chunk.length > chunkBytes then .error (.chunkTooLarge chunkBytes) else .ok chunk

def clampStatus (status : Int) : Int := if status ≤ 0 then 502 else status

def ReadState.writeResponseStart (state : ReadState) (resp : ResponseStart) : ReadState :=
  { state with
    result := { state.result with status := resp.status }
    calls := state.calls ++ [.start resp] }

def ReadState.writeResponseBody (write : PublicWriter) (state : ReadState) (chunk : Bytes) :
    ReadState × Option StreamError :=
  let (n, err) := write state.bodyCalls.length chunk
  let state := { state with
    result := { state.result with responseBytes := state.result.responseBytes + n }
    calls := state.calls ++ [.body chunk] }
  match err with
  | some cause => (state, some (.publicWrite cause))
  | none => if n ≠ chunk.length then (state, some .shortWrite) else (state, none)

def handleWholeResponse (write : PublicWriter) (state : ReadState) (envelope : Envelope) :
    ReadState × Option StreamError :=
  match decodePayload Response.decode envelope with
  | .error err => (state, some (.payload err))
  | .ok resp =>
    let state := state.writeResponseStart ⟨clampStatus resp.status, resp.header⟩
    if resp.body = [] then (state, none) else state.writeResponseBody write resp.body

def handleResponseMessage (write : PublicWriter) (chunkBytes : Int) (state : ReadState)
    (msg : Message) : Flow :=
  match msg.envelope.typ with
  | .httpResponseStart =>
    match decodePayload ResponseStart.decode msg.envelope with
    | .error err => .done state (some (.payload err))
    | .ok resp =>
      .next ({ state with responseStarted := true }.writeResponseStart
        { resp with status := clampStatus resp.status })
  | .httpResponseBody =>
    if state.responseStarted then
      match responseBodyChunk msg chunkBytes with
      | .error err => .done state (some err)
      | .ok chunk =>
        match state.writeResponseBody write chunk with
        | (state, none) => .next state
        | (state, some err) => .done state (some err)
    else
      .done state (some .bodyBeforeStart)
  | .httpResponseEnd =>
    if state.responseStarted then .done state none
    else .done (state.writeResponseStart { status := 200 }) none
  | .httpResponse =>
    let (state, err) := handleWholeResponse write state msg.envelope
    .done state err
  | .httpStreamError =>
    match decodePayload ErrorPayload.decode msg.envelope with
    | .error err => .done state (some (.payload err))
    | .ok payload => .done state (some (.agentError payload.message))
  | typ => .done state (some (.unexpectedMessage typ))

/-- What the `select` can pick. -/
inductive StreamEvent where
  | contextDone (cause : ContextCause)
  | sessionDone
  | message (msg : Message)

structure Outcome where
  state : ReadState
  returned : Option (Option StreamError)

def readStreamLoop (write : PublicWriter) (chunkBytes : Int) :
    ReadState → List StreamEvent → Outcome
  | state, [] => ⟨state, none⟩
  | state, .contextDone cause :: _ =>
    ⟨{ state with cancels := state.cancels ++ [streamCancelReason cause] },
      some (some (.context cause))⟩
  | state, .sessionDone :: _ => ⟨state, some (some .agentDisconnected)⟩
  | state, .message msg :: rest =>
    match handleResponseMessage write chunkBytes state msg with
    | .next state => readStreamLoop write chunkBytes state rest
    | .done state err => ⟨state, some err⟩

def readStreamResponse (write : PublicWriter) (chunkBytes : Int) (result : RoundTripResult)
    (events : List StreamEvent) : Outcome :=
  readStreamLoop write (effectiveChunkBytes chunkBytes) { result := result } events

@[simp]
theorem writeResponseStart_calls (state : ReadState) (resp : ResponseStart) :
    (state.writeResponseStart resp).calls = state.calls ++ [.start resp] := rfl

theorem writeResponseBody_fst (write : PublicWriter) (state : ReadState) (chunk : Bytes) :
    (state.writeResponseBody write chunk).1 =
      { state with
        result := { state.result with
          responseBytes := state.result.responseBytes + (write state.bodyCalls.length chunk).1 }
        calls := state.calls ++ [.body chunk] } := by
  unfold ReadState.writeResponseBody
  rcases write state.bodyCalls.length chunk with ⟨n, err⟩
  cases err with
  | some => rfl
  | none => by_cases whole : n = chunk.length <;> simp [whole]

theorem writeResponseBody_snd (write : PublicWriter) (state : ReadState) (chunk : Bytes) :
    (state.writeResponseBody write chunk).2 = none ∨
      (state.writeResponseBody write chunk).2 = some .shortWrite ∨
      ∃ cause, (state.writeResponseBody write chunk).2 = some (.publicWrite cause) := by
  unfold ReadState.writeResponseBody
  rcases write state.bodyCalls.length chunk with ⟨n, err⟩
  cases err with
  | some cause => exact .inr (.inr ⟨cause, rfl⟩)
  | none => by_cases whole : n = chunk.length <;> simp [whole]

theorem writeResponseBody_eq_none_iff (write : PublicWriter) (state : ReadState) (chunk : Bytes) :
    (state.writeResponseBody write chunk).2 = none ↔
      write state.bodyCalls.length chunk = (chunk.length, none) := by
  unfold ReadState.writeResponseBody
  rcases write state.bodyCalls.length chunk with ⟨n, err⟩
  cases err with
  | some => simp
  | none => by_cases whole : n = chunk.length <;> simp [whole]

/-- The errors that only the request phase can meet. -/
def StreamError.isRequestError (err : StreamError) : Prop :=
  err = .streamLimitExceeded ∨ err = .requestBodyTooLarge

variable {chunkBytes : Int} {err : StreamError} {write : PublicWriter} {state : ReadState}

theorem responseBodyChunk_error {msg : Message}
    (failed : responseBodyChunk msg chunkBytes = .error err) : ¬ err.isRequestError := by
  unfold responseBodyChunk at failed
  dsimp only at failed
  split at failed
  next cause rejected =>
    split at rejected
    · simp at rejected
    · split at rejected <;> cases rejected
      cases failed
      simp [StreamError.isRequestError]
  · split at failed <;> cases failed
    simp [StreamError.isRequestError]

theorem writeResponseBody_error {chunk : Bytes}
    (failed : (state.writeResponseBody write chunk).2 = some err) :
    ¬ err.isRequestError := by
  rcases writeResponseBody_snd write state chunk with none | short | ⟨_, broken⟩
  · rw [none] at failed
    cases failed
  · rw [short] at failed
    cases failed
    simp [StreamError.isRequestError]
  · rw [broken] at failed
    cases failed
    simp [StreamError.isRequestError]

theorem handleWholeResponse_error {envelope : Envelope}
    (failed : (handleWholeResponse write state envelope).2 = some err) :
    ¬ err.isRequestError := by
  unfold handleWholeResponse at failed
  split at failed
  · cases failed
    simp [StreamError.isRequestError]
  · dsimp only at failed
    split at failed
    · cases failed
    · exact writeResponseBody_error failed

theorem handleResponseMessage_error {after : ReadState} {msg : Message}
    (failed : handleResponseMessage write chunkBytes state msg = .done after (some err)) :
    ¬ err.isRequestError := by
  unfold handleResponseMessage at failed
  split at failed
  · split at failed <;> cases failed
    simp [StreamError.isRequestError]
  · repeat' split at failed
    all_goals cases failed
    next rejected => exact responseBodyChunk_error rejected
    next passed => exact writeResponseBody_error (congrArg Prod.snd passed)
    simp [StreamError.isRequestError]
  · split at failed <;> cases failed
  · simp only [Flow.done.injEq] at failed
    exact handleWholeResponse_error failed.2
  · split at failed <;> cases failed <;> simp [StreamError.isRequestError]
  · cases failed
    simp [StreamError.isRequestError]

theorem readStreamLoop_error {events : List StreamEvent}
    (failed : (readStreamLoop write chunkBytes state events).returned = some (some err)) :
    ¬ err.isRequestError := by
  induction events generalizing state with
  | nil => simp [readStreamLoop] at failed
  | cons event _ ih =>
    cases event with
    | contextDone | sessionDone =>
      cases failed
      simp [StreamError.isRequestError]
    | message msg =>
      simp only [readStreamLoop] at failed
      cases handled : handleResponseMessage write chunkBytes state msg with
      | next =>
        rw [handled] at failed
        exact ih failed
      | done =>
        rw [handled] at failed
        cases failed
        exact handleResponseMessage_error handled

def ReadState.passed (read : ReadState) : Bytes := read.bodyCalls.flatten

@[simp]
theorem writeResponseStart_passed (read : ReadState) (resp : ResponseStart) :
    (read.writeResponseStart resp).passed = read.passed := by
  simp [ReadState.passed, ReadState.bodyCalls, ReadState.writeResponseStart]

theorem writeResponseBody_passed (write : PublicWriter) (read : ReadState) (chunk : Bytes) :
    (read.writeResponseBody write chunk).1.passed = read.passed ++ chunk := by
  rw [writeResponseBody_fst]
  simp [ReadState.passed, ReadState.bodyCalls]

end Porthook.Gateway
