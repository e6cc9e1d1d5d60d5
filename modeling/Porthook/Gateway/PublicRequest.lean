import Porthook.Gateway.Response
import Porthook.Protocol.Header

/-!
# Ending the public response

`streamRoundTrip` as one handler sees it, and the rest of `handlePublicRequest`.  The handler
always returns, which to `net/http` means a finished response; only a declared `Content-Length`
that was not reached makes the server close the connection early.
-/

namespace Porthook.Gateway

open Porthook.Protocol

inductive RequestPhase where
  | startFailed (cause : Option ContextCause)
  | bodyFailed (sent : Int) (err : StreamError)
  | endFailed (sent : Int) (cause : Option ContextCause)
  | sent (bytes : Int)

def streamRoundTrip (acquired : Except StreamError Unit) (request : RequestPhase)
    (write : PublicWriter) (chunkBytes : Int) (events : List StreamEvent) : Outcome :=
  match acquired with
  | .error err => ⟨{}, some (some err)⟩
  | .ok _ =>
    match request with
    | .startFailed cause => ⟨{}, some (some (.writeTunnel cause))⟩
    | .bodyFailed requestBytes err =>
      ⟨{ result := { requestBytes }, cancels := [streamCancelReasonForError err] }, some (some err)⟩
    | .endFailed requestBytes cause =>
      ⟨{ result := { requestBytes } }, some (some (.writeTunnel cause))⟩
    | .sent requestBytes =>
      let outcome := readStreamResponse write chunkBytes { requestBytes } events
      match outcome.returned with
      | some (some err) =>
        if isStreamContextDoneCause err then outcome
        else { outcome with state := { outcome.state with
          cancels := outcome.state.cancels ++ [streamCancelReasonForError err] } }
      | _ => outcome

/-- The response that `net/http` builds: the header map, and once the header
went out its status and the length it declared. -/
structure ResponseWriter where
  header : Header := []
  wroteHeader : Option Int := none
  contentLength : Option Int := none

def declaredLength (header : Header) : Option Int :=
  (parseInt64? (header.get (ascii "Content-Length"))).filter fun n => 0 ≤ n

/-- `WriteHeader`; `none` is the panic on a status outside 100..999.  A
repeated call is ignored, and an informational status is not final. -/
def ResponseWriter.writeHeader? (writer : ResponseWriter) (status : Int) : Option ResponseWriter :=
  match writer.wroteHeader with
  | some _ => some writer
  | none =>
    if status < 100 ∨ 999 < status then none
    else if status ≤ 199 ∧ status ≠ 101 then some writer
    else some { writer with
      wroteHeader := some status, contentLength := declaredLength writer.header }

def ResponseWriter.implicitHeader (writer : ResponseWriter) : ResponseWriter :=
  match writer.wroteHeader with
  | some _ => writer
  | none => { writer with wroteHeader := some 200, contentLength := declaredLength writer.header }

structure PublicState where
  responseStarted : Bool := false
  status : Int := 0
  writer : ResponseWriter := {}

def PublicState.call? (state : PublicState) : Call → Option PublicState
  | .start resp =>
    let status := clampStatus resp.status
    let header := state.writer.header.addAll (stripHopByHopHeaders resp.header)
    ({ state.writer with header }.writeHeader? status).map fun writer =>
      { responseStarted := true, status, writer }
  | .body _ => some { state with writer := state.writer.implicitHeader }

def respond? : PublicState → List Call → Option PublicState
  | state, [] => some state
  | state, call :: rest => (state.call? call).bind fun next => respond? next rest

inductive RequestOutcome where
  | streamLimitExceeded | requestBodyTooLarge | tunnelTimeout | streamIdleTimeout
  | streamMaxLifetimeExceeded | clientCanceled | tunnelError | completed
  deriving DecidableEq

/-- How the handler ends: what it logs, the error page it writes if any, and
whether it returns or panics with `http.ErrAbortHandler`. -/
structure HandlerEnd where
  status : Int
  outcome : RequestOutcome
  errorPage : Option (Int × Bytes)
  aborts : Bool

def failWith (state : PublicState) (outcome : RequestOutcome) (status : Int) (message : String) :
    HandlerEnd :=
  if state.responseStarted then ⟨state.status, outcome, none, false⟩
  else ⟨status, outcome, some (status, ascii message), false⟩

def handleRoundTripError (state : PublicState) (err : StreamError) : HandlerEnd :=
  if err = .streamLimitExceeded then
    ⟨503, .streamLimitExceeded, some (503, ascii "tunnel overloaded"), false⟩
  else if err = .requestBodyTooLarge then
    ⟨413, .requestBodyTooLarge, some (413, ascii "request body too large"), false⟩
  else if err.isCause .requestTimeout ∨ err.isCause .deadlineExceeded then
    failWith state .tunnelTimeout 504 "tunnel request timed out"
  else if err.isCause .idleTimeout then
    failWith state .streamIdleTimeout 504 "tunnel stream idle timeout"
  else if err.isCause .maxLifetimeExceeded then
    failWith state .streamMaxLifetimeExceeded 504 "tunnel stream exceeded its maximum lifetime"
  else if err.isCause .canceled then
    ⟨if state.responseStarted then state.status else 499, .clientCanceled, none, false⟩
  else
    failWith state .tunnelError 502 "tunnel request failed"

def handlePublicRequestEnd (state : PublicState) (result : RoundTripResult) :
    Option StreamError → HandlerEnd
  | some err => handleRoundTripError state err
  | none => ⟨result.status, .completed, none, false⟩

inductive Ending where
  | whole
  | cut
  deriving DecidableEq

def bodyAllowedForStatus (status : Int) : Bool :=
  ¬ (100 ≤ status ∧ status ≤ 199 ∨ status = 204 ∨ status = 304)

/-- The client is promised more body bytes than it was sent: the method and
status admit a body and the declared length was not reached. -/
def ResponseWriter.Owes (writer : ResponseWriter) (method : Bytes) (written : Int) : Prop :=
  method ≠ ascii "HEAD" ∧ bodyAllowedForStatus (writer.wroteHeader.getD 200) = true ∧
    ∃ length, writer.contentLength = some length ∧ length ≠ written

instance (writer : ResponseWriter) (method : Bytes) (written : Int) :
    Decidable (writer.Owes method written) :=
  match declared : writer.contentLength with
  | none => isFalse (by simp [ResponseWriter.Owes, declared])
  | some length =>
    decidable_of_iff (method ≠ ascii "HEAD" ∧
      bodyAllowedForStatus (writer.wroteHeader.getD 200) = true ∧ length ≠ written)
      (by simp [ResponseWriter.Owes, declared])

/-- What `net/http` does when the handler is over: an aborted response is cut,
and a returned one is finished unless it owes body bytes. -/
def finishRequest (writer : ResponseWriter) (method : Bytes) (written : Int) (aborts : Bool) :
    Ending :=
  if aborts then .cut
  else if writer.implicitHeader.Owes method written then .cut
  else .whole

/-- The ending of a response whose round trip came back with `err`; an error
page is a whole response of its own. -/
def publicEnding (method : Bytes) (state : PublicState) (result : RoundTripResult)
    (err : Option StreamError) : Ending :=
  let handler := handlePublicRequestEnd state result err
  if handler.errorPage.isSome then .whole
  else finishRequest state.writer method result.responseBytes handler.aborts

theorem handleRoundTripError_aborts (state : PublicState) (err : StreamError) :
    (handleRoundTripError state err).aborts = false := by
  unfold handleRoundTripError failWith
  split_ifs <;> rfl

theorem handleRoundTripError_errorPage {state : PublicState}
    (started : state.responseStarted)
    {err : StreamError} (late : ¬ err.isRequestError) :
    (handleRoundTripError state err).errorPage = none := by
  unfold StreamError.isRequestError at late
  unfold handleRoundTripError failWith
  split_ifs <;> simp_all

theorem streamRoundTrip_error_of_started {acquired : Except StreamError Unit}
    {request : RequestPhase} {write : PublicWriter} {chunkBytes : Int}
    {events : List StreamEvent} {err : StreamError} {state : PublicState}
    (failed : (streamRoundTrip acquired request write chunkBytes events).returned = some (some err))
    (responded :
      respond? {} (streamRoundTrip acquired request write chunkBytes events).state.calls =
        some state)
    (started : state.responseStarted) : ¬ err.isRequestError := by
  have early : respond? {} [] ≠ some state := by
    intro same
    cases same
    cases started
  cases acquired with
  | error => exact absurd responded early
  | ok =>
    cases request with
    | startFailed | bodyFailed | endFailed => exact absurd responded early
    | sent bytes =>
      have loop : (readStreamResponse write chunkBytes { requestBytes := bytes } events).returned =
            some (some err) := by
        simp only [streamRoundTrip] at failed
        split at failed
        · split at failed <;> exact failed
        · exact failed
      exact readStreamLoop_error loop

/-- After the response started, a failed round trip leaves the client with a response that is not
taken for whole exactly when the header declared a length that was not reached. -/
theorem publicEnding_cut_iff {method : Bytes} {acquired : Except StreamError Unit}
    {request : RequestPhase} {write : PublicWriter} {chunkBytes : Int}
    {events : List StreamEvent} {err : StreamError} {state : PublicState}
    (failed : (streamRoundTrip acquired request write chunkBytes events).returned = some (some err))
    (responded :
      respond? {} (streamRoundTrip acquired request write chunkBytes events).state.calls =
        some state)
    (started : state.responseStarted = true) :
    publicEnding method state
        (streamRoundTrip acquired request write chunkBytes events).state.result (some err) ≠
        .whole ↔
      state.writer.implicitHeader.Owes method
        (streamRoundTrip acquired request write chunkBytes events).state.result.responseBytes := by
  have late := streamRoundTrip_error_of_started failed responded started
  simp only [publicEnding, handlePublicRequestEnd, handleRoundTripError_errorPage started late,
    handleRoundTripError_aborts, finishRequest]
  split_ifs <;> simp_all

def interruptedResponse (headers : List (Bytes × Json)) : List StreamEvent :=
  [.message (textMessage (newStream .httpResponseStart (ascii "str_a") (ascii "tun_a")
      (some (.object
        [(ascii "status", .number (ascii "200")), (ascii "headers", .object headers)])))),
    .message (binaryMessage .httpResponseBody (ascii "str_a") (ascii "tun_a") (ascii "hi")),
    .message (textMessage (newStream .httpStreamError (ascii "str_a") (ascii "tun_a")
      (some (.object [(ascii "message", .string (ascii "read failed"))]))))]

def interruptedRoundTrip (headers : List (Bytes × Json)) : Outcome :=
  streamRoundTrip (.ok ()) (.sent 0) (fun _ chunk => (chunk.length, none)) 32768
    (interruptedResponse headers)

/-- Ten bytes were promised and two relayed: the client can tell. -/
theorem publicEnding_declared_length_cut : publicEnding (ascii "GET")
      ⟨true, 200, ⟨[(ascii "Content-Length", [ascii "10"])], some 200, some 10⟩⟩
      (interruptedRoundTrip [(ascii "Content-Length", .array [.string (ascii "10")])]).state.result
      (some (.agentError (ascii "read failed"))) ≠ .whole := by
  have failed : (interruptedRoundTrip
      [(ascii "Content-Length", .array [.string (ascii "10")])]).returned =
      some (some (.agentError (ascii "read failed"))) := rfl
  have responded : respond? {} (interruptedRoundTrip
      [(ascii "Content-Length", .array [.string (ascii "10")])]).state.calls =
      some ⟨true, 200, ⟨[(ascii "Content-Length", [ascii "10"])], some 200, some 10⟩⟩ := rfl
  exact (publicEnding_cut_iff failed responded rfl).mpr (by decide)

/-- No length was declared: the agent reports a failed read after two bytes and
the client still gets a finished response. -/
theorem publicEnding_truncated_whole :
    (interruptedRoundTrip []).returned = some (some (.agentError (ascii "read failed"))) ∧
      ∃ state, respond? {} (interruptedRoundTrip []).state.calls = some state ∧
        state.responseStarted = true ∧
        publicEnding (ascii "GET") state (interruptedRoundTrip []).state.result
          (some (.agentError (ascii "read failed"))) = .whole :=
  ⟨rfl, ⟨true, 200, ⟨[], some 200, none⟩⟩, rfl, rfl, by decide⟩

end Porthook.Gateway
