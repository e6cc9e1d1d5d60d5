import Porthook.Gateway.Response

/-!
# The response state machine against an untrusted agent

`net/http` expects one `WriteHeader` per response, before the body, with a status between 100 and
999.  The loop checks that a body or an end follows a start, but not that a start is the first one.
-/

namespace Porthook.Gateway

open Porthook.Protocol

def Call.isStart : Call → Bool
  | .start _ => true
  | .body _ => false

def writeHeaderStatus (resp : ResponseStart) : Int := clampStatus resp.status

structure Conforms (outcome : Outcome) : Prop where
  start_once : (outcome.state.calls.filter Call.isStart).length ≤ 1
  start_first : ∀ before chunk after,
    outcome.state.calls = before ++ .body chunk :: after → ∃ resp, Call.start resp ∈ before
  status_valid : ∀ resp, Call.start resp ∈ outcome.state.calls →
    100 ≤ writeHeaderStatus resp ∧ writeHeaderStatus resp ≤ 999
  status_returned : outcome.returned.isSome = true →
    ∀ resp, Call.start resp ∈ outcome.state.calls → outcome.state.result.status = resp.status

def AdmissibleStatus (status : Int) : Prop := status ≤ 0 ∨ 100 ≤ status ∧ status ≤ 999

/-- Only the first start or whole response that the loop sees may start a response, and its status
has to be admissible.  The flag says whether a start was seen; the number counts the chunks. -/
def WellBehaved (write : PublicWriter) (chunkBytes : Int) : Bool → Nat → List StreamEvent → Prop
  | started, count, .message msg :: rest =>
    match msg.envelope.typ with
    | .httpResponseStart =>
      match decodePayload ResponseStart.decode msg.envelope with
      | .error _ => True
      | .ok resp =>
        started = false ∧ AdmissibleStatus resp.status ∧
          WellBehaved write chunkBytes true count rest
    | .httpResponseBody =>
      if started then
        match responseBodyChunk msg chunkBytes with
        | .error _ => True
        | .ok chunk =>
          write count chunk = (chunk.length, none) →
            WellBehaved write chunkBytes true (count + 1) rest
      else
        True
    | .httpResponse =>
      match decodePayload Response.decode msg.envelope with
      | .error _ => True
      | .ok resp => started = false ∧ AdmissibleStatus resp.status
    | _ => True
  | _, _, _ => True

theorem clampStatus_range_iff (status : Int) :
    100 ≤ clampStatus status ∧ clampStatus status ≤ 999 ↔ AdmissibleStatus status := by
  unfold clampStatus AdmissibleStatus
  split <;> omega

theorem clampStatus_idem (status : Int) :
    clampStatus (clampStatus status) = clampStatus status := by
  unfold clampStatus
  split <;> simp_all

def Flow.state : Flow → ReadState
  | .next state => state
  | .done state _ => state

theorem handleWholeResponse_calls (write : PublicWriter) (state : ReadState) (envelope : Envelope) :
    state.calls <+: (handleWholeResponse write state envelope).1.calls := by
  unfold handleWholeResponse
  split
  · exact List.prefix_rfl
  next resp _ =>
    dsimp only
    split
    · exact List.prefix_append _ _
    · simp [writeResponseBody_fst]

theorem handleResponseMessage_calls (write : PublicWriter) (chunkBytes : Int) (state : ReadState)
    (msg : Message) :
    state.calls <+: (handleResponseMessage write chunkBytes state msg).state.calls := by
  unfold handleResponseMessage
  split
  · split
    · exact List.prefix_rfl
    · exact List.prefix_append _ _
  · split
    · split
      · exact List.prefix_rfl
      next chunk _ =>
        have calls := congrArg ReadState.calls (writeResponseBody_fst write state chunk)
        split
        next after passed =>
          rw [passed] at calls
          exact ⟨_, calls.symm⟩
        next after err passed =>
          rw [passed] at calls
          exact ⟨_, calls.symm⟩
    · exact List.prefix_rfl
  · split
    · exact List.prefix_rfl
    · exact List.prefix_append _ _
  · exact handleWholeResponse_calls write state msg.envelope
  · split <;> exact List.prefix_rfl
  · exact List.prefix_rfl

theorem readStreamLoop_calls (write : PublicWriter) (chunkBytes : Int) (state : ReadState)
    (events : List StreamEvent) :
    state.calls <+: (readStreamLoop write chunkBytes state events).state.calls := by
  induction events generalizing state with
  | nil => exact List.prefix_rfl
  | cons event _ ih =>
    cases event with
    | contextDone | sessionDone => exact List.prefix_rfl
    | message msg =>
      have step := handleResponseMessage_calls write chunkBytes state msg
      simp only [readStreamLoop]
      cases handled : handleResponseMessage write chunkBytes state msg with
      | next after =>
        rw [handled] at step
        exact step.trans (ih after)
      | done =>
        rwa [handled] at step

theorem not_conforms_of_prefix {calls : List Call} {outcome : Outcome}
    (accumulated : calls <+: outcome.state.calls)
    (violated : 1 < (calls.filter Call.isStart).length ∨
      ∃ resp, Call.start resp ∈ calls ∧ ¬ AdmissibleStatus resp.status) :
    ¬ Conforms outcome := by
  intro conforms
  rcases violated with _ | ⟨resp, present, inadmissible⟩
  · have grown := (accumulated.filter Call.isStart).length_le
    have once := conforms.start_once
    omega
  · have valid := conforms.status_valid resp (accumulated.subset present)
    exact inadmissible ((clampStatus_range_iff resp.status).mp valid)

/-- Nothing was passed on yet, or one admissible start followed by chunks. -/
def Ordered (state : ReadState) : Prop :=
  state.calls = [] ∨ ∃ resp, ∃ chunks : List Bytes, state.calls = .start resp :: chunks.map .body ∧
      AdmissibleStatus resp.status ∧ state.result.status = resp.status

theorem filter_isStart_map_body (chunks : List Bytes) :
    (chunks.map Call.body).filter Call.isStart = [] := by
  simp [List.filter_eq_nil_iff, Call.isStart]

variable {state : ReadState}

theorem conforms_of_ordered (ordered : Ordered state)
    (returned : Option (Option StreamError)) : Conforms ⟨state, returned⟩ := by
  rcases ordered with empty | ⟨resp, _, calls, admissible, status⟩
  · constructor <;> simp [empty]
  have unique : ∀ other, Call.start other ∈ state.calls → other = resp := by
    intro other present
    simpa [calls] using present
  constructor
  · rw [calls, List.filter_cons, filter_isStart_map_body]
    simp [Call.isStart]
  · intro before chunk after split
    rw [calls] at split
    cases before with
    | nil => simp at split
    | cons =>
      simp only [List.cons_append, List.cons.injEq] at split
      exact ⟨resp, by simp [split.1]⟩
  · intro other present
    rw [unique other present]
    exact (clampStatus_range_iff resp.status).mpr admissible
  · intro _ other present
    rw [unique other present]
    exact status

structure Clean (state : ReadState) : Prop where
  ordered : Ordered state
  started_iff : state.responseStarted = true ↔ state.calls ≠ []

theorem Clean.calls_eq_nil (clean : Clean state)
    (waiting : state.responseStarted = false) : state.calls = [] := by
  by_contra passed
  simp [clean.started_iff.mpr passed] at waiting

theorem Clean.has_start (clean : Clean state) (started : state.responseStarted) :
    ∃ resp, ∃ chunks : List Bytes, state.calls = .start resp :: chunks.map .body ∧
      AdmissibleStatus resp.status ∧ state.result.status = resp.status := by
  rcases clean.ordered with empty | found
  · exact absurd empty (clean.started_iff.mp started)
  · exact found

theorem ordered_writeResponseStart (clean : Clean state) (waiting : state.responseStarted = false)
    (resp : ResponseStart)
    (admissible : AdmissibleStatus resp.status) : Ordered (state.writeResponseStart resp) := by
  refine .inr ⟨resp, [], ?_, admissible, rfl⟩
  simp [clean.calls_eq_nil waiting]

theorem ordered_writeResponseBody (write : PublicWriter) (clean : Clean state)
    (started : state.responseStarted) (chunk : Bytes) :
    Ordered (state.writeResponseBody write chunk).1 := by
  rcases clean.has_start started with ⟨resp, chunks, calls, admissible, status⟩
  rw [writeResponseBody_fst]
  exact .inr ⟨resp, chunks ++ [chunk], by simp [calls], admissible, status⟩

theorem admissible_clampStatus {status : Int} (admissible : AdmissibleStatus status) :
    AdmissibleStatus (clampStatus status) := by
  rw [← clampStatus_range_iff, clampStatus_idem, clampStatus_range_iff]
  exact admissible

theorem admissible_of_clampStatus {status : Int}
    (admissible : AdmissibleStatus (clampStatus status)) : AdmissibleStatus status := by
  rwa [← clampStatus_range_iff, clampStatus_idem, clampStatus_range_iff] at admissible

theorem not_conforms_of_start {outcome : Outcome} (clean : Clean state) (status : Int)
    (header : Header) (rejected : ¬ (state.responseStarted = false ∧ AdmissibleStatus status))
    (accumulated : state.calls ++ [Call.start ⟨clampStatus status, header⟩] <+:
      outcome.state.calls) : ¬ Conforms outcome := by
  apply not_conforms_of_prefix accumulated
  by_cases started : state.responseStarted = true
  · rcases clean.has_start started with ⟨_, _, calls, _, _⟩
    left
    simp [calls, List.filter_append, List.filter_cons, filter_isStart_map_body, Call.isStart]
  · right
    refine ⟨⟨clampStatus status, header⟩, by simp, fun admissible => ?_⟩
    exact rejected ⟨by simpa using started, admissible_of_clampStatus admissible⟩

theorem clean_start (clean : Clean state) (waiting : state.responseStarted = false)
    (resp : ResponseStart) (admissible : AdmissibleStatus resp.status) :
    Clean ({ state with responseStarted := true }.writeResponseStart resp) := by
  refine ⟨.inr ⟨resp, [], ?_, admissible, rfl⟩, by simp [ReadState.writeResponseStart]⟩
  simp [clean.calls_eq_nil waiting]

theorem clean_chunk (write : PublicWriter) (clean : Clean state)
    (started : state.responseStarted) (chunk : Bytes) :
    Clean (state.writeResponseBody write chunk).1 := by
  refine ⟨ordered_writeResponseBody write clean started chunk, ?_⟩
  rw [writeResponseBody_fst]
  simp [started]

theorem bodyCalls_chunk (write : PublicWriter) (state : ReadState) (chunk : Bytes) :
    (state.writeResponseBody write chunk).1.bodyCalls = state.bodyCalls ++ [chunk] := by
  simp [writeResponseBody_fst, ReadState.bodyCalls, List.filterMap_append]

theorem conforms_whole_iff (write : PublicWriter) (clean : Clean state) (envelope : Envelope) :
    Conforms ⟨(handleWholeResponse write state envelope).1,
        some (handleWholeResponse write state envelope).2⟩ ↔
      match decodePayload Response.decode envelope with
      | .error _ => True
      | .ok resp => state.responseStarted = false ∧ AdmissibleStatus resp.status := by
  unfold handleWholeResponse
  cases decoded : decodePayload Response.decode envelope with
  | error => simpa using conforms_of_ordered clean.ordered _
  | ok resp =>
    dsimp only
    by_cases accepted : state.responseStarted = false ∧ AdmissibleStatus resp.status
    · simp only [accepted, and_self, iff_true]
      have admissible := admissible_clampStatus accepted.2
      split
      · exact conforms_of_ordered (ordered_writeResponseStart clean accepted.1
            ⟨clampStatus resp.status, resp.header⟩ admissible) _
      · apply conforms_of_ordered
        rw [writeResponseBody_fst]
        refine .inr ⟨⟨clampStatus resp.status, resp.header⟩, [resp.body], ?_, admissible, rfl⟩
        simp [clean.calls_eq_nil accepted.1]
    · simp only [accepted, iff_false]
      apply not_conforms_of_start clean resp.status resp.header accepted
      split
      · exact List.prefix_rfl
      · simp [writeResponseBody_fst]

theorem conforms_readStreamLoop_iff (write : PublicWriter) (chunkBytes : Int) (state : ReadState)
    (clean : Clean state) (events : List StreamEvent) :
    Conforms (readStreamLoop write chunkBytes state events) ↔
      WellBehaved write chunkBytes state.responseStarted state.bodyCalls.length events := by
  induction events generalizing state with
  | nil => simpa [readStreamLoop, WellBehaved] using conforms_of_ordered clean.ordered none
  | cons event rest ih =>
    cases event with
    | contextDone cause =>
      have ordered : Ordered { state with
          cancels := state.cancels ++ [streamCancelReason cause] } := clean.ordered
      simpa [readStreamLoop, WellBehaved] using conforms_of_ordered ordered _
    | sessionDone =>
      simpa [readStreamLoop, WellBehaved] using conforms_of_ordered clean.ordered _
    | message msg =>
      simp only [readStreamLoop, WellBehaved, handleResponseMessage]
      cases typ : msg.envelope.typ with
      | httpResponseStart =>
        dsimp only
        cases decoded : decodePayload ResponseStart.decode msg.envelope with
        | error => simpa using conforms_of_ordered clean.ordered _
        | ok resp =>
          dsimp only
          by_cases accepted : state.responseStarted = false ∧ AdmissibleStatus resp.status
          · have kept := clean_start clean accepted.1
              ⟨clampStatus resp.status, resp.header⟩ (admissible_clampStatus accepted.2)
            rw [ih _ kept]
            simp [accepted, ReadState.writeResponseStart, ReadState.bodyCalls,
              List.filterMap_append]
          · refine iff_of_false ?_ (fun behaved => accepted ⟨behaved.1, behaved.2.1⟩)
            apply not_conforms_of_start clean resp.status resp.header accepted
            exact readStreamLoop_calls write chunkBytes
              ({ state with responseStarted := true }.writeResponseStart
                { resp with status := clampStatus resp.status }) rest
      | httpResponseBody =>
        dsimp only
        by_cases started : state.responseStarted = true
        · simp only [started, if_true]
          cases found : responseBodyChunk msg chunkBytes with
          | error => simpa using conforms_of_ordered clean.ordered _
          | ok chunk =>
            dsimp only
            have whole := writeResponseBody_eq_none_iff write state chunk
            have kept := clean_chunk write clean started chunk
            have count := bodyCalls_chunk write state chunk
            have flag : (state.writeResponseBody write chunk).1.responseStarted = true := by
              rw [writeResponseBody_fst]; exact started
            generalize state.writeResponseBody write chunk = passed at *
            rcases passed with ⟨after, err⟩
            cases err with
            | none =>
              dsimp only at *
              rw [ih after kept, flag, count]
              simp [whole.mp rfl]
            | some =>
              dsimp only at *
              have failed : write state.bodyCalls.length chunk ≠ (chunk.length, none) :=
                fun written => by simpa using whole.mpr written
              simpa [failed] using conforms_of_ordered kept.ordered _
        · simpa [started] using conforms_of_ordered clean.ordered _
      | httpResponseEnd =>
        dsimp only
        simp only [iff_true]
        by_cases started : state.responseStarted = true
        · simpa [started] using conforms_of_ordered clean.ordered _
        have waiting : state.responseStarted = false := by simpa using started
        simp only [waiting, Bool.false_eq_true, if_false]
        exact conforms_of_ordered (ordered_writeResponseStart clean waiting
          { status := 200 } (.inr (by decide))) _
      | httpResponse => exact conforms_whole_iff write clean msg.envelope
      | httpStreamError =>
        dsimp only
        simp only [iff_true]
        cases decodePayload ErrorPayload.decode msg.envelope <;>
          exact conforms_of_ordered clean.ordered _
      | _ => simpa using conforms_of_ordered clean.ordered _

/-- Whatever the agent sends, the calls to `net/http` are well formed exactly when the loop sees at
most one response start and `WriteHeader` accepts its status after the clamping. -/
theorem readStreamResponse_conforms_iff (write : PublicWriter) (chunkBytes : Int)
    (requestBytes : Int) (events : List StreamEvent) :
    Conforms (readStreamResponse write chunkBytes { requestBytes } events) ↔
      WellBehaved write (if chunkBytes ≤ 0 then defaultStreamChunkBytes else chunkBytes)
        false 0 events := by
  have fresh : Clean { result := { requestBytes } } := ⟨.inl rfl, by simp⟩
  exact conforms_readStreamLoop_iff write _ _ fresh events

def startMessage (status : String) : Message :=
  textMessage (newStream .httpResponseStart (ascii "str_a") (ascii "tun_a")
    (some (.object [(ascii "status", .number (ascii status))])))

/-- Two starts are passed on twice, and a status of 42 reaches `WriteHeader`. -/
theorem readStreamResponse_not_conforms :
    ¬ Conforms (readStreamResponse (fun _ chunk => (chunk.length, none)) 32768 {}
      [.message (startMessage "200"), .message (startMessage "201")]) ∧
    ¬ Conforms (readStreamResponse (fun _ chunk => (chunk.length, none)) 32768 {}
      [.message (startMessage "42")]) := by
  constructor
  · intro conforms
    have once := conforms.start_once
    revert once
    decide
  · intro conforms
    have calls : Call.start ⟨42, []⟩ ∈ (readStreamResponse (fun _ chunk => (chunk.length, none))
        32768 {} [.message (startMessage "42")]).state.calls := List.mem_cons_self
    have valid := conforms.status_valid ⟨42, []⟩ calls
    revert valid
    decide

end Porthook.Gateway
