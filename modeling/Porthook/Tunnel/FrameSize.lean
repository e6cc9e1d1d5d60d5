import Porthook.Agent.Step
import Porthook.Gateway.RequestBody
import Porthook.Protocol.FrameSize

/-!
# Do the messages fit the peer's read limit?

Each end sets the read limit of the connection from its own `StreamChunkBytes`.  The other end's
messages depend on four other settings and on the headers.  The defaults do not fit: a tunneled
WebSocket message may have 1 MiB and the limit is 80 KiB.
-/

namespace Porthook

open Protocol Gateway Agent

def defaultWSMessageMaxBytes : Int := 1024 * 1024

def orDefault (value default : Int) : Int := if value ≤ 0 then default else value

structure Gateway.Limits where
  maxBodyBytes : Int := 0
  wsMessageMaxBytes : Int := 0
  streamChunkBytes : Int := 0

def Gateway.Limits.normalizeConfig (limits : Gateway.Limits) : Gateway.Limits where
  maxBodyBytes := orDefault limits.maxBodyBytes defaultMaxBodyBytes
  wsMessageMaxBytes := orDefault limits.wsMessageMaxBytes defaultWSMessageMaxBytes
  streamChunkBytes := orDefault limits.streamChunkBytes Gateway.defaultStreamChunkBytes

structure Agent.Limits where
  maxResponseBodyBytes : Int := 0
  wsMessageMaxBytes : Int := 0
  streamChunkBytes : Int := 0

def Agent.Limits.normalizeConfig (limits : Agent.Limits) : Agent.Limits where
  maxResponseBodyBytes := orDefault limits.maxResponseBodyBytes defaultMaxResponseBodyBytes
  wsMessageMaxBytes := orDefault limits.wsMessageMaxBytes defaultWSMessageMaxBytes
  streamChunkBytes := orDefault limits.streamChunkBytes Agent.defaultStreamChunkBytes

def Agent.Limits.runnerConfig (limits : Agent.Limits) (tunnelID : Bytes) : RunnerConfig :=
  ⟨limits.streamChunkBytes, limits.maxResponseBodyBytes, tunnelID⟩

theorem orDefault_pos {value default : Int} (positive : 0 < default) :
    0 < orDefault value default := by
  unfold orDefault
  split <;> omega

/-- What `Read` returns for a message, under the limit that was set on the public
or the local WebSocket.  Without one the library's own limit applies. -/
def readMessage (maxMessageBytes : Int) (data : Bytes) : Option Bytes :=
  if (data.length : Int) ≤ orDefault maxMessageBytes 32768 then some data else none

/-- The header sets that `net/http` accepts, in the payloads they end up in. -/
structure Accepted where
  request : RequestStart → Prop
  wsOpen : Open → Prop
  response : ResponseStart → Prop

/-- The messages that the gateway sends for a stream. -/
inductive GatewayFrame (limits : Gateway.Limits) (ids : FrameIDs) (accepted : Accepted) :
    Frame → Prop where
  | requestStart (start : RequestStart) : accepted.request start → GatewayFrame limits ids accepted
        (.text (newStream .httpRequestStart ids.streamID ids.tunnelID (some start.encode)))
  | requestBody (write : Nat → Option Bytes) (reads : List BodyRead) (chunk : Bytes)
      (frame : Frame) :
      (∀ read ∈ reads, (read.data.length : Int) ≤ effectiveChunkBytes limits.streamChunkBytes) →
      chunk ∈ (writeRequestBody limits.maxBodyBytes write reads).chunks →
      binaryBody .httpRequestBody ids.streamID ids.tunnelID chunk = .ok frame →
      GatewayFrame limits ids accepted frame
  | wsOpen (payload : Open) : accepted.wsOpen payload → GatewayFrame limits ids accepted
        (.text (newStream .wsOpen ids.streamID ids.tunnelID (some payload.encode)))
  | wsMessage (typ : MessageType) (data : Bytes) (frame : Frame) :
      isRelayMessage typ = true → readMessage limits.wsMessageMaxBytes data = some data →
      binaryBody typ ids.streamID ids.tunnelID data = .ok frame →
      GatewayFrame limits ids accepted frame

inductive AgentFrame (limits : Agent.Limits) (ids : FrameIDs) (accepted : Accepted) :
    Frame → Prop where
  | responseStart (task : Task) (resp : ResponseStart) (frame : Frame) : accepted.response resp →
      task.id = ids.streamID → task.phase = .writingStart resp →
      task.outgoing (limits.runnerConfig ids.tunnelID) = some (.ok frame) →
      AgentFrame limits ids accepted frame
  | responseBody (contextDone : Bool) (task next : Task) (chunk : Bytes)
      (err : Option ReadError) (frame : Frame) : task.id = ids.streamID →
      taskStep (limits.runnerConfig ids.tunnelID) contextDone task (.readLocal chunk err) =
        some next →
      next.phase = .writingBody chunk err →
      next.outgoing (limits.runnerConfig ids.tunnelID) = some (.ok frame) →
      AgentFrame limits ids accepted frame
  | wsMessage (typ : MessageType) (data : Bytes) (frame : Frame) :
      isRelayMessage typ = true → readMessage limits.wsMessageMaxBytes data = some data →
      binaryBody typ ids.streamID ids.tunnelID data = .ok frame →
      AgentFrame limits ids accepted frame

def Fits (peerChunkBytes : Int) (frame : Frame) : Prop :=
  (frame.bytes.length : Int) ≤ readLimitForChunkBytes peerChunkBytes

/-- The conditions on the gateway's sizes, for an agent with the given chunk size. -/
structure GatewaySizesFit (limits : Gateway.Limits) (peerChunkBytes : Int) (ids : FrameIDs)
    (accepted : Accepted) : Prop where
  requestStart : ∀ start, accepted.request start →
    (envelopeSize .httpRequestStart ids.streamID ids.tunnelID start.size : Int) ≤
      readLimitForChunkBytes peerChunkBytes
  requestBody : frameOverhead ids.streamID ids.tunnelID +
    min limits.streamChunkBytes limits.maxBodyBytes ≤ readLimitForChunkBytes peerChunkBytes
  wsOpen : ∀ payload, accepted.wsOpen payload →
    (envelopeSize .wsOpen ids.streamID ids.tunnelID payload.size : Int) ≤
      readLimitForChunkBytes peerChunkBytes
  wsMessage : frameOverhead ids.streamID ids.tunnelID + limits.wsMessageMaxBytes ≤
    readLimitForChunkBytes peerChunkBytes

/-- The conditions on the agent's sizes.  The status is sent as `clampStatus`
leaves it. -/
structure AgentSizesFit (limits : Agent.Limits) (peerChunkBytes : Int) (ids : FrameIDs)
    (accepted : Accepted) : Prop where
  responseStart : ∀ resp, accepted.response resp →
    (envelopeSize .httpResponseStart ids.streamID ids.tunnelID
      { resp with status := Agent.clampStatus resp.status }.size : Int) ≤
      readLimitForChunkBytes peerChunkBytes
  responseBody : frameOverhead ids.streamID ids.tunnelID +
    min limits.streamChunkBytes limits.maxResponseBodyBytes ≤ readLimitForChunkBytes peerChunkBytes
  wsMessage : frameOverhead ids.streamID ids.tunnelID + limits.wsMessageMaxBytes ≤
    readLimitForChunkBytes peerChunkBytes

section Sizes

variable {ids : FrameIDs} {accepted : Accepted} {peerChunkBytes bound : Int}

theorem fits_binaryBody {typ : MessageType} {data : Bytes} {frame : Frame}
    (small : (data.length : Int) ≤ bound)
    (room : frameOverhead ids.streamID ids.tunnelID + bound ≤ readLimitForChunkBytes peerChunkBytes)
    (built : binaryBody typ ids.streamID ids.tunnelID data = .ok frame) :
    Fits peerChunkBytes frame := by
  rw [Fits, binaryBody_size built]
  omega

theorem exists_largest (typ : MessageType) (known : (binaryBodyFrameType typ).isSome)
    (ids : FrameIDs) (bound : Int) (positive : 0 < bound) :
    ∃ data frame, data ≠ [] ∧ (data.length : Int) = bound ∧
      binaryBody typ ids.streamID ids.tunnelID data = .ok frame ∧
      (Fits peerChunkBytes frame → frameOverhead ids.streamID ids.tunnelID + bound ≤
        readLimitForChunkBytes peerChunkBytes) := by
  obtain ⟨size, rfl⟩ := Int.eq_ofNat_of_zero_le (Int.le_of_lt positive)
  obtain ⟨frame, built⟩ := exists_binaryBody known ids (List.replicate size 0)
  refine ⟨List.replicate size 0, frame, ?_, by simp, built, fun fits => ?_⟩
  · intro empty
    rw [List.replicate_eq_nil_iff] at empty
    omega
  · rw [Fits, binaryBody_size built, List.length_replicate] at fits
    omega

theorem readMessage_eq_some {maxMessageBytes : Int} (positive : 0 < maxMessageBytes)
    (data : Bytes) :
    readMessage maxMessageBytes data = some data ↔ (data.length : Int) ≤ maxMessageBytes := by
  simp [readMessage, orDefault, Int.not_le.mpr positive]

theorem gatewayFrames_fit_iff (limits : Gateway.Limits)
    (chunkPositive : 0 < limits.streamChunkBytes) (bodyPositive : 0 < limits.maxBodyBytes)
    (messagePositive : 0 < limits.wsMessageMaxBytes) :
    (∀ frame, GatewayFrame limits ids accepted frame → Fits peerChunkBytes frame) ↔
      GatewaySizesFit limits peerChunkBytes ids accepted := by
  have chunkBytes : effectiveChunkBytes limits.streamChunkBytes = limits.streamChunkBytes :=
    if_neg (Int.not_le.mpr chunkPositive)
  have bodyBytes : effectiveMaxBodyBytes limits.maxBodyBytes = limits.maxBodyBytes :=
    if_neg (Int.not_le.mpr bodyPositive)
  constructor
  · intro fits
    refine ⟨fun start ok => ?_, ?_, fun payload ok => ?_, ?_⟩
    · rw [← RequestStart.encode_size, ← newStream_size]
      exact fits _ (.requestStart start ok)
    · obtain ⟨chunk, frame, nonempty, _, built, room⟩ :=
        exists_largest .httpRequestBody rfl ids
          (min limits.streamChunkBytes limits.maxBodyBytes) (by omega)
      obtain ⟨write, reads, buffered, sent⟩ := (writeRequestBody_chunk_iff limits.maxBodyBytes
        limits.streamChunkBytes chunk).mpr ⟨nonempty, by rw [bodyBytes]; omega⟩
      exact room (fits frame (.requestBody write reads chunk frame
        (by rw [chunkBytes]; exact buffered) sent built))
    · rw [← Open.encode_size, ← newStream_size]
      exact fits _ (.wsOpen payload ok)
    · obtain ⟨data, frame, _, _, built, room⟩ :=
        exists_largest .wsMessageBinary rfl ids _ messagePositive
      exact room (fits frame (.wsMessage _ data frame rfl
        ((readMessage_eq_some messagePositive data).mpr (by omega)) built))
  · intro sizes frame sent
    cases sent with
    | requestStart start ok =>
      rw [Fits, newStream_size, RequestStart.encode_size]
      exact sizes.requestStart start ok
    | requestBody write reads chunk _ buffered sent built =>
      obtain ⟨_, small⟩ := (writeRequestBody_chunk_iff limits.maxBodyBytes
        limits.streamChunkBytes chunk).mp ⟨write, reads, by rwa [chunkBytes] at buffered, sent⟩
      rw [bodyBytes] at small
      exact fits_binaryBody small sizes.requestBody built
    | wsOpen payload ok =>
      rw [Fits, newStream_size, Open.encode_size]
      exact sizes.wsOpen payload ok
    | wsMessage _ data _ _ read built =>
      exact fits_binaryBody ((readMessage_eq_some messagePositive data).mp read)
        sizes.wsMessage built

theorem readLocal_chunk_iff (cfg : RunnerConfig) (id : StreamID) (chunk : Bytes) :
    (∃ contextDone task next err, task.id = id ∧
        taskStep cfg contextDone task (.readLocal chunk err) = some next ∧
        next.phase = .writingBody chunk err) ↔
      chunk ≠ [] ∧ (chunk.length : Int) ≤ min cfg.responseChunk cfg.responseLimit := by
  constructor
  · rintro ⟨_, task, next, _, _, stepped, phase⟩
    simp only [taskStep] at stepped
    repeat' split at stepped
    all_goals cases stepped
    next streaming buffered =>
      simp only [Task.readLocal] at phase
      split at phase
      · cases phase
      next small =>
        split at phase
        next nonempty =>
          have total : ¬ ((task.localBody.length : Int) + chunk.length > cfg.responseLimit) :=
            fun large => small ⟨nonempty, large⟩
          exact ⟨nonempty, by omega⟩
        · split at phase <;> cases phase
  · rintro ⟨nonempty, _⟩
    have buffered : (chunk.length : Int) ≤ cfg.responseChunk := by omega
    have total : ¬ ((0 : Int) + chunk.length > cfg.responseLimit) := by omega
    refine ⟨false, { id, phase := .streaming }, _, some .eof, rfl, if_pos buffered, ?_⟩
    simp only [Task.readLocal]
    rw [if_neg fun large => total (by simpa using large.2), if_pos nonempty]

theorem taskStep_readLocal_id {cfg : RunnerConfig} {contextDone : Bool} {task next : Task}
    {data : Bytes} {err : Option ReadError}
    (stepped : taskStep cfg contextDone task (.readLocal data err) = some next) :
    next.id = task.id := by
  cases taskStep_inv stepped <;> rfl

theorem agentFrames_fit_iff (limits : Agent.Limits) (chunkPositive : 0 < limits.streamChunkBytes)
    (bodyPositive : 0 < limits.maxResponseBodyBytes)
    (messagePositive : 0 < limits.wsMessageMaxBytes) :
    (∀ frame, AgentFrame limits ids accepted frame → Fits peerChunkBytes frame) ↔
      AgentSizesFit limits peerChunkBytes ids accepted := by
  have chunkBytes : (limits.runnerConfig ids.tunnelID).responseChunk = limits.streamChunkBytes :=
    if_neg (Int.not_le.mpr chunkPositive)
  have bodyBytes : (limits.runnerConfig ids.tunnelID).responseLimit = limits.maxResponseBodyBytes :=
    if_neg (Int.not_le.mpr bodyPositive)
  constructor
  · intro fits
    refine ⟨fun resp ok => ?_, ?_, ?_⟩
    · rw [← ResponseStart.encode_size, ← newStream_size]
      exact fits _ (.responseStart { id := ids.streamID, phase := .writingStart resp } resp _ ok
        rfl rfl rfl)
    · obtain ⟨chunk, frame, nonempty, _, built, room⟩ :=
        exists_largest .httpResponseBody rfl ids
          (min limits.streamChunkBytes limits.maxResponseBodyBytes) (by omega)
      obtain ⟨contextDone, task, next, err, id, stepped, phase⟩ :=
        (readLocal_chunk_iff (limits.runnerConfig ids.tunnelID) ids.streamID chunk).mpr
          ⟨nonempty, by rw [chunkBytes, bodyBytes]; omega⟩
      refine room (fits frame (.responseBody contextDone task next chunk err frame id stepped
        phase ?_))
      simp only [Task.outgoing, phase, (taskStep_readLocal_id stepped).trans id]
      exact congrArg some built
    · obtain ⟨data, frame, _, _, built, room⟩ :=
        exists_largest .wsMessageBinary rfl ids _ messagePositive
      exact room (fits frame (.wsMessage _ data frame rfl
        ((readMessage_eq_some messagePositive data).mpr (by omega)) built))
  · intro sizes frame sent
    cases sent with
    | responseStart _ resp _ ok id phase outgoing =>
      simp only [Task.outgoing, phase, id, Option.some.injEq, Except.ok.injEq] at outgoing
      rw [Fits, ← outgoing, newStream_size, ResponseStart.encode_size]
      exact sizes.responseStart resp ok
    | responseBody contextDone task next chunk err _ id stepped phase outgoing =>
      obtain ⟨_, small⟩ := (readLocal_chunk_iff _ ids.streamID chunk).mp
        ⟨contextDone, task, next, err, id, stepped, phase⟩
      rw [chunkBytes, bodyBytes] at small
      simp only [Task.outgoing, phase, (taskStep_readLocal_id stepped).trans id,
        Option.some.injEq] at outgoing
      exact fits_binaryBody small sizes.responseBody outgoing
    | wsMessage _ data _ _ read built =>
      exact fits_binaryBody ((readMessage_eq_some messagePositive data).mp read)
        sizes.wsMessage built

end Sizes

def sampleIDs : FrameIDs where
  streamID := ascii "str_abcdefghijklmnopqrst"
  tunnelID := ascii "tun_abcdefghijklmnopqrst"
  streamID_ne := by decide
  streamID_le := by decide
  tunnelID_le := by decide

end Porthook
