import Mathlib.Algebra.Ring.Int.Defs
import Mathlib.Data.List.MinMax
import Porthook.Gateway.StreamDeadline
import Porthook.Tunnel.FrameSize

/-!
# The timers of a stream

A response is watched by the stream policy of the gateway, by the public server while it reads the
request, by the write and ping timeouts of the tunnel, and by the timeout of the agent's
`http.Client`: what the policy allows for an hour, that ends after half a minute.
-/

namespace Porthook

open Gateway

def second : Int := 1000000000

/-- The timeouts of the gateway's `Config` that run during a stream, as `ConfigFromEnv` sets
them where the environment does not. -/
structure Gateway.Timeouts where
  readTimeout : Int := 30 * second
  streamRequestTimeout : Int := 30 * second
  streamIdleTimeout : Int := 60 * second
  streamMaxLifetime : Int := 3600 * second
  webSocketWriteTimeout : Int := 10 * second
  webSocketPongTimeout : Int := 5 * second

def Gateway.Timeouts.normalizeConfig (cfg : Gateway.Timeouts) : Gateway.Timeouts where
  readTimeout := orDefault cfg.readTimeout (30 * second)
  streamRequestTimeout := orDefault cfg.streamRequestTimeout (30 * second)
  -- zero turns the idle timer off
  streamIdleTimeout := if cfg.streamIdleTimeout < 0 then 60 * second else cfg.streamIdleTimeout
  streamMaxLifetime := orDefault cfg.streamMaxLifetime (3600 * second)
  webSocketWriteTimeout := orDefault cfg.webSocketWriteTimeout (10 * second)
  webSocketPongTimeout := orDefault cfg.webSocketPongTimeout (5 * second)

def Gateway.Timeouts.streamDeadlinePolicy (cfg : Gateway.Timeouts) : StreamDeadlinePolicy where
  requestTimeout := cfg.streamRequestTimeout
  idleTimeout := cfg.streamIdleTimeout
  maxLifetime := cfg.streamMaxLifetime

structure Agent.Timeouts where
  requestTimeout : Int := 30 * second
  webSocketWriteTimeout : Int := 10 * second
  webSocketPongTimeout : Int := 5 * second

def Agent.Timeouts.normalizeConfig (cfg : Agent.Timeouts) : Agent.Timeouts where
  requestTimeout := orDefault cfg.requestTimeout (30 * second)
  webSocketWriteTimeout := orDefault cfg.webSocketWriteTimeout (10 * second)
  webSocketPongTimeout := orDefault cfg.webSocketPongTimeout (5 * second)

namespace Tunnel

/-- Both configurations.  `cancelsAfterRead` is whether `net/http` also cancels a request
that it has read when the deadline for reading it passes. -/
structure TimerConfig where
  gateway : Gateway.Timeouts
  agent : Agent.Timeouts
  limits : Agent.Limits
  cancelsAfterRead : Bool

def defaultTimers (cancelsAfterRead : Bool) : TimerConfig where
  gateway := ({} : Gateway.Timeouts).normalizeConfig
  agent := ({} : Agent.Timeouts).normalizeConfig
  limits := ({} : Agent.Limits).normalizeConfig
  cancelsAfterRead := cancelsAfterRead

/-- The timers that are never off, and which of them comes first. -/
structure TimerConfig.Ordered (cfg : TimerConfig) : Prop where
  reads : 0 < cfg.gateway.readTimeout
  asks : 0 < cfg.agent.requestTimeout
  readFirst : cfg.gateway.readTimeout ≤ cfg.gateway.streamRequestTimeout
  requestFirst : cfg.gateway.streamRequestTimeout ≤ cfg.gateway.streamMaxLifetime

theorem defaultTimers_ordered (cancelsAfterRead : Bool) :
    (defaultTimers cancelsAfterRead).Ordered := by
  cases cancelsAfterRead with
  | true | false => exact ⟨by decide, by decide, by decide, by decide⟩

/-- What the two ends of the tunnel wait for, each with a timeout of its own. -/
inductive OperationKind where
  | gatewayWrite
  | gatewayPing
  | agentWrite
  | agentPing
  deriving DecidableEq

structure Operation where
  kind : OperationKind
  begun : Nat
  took : Nat

/-- When the public server began to read the request, when the stream began, when the request had
been read, when the agent asked the local service, when its response started, its chunks with their
sizes, and its end. -/
structure TimedStream where
  readStart : Nat
  start : Nat
  uploaded : Nat
  forwarded : Nat
  responded : Nat
  chunks : List (Nat × Nat)
  finished : Nat
  operations : List Operation := []
  began : readStart ≤ start
  asked : start ≤ forwarded
  answered : forwarded ≤ responded
  sorted : (responded :: (chunks.map Prod.fst ++ [finished])).IsChain (· ≤ ·)

/-- Why a stream ended before the local service ended it. -/
inductive StreamCut where
  | readTimeout
  | deadline (cause : ContextCause)
  | clientTimeout
  | operation (kind : OperationKind)
  | tooLarge
  deriving DecidableEq

def overLimit? (limit : Int) : Int → List (Nat × Nat) → Option Nat
  | _, [] => none
  | total, (time, size) :: rest =>
    if limit < total + size then some time else overLimit? limit (total + size) rest

namespace TimedStream

variable (stream : TimedStream) (cfg : TimerConfig)

/-- `readStreamResponse` begins when `writeRequestBody` has returned: what came before
waits in the channel. -/
def handled : List (Nat × Activity) :=
  (max stream.uploaded stream.responded, .started) ::
    ((stream.chunks.map fun chunk => max stream.uploaded chunk.1).map (·, .chunk) ++
      [(max stream.uploaded stream.finished, .finished)])

/-- `ReadTimeout` of the public server. -/
def readDue : Nat := stream.readStart + cfg.gateway.readTimeout.toNat

def readCut? : Option Nat :=
  if 0 < cfg.gateway.readTimeout ∧ (stream.readDue cfg < stream.uploaded ∨
      cfg.cancelsAfterRead ∧ stream.readDue cfg < max stream.uploaded stream.finished) then
    some (stream.readDue cfg)
  else none

def deadlineCut? : Option (Nat × ContextCause) :=
  ((newStreamDeadline cfg.gateway.streamDeadlinePolicy stream.start).watch stream.handled).cut?

/-- `Timeout` of the agent's `http.Client`: it runs until the body has been read. -/
def clientDue : Nat := stream.forwarded + cfg.agent.requestTimeout.toNat

def clientCut? : Option Nat :=
  if 0 < cfg.agent.requestTimeout ∧ stream.clientDue cfg < stream.finished then
    some (stream.clientDue cfg)
  else none

end TimedStream

def TimerConfig.timeout (cfg : TimerConfig) : OperationKind → Int
  | .gatewayWrite => cfg.gateway.webSocketWriteTimeout
  | .gatewayPing => cfg.gateway.webSocketPongTimeout
  | .agentWrite => cfg.agent.webSocketWriteTimeout
  | .agentPing => cfg.agent.webSocketPongTimeout

/-- `contextWithTimeout` around a write or a ping. -/
def Operation.cut? (cfg : TimerConfig) (operation : Operation) : Option (Nat × StreamCut) :=
  if 0 < cfg.timeout operation.kind ∧ (cfg.timeout operation.kind).toNat < operation.took then
    some (operation.begun + (cfg.timeout operation.kind).toNat, .operation operation.kind)
  else none

namespace TimedStream

variable (stream : TimedStream) (cfg : TimerConfig)

def cuts : List (Nat × StreamCut) :=
  ((stream.readCut? cfg).map (·, .readTimeout)).toList ++
    ((stream.deadlineCut? cfg).map fun cut => (cut.1, .deadline cut.2)).toList ++
    ((stream.clientCut? cfg).map (·, .clientTimeout)).toList ++
    stream.operations.filterMap (Operation.cut? cfg) ++
    ((overLimit? cfg.limits.maxResponseBodyBytes 0 stream.chunks).map (·, .tooLarge)).toList

/-- What ends the stream before the local service does: the first that is due. -/
def cutBy? : Option StreamCut :=
  (((stream.cuts cfg).filter fun cut => cut.1 < stream.finished).argmin Prod.fst).map Prod.snd

/-- The response keeps to the stream policy and the limit, and the connection is healthy. -/
structure WithinPolicy : Prop where
  first : stream.responded ≤ stream.start + cfg.gateway.streamRequestTimeout.toNat
  gaps : (stream.responded :: (stream.chunks.map Prod.fst ++ [stream.finished])).IsChain
    fun first second => second < first + cfg.gateway.streamIdleTimeout.toNat
  lifetime : stream.finished < stream.start + cfg.gateway.streamMaxLifetime.toNat
  size : ((stream.chunks.map Prod.snd).sum : Int) ≤ cfg.limits.maxResponseBodyBytes
  healthy : ∀ operation ∈ stream.operations, operation.took ≤ (cfg.timeout operation.kind).toNat

/-- The local service is done before the timeout of the agent's client, and before that of the
public server unless the request has been read by then. -/
def InTime : Prop :=
  stream.finished ≤ stream.clientDue cfg ∧ (stream.finished ≤ stream.readDue cfg ∨
      stream.uploaded ≤ stream.readDue cfg ∧ cfg.cancelsAfterRead = false)

end TimedStream

theorem overLimit?_eq_none {limit : Int} {chunks : List (Nat × Nat)} {total : Int}
    (fits : total + ((chunks.map Prod.snd).sum : Int) ≤ limit) :
    overLimit? limit total chunks = none := by
  induction chunks generalizing total with
  | nil => rfl
  | cons chunk _ ih =>
    obtain ⟨_, size⟩ := chunk
    simp only [List.map_cons, List.sum_cons, Int.natCast_add] at fits
    have room : ¬ limit < total + size := by omega
    simp only [overLimit?, if_neg room]
    exact ih (by omega)

theorem Operation.cut?_eq_none {cfg : TimerConfig} {operation : Operation}
    (healthy : operation.took ≤ (cfg.timeout operation.kind).toNat) :
    operation.cut? cfg = none :=
  if_neg fun slow => absurd slow.2 (by omega)

namespace TimedStream

variable {stream : TimedStream} {cfg : TimerConfig}

theorem cutBy?_eq_none_iff :
    stream.cutBy? cfg = none ↔ ∀ cut ∈ stream.cuts cfg, stream.finished ≤ cut.1 := by
  simp [cutBy?]

theorem chunk_le_finished {chunk : Nat × Nat} (member : chunk ∈ stream.chunks) :
    chunk.1 ≤ stream.finished := by
  have ordered := List.isChain_iff_pairwise.mp stream.sorted
  have later := (List.pairwise_append.mp (List.pairwise_cons.mp ordered).2).2.2
  exact later chunk.1 (List.mem_map_of_mem member) stream.finished (by simp)

theorem deadlineCut?_eq_none (policy : stream.WithinPolicy cfg)
    (short : cfg.gateway.streamRequestTimeout ≤ cfg.gateway.streamMaxLifetime)
    (sent : stream.uploaded ≤ stream.start + cfg.gateway.streamRequestTimeout.toNat) :
    stream.deadlineCut? cfg = none := by
  have lifetime := policy.lifetime
  have first := policy.first
  let begun := newStreamDeadline cfg.gateway.streamDeadlinePolicy stream.start
  have waiting : begun.NotDueBefore (max stream.uploaded stream.responded) := by
    apply StreamDeadline.newStreamDeadline_notDueBefore
    · exact Nat.max_le.mpr ⟨sent, first⟩
    · simp only [Gateway.Timeouts.streamDeadlinePolicy]
      omega
  have lasting : ∀ due ∈ begun.max, due = stream.start + cfg.gateway.streamMaxLifetime.toNat := by
    intro due set
    simp only [begun, newStreamDeadline] at set
    split at set
    · cases set
      rfl
    · cases set
  have active := StreamDeadline.active_started waiting lasting rfl rfl
  have shifted : (max stream.uploaded stream.responded ::
      ((stream.chunks.map fun chunk => max stream.uploaded chunk.1) ++
        [max stream.uploaded stream.finished])) =
      (stream.responded :: (stream.chunks.map Prod.fst ++ [stream.finished])).map
        (max stream.uploaded) := by
    simp [Function.comp_def]
  refine active.watch ?_ fun time member => ?_
  · -- a common wait for the request makes no gap longer
    rw [shifted, List.isChain_map, StreamDeadline.handle_policy]
    refine policy.gaps.imp fun first second gap => ?_
    have same : begun.policy.idleTimeout = cfg.gateway.streamIdleTimeout := rfl
    rw [same]
    omega
  · rcases List.mem_append.mp member with chunk | last
    · obtain ⟨chunk, among, rfl⟩ := List.mem_map.mp chunk
      have := chunk_le_finished among
      omega
    · rw [List.mem_singleton.mp last]
      omega

theorem deadlineCut?_late (policy : stream.WithinPolicy cfg)
    (inTime : stream.finished ≤ stream.start + cfg.gateway.streamRequestTimeout.toNat)
    (unsent : stream.finished ≤ stream.uploaded) :
    ∀ cut ∈ stream.deadlineCut? cfg, stream.finished ≤ cut.1 := by
  have begun : (newStreamDeadline cfg.gateway.streamDeadlinePolicy stream.start).Later
      stream.finished :=
    ⟨StreamDeadline.newStreamDeadline_notDueBefore inTime (Nat.le_of_lt policy.lifetime),
      by rintro _ ⟨⟩⟩
  refine (begun.watch fun event member => ?_).ended
  have waited : stream.uploaded ≤ event.1 := by
    rcases List.mem_cons.mp member with rfl | later
    · exact Nat.le_max_left _ _
    rcases List.mem_append.mp later with chunk | last
    · obtain ⟨_, among, rfl⟩ := List.mem_map.mp chunk
      obtain ⟨_, -, rfl⟩ := List.mem_map.mp among
      exact Nat.le_max_left _ _
    · rw [List.mem_singleton.mp last]
      exact Nat.le_max_left _ _
  omega

end TimedStream

theorem TimedStream.mem_cuts {stream : TimedStream} {cfg : TimerConfig} {cut : Nat × StreamCut} :
    cut ∈ stream.cuts cfg ↔ (∃ time ∈ stream.readCut? cfg, (time, .readTimeout) = cut) ∨
        (∃ ended ∈ stream.deadlineCut? cfg, (ended.1, .deadline ended.2) = cut) ∨
        (∃ time ∈ stream.clientCut? cfg, (time, .clientTimeout) = cut) ∨
        (∃ operation ∈ stream.operations, operation.cut? cfg = some cut) ∨
        ∃ time ∈ overLimit? cfg.limits.maxResponseBodyBytes 0 stream.chunks,
          (time, .tooLarge) = cut := by
  simp [TimedStream.cuts]

/-- Whatever ends the stream before the local service does is the timeout of the agent's client, or
that of the public server. -/
theorem TimedStream.uncut_iff {stream : TimedStream} {cfg : TimerConfig}
    (ordered : cfg.Ordered) (policy : stream.WithinPolicy cfg) :
    stream.cutBy? cfg = none ↔ stream.InTime cfg := by
  rw [cutBy?_eq_none_iff]
  have began := stream.began
  have readFirst := ordered.readFirst
  have readDue : stream.readDue cfg = stream.readStart + cfg.gateway.readTimeout.toNat := rfl
  constructor
  · intro uncut
    refine ⟨?_, ?_⟩
    · by_contra late
      have cut : stream.clientCut? cfg = some (stream.clientDue cfg) :=
        if_pos ⟨ordered.asks, by omega⟩
      exact late (uncut _ (mem_cuts.mpr (.inr (.inr (.inl ⟨_, cut, rfl⟩)))))
    · by_contra late
      obtain ⟨unfinished, unread⟩ := not_or.mp late
      have cut : stream.readCut? cfg = some (stream.readDue cfg) := by
        refine if_pos ⟨ordered.reads, ?_⟩
        by_cases uploaded : stream.uploaded ≤ stream.readDue cfg
        · refine .inr ⟨?_, by omega⟩
          simpa using fun kept => unread ⟨uploaded, kept⟩
        · exact .inl (by omega)
      exact unfinished (uncut _ (mem_cuts.mpr (.inl ⟨_, cut, rfl⟩)))
  · rintro ⟨_, read⟩ _ member
    rcases mem_cuts.mp member with ⟨time, found, rfl⟩ | ⟨ended, found, rfl⟩ | ⟨time, found, rfl⟩ |
      ⟨operation, among, found⟩ | ⟨time, found, rfl⟩
    · obtain ⟨⟨-, missed⟩, same⟩ := Option.ite_none_right_eq_some.mp found
      cases same
      rcases read with inTime | ⟨_, kept⟩
      · exact inTime
      rcases missed with _ | ⟨cancels, -⟩
      · omega
      · rw [kept] at cancels
        cases cancels
    · by_cases uploaded : stream.uploaded ≤ stream.readDue cfg
      · have passes := deadlineCut?_eq_none policy ordered.requestFirst (by omega)
        rw [passes] at found
        cases found
      · -- the response was over when the public server gave up on the request
        have inTime : stream.finished ≤ stream.readDue cfg := by
          rcases read with inTime | ⟨sent, -⟩
          · exact inTime
          · exact absurd sent uploaded
        exact deadlineCut?_late policy (by omega) (by omega) ended found
    · obtain ⟨⟨-, _⟩, -⟩ := Option.ite_none_right_eq_some.mp found
      omega
    · rw [Operation.cut?_eq_none (policy.healthy operation among)] at found
      cases found
    · rw [overLimit?_eq_none (by simpa using policy.size)] at found
      cases found

/-- A response that keeps to the stream policy of the default configurations is ended by no timer
exactly if it is over within the timeout of the agent's client, and the request was read in time. -/
theorem stream_uncut_iff (cancelsAfterRead : Bool) (stream : TimedStream)
    (policy : stream.WithinPolicy (defaultTimers cancelsAfterRead)) :
    stream.cutBy? (defaultTimers cancelsAfterRead) = none ↔
      stream.InTime (defaultTimers cancelsAfterRead) :=
  stream.uncut_iff (defaultTimers_ordered cancelsAfterRead) policy

/-- Events every ten seconds, and the end of the stream at a time of its own. -/
def eventStream (finished : Nat) (late : 30000000000 ≤ finished) : TimedStream where
  readStart := 0
  start := 0
  uploaded := 0
  forwarded := 1000000000
  responded := 2000000000
  chunks := [(10000000000, 64), (20000000000, 64), (30000000000, 64)]
  finished := finished
  began := by decide
  asked := by decide
  answered := by decide
  sorted := by simpa using late

/-- The stream is never idle for long, and far from its maximal lifetime; the timeout of
the agent's client ends it after half a minute. -/
theorem event_stream_cut :
    (eventStream 40000000000 (by decide)).WithinPolicy (defaultTimers false) ∧
      (eventStream 40000000000 (by decide)).cutBy? (defaultTimers false) = some .clientTimeout := by
  refine ⟨⟨by decide, by decide, by decide, by decide, fun operation member => ?_⟩, by decide⟩
  cases member

theorem stream_uncut_iff_events :
    (eventStream 31000000000 (by decide)).cutBy? (defaultTimers false) = none := by
  refine (stream_uncut_iff false _ ?_).mpr ⟨by decide, .inr ⟨by decide, rfl⟩⟩
  refine ⟨by decide, by decide, by decide, by decide, fun operation member => ?_⟩
  cases member

end Tunnel

end Porthook
