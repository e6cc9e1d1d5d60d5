import Porthook.Agent.Runner
import Porthook.Gateway.Session

/-!
# Keepalive against backpressure

Both ends ping the other one and close the session if the pong does not come in time.  A pong
is only seen by a concurrent `Read`, which is in the loop that also blocks on full stream queues.
Time is discrete here, and the peer answers each ping at once.
-/

namespace Porthook

open Protocol Gateway Agent Transition

/-- `WebSocketPingInterval` and `WebSocketPongTimeout`, in ticks of the clock. -/
structure KeepaliveConfig where
  interval : Nat
  timeout : Nat
  interval_pos : 0 < interval
  timeout_pos : 0 < timeout

/-- One end of the connection: what its read loop does between two reads, what is written under
`sendMu`, and what does not happen by itself on a healthy transport. -/
structure ReadSide (State Action : Type) where
  step : State → Action → Option State
  read : Message → Action
  reading : State → Bool
  loop : List Action
  sends : Action → Bool
  excluded : Action → Bool

def gatewaySide {Handler : Type} [DecidableEq Handler] (cfg : SessionConfig Handler) :
    ReadSide (Session Handler) (SessionAction Handler) where
  step := Session.step cfg
  read := .read
  reading session := match session.readLoop with
    | .reading => true
    | _ => false
  loop := [.deliver, .abandonDelivery, .pongWritten]
  sends
    | .pongWritten | .advance _ .requestSent => true
    | _ => false
  excluded
    | .read _ | .readFailed | .pongFailed => true
    | _ => false

def agentSide (cfg : RunnerConfig) : ReadSide Runner RunnerAction where
  step := Runner.step cfg
  read := .read
  reading runner := match runner.serve with
    | .reading => true
    | _ => false
  loop := [.enqueue, .abandon, .pongWritten]
  sends
    | .pongWritten | .write _ => true
    | _ => false
  excluded
    | .read _ | .readFailed | .pongFailed | .writeFailed _ _ | .connectionLost => true
    | _ => false

/-- The goroutine of `startKeepalive`.  While it is `pinging` it holds `sendMu`. -/
inductive Keepalive where
  | waiting
  | locking
  | pinging (deadline : Nat)
  | failed
  deriving DecidableEq

inductive Incoming where
  | data (msg : Message)
  | pong

/-- `due` is the tick in the channel of the ticker, `writing` says that another goroutine holds
`sendMu`, and `inbox` is what the peer has sent. -/
structure Kept (State : Type) where
  host : State
  now : Nat := 0
  due : Bool := false
  keepalive : Keepalive := .waiting
  writing : Bool := false
  inbox : List Incoming := []

inductive KeptAction (Action : Type) where
  | host (action : Action)
  | arrive (msg : Message)
  | read
  | lock
  | unlock
  | tick
  | startPing
  | sendPing
  | expire

variable {State Action : Type}

def Kept.sendFree (kept : Kept State) : Bool :=
  match kept.keepalive with
  | .pinging _ => false
  | _ => !kept.writing

def Kept.busy (side : ReadSide State Action) (kept : Kept State) : Bool :=
  (side.reading kept.host && !kept.inbox.isEmpty) ||
    side.loop.any fun action =>
      (side.step kept.host action).isSome && (kept.sendFree || !side.sends action)

/-- `Ping` returns when a read meets its pong. -/
def Keepalive.pongRead : Keepalive → Keepalive
  | .pinging _ => .waiting
  | other => other

def Kept.step (side : ReadSide State Action) (cfg : KeepaliveConfig) (kept : Kept State) :
    KeptAction Action → Option (Kept State)
  | .host action =>
    if side.excluded action || (side.sends action && !kept.sendFree) then none
    else (side.step kept.host action).map fun host => { kept with host }
  | .arrive msg => some { kept with inbox := kept.inbox ++ [.data msg] }
  | .read =>
    if side.reading kept.host then
      match kept.inbox with
      | [] => none
      | .pong :: inbox => some { kept with inbox, keepalive := kept.keepalive.pongRead }
      | .data msg :: inbox =>
        (side.step kept.host (side.read msg)).map fun host => { kept with host, inbox }
    else none
  | .lock => if kept.sendFree then some { kept with writing := true } else none
  | .unlock => some { kept with writing := false }
  | .tick =>
    if kept.busy side then none
    else some { kept with
      now := kept.now + 1
      due := kept.due || (kept.now + 1) % cfg.interval == 0 }
  | .startPing =>
    if kept.keepalive = .waiting ∧ kept.due = true then
      some { kept with keepalive := .locking, due := false }
    else none
  | .sendPing =>
    if kept.keepalive = .locking ∧ kept.sendFree = true then
      some { kept with
        keepalive := .pinging (kept.now + cfg.timeout)
        inbox := kept.inbox ++ [.pong] }
    else none
  | .expire =>
    match kept.keepalive with
    | .pinging deadline =>
      if deadline ≤ kept.now then some { kept with keepalive := .failed } else none
    | _ => none

/-- The condition on a step: when the deadline of a ping comes, the read loop is
in `Read`, not blocked on a full queue or on `sendMu`. -/
def Kept.Attended (side : ReadSide State Action) (kept : Kept State) : KeptAction Action → Prop
  | .tick =>
    match kept.keepalive with
    | .pinging deadline => kept.now + 1 < deadline ∨ side.reading kept.host = true
    | _ => True
  | _ => True

instance (side : ReadSide State Action) (kept : Kept State) (action : KeptAction Action) :
    Decidable (kept.Attended side action) :=
  match action with
  | .tick =>
    match pinging : kept.keepalive with
    | .pinging deadline =>
      decidable_of_iff (kept.now + 1 < deadline ∨ side.reading kept.host = true) (by
        simp only [Kept.Attended, pinging])
    | .waiting | .locking | .failed => .isTrue (by simp only [Kept.Attended, pinging])
  | .host _ | .arrive _ | .read | .lock | .unlock | .startPing | .sendPing | .expire =>
    .isTrue trivial

def Kept.OnTime (kept : Kept State) : Prop :=
  match kept.keepalive with
  | .pinging deadline => Incoming.pong ∈ kept.inbox ∧ kept.now < deadline
  | .failed => False
  | _ => True

theorem onTime_step {side : ReadSide State Action} {cfg : KeepaliveConfig}
    {kept next : Kept State} {action : KeptAction Action} (onTime : kept.OnTime)
    (attended : kept.Attended side action) (stepped : kept.step side cfg action = some next) :
    next.OnTime := by
  have grow {kept next : Kept State} (onTime : kept.OnTime)
      (keepalive : next.keepalive = kept.keepalive) (now : next.now = kept.now)
      (inbox : Incoming.pong ∈ kept.inbox → Incoming.pong ∈ next.inbox) : next.OnTime := by
    unfold Kept.OnTime at onTime ⊢
    rw [keepalive, now]
    split at onTime
    · exact ⟨inbox onTime.1, onTime.2⟩
    · exact onTime
    · exact onTime
  cases action with
  | host =>
    simp only [Kept.step] at stepped
    split at stepped
    · cases stepped
    · obtain ⟨_, _, rfl⟩ := Option.map_eq_some_iff.mp stepped
      exact grow onTime rfl rfl id
  | arrive =>
    cases stepped
    exact grow onTime rfl rfl (List.mem_append_left _)
  | read =>
    simp only [Kept.step] at stepped
    repeat' split at stepped
    any_goals cases stepped
    next reading inbox waiting =>
      unfold Kept.OnTime at onTime ⊢
      cases keepalive : kept.keepalive <;> simp_all [Keepalive.pongRead]
    next reading msg inbox waiting =>
      obtain ⟨_, _, rfl⟩ := Option.map_eq_some_iff.mp stepped
      refine grow onTime rfl rfl fun pong => ?_
      rw [waiting] at pong
      exact (List.mem_cons.mp pong).resolve_left (by simp)
  | lock =>
    simp only [Kept.step] at stepped
    split at stepped <;> cases stepped
    exact grow onTime rfl rfl id
  | unlock =>
    cases stepped
    exact grow onTime rfl rfl id
  | tick =>
    simp only [Kept.step] at stepped
    split at stepped <;> cases stepped
    next idle =>
      unfold Kept.OnTime at onTime ⊢
      dsimp only
      split at onTime
      next deadline pinging =>
        simp only [Kept.Attended, pinging] at attended
        refine ⟨onTime.1, ?_⟩
        rcases attended with early | reading
        · exact early
        -- the loop would rather read the pong than let time pass
        have empty : kept.inbox = [] := by
          simp only [Kept.busy, reading, Bool.true_and, Bool.or_eq_true, not_or] at idle
          simpa using idle.1
        rw [empty] at onTime
        cases onTime.1
      · exact onTime
      · exact onTime
  | startPing =>
    simp only [Kept.step] at stepped
    split at stepped <;> cases stepped
    trivial
  | sendPing =>
    simp only [Kept.step] at stepped
    split at stepped <;> cases stepped
    exact ⟨by simp, Nat.lt_add_of_pos_right cfg.timeout_pos⟩
  | expire =>
    simp only [Kept.step] at stepped
    split at stepped
    next deadline pinging =>
      simp only [Kept.OnTime, pinging] at onTime
      split at stepped
      next late => exact absurd late (Nat.not_le_of_lt onTime.2)
      · cases stepped
    · cases stepped

/-- One end of a connection: in a run that meets the condition the keepalive
never gives up. -/
theorem keepalive_onTime (side : ReadSide State Action) (cfg : KeepaliveConfig) (host : State)
    {actions : List (KeptAction Action)}
    (attended : Guarded (Kept.step side cfg) (Kept.Attended side) { host } actions) :
    Always (Kept.step side cfg) (fun kept => kept.keepalive ≠ .failed) { host } actions := by
  have onTime : Always (Kept.step side cfg) Kept.OnTime { host } actions :=
    always_of_guarded (fun _ _ _ inv guard stepped => onTime_step inv guard stepped) trivial
      attended
  refine onTime.mono fun kept holds failed => ?_
  rwa [Kept.OnTime, failed] at holds

def shortKeepalive : KeepaliveConfig := ⟨3, 2, by decide, by decide⟩

def pingAction : List (KeptAction Action) := [.tick, .tick, .tick, .startPing, .sendPing]

def slowClientConfig : SessionConfig Unit :=
  ⟨0, 4, fun _ => ⟨.http, ascii "s", fun _ chunk => (chunk.length, none)⟩⟩

def downloadChunk : List (KeptAction (SessionAction Unit)) :=
  [.arrive (binaryMessage .httpResponseBody (ascii "s") [] [0]), .read, .host .deliver]

/-- A public client that stops reading: the handler is stuck with the first chunk,
32 more fill its queue, and the read loop waits with the next one. -/
def slowClientRun : List (KeptAction (SessionAction Unit)) :=
  [.host (.advance () .checkDone), .host (.acquireStream ()), .host (.addPending ()),
    .host (.advance () .requestSent)] ++ downloadChunk ++ [.host (.advance () .receive)] ++
    (List.replicate 32 downloadChunk).flatten ++ downloadChunk.take 2

def slowServiceConfig : RunnerConfig := ⟨4, 0, []⟩

def uploadStep : List (KeptAction RunnerAction) :=
  [.arrive (binaryMessage .httpRequestBody (ascii "s") [] [0]), .read, .host .enqueue]

/-- A local service that does not read its request, in the same way. -/
def slowServiceRun : List (KeptAction RunnerAction) :=
  [.arrive (textMessage (newStream .httpRequestStart (ascii "s") [] none)), .read] ++
    uploadStep ++ [.host (.advance 0 .takeChunk)] ++
    (List.replicate 32 uploadStep).flatten ++ uploadStep.take 2

/-- One chunk and two pings, with consumers that keep up. -/
def briskClientRun : List (KeptAction (SessionAction Unit)) :=
  [.host (.advance () .checkDone), .host (.acquireStream ()), .host (.addPending ()),
    .host (.advance () .requestSent)] ++ downloadChunk ++ pingAction ++ [.read] ++ pingAction ++
    [.read]

def briskServiceRun : List (KeptAction RunnerAction) :=
  [.arrive (textMessage (newStream .httpRequestStart (ascii "s") [] none)), .read] ++
    uploadStep ++ pingAction ++ [.read] ++ pingAction ++ [.read]

end Porthook
