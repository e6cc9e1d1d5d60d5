import Porthook.WebSocket.Origins

/-!
# No stream without its gateway end

When `openWSStream` gives a stream up while the session is up, the agent should not keep a local
connection for it.  With the answer `ws.error` it does not; the other exits of the wait say nothing
to the agent, which may be dialling, or relaying already.
-/

namespace Porthook.WebSocket

open Protocol Gateway Transition

variable {Stream : Type} [DecidableEq Stream]

def Phase.holdsLocal : Phase → Bool
  | .dialling | .accepting _ | .relaying _ => true
  | _ => false

/-- The agent keeps no local connection for a stream whose `openWSStream` has
returned an error while the session is up. -/
def Tunnel.NoOrphan (tunnel : Tunnel Stream) : Prop :=
  ∀ stream, (tunnel.ends .gateway stream).phase.openFailed = true → tunnel.up = true →
    tunnel.done = false → (tunnel.ends .agent stream).phase.holdsLocal = false

def Tunnel.Answered (tunnel : Tunnel Stream) : TunnelAction Stream → Prop
  | .advance .gateway stream event =>
    (tunnel.ends .gateway stream).Answered tunnel.up tunnel.done event
  | _ => True

section Steps

variable {cfg : TunnelConfig Stream} {tunnel next : Tunnel Stream} {action : TunnelAction Stream}

omit [DecidableEq Stream] in
theorem stop_session (tunnel : Tunnel Stream) (side : Side) :
    ((tunnel.stop side).up = true → tunnel.up = true) ∧
      ((tunnel.stop side).done = false → tunnel.done = false) := by
  cases side with
  | gateway => exact ⟨id, fun isOpen => (by cases isOpen)⟩
  | agent => exact ⟨fun isUp => (by cases isUp), id⟩

theorem session_step (stepped : TunnelStep cfg tunnel action next) :
    (next.up = true → tunnel.up = true) ∧ (next.done = false → tunnel.done = false) := by
  cases stepped with
  | cleanUp actor =>
    unfold Tunnel.remove
    cases actor with
    | gateway => exact ⟨id, id⟩
    | agent =>
      dsimp only
      split
      · exact ⟨id, id⟩
      · split <;> exact ⟨id, id⟩
  | broken actor => exact stop_session _ actor
  | started =>
    unfold Tunnel.start
    dsimp only
    split <;> exact ⟨id, id⟩
  | readFailed actor => exact stop_session _ actor
  | writeFailed | connectionLost => exact ⟨fun isUp => (by cases isUp), id⟩
  | closeDone => exact ⟨id, fun isOpen => (by cases isOpen)⟩
  | advance | register | unbuilt | written | found | dropped | deliver | abandon | resume | other
  | cancelContext => exact ⟨id, id⟩

theorem End.OpenExcused.mono {state : End} {up up' done done' : Bool}
    (excused : state.OpenExcused up done) (wasUp : up' = true → up = true)
    (wasOpen : done' = false → done = false) : state.OpenExcused up' done' :=
  fun failed isUp isOpen => excused failed (wasUp isUp) (wasOpen isOpen)

theorem excused_step (answered : tunnel.Answered action)
    (stepped : TunnelStep cfg tunnel action next) {stream : Stream}
    (excused : (tunnel.ends .gateway stream).OpenExcused tunnel.up tunnel.done) :
    (next.ends .gateway stream).OpenExcused next.up next.done := by
  obtain ⟨wasUp, wasOpen⟩ := session_step stepped
  have broken : ∀ {cause}, action = .writeFailed .gateway stream cause → next.up = false := by
    rintro _ rfl
    cases stepped
    rfl
  have change := ends_step stepped .gateway stream
  generalize next.ends .gateway stream = state at change
  cases change with
  | same | closed | delivered => exact excused.mono wasUp wasOpen
  | advanced _ _ isAdvance moved =>
    subst isAdvance
    exact (openExcused_event answered moved).mono wasUp wasOpen
  | registered | started => exact by rintro ⟨⟩
  | unbuilt _ outgoing =>
    exact (openExcused_afterWrite excused wasUp fun _ opening =>
      absurd opening (opening_buildable outgoing)).mono id wasOpen
  | written =>
    exact (openExcused_afterWrite excused wasUp fun failed => absurd rfl failed).mono id wasOpen
  | writeFailed _ _ isWrite =>
    exact (openExcused_afterWrite excused wasUp fun _ _ => broken isWrite).mono id wasOpen
  | ended ending _ _ leaving =>
    intro failed isUp isOpen
    refine excused ?_ (wasUp isUp) (wasOpen isOpen)
    rw [leaving]
    cases ending with
    | openFailed => rfl
    | _ => cases failed

omit [DecidableEq Stream] in
theorem noOrphan_of_excused (origins : Origins tunnel)
    (excused : ∀ stream, (tunnel.ends .gateway stream).OpenExcused tunnel.up tunnel.done) :
    tunnel.NoOrphan := by
  intro stream failed isUp isOpen
  obtain ⟨msg, taken, isError⟩ := excused stream failed isUp isOpen
  have isOver := origins.refused .agent stream msg (.arrived (.inr taken)) isError
  cases phase : (tunnel.ends .agent stream).phase <;> rw [phase] at isOver <;> cases isOver <;> rfl

end Steps

/-- Unless the wait for the answer ends with the context, and if the answer is `ws.error` or a
`ws.accept` that decodes, an `openWSStream` that returns an error leaves its peer informed and, next
to the agent, no local connection behind. -/
theorem open_without_orphan (own : StreamConfig) (cfg : TunnelConfig Stream)
    (wellFormed : ∀ stream, receivedFrom 0 (cfg.stream stream).id = (cfg.stream stream).id) :
    (∀ actions, Guarded (Solo.step .gateway own) Solo.Answered (.initial .gateway) actions →
      Always (Solo.step .gateway own) Solo.OpenNotified (.initial .gateway) actions) ∧
    ∀ actions, Guarded (Tunnel.step cfg) (Tunnel.Distinct cfg) {} actions →
      Guarded (Tunnel.step cfg) Tunnel.Answered {} actions →
      Always (Tunnel.step cfg) Tunnel.NoOrphan {} actions := by
  refine ⟨fun _ answered => openNotified_of_answered answered, fun actions distinct answered => ?_⟩
  have kept : Always (Tunnel.step cfg) (fun tunnel => TunnelInv cfg tunnel ∧ Origins tunnel ∧
      ∀ stream, (tunnel.ends .gateway stream).OpenExcused tunnel.up tunnel.done) {} actions := by
    refine always_of_guarded ?_ ⟨tunnelInv_initial cfg, origins_initial, ?_⟩ (distinct.and answered)
    · rintro _ _ _ ⟨inv, origins, excused⟩ ⟨distinct, answered⟩ stepped
      have moved := tunnel_step_inv stepped
      exact ⟨tunnelInv_step wellFormed inv distinct moved,
        origins_step wellFormed inv origins moved,
        fun stream => excused_step answered moved (excused stream)⟩
    · exact by rintro _ ⟨⟩
  exact kept.mono fun _ invs => noOrphan_of_excused invs.2.1 invs.2.2

instance (up done : Bool) (state : End) (event : Event) :
    Decidable (state.Answered up done event) :=
  match event with
  | .openContextDone _ => inferInstanceAs (Decidable (up = true → done = true))
  | .answer => inferInstanceAs (Decidable (up = true → done = false → _))
  | .openSessionDone | .upgraded | .upgradeFailed | .targetInvalid _ | .dialFailed _
  | .dialled _ | .relay _ | .relayReturned => isTrue trivial

instance (tunnel : Tunnel Stream) (action : TunnelAction Stream) :
    Decidable (tunnel.Answered action) :=
  match action with
  | .advance .gateway stream event =>
    inferInstanceAs (Decidable ((tunnel.ends .gateway stream).Answered tunnel.up tunnel.done event))
  | .advance .agent _ _ | .register _ | .write _ _ | .writeFailed _ _ _ | .cleanUp _ _ | .read _
  | .readFailed _ | .deliver _ | .abandon _ | .resume _ | .other _ _ _ | .connectionLost
  | .closeDone | .cancelContext _ => isTrue trivial

instance (solo : Solo) (action : SoloAction) : Decidable (solo.Answered action) :=
  match action with
  | .event event => inferInstanceAs (Decidable (solo.own.Answered solo.up solo.done event))
  | .deliver _ | .write | .writeFailed _ | .connectionLost | .closeDone | .cleanUp => isTrue trivial

def openRefused : List (TunnelAction Bool) :=
  [.register true, .write .gateway true, .read .agent,
    .advance .agent true (.dialFailed (ascii "connection refused")), .write .agent true,
    .cleanUp .agent true, .read .gateway, .deliver .gateway, .advance .gateway true .answer,
    .cleanUp .gateway true]

def refusedAnswer : List SoloAction :=
  let refused := textMessage (newStream .wsError chatStream.id chatStream.tunnelID
    (some (ErrorPayload.encode ⟨ascii "local_dial_failed", ascii "connection refused"⟩)))
  [.write, .deliver refused, .event .answer, .cleanUp]

/-- The public client leaves while the agent dials.  The agent's `ws.accept` finds
no stream. -/
def openAbandoned : List (TunnelAction Bool) :=
  [.register true, .write .gateway true, .read .agent, .advance .agent true (.dialled []),
    .advance .gateway true (.openContextDone .canceled), .cleanUp .gateway true,
    .write .agent true, .read .gateway, .resume .gateway]

theorem open_orphaned : ∃ tunnel, exec (Tunnel.step chatConfig) {} openAbandoned = some tunnel ∧
      tunnel.up = true ∧ tunnel.done = false ∧
      (tunnel.ends .gateway true).phase.openFailed = true ∧
      (∃ frame ∈ (tunnel.ends .gateway true).sent, isOpening frame = true) ∧
      (tunnel.ends .gateway true).taken = [] ∧
      (∀ frame ∈ (tunnel.ends .gateway true).sent, isNotice frame = false) ∧
      tunnel.link .gateway = [] ∧ (tunnel.ends .agent true).phase = .relaying {} ∧
      ¬ tunnel.NoOrphan := by
  refine ⟨_, rfl, rfl, rfl, rfl, by decide +kernel, rfl, by decide +kernel, rfl, rfl,
    fun noOrphan => ?_⟩
  exact absurd (noOrphan true rfl rfl rfl) (by decide +kernel)

theorem open_without_orphan_refused :
    ((exec (Solo.step .gateway chatStream) (.initial .gateway) refusedAnswer).isSome = true ∧
      Always (Solo.step .gateway chatStream) Solo.OpenNotified (.initial .gateway) refusedAnswer) ∧
    (exec (Tunnel.step chatConfig) {} openRefused).isSome = true ∧
      Always (Tunnel.step chatConfig) Tunnel.NoOrphan {} openRefused := by
  obtain ⟨informed, noOrphan⟩ := open_without_orphan chatStream chatConfig (by decide +kernel)
  exact ⟨⟨by decide +kernel, informed refusedAnswer (by decide +kernel)⟩, by decide +kernel,
    noOrphan openRefused (guarded_distinct (by decide +kernel) {} openRefused) (by decide +kernel)⟩

end Porthook.WebSocket
