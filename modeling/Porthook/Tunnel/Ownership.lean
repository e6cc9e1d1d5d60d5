import Porthook.ControlPlane.Reservations
import Porthook.ControlPlane.Tokens

/-!
# Who serves a reserved name

A handler that was asked for a name has the control plane authorize it, and registers the tunnel in
a later step; a handler that draws a name registers it without asking.  Each registration is logged
with the reservation that the name had at that moment.
-/

namespace Porthook.Tunnel

open Protocol Transition Gateway ControlPlane

/-- The identity that `ValidateAgentToken` returns: the id of a token that `CreateToken`
has made. -/
structure AgentIdentity where
  tokenID : Bytes
  created : ∃ request draw token, newToken .agent request draw = .ok token ∧ token.id = tokenID

theorem AgentIdentity.trimmed (identity : AgentIdentity) :
    trimSpace identity.tokenID = identity.tokenID := by
  obtain ⟨_, _, _, made, same⟩ := identity.created
  rw [← same]
  exact trimSpace_newToken made

structure Registration where
  subdomain : Bytes
  tokenID : Option Bytes
  reservation : Option ReservationRecord

/-- The token of the agent is the one that the reservation names, if there is one. -/
def Registration.Owned (registration : Registration) : Prop :=
  ∀ record, registration.reservation = some record → registration.tokenID = some record.tokenID

structure Ownership (Conn Query : Type) where
  server : Server Conn Query := {}
  reservations : ReservationStore
  identity : Conn → Option AgentIdentity := fun _ => none
  authorized : Conn → Bool := fun _ => false
  log : List Registration := []

inductive OwnershipAction (Conn Query : Type) where
  | authenticated (conn : Conn) (identity : AgentIdentity)
  | authorize (conn : Conn) (draw : ReservationDraw)
  | gateway (action : ServerAction Conn Query)
  | createReservation (request : CreateReservationRequest) (draw : ReservationDraw)
  | deleteReservation (id : Bytes)

section Step

variable {Conn Query : Type} [DecidableEq Conn] [DecidableEq Query]

def Ownership.logged (state : Ownership Conn Query) (conn : Conn) :
    ConnPhase Conn → List Registration
  | .announcing session =>
    ⟨session.subdomain, (state.identity conn).map AgentIdentity.tokenID,
      state.reservations.lookupByName session.subdomain⟩ :: state.log
  | _ => state.log

/-- A requested name is registered once it is authorized; a drawn one at once. -/
def Ownership.mayRegister (state : Ownership Conn Query) (conn : Conn) : Bool :=
  match state.server.conn conn with
  | .choosing (.requested _) => state.authorized conn
  | _ => true

def Ownership.step (state : Ownership Conn Query) :
    OwnershipAction Conn Query → Option (Ownership Conn Query)
  | .authenticated conn identity =>
    (state.server.step (.authenticated conn)).map fun server =>
      { state with server, identity := Function.update state.identity conn (some identity) }
  | .authorize conn draw =>
    match state.server.conn conn, state.identity conn with
    | .choosing (.requested subdomain), some identity =>
      match authorizeReservation state.reservations identity.tokenID subdomain draw with
      | .authorization ⟨true, _⟩ =>
        some { state with authorized := Function.update state.authorized conn true }
      | _ => (state.server.step (.failed conn)).map fun server => { state with server }
    | _, _ => none
  | .gateway (.authenticated _) => none
  | .gateway (.register conn tunnelID drawn) =>
    if state.mayRegister conn then
      (state.server.step (.register conn tunnelID drawn)).map fun server =>
        { state with server, log := state.logged conn (server.conn conn) }
    else none
  | .gateway action => (state.server.step action).map fun server => { state with server }
  | .createReservation request draw =>
    some { state with
      reservations := (ControlPlane.createReservation state.reservations request draw).1 }
  | .deleteReservation id => some { state with reservations := state.reservations.remove id }

/-- A drawn name is not reserved for another token, and no name is reserved while its
registration is authorized and under way. -/
def KeepsReserved (state : Ownership Conn Query) : OwnershipAction Conn Query → Prop
  | .gateway (.register conn _ drawn) =>
    ∀ attempts, state.server.conn conn = .choosing (.random attempts) →
      ∀ record, state.reservations.lookupByName drawn = some record →
        (state.identity conn).map AgentIdentity.tokenID = some record.tokenID
  | .createReservation request _ => ∀ name, normalizeName request.name = .ok name →
      ∀ conn, state.authorized conn = true → state.server.conn conn ≠ .choosing (.requested name)
  | _ => True

end Step

section Handlers

variable {Conn Query : Type} [DecidableEq Conn] [DecidableEq Query]
  {server next : Server Conn Query}

def Early : ConnPhase Conn → Prop
  | .authenticating | .awaitingRegister => True
  | _ => False

/-- Where a handler can be after a step: where it was, or behind the choice of a name,
unless it has just made that choice. -/
def Onward (before : ConnPhase Conn) (after : ConnPhase Conn) : Prop :=
  after = before ∨ (Early before ∧ (Early after ∨ ∃ choice, after = .choosing choice ∧
    ∀ subdomain, choice = .requested subdomain → validateSubdomain subdomain = true)) ∨
  (¬ Early after ∧ ∀ subdomain, after ≠ .choosing (.requested subdomain))

omit [DecidableEq Query] in
theorem onward_setConn {conn : Conn} {phase : ConnPhase Conn}
    (own : Onward (server.conn conn) phase) (other : Conn) :
    Onward (server.conn other) ((server.setConn conn phase).conn other) := by
  by_cases same : other = conn
  · subst same
    rw [setConn_self]
    exact own
  · rw [setConn_other server phase same]
    exact .inl rfl

omit [DecidableEq Conn] in
theorem nextChoice_onward (before : ConnPhase Conn) (choice : NameChoice) :
    Onward before (nextChoice choice) := by
  refine .inr (.inr ?_)
  cases choice with
  | requested => exact ⟨id, by rintro _ ⟨⟩⟩
  | random =>
    simp only [nextChoice]
    split <;> exact ⟨id, by rintro _ ⟨⟩⟩

omit [DecidableEq Query] in
theorem tryRegister_onward (conn : Conn) (choice : NameChoice) (session : TunnelSession Conn)
    (other : Conn) :
    Onward (server.conn other) ((server.tryRegister conn choice session).conn other) := by
  unfold Server.tryRegister
  split
  · refine onward_setConn ?_ other
    exact .inr (.inr ⟨id, by rintro _ ⟨⟩⟩)
  · exact onward_setConn (nextChoice_onward _ choice) other
  · refine onward_setConn ?_ other
    exact .inr (.inr ⟨id, by rintro _ ⟨⟩⟩)

theorem step_onward {action : ServerAction Conn Query} (stepped : server.step action = some next)
    (other : Conn) : Onward (server.conn other) (next.conn other) := by
  have past {conn : Conn} {phase : ConnPhase Conn} (late : ¬ Early phase)
      (chosen : ∀ subdomain, phase ≠ .choosing (.requested subdomain)) :
      Onward (server.conn other) ((server.setConn conn phase).conn other) :=
    onward_setConn (.inr (.inr ⟨late, chosen⟩)) other
  cases action with
  | authenticated =>
    simp only [Server.step] at stepped
    split at stepped
    next waiting =>
      cases stepped
      refine onward_setConn ?_ other
      rw [waiting]
      exact .inr (.inl ⟨trivial, .inl trivial⟩)
    · cases stepped
  | failed =>
    simp only [Server.step] at stepped
    split at stepped
    · cases stepped; exact past id fun _ same => by cases same
    · cases stepped; exact past id fun _ same => by cases same
    · cases stepped; exact past id fun _ same => by cases same
    · cases stepped
  | chooseName conn =>
    simp only [Server.step] at stepped
    split at stepped
    next waiting =>
      have early : Early (server.conn conn) := by rw [waiting]; trivial
      repeat' split at stepped
      all_goals cases stepped
      next subdomain valid =>
        refine onward_setConn (.inr (.inl ⟨early, .inr ⟨_, rfl, ?_⟩⟩)) other
        rintro _ ⟨⟩
        exact valid
      next subdomain _ => exact past id fun _ same => by cases same
      refine onward_setConn ?_ other
      exact .inr (.inl ⟨early, .inr ⟨_, rfl, fun _ same => by cases same⟩⟩)
    · cases stepped
  | register conn =>
    simp only [Server.step] at stepped
    repeat' split at stepped
    all_goals cases stepped
    · exact tryRegister_onward conn _ _ other
    · exact tryRegister_onward conn _ _ other
    exact onward_setConn (nextChoice_onward _ _) other
  | announced | announceFailed | unregister =>
    simp only [Server.step] at stepped
    split at stepped
    · cases stepped; exact past id fun _ same => by cases same
    · cases stepped
  | addSession | removeSession =>
    simp only [Server.step] at stepped
    repeat' split at stepped
    all_goals cases stepped
    exact past id fun _ same => by cases same
  | lookup =>
    simp only [Server.step] at stepped
    split at stepped
    · cases stepped; exact .inl rfl
    · cases stepped; exact .inl rfl
  | fetch =>
    simp only [Server.step] at stepped
    repeat' split at stepped
    all_goals cases stepped
    exact .inl rfl

theorem register_announcing {conn : Conn} {tunnelID drawn : Bytes} {session : TunnelSession Conn}
    (stepped : server.step (.register conn tunnelID drawn) = some next)
    (announcing : next.conn conn = .announcing session) :
    server.conn conn = .choosing (.requested session.subdomain) ∨
      ∃ attempts, server.conn conn = .choosing (.random attempts) ∧ session.subdomain = drawn := by
  have tried {choice : NameChoice} {made : TunnelSession Conn}
      (announced : (server.tryRegister conn choice made).conn conn = .announcing session) :
      made = session := by
    unfold Server.tryRegister at announced
    split at announced
    · simp only [setConn_self] at announced
      cases announced
      rfl
    · simp only [setConn_self] at announced
      have none : (nextChoice choice : ConnPhase Conn).session? = none := nextChoice_session? choice
      rw [announced] at none
      cases none
    · simp only [setConn_self] at announced
      cases announced
  simp only [Server.step] at stepped
  repeat' split at stepped
  all_goals cases stepped
  next subdomain choosing =>
    rw [← tried announcing]
    exact .inl choosing
  next attempts choosing _ =>
    rw [← tried announcing]
    exact .inr ⟨attempts, choosing, rfl⟩
  next attempts choosing _ =>
    rw [setConn_self] at announcing
    have none : (nextChoice (.random attempts) : ConnPhase Conn).session? = none :=
      nextChoice_session? _
    rw [announcing] at none
    cases none

end Handlers

section Invariant

variable {Conn Query : Type} [DecidableEq Conn] [DecidableEq Query] {state : Ownership Conn Query}

structure OwnershipInv (state : Ownership Conn Query) : Prop where
  fresh : ∀ conn, Early (state.server.conn conn) → state.authorized conn = false
  valid : ∀ conn subdomain, state.server.conn conn = .choosing (.requested subdomain) →
    validateSubdomain subdomain = true
  pending : ∀ conn subdomain, state.server.conn conn = .choosing (.requested subdomain) →
    state.authorized conn = true → ∀ record, state.reservations.lookupByName subdomain =
      some record → (state.identity conn).map AgentIdentity.tokenID = some record.tokenID
  owned : ∀ registration ∈ state.log, registration.Owned
  listed : state.log.map Registration.subdomain =
    state.server.registered.map TunnelSession.subdomain

variable {action : ServerAction Conn Query} {conn : Conn}

theorem OwnershipInv.serverStep (inv : OwnershipInv state) {server : Server Conn Query}
    (stepped : state.server.step action = some server) {log : List Registration}
    (owned : ∀ registration ∈ log, registration.Owned)
    (listed : log.map Registration.subdomain = server.registered.map TunnelSession.subdomain) :
    OwnershipInv { state with server, log } := by
  have onward := step_onward stepped
  refine ⟨fun conn early => ?_, fun conn subdomain choosing => ?_,
    fun conn subdomain choosing authorized => ?_, owned, listed⟩
  · dsimp only at early
    rcases onward conn with same | ⟨before, -⟩ | ⟨late, -⟩
    · exact inv.fresh conn (same ▸ early)
    · exact inv.fresh conn before
    · exact absurd early late
  · dsimp only at choosing
    rcases onward conn with same | ⟨-, still | ⟨_, chosen, valid⟩⟩ | ⟨-, past⟩
    · exact inv.valid conn subdomain (same ▸ choosing)
    · rw [choosing] at still
      exact still.elim
    · rw [choosing] at chosen
      cases chosen
      exact valid subdomain rfl
    · exact absurd choosing (past subdomain)
  · dsimp only at choosing authorized ⊢
    rcases onward conn with same | ⟨before, -⟩ | ⟨-, past⟩
    · exact inv.pending conn subdomain (same ▸ choosing) authorized
    · rw [inv.fresh conn before] at authorized
      cases authorized
    · exact absurd choosing (past subdomain)

theorem registered_of_quiet {server next : Server Conn Query}
    (stepped : server.step action = some next)
    (quiet : ∀ conn tunnelID drawn, action ≠ .register conn tunnelID drawn) :
    next.registered = server.registered := by
  cases server_step_inv stepped with
  | registered conn session drawn => exact absurd rfl (quiet conn session.tunnelID drawn)
  | moved | announced | withdrawn | added | removed | missed | found | fetched => rfl

theorem logged_listed (inv : OwnershipInv state) {server : Server Conn Query}
    {tunnelID drawn : Bytes}
    (stepped : state.server.step (.register conn tunnelID drawn) = some server) :
    (state.logged conn (server.conn conn)).map Registration.subdomain =
      server.registered.map TunnelSession.subdomain := by
  generalize registering : ServerAction.register conn tunnelID drawn = action at stepped
  cases server_step_inv stepped with
  | registered =>
    cases registering
    simp [setConn_self, Ownership.logged, inv.listed]
  | moved _ _ phase handled _ unowned =>
    subst registering
    cases handled
    simp only [setConn_self]
    cases phase with
    | announcing => cases unowned
    | _ => exact inv.listed
  | withdrawn _ _ _ _ handled =>
    subst registering
    cases handled
    simp only [setConn_self, Ownership.logged]
    exact inv.listed
  | announced | added | removed | missed | found | fetched => cases registering

/-- The handler that registers owns the name: it was authorized, or it drew one that
is not reserved for another token. -/
theorem logged_owned (inv : OwnershipInv state) {server : Server Conn Query}
    {tunnelID drawn : Bytes} (allowed : state.mayRegister conn)
    (kept : KeepsReserved state (.gateway (.register conn tunnelID drawn)))
    (stepped : state.server.step (.register conn tunnelID drawn) = some server) :
    ∀ registration ∈ state.logged conn (server.conn conn), registration.Owned := by
  intro registration member
  cases phase : server.conn conn with
  | announcing session =>
    rw [phase] at member
    rcases List.mem_cons.mp member with rfl | old
    · intro record reserved
      dsimp only at reserved ⊢
      rcases register_announcing stepped phase with requested | ⟨attempts, random, named⟩
      · simp only [Ownership.mayRegister, requested] at allowed
        exact inv.pending conn session.subdomain requested allowed record reserved
      · rw [named] at reserved
        exact kept attempts random record reserved
    · exact inv.owned registration old
  | _ =>
    rw [phase] at member
    exact inv.owned registration member

theorem OwnershipInv.authenticate (inv : OwnershipInv state) {server : Server Conn Query}
    {identity : AgentIdentity} (stepped : state.server.step (.authenticated conn) = some server) :
    OwnershipInv { state with
      server, identity := Function.update state.identity conn (some identity) } := by
  have after : OwnershipInv { state with server } := by
    refine inv.serverStep stepped inv.owned ?_
    rw [registered_of_quiet stepped nofun]
    exact inv.listed
  refine ⟨after.fresh, after.valid, fun other subdomain choosing authorized => ?_, after.owned,
    after.listed⟩
  have different : other ≠ conn := by
    rintro rfl
    simp only [Server.step] at stepped
    split at stepped
    · cases stepped
      rw [setConn_self] at choosing
      cases choosing
    · cases stepped
  dsimp only
  rw [Function.update_of_ne different]
  exact after.pending other subdomain choosing authorized

omit [DecidableEq Query] in
theorem OwnershipInv.authorized (inv : OwnershipInv state) {subdomain : Bytes}
    {identity : AgentIdentity} {draw : ReservationDraw} {result : AuthorizationResult}
    (choosing : state.server.conn conn = .choosing (.requested subdomain))
    (identified : state.identity conn = some identity) (allowed : result.allowed)
    (answered : authorizeReservation state.reservations identity.tokenID subdomain draw =
      .authorization result) :
    OwnershipInv { state with authorized := Function.update state.authorized conn true } := by
  refine ⟨fun other early => ?_, inv.valid, fun other wanted phase authorized record reserved => ?_,
    inv.owned, inv.listed⟩
  · have different : other ≠ conn := by
      rintro rfl
      rwa [choosing] at early
    dsimp only
    rw [Function.update_of_ne different]
    exact inv.fresh other early
  · dsimp only at phase authorized reserved ⊢
    by_cases same : other = conn
    · subst same
      rw [choosing] at phase
      cases phase
      obtain ⟨_, found, named⟩ :=
        authorizeReservation_allowed (inv.valid other subdomain choosing) allowed answered
      rw [found] at reserved
      cases reserved
      rw [identified, Option.map_some, named, identity.trimmed]
    · rw [Function.update_of_ne same] at authorized
      exact inv.pending other wanted phase authorized record reserved

omit [DecidableEq Conn] [DecidableEq Query] in
theorem OwnershipInv.reserve (inv : OwnershipInv state) {request : CreateReservationRequest}
    {draw : ReservationDraw} (kept : KeepsReserved state (.createReservation request draw)) :
    OwnershipInv { state with
      reservations := (createReservation state.reservations request draw).1 } := by
  rcases createReservation_cases state.reservations request draw with
    ⟨err, failed⟩ | ⟨record, next, made, inserted, succeeded⟩
  · rw [failed]
    exact inv
  · rw [succeeded]
    obtain ⟨-, -, rows⟩ := Table.insert?_eq_some inserted
    refine ⟨inv.fresh, inv.valid, fun conn subdomain choosing authorized held reserved => ?_,
      inv.owned, inv.listed⟩
    obtain ⟨member, named⟩ := Table.findOther?_eq_some_iff.mp reserved
    rcases (rows held).mp member with rfl | old
    · -- no registration of that name is under way
      rw [← named] at choosing
      exact absurd choosing (kept held.name (newReservation_name made) conn authorized)
    · exact inv.pending conn subdomain choosing authorized held
        (Table.findOther?_eq_some_iff.mpr ⟨old, named⟩)

omit [DecidableEq Conn] [DecidableEq Query] in
theorem OwnershipInv.release (inv : OwnershipInv state) (id : Bytes) :
    OwnershipInv { state with reservations := state.reservations.remove id } := by
  refine ⟨inv.fresh, inv.valid, fun conn subdomain choosing authorized held reserved => ?_,
    inv.owned, inv.listed⟩
  obtain ⟨member, named⟩ := Table.findOther?_eq_some_iff.mp reserved
  exact inv.pending conn subdomain choosing authorized held
    (Table.findOther?_eq_some_iff.mpr ⟨(Table.mem_remove.mp member).1, named⟩)

theorem OwnershipInv.step (inv : OwnershipInv state) {next : Ownership Conn Query}
    {action : OwnershipAction Conn Query} (kept : KeepsReserved state action)
    (stepped : state.step action = some next) : OwnershipInv next := by
  cases action with
  | authenticated =>
    simp only [Ownership.step] at stepped
    obtain ⟨_, moved, rfl⟩ := Option.map_eq_some_iff.mp stepped
    exact inv.authenticate moved
  | authorize =>
    simp only [Ownership.step] at stepped
    split at stepped
    next subdomain identity choosing identified =>
      split at stepped
      next reason answered =>
        cases stepped
        exact inv.authorized choosing identified rfl answered
      · obtain ⟨_, moved, rfl⟩ := Option.map_eq_some_iff.mp stepped
        refine inv.serverStep moved inv.owned ?_
        rw [registered_of_quiet moved nofun]
        exact inv.listed
    · cases stepped
  | gateway action =>
    cases action with
    | authenticated => cases stepped
    | register =>
      simp only [Ownership.step] at stepped
      split at stepped
      next allowed =>
        obtain ⟨_, moved, rfl⟩ := Option.map_eq_some_iff.mp stepped
        exact inv.serverStep moved (logged_owned inv allowed kept moved) (logged_listed inv moved)
      · cases stepped
    | _ =>
      simp only [Ownership.step] at stepped
      obtain ⟨_, moved, rfl⟩ := Option.map_eq_some_iff.mp stepped
      refine inv.serverStep moved inv.owned ?_
      rw [registered_of_quiet moved nofun]
      exact inv.listed
  | createReservation =>
    cases stepped
    exact inv.reserve kept
  | deleteReservation id =>
    cases stepped
    exact inv.release id

/-- Where no drawn name is reserved for another token and no name is reserved while its registration
is under way, a reserved name is registered only by an agent with the token of the reservation. -/
theorem reserved_names_served_by_owner (reservations : ReservationStore)
    (actions : List (OwnershipAction Conn Query))
    (kept : Guarded Ownership.step KeepsReserved
      ({ reservations } : Ownership Conn Query) actions) :
    Always Ownership.step (fun state => (∀ registration ∈ state.log, registration.Owned) ∧
        state.log.map Registration.subdomain = state.server.registered.map TunnelSession.subdomain)
      ({ reservations } : Ownership Conn Query) actions := by
  have start : OwnershipInv ({ reservations } : Ownership Conn Query) := by
    refine ⟨fun _ _ => rfl, fun conn subdomain choosing => ?_, fun conn subdomain choosing => ?_,
      fun registration member => ?_, rfl⟩
    · cases choosing
    · cases choosing
    · cases member
  exact (always_of_guarded (fun _ _ _ inv kept stepped => inv.step kept stepped) start kept).mono
    fun _ inv => ⟨inv.owned, inv.listed⟩

end Invariant

def demoReservation : ReservationRecord := ⟨ascii "rs_1", ascii "demo", ascii "tok_AQ", 0⟩

def demoReservations : ReservationStore := ⟨[demoReservation], by decide, by decide⟩

def otherAgent : AgentIdentity where
  tokenID := ascii "tok_Ag"
  created := ⟨{ name := ascii "laptop" }, { secret := some [1], id := some [2] }, _, rfl, rfl⟩

/-- An agent with another token asks for no name, and the generator returns `drawn`. -/
def randomRun (drawn : Bytes) : List (OwnershipAction Unit Unit) :=
  [.authenticated () otherAgent, .gateway (.chooseName () (.random 8)),
    .gateway (.register () (ascii "tun_1") drawn)]

theorem drawn_name_reserved_for_another : ∃ state registration record, exec Ownership.step
        ({ reservations := demoReservations } : Ownership Unit Unit)
        (randomRun (ascii "demo")) = some state ∧
      registration ∈ state.log ∧ registration.subdomain = ascii "demo" ∧
      registration.reservation = some record ∧ registration.tokenID = some (ascii "tok_Ag") ∧
      record.tokenID = ascii "tok_AQ" :=
  ⟨_, _, demoReservation, rfl, List.mem_cons_self, rfl, rfl, rfl, rfl⟩

theorem reserved_names_served_by_owner_free : Guarded Ownership.step KeepsReserved
        ({ reservations := demoReservations } : Ownership Unit Unit) (randomRun (ascii "free")) ∧
      Always Ownership.step (fun state => (∀ registration ∈ state.log, registration.Owned) ∧
          state.log.map Registration.subdomain =
            state.server.registered.map TunnelSession.subdomain)
        ({ reservations := demoReservations } : Ownership Unit Unit)
        (randomRun (ascii "free")) := by
  have kept : Guarded Ownership.step KeepsReserved
      ({ reservations := demoReservations } : Ownership Unit Unit) (randomRun (ascii "free")) := by
    refine (guarded_cons_of_some rfl).mpr ⟨trivial, (guarded_cons_of_some rfl).mpr ⟨trivial,
      (guarded_cons_of_some rfl).mpr ⟨?_, trivial⟩⟩⟩
    intro attempts random record reserved
    cases reserved
  exact ⟨kept, reserved_names_served_by_owner demoReservations _ kept⟩

end Porthook.Tunnel
