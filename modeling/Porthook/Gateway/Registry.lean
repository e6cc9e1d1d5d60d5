import Porthook.Foundations.Transition
import Porthook.Foundations.TwoIndex
import Porthook.Protocol.Json

/-!
# The registry and the session table

Every agent connection has a handler that authenticates the agent, enters its tunnel into the
registry, announces it, puts the session into `Server.sessions`, serves it, and takes both entries
out again.  Public requests find a session in two separate lookups.
-/

namespace Porthook.Gateway

open Protocol Transition

def validateSubdomain (name : Bytes) : Bool :=
  name ≠ [] && name.length ≤ 63 && name.head? ≠ some 45 && name.getLast? ≠ some 45 &&
    name.all fun byte => (97 ≤ byte && byte ≤ 122) || (48 ≤ byte && byte ≤ 57) || byte == 45

/-- `registry.Session`.  A handler registers at most one of them, so its owner
tells one object from another with the same contents. -/
structure TunnelSession (Conn : Type) where
  tunnelID : Bytes
  subdomain : Bytes
  owner : Conn

inductive RegisterError where
  | sessionRequired
  | tunnelIDRequired
  | subdomainRequired
  | tunnelIDAlreadyRegistered
  | subdomainAlreadyRegistered
  deriving DecidableEq

/-- `byTunnelID` and `bySubdomain`. -/
abbrev Registry (Conn : Type) :=
  TwoIndex (fun session : TunnelSession Conn => session.tunnelID) fun session => session.subdomain

namespace Registry

variable {Conn : Type}

abbrev lookupByTunnelID (registry : Registry Conn) (tunnelID : Bytes) :
    Option (TunnelSession Conn) :=
  registry.byFirst tunnelID

abbrev lookupBySubdomain (registry : Registry Conn) (subdomain : Bytes) :
    Option (TunnelSession Conn) :=
  registry.bySecond subdomain

def register (registry : Registry Conn) (session : Option (TunnelSession Conn)) :
    Registry Conn × Option RegisterError :=
  match session with
  | none => (registry, some .sessionRequired)
  | some session =>
    if session.tunnelID = [] then (registry, some .tunnelIDRequired)
    else if session.subdomain = [] then (registry, some .subdomainRequired)
    else
      match idFree : registry.byFirst session.tunnelID with
      | some _ => (registry, some .tunnelIDAlreadyRegistered)
      | none =>
        match nameFree : registry.bySecond session.subdomain with
        | some _ => (registry, some .subdomainAlreadyRegistered)
        | none => (registry.insert session idFree nameFree, none)

def unregister (registry : Registry Conn) (tunnelID : Bytes) : Registry Conn :=
  match found : registry.byFirst tunnelID with
  | none => registry
  | some session =>
    registry.erase session ((registry.first_sound _ _ found).1 ▸ found)

variable {registry : Registry Conn} {session : TunnelSession Conn}

theorem register_of_error {session : Option (TunnelSession Conn)} {err : RegisterError}
    (failed : (registry.register session).2 = some err) :
    (registry.register session).1 = registry := by
  revert failed
  unfold register
  split
  · exact fun _ => rfl
  split
  · exact fun _ => rfl
  split
  · exact fun _ => rfl
  split
  · exact fun _ => rfl
  split
  · exact fun _ => rfl
  · intro failed
    cases failed

theorem register_of_ok (succeeded : (registry.register (some session)).2 = none) :
    ∃ (idFree : registry.byFirst session.tunnelID = none)
      (nameFree : registry.bySecond session.subdomain = none),
      (registry.register (some session)).1 = registry.insert session idFree nameFree := by
  revert succeeded
  unfold register
  dsimp only
  split
  · exact by rintro ⟨⟩
  split
  · exact by rintro ⟨⟩
  split
  · exact by rintro ⟨⟩
  next idFree =>
    split
    · exact by rintro ⟨⟩
    next nameFree => exact fun _ => ⟨idFree, nameFree, rfl⟩

theorem unregister_eq_erase (present : registry.byFirst session.tunnelID = some session) :
    registry.unregister session.tunnelID = registry.erase session present := by
  unfold unregister
  split
  next missing =>
    rw [missing] at present
    cases present
  next found there =>
    rw [there] at present
    cases present
    rfl

theorem unregister_register (succeeded : (registry.register (some session)).2 = none) :
    (registry.register (some session)).1.unregister session.tunnelID = registry := by
  obtain ⟨idFree, nameFree, inserted⟩ := register_of_ok succeeded
  have present : (registry.insert session idFree nameFree).byFirst session.tunnelID =
      some session := by
    rw [TwoIndex.byFirst_insert, if_pos rfl]
  rw [inserted, unregister_eq_erase present]
  exact TwoIndex.erase_insert present

end Registry

/-- How the name of a tunnel is chosen: the agent asks for one, or the gateway
draws one and has `attempts` left. -/
inductive NameChoice where
  | requested (subdomain : Bytes)
  | random (attempts : Nat)
  deriving DecidableEq

inductive ConnPhase (Conn : Type) where
  | authenticating
  | awaitingRegister
  | choosing (choice : NameChoice)
  | announcing (session : TunnelSession Conn)
  | announced (session : TunnelSession Conn)
  | serving (session : TunnelSession Conn)
  | removing (session : TunnelSession Conn)
  | returned

inductive QueryPhase (Conn : Type) where
  | idle
  | found (subdomain : Bytes) (tunnel : TunnelSession Conn)
  | answered (subdomain : Bytes) (session : Option (TunnelSession Conn))

/-- `sessionsMu` is the handler that holds the lock for writing while other steps can happen;
`registered` lists every session that was ever registered. -/
structure Server (Conn Query : Type) where
  registry : Registry Conn := .empty
  sessions : Bytes → Option (TunnelSession Conn) := fun _ => none
  sessionsMu : Option Conn := none
  conn : Conn → ConnPhase Conn := fun _ => .authenticating
  query : Query → QueryPhase Conn := fun _ => .idle
  registered : List (TunnelSession Conn) := []

/-- The ids and random names that the generators return are part of the action,
and so is every failure. -/
inductive ServerAction (Conn Query : Type) where
  | authenticated (conn : Conn)
  | failed (conn : Conn)
  | chooseName (conn : Conn) (choice : NameChoice)
  | register (conn : Conn) (tunnelID subdomain : Bytes)
  | announced (conn : Conn)
  | announceFailed (conn : Conn)
  | addSession (conn : Conn)
  | removeSession (conn : Conn)
  | unregister (conn : Conn)
  | lookup (query : Query) (subdomain : Bytes)
  | fetch (query : Query)

def ServerAction.handler? {Conn Query : Type} : ServerAction Conn Query → Option Conn
  | .authenticated conn | .failed conn | .chooseName conn _ | .register conn _ _
  | .announced conn | .announceFailed conn | .addSession conn | .removeSession conn
  | .unregister conn => some conn
  | .lookup _ _ | .fetch _ => none

def randomSubdomainAttempts : Nat := 8

section Step

variable {Conn Query : Type} [DecidableEq Conn] [DecidableEq Query]

def Server.setConn (server : Server Conn Query) (conn : Conn) (phase : ConnPhase Conn) :
    Server Conn Query :=
  { server with conn := Function.update server.conn conn phase }

def Server.setQuery (server : Server Conn Query) (query : Query) (phase : QueryPhase Conn) :
    Server Conn Query :=
  { server with query := Function.update server.query query phase }

def nextChoice {Conn : Type} : NameChoice → ConnPhase Conn
  | .requested _ => .returned
  | .random attempts => if attempts ≤ 1 then .returned else .choosing (.random (attempts - 1))

/-- One attempt of `registerRequestedSubdomain` or `registerRandomSubdomain`
with the session that `newTunnelSession` made. -/
def Server.tryRegister (server : Server Conn Query) (conn : Conn) (choice : NameChoice)
    (session : TunnelSession Conn) : Server Conn Query :=
  match server.registry.register (some session) with
  | (registry, none) =>
    { server.setConn conn (.announcing session) with
      registry, registered := session :: server.registered }
  | (registry, some .subdomainAlreadyRegistered) =>
    { server.setConn conn (nextChoice choice) with registry }
  | (registry, some _) => { server.setConn conn .returned with registry }

def Server.step (server : Server Conn Query) : ServerAction Conn Query → Option (Server Conn Query)
  | .authenticated conn =>
    match server.conn conn with
    | .authenticating => some (server.setConn conn .awaitingRegister)
    | _ => none
  | .failed conn =>
    -- any error before the registration: the connection, the agent's messages,
    -- the control plane, the generators
    match server.conn conn with
    | .authenticating | .awaitingRegister | .choosing _ =>
      some (server.setConn conn .returned)
    | _ => none
  | .chooseName conn choice =>
    match server.conn conn with
    | .awaitingRegister =>
      match choice with
      | .requested subdomain =>
        -- an invalid name ends the handler
        if validateSubdomain subdomain then some (server.setConn conn (.choosing choice))
        else some (server.setConn conn .returned)
      | .random _ =>
        some (server.setConn conn (.choosing (.random randomSubdomainAttempts)))
    | _ => none
  | .register conn tunnelID drawn =>
    match server.conn conn with
    | .choosing (.requested subdomain) =>
      some (server.tryRegister conn (.requested subdomain) ⟨tunnelID, subdomain, conn⟩)
    | .choosing (.random attempts) =>
      if validateSubdomain drawn then
        some (server.tryRegister conn (.random attempts) ⟨tunnelID, drawn, conn⟩)
      else some (server.setConn conn (nextChoice (.random attempts)))
    | _ => none
  | .announced conn =>
    match server.conn conn with
    | .announcing session => some (server.setConn conn (.announced session))
    | _ => none
  | .announceFailed conn =>
    match server.conn conn with
    | .announcing session => some
        { server.setConn conn .returned with
          registry := server.registry.unregister session.tunnelID }
    | _ => none
  | .addSession conn =>
    match server.conn conn with
    | .announced session =>
      if server.sessionsMu.isNone then some
        { server.setConn conn (.serving session) with
          sessions := Function.update server.sessions session.tunnelID (some session) }
      else none
    | _ => none
  | .removeSession conn =>
    -- the lock is kept until the registry entry is gone as well
    match server.conn conn with
    | .serving session =>
      if server.sessionsMu.isNone then some
        { server.setConn conn (.removing session) with
          sessions := Function.update server.sessions session.tunnelID none
          sessionsMu := some conn }
      else none
    | _ => none
  | .unregister conn =>
    match server.conn conn with
    | .removing session => some
        { server.setConn conn .returned with
          registry := server.registry.unregister session.tunnelID
          sessionsMu := none }
    | _ => none
  | .lookup query subdomain =>
    match server.registry.lookupBySubdomain subdomain with
    | none => some (server.setQuery query (.answered subdomain none))
    | some tunnel => some (server.setQuery query (.found subdomain tunnel))
  | .fetch query =>
    match server.query query with
    | .found subdomain tunnel =>
      if server.sessionsMu.isNone then
        some (server.setQuery query (.answered subdomain (server.sessions tunnel.tunnelID)))
      else none
    | _ => none

end Step

section Ownership

variable {Conn Query : Type}

def ConnPhase.session? : ConnPhase Conn → Option (TunnelSession Conn)
  | .announcing session | .announced session | .serving session | .removing session =>
    some session
  | _ => none

variable [DecidableEq Conn]

@[simp]
theorem setConn_self (server : Server Conn Query) (conn : Conn) (phase : ConnPhase Conn) :
    (server.setConn conn phase).conn conn = phase :=
  Function.update_self ..

@[simp]
theorem setConn_other (server : Server Conn Query) {conn other : Conn} (phase : ConnPhase Conn)
    (different : other ≠ conn) : (server.setConn conn phase).conn other = server.conn other :=
  Function.update_of_ne different ..

omit [DecidableEq Conn] in
theorem nextChoice_session? (choice : NameChoice) :
    (nextChoice choice : ConnPhase Conn).session? = none := by
  cases choice with
  | requested => rfl
  | random =>
    simp only [nextChoice]
    split <;> rfl

variable [DecidableEq Query]

/-- What a step does to the tables, one constructor per effect. -/
inductive ServerStep (server : Server Conn Query) :
    ServerAction Conn Query → Server Conn Query → Prop where
  | moved (action : ServerAction Conn Query) (conn : Conn) (phase : ConnPhase Conn) :
      action.handler? = some conn → (server.conn conn).session? = none → phase.session? = none →
      ServerStep server action (server.setConn conn phase)
  | registered (conn : Conn) (session : TunnelSession Conn) (drawn : Bytes)
      (idFree : server.registry.byFirst session.tunnelID = none)
      (nameFree : server.registry.bySecond session.subdomain = none) :
      (server.conn conn).session? = none → session.owner = conn →
      ServerStep server (.register conn session.tunnelID drawn)
        { server.setConn conn (.announcing session) with
          registry := server.registry.insert session idFree nameFree
          registered := session :: server.registered }
  | announced (conn : Conn) (session : TunnelSession Conn) :
      server.conn conn = .announcing session →
      ServerStep server (.announced conn) (server.setConn conn (.announced session))
  | withdrawn (action : ServerAction Conn Query) (conn : Conn) (session : TunnelSession Conn)
      (lock : Option Conn) : action.handler? = some conn →
      (server.conn conn).session? = some session → (∀ listed, server.conn conn ≠ .serving listed) →
      ServerStep server action
        { server.setConn conn .returned with
          registry := server.registry.unregister session.tunnelID
          sessionsMu := lock }
  | added (conn : Conn) (session : TunnelSession Conn) : server.conn conn = .announced session →
      ServerStep server (.addSession conn)
        { server.setConn conn (.serving session) with
          sessions := Function.update server.sessions session.tunnelID (some session) }
  | removed (conn : Conn) (session : TunnelSession Conn) : server.conn conn = .serving session →
      ServerStep server (.removeSession conn)
        { server.setConn conn (.removing session) with
          sessions := Function.update server.sessions session.tunnelID none
          sessionsMu := some conn }
  | missed (query : Query) (subdomain : Bytes) : ServerStep server (.lookup query subdomain)
        (server.setQuery query (.answered subdomain none))
  | found (query : Query) (subdomain : Bytes) (tunnel : TunnelSession Conn) :
      server.registry.bySecond subdomain = some tunnel →
      ServerStep server (.lookup query subdomain) (server.setQuery query (.found subdomain tunnel))
  | fetched (query : Query) (subdomain : Bytes) (tunnel : TunnelSession Conn) :
      server.query query = .found subdomain tunnel →
      ServerStep server (.fetch query)
        (server.setQuery query (.answered subdomain (server.sessions tunnel.tunnelID)))

variable {server next : Server Conn Query}

theorem tryRegister_step {conn : Conn} (choice : NameChoice) (tunnelID subdomain drawn : Bytes)
    (unowned : (server.conn conn).session? = none) :
    ServerStep server (.register conn tunnelID drawn)
      (server.tryRegister conn choice ⟨tunnelID, subdomain, conn⟩) := by
  unfold Server.tryRegister
  cases outcome : server.registry.register (some ⟨tunnelID, subdomain, conn⟩) with
  | mk _ err =>
    cases err with
    | none =>
      obtain ⟨idFree, nameFree, inserted⟩ := Registry.register_of_ok (congrArg Prod.snd outcome)
      rw [outcome] at inserted
      dsimp only at inserted ⊢
      subst inserted
      exact .registered conn ⟨tunnelID, subdomain, conn⟩ drawn idFree nameFree unowned rfl
    | some err =>
      have unchanged := Registry.register_of_error (congrArg Prod.snd outcome)
      rw [outcome] at unchanged
      dsimp only at unchanged
      subst unchanged
      cases err with
      | subdomainAlreadyRegistered =>
        exact .moved _ conn _ rfl unowned (nextChoice_session? choice)
      | _ => exact .moved _ conn _ rfl unowned rfl

theorem server_step_inv {action : ServerAction Conn Query}
    (stepped : server.step action = some next) : ServerStep server action next := by
  cases action with
  | authenticated conn =>
    simp only [Server.step] at stepped
    split at stepped <;> cases stepped
    next phase => exact .moved _ conn _ rfl (by rw [phase]; rfl) rfl
  | failed conn =>
    simp only [Server.step] at stepped
    split at stepped <;> cases stepped
    next phase => exact .moved _ conn _ rfl (by rw [phase]; rfl) rfl
    next phase => exact .moved _ conn _ rfl (by rw [phase]; rfl) rfl
    next phase => exact .moved _ conn _ rfl (by rw [phase]; rfl) rfl
  | chooseName conn =>
    simp only [Server.step] at stepped
    split at stepped
    next phase =>
      have unowned : (server.conn conn).session? = none := by rw [phase]; rfl
      repeat' split at stepped
      all_goals cases stepped
      · exact .moved _ conn _ rfl unowned rfl
      · exact .moved _ conn _ rfl unowned rfl
      exact .moved _ conn _ rfl unowned rfl
    · cases stepped
  | register conn tunnelID drawn =>
    simp only [Server.step] at stepped
    split at stepped
    next subdomain phase =>
      cases stepped
      exact tryRegister_step _ tunnelID subdomain drawn (by rw [phase]; rfl)
    next attempts phase =>
      have unowned : (server.conn conn).session? = none := by rw [phase]; rfl
      split at stepped <;> cases stepped
      · exact tryRegister_step _ tunnelID drawn drawn unowned
      · exact .moved _ conn _ rfl unowned (nextChoice_session? _)
    · cases stepped
  | announced conn =>
    simp only [Server.step] at stepped
    split at stepped <;> cases stepped
    next session phase => exact .announced conn session phase
  | announceFailed conn =>
    simp only [Server.step] at stepped
    split at stepped <;> cases stepped
    next session phase =>
      exact .withdrawn _ conn session _ rfl (by rw [phase]; rfl) (by simp [phase])
  | addSession conn =>
    simp only [Server.step] at stepped
    repeat' split at stepped
    all_goals cases stepped
    next session phase _ => exact .added conn session phase
  | removeSession conn =>
    simp only [Server.step] at stepped
    repeat' split at stepped
    all_goals cases stepped
    next session phase _ => exact .removed conn session phase
  | unregister conn =>
    simp only [Server.step] at stepped
    split at stepped <;> cases stepped
    next session phase =>
      exact .withdrawn _ conn session none rfl (by rw [phase]; rfl) (by simp [phase])
  | lookup query subdomain =>
    simp only [Server.step] at stepped
    split at stepped <;> cases stepped
    · exact .missed query subdomain
    next tunnel lookup => exact .found query subdomain tunnel lookup
  | fetch query =>
    simp only [Server.step] at stepped
    repeat' split at stepped
    all_goals cases stepped
    next subdomain tunnel phase _ => exact .fetched query subdomain tunnel phase

end Ownership

end Porthook.Gateway
