import Porthook.Gateway.Registry

/-!
# Consistency of the registry and the session table

A registry entry always belongs to the one handler that made it and that is still to take it out,
so the two tables agree in every state.  A public lookup reads them at two moments, and what it
returns is right because a tunnel id is not used twice.
-/

namespace Porthook.Gateway

open Protocol Transition

section Ownership

variable {Conn Query : Type} [DecidableEq Conn] [DecidableEq Query]
  {server next : Server Conn Query}

/-- Each registry entry is held by its owner, and each entry of the session
table belongs to a handler that serves it. -/
structure ServerInv (server : Server Conn Query) : Prop where
  held : ∀ conn session, (server.conn conn).session? = some session →
    session.owner = conn ∧ server.registry.byFirst session.tunnelID = some session
  owned : ∀ id session, server.registry.byFirst id = some session →
    (server.conn session.owner).session? = some session
  listed : ∀ id session, server.sessions id = some session →
    session.tunnelID = id ∧ server.conn session.owner = .serving session

omit [DecidableEq Conn] [DecidableEq Query] in
theorem serverInv_initial : ServerInv ({} : Server Conn Query) where
  held _ _ held := by cases held
  owned _ _ found := by cases found
  listed _ _ found := by cases found

variable {id : Bytes} {session : TunnelSession Conn} {conn : Conn}

omit [DecidableEq Conn] [DecidableEq Query] in
theorem ServerInv.serving (inv : ServerInv server) (found : server.sessions id = some session) :
    (server.conn session.owner).session? = some session := by
  rw [(inv.listed id session found).2]
  rfl

omit [DecidableEq Query] in
theorem ServerInv.update (inv : ServerInv server) {phase : ConnPhase Conn}
    {registry : Registry Conn} {sessions : Bytes → Option (TunnelSession Conn)} {lock : Option Conn}
    {registered : List (TunnelSession Conn)}
    (held : ∀ session, phase.session? = some session →
      session.owner = conn ∧ registry.byFirst session.tunnelID = some session)
    (kept : ∀ session, session.owner ≠ conn →
      server.registry.byFirst session.tunnelID = some session →
      registry.byFirst session.tunnelID = some session)
    (owned : ∀ id session, registry.byFirst id = some session →
      phase.session? = some session ∧ session.owner = conn ∨
        session.owner ≠ conn ∧ server.registry.byFirst id = some session)
    (listed : ∀ id session, sessions id = some session →
      (session.tunnelID = id ∧ session.owner = conn ∧ phase = .serving session) ∨
        session.owner ≠ conn ∧ server.sessions id = some session) :
    ServerInv { server.setConn conn phase with
      registry, sessions, sessionsMu := lock, registered } where
  held other session holds := by
    dsimp only at holds ⊢
    by_cases same : other = conn
    · rw [same, setConn_self] at holds
      rw [same]
      exact held session holds
    · rw [setConn_other _ _ same] at holds
      obtain ⟨mine, found⟩ := inv.held other session holds
      exact ⟨mine, kept session (mine ▸ same) found⟩
  owned id session found := by
    dsimp only at found ⊢
    rcases owned id session found with ⟨holds, mine⟩ | ⟨foreign, before⟩
    · rw [mine, setConn_self]
      exact holds
    · rw [setConn_other _ _ foreign]
      exact inv.owned id session before
  listed id session found := by
    dsimp only at found ⊢
    rcases listed id session found with ⟨keyed, mine, serving⟩ | ⟨foreign, before⟩
    · rw [mine, setConn_self]
      exact ⟨keyed, serving⟩
    · rw [setConn_other _ _ foreign]
      exact inv.listed id session before

omit [DecidableEq Conn] [DecidableEq Query] in
theorem ServerInv.foreign (inv : ServerInv server)
    (found : server.registry.byFirst id = some session)
    (other : (server.conn conn).session? ≠ some session) : session.owner ≠ conn := by
  intro mine
  apply other
  rw [← mine]
  exact inv.owned id session found

omit [DecidableEq Conn] [DecidableEq Query] in
theorem ServerInv.notServing (inv : ServerInv server) (found : server.sessions id = some session)
    (other : server.conn conn ≠ .serving session) : session.owner ≠ conn := by
  intro mine
  apply other
  rw [← mine]
  exact (inv.listed id session found).2

omit [DecidableEq Conn] [DecidableEq Query] in
theorem ServerInv.mine_or_foreign (inv : ServerInv server) {other : TunnelSession Conn}
    (holds : (server.conn conn).session? = some session)
    (found : server.registry.byFirst id = some other) :
    some session = some other ∧ other.owner = conn ∨
      other.owner ≠ conn ∧ server.registry.byFirst id = some other := by
  by_cases mine : other.owner = conn
  · refine .inl ⟨?_, mine⟩
    rw [← holds, ← mine]
    exact inv.owned id other found
  · exact .inr ⟨mine, found⟩

omit [DecidableEq Query] in
theorem ServerInv.registered (inv : ServerInv server)
    (idFree : server.registry.byFirst session.tunnelID = none)
    (nameFree : server.registry.bySecond session.subdomain = none)
    (unowned : (server.conn conn).session? = none) (mine : session.owner = conn) :
    ServerInv { server.setConn conn (.announcing session) with
      registry := server.registry.insert session idFree nameFree
      registered := session :: server.registered } := by
  apply inv.update
  · intro held holds
    cases holds
    exact ⟨mine, by rw [TwoIndex.byFirst_insert, if_pos rfl]⟩
  · intro other _ found
    rw [TwoIndex.byFirst_insert, if_neg, found]
    intro same
    rw [same, idFree] at found
    cases found
  · intro id other found
    rw [TwoIndex.byFirst_insert] at found
    split at found
    · cases found
      exact .inl ⟨rfl, mine⟩
    · exact .inr ⟨inv.foreign found (by rw [unowned]; exact (Option.some_ne_none _).symm), found⟩
  · intro id other found
    refine .inr ⟨inv.notServing found ?_, found⟩
    intro serving
    rw [serving] at unowned
    cases unowned

omit [DecidableEq Query] in
theorem ServerInv.withdrawn (inv : ServerInv server) (lock : Option Conn)
    (holds : (server.conn conn).session? = some session)
    (notServing : ∀ listed, server.conn conn ≠ .serving listed) :
    ServerInv { server.setConn conn .returned with
      registry := server.registry.unregister session.tunnelID
      sessionsMu := lock } := by
  obtain ⟨mine, present⟩ := inv.held conn session holds
  rw [Registry.unregister_eq_erase present]
  apply inv.update
  · intro held returned
    cases returned
  · intro other foreign found
    rw [TwoIndex.byFirst_erase, if_neg, found]
    intro same
    rw [same, present] at found
    cases found
    exact foreign mine
  · intro id other found
    rw [TwoIndex.byFirst_erase] at found
    split at found
    · cases found
    next different =>
      refine .inr ⟨inv.foreign found ?_, found⟩
      intro same
      rw [holds] at same
      cases same
      exact different (server.registry.first_sound _ _ found).1.symm
  · intro id other found
    exact .inr ⟨inv.notServing found (notServing other), found⟩

omit [DecidableEq Query] in
theorem ServerInv.relisted (inv : ServerInv server) {phase : ConnPhase Conn} {lock : Option Conn}
    {sessions : Bytes → Option (TunnelSession Conn)}
    (holds : (server.conn conn).session? = some session) (still : phase.session? = some session)
    (listed : ∀ id session, sessions id = some session →
      (session.tunnelID = id ∧ session.owner = conn ∧ phase = .serving session) ∨
        session.owner ≠ conn ∧ server.sessions id = some session) :
    ServerInv { server.setConn conn phase with sessions, sessionsMu := lock } := by
  refine inv.update ?_ (fun _ _ found => found) ?_ listed
  · intro held same
    cases still.symm.trans same
    exact inv.held conn session holds
  · intro id other found
    rw [still]
    exact inv.mine_or_foreign holds found

theorem serverInv_step {action : ServerAction Conn Query} (inv : ServerInv server)
    (stepped : ServerStep server action next) : ServerInv next := by
  cases stepped with
  | moved _ conn phase _ unowned idle =>
    apply inv.update
    · intro session holds
      rw [idle] at holds
      cases holds
    · exact fun session _ found => found
    · intro id session found
      exact .inr ⟨inv.foreign found (by rw [unowned]; exact (Option.some_ne_none _).symm), found⟩
    · intro id session found
      refine .inr ⟨inv.notServing found ?_, found⟩
      intro serving
      rw [serving] at unowned
      cases unowned
  | registered conn session drawn idFree nameFree unowned mine =>
    exact inv.registered idFree nameFree unowned mine
  | announced conn session phase =>
    have holds : (server.conn conn).session? = some session := by rw [phase]; rfl
    refine inv.relisted holds rfl fun id other found => ?_
    exact .inr ⟨inv.notServing found (by rw [phase]; exact by rintro ⟨⟩), found⟩
  | withdrawn _ conn session lock _ holds notServing => exact inv.withdrawn lock holds notServing
  | added conn session phase =>
    have holds : (server.conn conn).session? = some session := by rw [phase]; rfl
    obtain ⟨mine, -⟩ := inv.held conn session holds
    refine inv.relisted holds rfl fun id other found => ?_
    by_cases keyed : id = session.tunnelID
    · rw [keyed, Function.update_self] at found
      cases found
      exact .inl ⟨keyed.symm, mine, rfl⟩
    · rw [Function.update_of_ne keyed] at found
      exact .inr ⟨inv.notServing found (by rw [phase]; exact by rintro ⟨⟩), found⟩
  | removed conn session phase =>
    have holds : (server.conn conn).session? = some session := by rw [phase]; rfl
    refine inv.relisted holds rfl fun id other found => ?_
    by_cases keyed : id = session.tunnelID
    · rw [keyed, Function.update_self] at found
      cases found
    · rw [Function.update_of_ne keyed] at found
      refine .inr ⟨inv.notServing found ?_, found⟩
      intro serving
      rw [phase] at serving
      cases serving
      exact keyed (inv.listed id session found).1.symm
  | missed | found | fetched => exact ⟨inv.held, inv.owned, inv.listed⟩

end Ownership

section Lookups

variable {Conn Query : Type} [DecidableEq Conn] [DecidableEq Query]
  {server next : Server Conn Query}

/-- The generator returns an id that no registered session has had. -/
def FreshTunnelID (server : Server Conn Query) : ServerAction Conn Query → Prop
  | .register _ tunnelID _ => ∀ session ∈ server.registered, session.tunnelID ≠ tunnelID
  | _ => True

/-- What a lookup has found so far.  The session that the second lookup finds
can be a later one than the tunnel of the first, but only under a new id. -/
structure LookupInv (server : Server Conn Query) : Prop where
  recorded : ∀ id session, server.registry.byFirst id = some session → session ∈ server.registered
  distinct : ∀ first ∈ server.registered, ∀ second ∈ server.registered,
    first.tunnelID = second.tunnelID → first = second
  found : ∀ query subdomain tunnel, server.query query = .found subdomain tunnel →
    tunnel.subdomain = subdomain ∧ tunnel ∈ server.registered
  answered : ∀ query subdomain session, server.query query = .answered subdomain (some session) →
    session.subdomain = subdomain

omit [DecidableEq Conn] [DecidableEq Query] in
theorem lookupInv_initial : LookupInv ({} : Server Conn Query) where
  recorded _ _ found := by cases found
  distinct _ member := by cases member
  found _ _ _ phase := by cases phase
  answered _ _ _ phase := by cases phase

omit [DecidableEq Conn] in
theorem setQuery_self (server : Server Conn Query) (query : Query) (phase : QueryPhase Conn) :
    (server.setQuery query phase).query query = phase :=
  Function.update_self ..

omit [DecidableEq Conn] in
theorem setQuery_other (server : Server Conn Query) {query other : Query}
    (phase : QueryPhase Conn) (different : other ≠ query) :
    (server.setQuery query phase).query other = server.query other :=
  Function.update_of_ne different ..

omit [DecidableEq Conn] in
theorem LookupInv.setQuery (inv : LookupInv server) {query : Query} {phase : QueryPhase Conn}
    (found : ∀ subdomain tunnel, phase = .found subdomain tunnel →
      tunnel.subdomain = subdomain ∧ tunnel ∈ server.registered)
    (answered : ∀ subdomain session, phase = .answered subdomain (some session) →
      session.subdomain = subdomain) : LookupInv (server.setQuery query phase) where
  recorded := inv.recorded
  distinct := inv.distinct
  found other subdomain tunnel now := by
    by_cases same : other = query
    · rw [same, setQuery_self] at now
      exact found subdomain tunnel now
    · rw [setQuery_other _ _ same] at now
      exact inv.found other subdomain tunnel now
  answered other subdomain session now := by
    by_cases same : other = query
    · rw [same, setQuery_self] at now
      exact answered subdomain session now
    · rw [setQuery_other _ _ same] at now
      exact inv.answered other subdomain session now

theorem lookupInv_step {action : ServerAction Conn Query} (owned : ServerInv server)
    (inv : LookupInv server) (fresh : FreshTunnelID server action)
    (stepped : ServerStep server action next) : LookupInv next := by
  cases stepped with
  | moved | announced | added | removed =>
    exact ⟨inv.recorded, inv.distinct, inv.found, inv.answered⟩
  | registered =>
    refine ⟨fun id other found => ?_, ?_, fun query subdomain tunnel phase => ?_, inv.answered⟩
    · dsimp only at found ⊢
      rw [TwoIndex.byFirst_insert] at found
      split at found
      · cases found
        exact List.mem_cons_self
      · exact List.mem_cons_of_mem _ (inv.recorded id other found)
    · intro first firstMember second secondMember same
      rcases List.mem_cons.mp firstMember with rfl | firstOld
      · rcases List.mem_cons.mp secondMember with rfl | secondOld
        · rfl
        · exact absurd same.symm (fresh second secondOld)
      · rcases List.mem_cons.mp secondMember with rfl | secondOld
        · exact absurd same (fresh first firstOld)
        · exact inv.distinct first firstOld second secondOld same
    · obtain ⟨named, member⟩ := inv.found query subdomain tunnel phase
      exact ⟨named, List.mem_cons_of_mem _ member⟩
  | withdrawn _ conn session _ _ holds =>
    refine ⟨fun id other found => ?_, inv.distinct, inv.found, inv.answered⟩
    dsimp only at found ⊢
    rw [Registry.unregister_eq_erase (owned.held conn session holds).2,
      TwoIndex.byFirst_erase] at found
    split at found
    · cases found
    · exact inv.recorded id other found
  | missed =>
    apply inv.setQuery
    · exact by rintro _ _ ⟨⟩
    · exact by rintro _ _ ⟨⟩
  | found _ subdomain tunnel lookup =>
    obtain ⟨named, registered⟩ := server.registry.second_sound subdomain tunnel lookup
    apply inv.setQuery
    · intro _ _ phase
      cases phase
      exact ⟨named, inv.recorded _ tunnel registered⟩
    · exact by rintro _ _ ⟨⟩
  | fetched query subdomain tunnel phase =>
    obtain ⟨named, member⟩ := inv.found query subdomain tunnel phase
    apply inv.setQuery
    · exact by rintro _ _ ⟨⟩
    intro asked session answer
    simp only [QueryPhase.answered.injEq] at answer
    obtain ⟨rfl, fetched⟩ := answer
    -- the session is registered under the id of the tunnel, so it is the tunnel
    have registered := (owned.held _ _ (owned.serving fetched)).2
    have same := inv.distinct session (inv.recorded _ session registered) tunnel member
      (owned.listed _ session fetched).1
    rw [same]
    exact named

/-- The two indexes of the registry hold the same sessions, each under its own keys; every entry of
the session table is registered; and every registered session is held by exactly one handler. -/
structure Server.Consistent (server : Server Conn Query) : Prop where
  byTunnelID : ∀ id session, server.registry.lookupByTunnelID id = some session →
    session.tunnelID = id ∧ server.registry.lookupBySubdomain session.subdomain = some session
  bySubdomain : ∀ name session, server.registry.lookupBySubdomain name = some session →
    session.subdomain = name ∧ server.registry.lookupByTunnelID session.tunnelID = some session
  sessions : ∀ id session, server.sessions id = some session →
    server.registry.lookupByTunnelID id = some session
  owner : ∀ id session, server.registry.lookupByTunnelID id = some session →
    ∃ conn, (server.conn conn).session? = some session ∧
      ∀ other, (server.conn other).session? = some session → other = conn

def Server.LookupsSound (server : Server Conn Query) : Prop :=
  ∀ query subdomain session, server.query query = .answered subdomain (some session) →
    session.subdomain = subdomain

omit [DecidableEq Conn] [DecidableEq Query] in
theorem ServerInv.consistent (inv : ServerInv server) : server.Consistent where
  byTunnelID := server.registry.first_sound
  bySubdomain := server.registry.second_sound
  sessions id session found := by
    have registered := (inv.held _ _ (inv.serving found)).2
    rwa [(inv.listed id session found).1] at registered
  owner id session found :=
    ⟨session.owner, inv.owned id session found,
      fun other holds => (inv.held other session holds).1.symm⟩

theorem announceFailed_registry {conn : Conn} (inv : ServerInv server)
    (stepped : server.step (.announceFailed conn) = some next) (id : Bytes)
    (session : TunnelSession Conn) :
    next.registry.lookupByTunnelID id = some session ↔
      server.registry.lookupByTunnelID id = some session ∧ session.owner ≠ conn := by
  simp only [Server.step] at stepped
  split at stepped <;> cases stepped
  next mine phase =>
    have holds : (server.conn conn).session? = some mine := by rw [phase]; rfl
    obtain ⟨owner, present⟩ := inv.held conn mine holds
    rw [Registry.unregister_eq_erase present, Registry.lookupByTunnelID, TwoIndex.byFirst_erase]
    split
    next same =>
      refine ⟨fun found => (by cases found), ?_⟩
      rintro ⟨found, foreign⟩
      rw [same, Registry.lookupByTunnelID, present] at found
      cases found
      exact absurd owner foreign
    next different =>
      refine ⟨fun found => ⟨found, ?_⟩, fun found => found.1⟩
      apply inv.foreign found
      intro same
      rw [holds] at same
      cases same
      exact different (server.registry.first_sound _ _ found).1.symm

/-- In every reachable state the tables are consistent, and lookups are right if tunnel ids do not
repeat.  A registration that fails leaves the registry as it was. -/
theorem registry_consistent (Conn Query : Type) [DecidableEq Conn] [DecidableEq Query] :
    (∀ actions : List (ServerAction Conn Query), Always Server.step Server.Consistent {} actions ∧
      (Guarded Server.step FreshTunnelID {} actions →
        Always Server.step Server.LookupsSound {} actions)) ∧
    (∀ (registry : Registry Conn) (session : Option (TunnelSession Conn)) (err : RegisterError),
      (registry.register session).2 = some err → (registry.register session).1 = registry) ∧
    (∀ (registry : Registry Conn) (session : TunnelSession Conn),
      (registry.register (some session)).2 = none →
      (registry.register (some session)).1.unregister session.tunnelID = registry) ∧
    (∀ (server next : Server Conn Query) (conn : Conn), Reaches Server.step {} server →
      server.step (.announceFailed conn) = some next → ∀ id session,
      (next.registry.lookupByTunnelID id = some session ↔
        server.registry.lookupByTunnelID id = some session ∧ session.owner ≠ conn)) := by
  have step_keeps (server : Server Conn Query) (action : ServerAction Conn Query)
      (next : Server Conn Query) (inv : ServerInv server)
      (stepped : server.step action = some next) : ServerInv next :=
    serverInv_step inv (server_step_inv stepped)
  refine ⟨fun actions => ⟨?_, fun fresh => ?_⟩,
    fun registry session err => Registry.register_of_error,
    fun registry session => Registry.unregister_register,
    fun server next conn reached stepped => ?_⟩
  · have owned := always_of_invariant step_keeps serverInv_initial actions
    exact owned.mono fun server inv => inv.consistent
  · have sound := always_of_guarded
      (fun server action next (inv : ServerInv server ∧ LookupInv server) fresh stepped =>
        ⟨step_keeps server action next inv.1 stepped,
          lookupInv_step inv.1 inv.2 fresh (server_step_inv stepped)⟩)
      ⟨serverInv_initial, lookupInv_initial⟩ fresh
    exact sound.mono fun server inv => inv.2.answered
  · exact announceFailed_registry (reaches_invariant step_keeps serverInv_initial reached) stepped

end Lookups

end Porthook.Gateway
