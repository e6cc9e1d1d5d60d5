import Porthook.ControlPlane.Lookups
import Porthook.Gateway.ForwardedHeaders
import Porthook.Gateway.RateLimit
import Porthook.Gateway.Routing
import Porthook.Gateway.SessionTable

/-!
# What protects a tunnel

The gateway checks every public request against the access policy of the name it is routed to.  The
policy belongs to the reservation of the name, and the tunnel does not: it stays connected when the
reservation is deleted, and a name without a reservation is public.
-/

namespace Porthook.Tunnel

open Protocol Transition Gateway ControlPlane

structure ExposureConfig where
  rootDomain : Bytes
  requestsPerSecond : Int := 0
  burst : Int := 0
  customDomainCacheTTL : Int := -1
  customDomainMissTTL : Int := -1
  authAttemptLimit : Int := 0
  authAttemptWindow : Int := 0
  clientIPs : ClientIP.Resolver := ⟨[]⟩
  backend : Backend := .memory
  hashing : Hashing
  basicAuth : Header → Option (Bytes × Bytes) := fun _ => none

/-- What the exchange about an access policy gets from outside: the address that the
control plane sees, and what its stores do. -/
structure AccessDraw where
  remoteIP : Bytes := []
  reservation : ReservationDraw := {}
  policy : List PolicyDraw := [{}, {}]

/-- Three readings of the clock, the exchanges with the control plane, where `none` is one that
fails, and whether `newStreamID` works. -/
structure RequestDraw where
  started : Nat := 0
  resolvedAt : Nat := 0
  limitedAt : Nat := 0
  domain : Option (DomainDraw × ReservationDraw) := some ({}, {})
  access : Option AccessDraw := some {}
  streamID : Bool := true

/-- How `handlePublicRequest` ends, as far as the stream. -/
inductive PublicOutcome (Conn : Type) where
  | customDomainLookupFailed (err : RouteError)
  | missed (route : HostRoute)
  | noActiveSession
  | rateLimited
  | authAttemptsLimited
  | accessPolicyUnavailable
  | accessDenied (subdomain : Bytes) (access : AccessPolicyEvaluation)
  | streamIDFailed
  | forwarded (session : TunnelSession Conn) (access : AccessPolicyEvaluation)

structure Exposure (Conn Query Id : Type) where
  server : Server Conn Query := {}
  limiters : Conn → Option RateLimiter := fun _ => none
  throttle : AuthAttemptThrottle
  resolver : CustomDomainCache
  reservations : Calls.State Id ReservationStore ReservationRequest ReservationCall
    ReservationDraw ReservationReply := { store := .empty }
  policies : Calls.State Id PolicyStore PolicyRequest PolicyCall PolicyDraw PolicyReply :=
    { store := .empty }
  domains : Calls.State Id DomainStore DomainRequest DomainCall DomainDraw DomainReply :=
    { store := .empty }

inductive ExposureAction (Conn Query Id : Type) where
  | gateway (action : ServerAction Conn Query) (now : Nat)
  | request (request : HTTPRequest) (draw : RequestDraw)
  | reservations (action : Calls.Action Id ReservationRequest ReservationDraw)
  | policies (action : Calls.Action Id PolicyRequest PolicyDraw)
  | domains (action : Calls.Action Id DomainRequest DomainDraw)

def Exposure.initial {Conn Query Id : Type} (cfg : ExposureConfig) : Exposure Conn Query Id where
  throttle := newAuthAttemptThrottle cfg.authAttemptLimit cfg.authAttemptWindow
  resolver := newCachedCustomDomainResolver cfg.customDomainCacheTTL cfg.customDomainMissTTL

/-- `sessionBySubdomain`, with both lookups at one time. -/
def sessionBySubdomain {Conn Query : Type} (server : Server Conn Query) (subdomain : Bytes) :
    Option (TunnelSession Conn) :=
  (server.registry.lookupBySubdomain subdomain).bind fun tunnel => server.sessions tunnel.tunnelID

def bearerToken (header : Header) : Bytes :=
  match cutPrefix? (header.get (ascii "Authorization")) (ascii "Bearer ") with
  | none => []
  | some token => trimSpace token

def received (response : LookupCustomDomainResponse) : CustomDomainResolution where
  found := response.found
  reason := receivedFrom 0 response.reason
  hostname := receivedFrom 0 response.hostname
  customDomainID := receivedFrom 0 response.customDomainID
  reservedSubdomainID := receivedFrom 0 response.reservedSubdomainID
  subdomain := receivedFrom 0 response.subdomain
  status := receivedFrom 0 response.status

section Step

variable {Conn Query Id : Type} [DecidableEq Conn] [DecidableEq Query] [DecidableEq Id]
variable (cfg : ExposureConfig) (state : Exposure Conn Query Id)

def authAttemptKey (subdomain : Bytes) (request : HTTPRequest) : Bytes :=
  subdomain ++ ascii "|" ++ cfg.clientIPs.resolveString request.remoteAddr request.header

def Exposure.lookup (draw : Option (DomainDraw × ReservationDraw)) (hostname : Bytes) :
    Option CustomDomainResolution :=
  draw.bind fun (domain, reservation) =>
    match lookupCustomDomain state.reservations.store state.domains.store (receivedFrom 0 hostname)
        domain reservation with
    | .error _ => none
    | .ok response => some (received response)

def evaluationRequest (subdomain : Bytes) (request : HTTPRequest) : EvaluateAccessPolicyRequest :=
  let (username, password) := (cfg.basicAuth request.header).getD ([], [])
  { subdomain := receivedFrom 0 subdomain
    remoteIP := receivedFrom 0 (cfg.clientIPs.resolveString request.remoteAddr request.header)
    basicUsername := receivedFrom 0 username
    basicPassword := receivedFrom 0 password
    bearerToken := receivedFrom 0 (bearerToken request.header) }

/-- `evaluatePublicAccess`: every answer but a result is an error. -/
def Exposure.evaluatePublicAccess (subdomain : Bytes) (request : HTTPRequest) :
    Option AccessDraw → PolicyStore × Option AccessPolicyEvaluation
  | none => (state.policies.store, none)
  | some draw =>
    match answerEvaluation cfg.hashing draw.remoteIP state.reservations.store
        state.policies.store (evaluationRequest cfg subdomain request) draw.reservation
        draw.policy with
    | (policies, .error _) => (policies, none)
    | (policies, .ok result) => (policies, some ⟨result.allowed, result.mode.text⟩)

/-- The access check of `handlePublicRequest` for a session that it has found. -/
def Exposure.checkAccess (subdomain : Bytes) (session : TunnelSession Conn)
    (request : HTTPRequest) (draw : RequestDraw) : Exposure Conn Query Id × PublicOutcome Conn :=
  let key := authAttemptKey cfg subdomain request
  if state.throttle.blocked key draw.started then (state, .authAttemptsLimited)
  else
    let (store, evaluated) := state.evaluatePublicAccess cfg subdomain request draw.access
    let state := { state with policies := { state.policies with store } }
    match evaluated with
    | none => (state, .accessPolicyUnavailable)
    | some access =>
      if !access.allowed then
        let throttle :=
          if access.mode = ascii "basic_auth" ∨ access.mode = ascii "bearer_token" then
            state.throttle.recordFailure key draw.started
          else state.throttle
        ({ state with throttle }, .accessDenied subdomain access)
      else if draw.streamID then (state, .forwarded session access)
      else (state, .streamIDFailed)

def Exposure.handlePublicRequest (request : HTTPRequest) (draw : RequestDraw) :
    Exposure Conn Query Id × PublicOutcome Conn :=
  let (resolver, routing) := routeForHost cfg.rootDomain state.resolver request.host
    draw.resolvedAt (state.lookup draw.domain)
  let state := { state with resolver }
  match routing with
  | .failed err => (state, .customDomainLookupFailed err)
  | .missed route => (state, .missed route)
  | .routed route =>
    match sessionBySubdomain state.server route.subdomain with
    | none => (state, .noActiveSession)
    | some session =>
      let (limiter, allowed) := allowAt (state.limiters session.owner) draw.limitedAt
      let state :=
        { state with limiters := Function.update state.limiters session.owner limiter }
      if allowed then state.checkAccess cfg route.subdomain session request draw
      else (state, .rateLimited)

def Exposure.deletes? : Calls.Action Id ReservationRequest ReservationDraw → Option Bytes
  | .start _ _ => none
  | .advance id draw =>
    match state.reservations.calls id with
    | some (.removing reservation) => if draw.storeFails then none else some reservation
    | _ => none

/-- The foreign keys of the database delete what refers to a reservation. -/
def Exposure.cascade (reservation : Bytes) : Exposure Conn Query Id :=
  match cfg.backend with
  | .memory => state
  | .postgres => { state with
      policies := { state.policies with
        store := state.policies.store.filter fun policy =>
          policy.reservedSubdomainID ≠ reservation }
      domains := { state.domains with
        store := state.domains.store.filter fun domain =>
          domain.reservedSubdomainID ≠ reservation } }

def Exposure.limitersAfter (now : Nat) : ServerAction Conn Query → Conn → Option RateLimiter
  | .addSession conn =>
    Function.update state.limiters conn (newRateLimiter cfg.requestsPerSecond cfg.burst now)
  | _ => state.limiters

def Exposure.step : ExposureAction Conn Query Id → Option (Exposure Conn Query Id)
  | .gateway action now => (state.server.step action).map fun server =>
    { state with server, limiters := state.limitersAfter cfg now action }
  | .request request draw => some (state.handlePublicRequest cfg request draw).1
  | .reservations action =>
    (reservationService.step state.reservations action).map fun reservations =>
      match state.deletes? action with
      | none => { state with reservations }
      | some reservation => { state with reservations }.cascade cfg reservation
  | .policies action => ((policyService cfg.hashing).step state.policies action).map
      fun policies => { state with policies }
  | .domains action => (domainService.step state.domains action).map
      fun domains => { state with domains }

def NotReserving (subdomain : Bytes) (state : Exposure Conn Query Id) :
    ExposureAction Conn Query Id → Prop
  | .reservations (.advance id _) => ∀ request, state.reservations.calls id =
      some (.creating request) → normalizeName request.name ≠ .ok subdomain
  | _ => True

def Forwards (request : HTTPRequest) (draw : RequestDraw) (session : TunnelSession Conn) : Prop :=
  ∃ access, (state.handlePublicRequest cfg request draw).2 = .forwarded session access

def RequestDraw.AsksControlPlane (draw : RequestDraw) : Prop :=
  ∃ access, draw.access = some access ∧ access.reservation.storeFails = false

/-- Something other than the policy keeps a request from the tunnel: its host, unless a custom
domain is still cached, a limit, or an error of the gateway. -/
def ShutOut (subdomain : Bytes) (request : HTTPRequest) (draw : RequestDraw)
    (session : TunnelSession Conn) : Prop :=
  knownSubdomain cfg.rootDomain state.resolver request.host draw.resolvedAt ≠ some subdomain ∨
    peekAt (state.limiters session.owner) draw.limitedAt = false ∨
    state.throttle.blocked (authAttemptKey cfg subdomain request) draw.started = true ∨
    ¬ draw.AsksControlPlane ∨ draw.streamID = false

end Step

section Requests

variable {Conn Query Id : Type} [DecidableEq Conn] {cfg : ExposureConfig}
  {state : Exposure Conn Query Id}

variable {subdomain : Bytes} {request : HTTPRequest} {draw : RequestDraw}
    {session : TunnelSession Conn}

omit [DecidableEq Conn] in
theorem evaluatePublicAccess_unreserved (request : HTTPRequest) {draw : AccessDraw}
    (valid : validateSubdomain subdomain) (works : draw.reservation.storeFails = false)
    (unreserved : state.reservations.store.lookupByName subdomain = none) :
    state.evaluatePublicAccess cfg subdomain request (some draw) =
      (state.policies.store, some ⟨true, ascii "public"⟩) := by
  have sent : (evaluationRequest cfg subdomain request).subdomain = subdomain :=
    receivedFrom_subdomain valid
  have trimmed : trimSpace subdomain = subdomain := trimSpace_subdomain valid
  simp only [Exposure.evaluatePublicAccess, answerEvaluation, sent, trimmed,
    if_neg (subdomain_ne_nil valid)]
  rw [evaluateAccessPolicy_unreserved cfg.hashing state.policies.store draw.policy valid works
    unreserved]
  rfl

omit [DecidableEq Conn] in
theorem evaluatePublicAccess_unanswered (unasked : ¬ draw.AsksControlPlane) :
    (state.evaluatePublicAccess cfg subdomain request draw.access).2 = none := by
  cases asked : draw.access with
  | none => rfl
  | some access =>
    have fails : access.reservation.storeFails = true := by
      by_contra works
      exact unasked ⟨access, asked, by simpa using works⟩
    simp only [Exposure.evaluatePublicAccess, answerEvaluation]
    split
    · rfl
    next result answered =>
      split at answered
      · cases answered
      obtain ⟨_, failed⟩ := evaluateAccessPolicy_storeFails cfg.hashing
        state.reservations.store state.policies.store access.policy fails
      rw [failed] at answered
      cases answered

omit [DecidableEq Conn] in
theorem checkAccess_forwarded_iff {other : TunnelSession Conn} {access : AccessPolicyEvaluation} :
    (state.checkAccess cfg subdomain session request draw).2 = .forwarded other access ↔
      session = other ∧
        state.throttle.blocked (authAttemptKey cfg subdomain request) draw.started = false ∧
        (state.evaluatePublicAccess cfg subdomain request draw.access).2 = some access ∧
        access.allowed = true ∧ draw.streamID = true := by
  unfold Exposure.checkAccess
  dsimp only
  split
  next blocked => simp [blocked]
  next free =>
    split
    next unavailable => simp [unavailable]
    next evaluated found =>
      split
      next denied =>
        simp only [Bool.not_eq_true'] at denied
        constructor
        · intro forwarded
          cases forwarded
        · rintro ⟨-, -, same, allowed, -⟩
          rw [found] at same
          cases same
          rw [denied] at allowed
          cases allowed
      next allowed =>
        split
        next drawn =>
          simp only [Bool.not_eq_true', Bool.not_eq_false] at allowed
          simp only [Bool.not_eq_true] at free
          simp only [PublicOutcome.forwarded.injEq, free, found, Option.some.injEq, drawn,
            true_and, and_true]
          constructor
          · rintro ⟨rfl, rfl⟩
            exact ⟨rfl, rfl, allowed⟩
          · rintro ⟨rfl, rfl, -⟩
            exact ⟨rfl, rfl⟩
        next undrawn =>
          simp [undrawn]

theorem forwards_iff :
    Forwards cfg state request draw session ↔
      ∃ resolver route, routeForHost cfg.rootDomain state.resolver request.host draw.resolvedAt
            (state.lookup draw.domain) = (resolver, .routed route) ∧
        sessionBySubdomain state.server route.subdomain = some session ∧
        peekAt (state.limiters session.owner) draw.limitedAt = true ∧
        state.throttle.blocked (authAttemptKey cfg route.subdomain request) draw.started = false ∧
        draw.streamID = true ∧
        ∃ access, access.allowed = true ∧
          (state.evaluatePublicAccess cfg route.subdomain request draw.access).2 = some access := by
  unfold Forwards Exposure.handlePublicRequest
  cases routing : routeForHost cfg.rootDomain state.resolver request.host draw.resolvedAt
      (state.lookup draw.domain) with
  | mk resolver result =>
    cases result with
    | failed | missed => simp
    | routed route =>
      dsimp only
      cases found : sessionBySubdomain state.server route.subdomain with
      | none => simp [found]
      | some =>
        dsimp only
        rw [allowAt_eq_peekAt]
        constructor
        · rintro ⟨access, forwarded⟩
          split at forwarded
          next passes =>
            obtain ⟨rfl, free, evaluated, allowed, drawn⟩ :=
              checkAccess_forwarded_iff.mp forwarded
            exact ⟨resolver, route, rfl, found, passes, free, drawn, access, allowed,
              evaluated⟩
          · cases forwarded
        · rintro ⟨_, _, same, there, passes, free, drawn, access, allowed, evaluated⟩
          cases same
          rw [found] at there
          cases there
          rw [if_pos passes]
          exact ⟨access, checkAccess_forwarded_iff.mpr
            ⟨rfl, free, evaluated, allowed, drawn⟩⟩

/-- The handlers keep their tables consistent, and every reserved name is valid. -/
structure ExposureInv (state : Exposure Conn Query Id) : Prop where
  server : ServerInv state.server
  names : ∀ reservation ∈ state.reservations.store.rows,
    validateSubdomain reservation.name = true

omit [DecidableEq Conn] in
theorem exposureInv_initial : ExposureInv (Exposure.initial cfg : Exposure Conn Query Id) where
  server := serverInv_initial
  names _ member := by cases member

omit [DecidableEq Conn] in
theorem ExposureInv.session_subdomain (inv : ExposureInv state)
    (found : sessionBySubdomain state.server subdomain = some session) :
    session.subdomain = subdomain := by
  obtain ⟨_, registered, listed⟩ := Option.bind_eq_some_iff.mp found
  have consistent := inv.server.consistent
  obtain ⟨named, byID⟩ := consistent.bySubdomain _ _ registered
  have same := (consistent.sessions _ _ listed).symm.trans byID
  cases same
  exact named

/-- The host is an active custom domain, and its reservation has the name. -/
def StandsFor (state : Exposure Conn Query Id) (hostname name : Bytes) : Prop :=
  ∃ record ∈ state.domains.store.rows,
    normalizeHostname (receivedFrom 0 hostname) = .ok record.hostname ∧ record.status = .active ∧
    ∃ reservation ∈ state.reservations.store.rows,
      reservation.id = trimSpace record.reservedSubdomainID ∧ reservation.name = name

omit [DecidableEq Conn] in
theorem ExposureInv.standsFor (inv : ExposureInv state)
    {draw : Option (DomainDraw × ReservationDraw)} {hostname : Bytes}
    {result : CustomDomainResolution} {route : HostRoute}
    (looked : state.lookup draw hostname = some result)
    (resolved : routeForResolution hostname result = .routed route) :
    StandsFor state hostname route.subdomain := by
  obtain ⟨⟨_, _⟩, -, answered⟩ := Option.bind_eq_some_iff.mp looked
  dsimp only at answered
  split at answered
  · cases answered
  next response asked =>
    cases answered
    obtain ⟨found, named, -⟩ := routeForResolution_routed resolved
    obtain ⟨record, stored, normalized, active, reservation, member, mapped, same⟩ :=
      lookupCustomDomain_found asked found
    have valid := inv.names reservation member
    refine ⟨record, stored, normalized, active, reservation, member, mapped, ?_⟩
    rw [named]
    simp only [received, same]
    rw [receivedFrom_subdomain valid, trimSpace_subdomain valid, toLower_subdomain valid]

/-- Whether a request reaches the tunnel of a name without a reservation has nothing to
do with the request's credentials. -/
theorem ExposureInv.forwards_unreserved (inv : ExposureInv state) (request : HTTPRequest)
    (draw : RequestDraw) (connected : sessionBySubdomain state.server subdomain = some session)
    (unreserved : state.reservations.store.lookupByName subdomain = none) :
    ¬ Forwards cfg state request draw session ↔
      ShutOut cfg state subdomain request draw session := by
  rw [forwards_iff, ShutOut]
  constructor
  · intro kept
    by_contra reaches
    simp only [not_or, not_not, Bool.not_eq_false, Bool.not_eq_true] at reaches
    obtain ⟨known, passes, free, ⟨_, asked, works⟩, drawn⟩ := reaches
    obtain ⟨route, rfl, valid, routed⟩ := routeForHost_known (state.lookup draw.domain) known
    refine kept ⟨state.resolver, route, routed, connected, passes, free, drawn,
      ⟨true, ascii "public"⟩, rfl, ?_⟩
    rw [asked, evaluatePublicAccess_unreserved request valid works unreserved]
  · rintro stopped ⟨_, route, routed, found, passes, free, drawn, _, -, evaluated⟩
    have named : route.subdomain = subdomain :=
      (inv.session_subdomain found).symm.trans (inv.session_subdomain connected)
    subst named
    rcases stopped with unknown | limited | blocked | unasked | undrawn
    · rcases routeForHost_routed routed with known | ⟨_, _, -, looked, resolved⟩
      · exact unknown known
      · obtain ⟨_, -, -, -, reservation, member, -, same⟩ := inv.standsFor looked resolved
        exact Table.findOther?_eq_none_iff.mp unreserved reservation member same
    · rw [limited] at passes
      cases passes
    · rw [blocked] at free
      cases free
    · rw [evaluatePublicAccess_unanswered unasked] at evaluated
      cases evaluated
    · rw [undrawn] at drawn
      cases drawn

end Requests

section Runs

variable {Conn Query Id : Type} [DecidableEq Conn] [DecidableEq Query] [DecidableEq Id]
  {cfg : ExposureConfig} {state next : Exposure Conn Query Id}

omit [DecidableEq Query] [DecidableEq Id] in
theorem handlePublicRequest_frame (cfg : ExposureConfig) (state : Exposure Conn Query Id)
    (request : HTTPRequest) (draw : RequestDraw) :
    (state.handlePublicRequest cfg request draw).1.server = state.server ∧
      (state.handlePublicRequest cfg request draw).1.reservations = state.reservations ∧
      (state.handlePublicRequest cfg request draw).1.domains = state.domains := by
  have checked (state : Exposure Conn Query Id) (subdomain : Bytes)
      (session : TunnelSession Conn) :
      (state.checkAccess cfg subdomain session request draw).1.server = state.server ∧
        (state.checkAccess cfg subdomain session request draw).1.reservations =
          state.reservations ∧
        (state.checkAccess cfg subdomain session request draw).1.domains = state.domains := by
    unfold Exposure.checkAccess
    dsimp only
    split
    · exact ⟨rfl, rfl, rfl⟩
    split
    · exact ⟨rfl, rfl, rfl⟩
    · split
      · exact ⟨rfl, rfl, rfl⟩
      · split <;> exact ⟨rfl, rfl, rfl⟩
  unfold Exposure.handlePublicRequest
  dsimp only
  split
  · exact ⟨rfl, rfl, rfl⟩
  · exact ⟨rfl, rfl, rfl⟩
  split
  · exact ⟨rfl, rfl, rfl⟩
  · split
    · exact checked _ _ _
    · exact ⟨rfl, rfl, rfl⟩

omit [DecidableEq Conn] [DecidableEq Query] [DecidableEq Id] in
theorem cascade_frame (reservation : Bytes) :
    (state.cascade cfg reservation).server = state.server ∧
      (state.cascade cfg reservation).reservations = state.reservations := by
  unfold Exposure.cascade
  split <;> exact ⟨rfl, rfl⟩

theorem step_reservations {own : Calls.Action Id ReservationRequest ReservationDraw}
    (stepped : state.step cfg (.reservations own) = some next) :
    next.server = state.server ∧
      reservationService.step state.reservations own = some next.reservations := by
  obtain ⟨_, moved, same⟩ := Option.map_eq_some_iff.mp stepped
  split at same
  · cases same
    exact ⟨rfl, moved⟩
  next reservation _ =>
    cases same
    obtain ⟨server, kept⟩ := cascade_frame reservation
    exact ⟨server, moved.trans (congrArg some kept.symm)⟩

variable {action : ExposureAction Conn Query Id} {record : ReservationRecord}

/-- What a step does to the handlers' tables and to the reservations: each changes by a
step of its own, if it changes at all. -/
theorem step_frame (stepped : state.step cfg action = some next) :
    (next.server = state.server ∨ ∃ own, state.server.step own = some next.server) ∧
      (next.reservations = state.reservations ∨ ∃ own, action = .reservations own ∧
        reservationService.step state.reservations own = some next.reservations) := by
  cases action with
  | gateway own =>
    obtain ⟨_, moved, rfl⟩ := Option.map_eq_some_iff.mp stepped
    exact ⟨.inr ⟨own, moved⟩, .inl rfl⟩
  | request request draw =>
    cases stepped
    obtain ⟨server, reservations, -⟩ := handlePublicRequest_frame cfg state request draw
    exact ⟨.inl server, .inl reservations⟩
  | reservations own =>
    obtain ⟨server, moved⟩ := step_reservations stepped
    exact ⟨.inl server, .inr ⟨own, rfl, moved⟩⟩
  | policies =>
    obtain ⟨_, _, rfl⟩ := Option.map_eq_some_iff.mp stepped
    exact ⟨.inl rfl, .inl rfl⟩
  | domains =>
    obtain ⟨_, _, rfl⟩ := Option.map_eq_some_iff.mp stepped
    exact ⟨.inl rfl, .inl rfl⟩

theorem reservationService_advance_rows {store : ReservationStore} {call : ReservationCall}
    {draw : ReservationDraw}
    (member : record ∈ (reservationService.advance store call draw).1.rows) :
    record ∈ store.rows ∨ ∃ request, call = .creating request ∧
      normalizeName request.name = .ok record.name := by
  cases call with
  | creating request =>
    have added : record ∈ (createReservation store request draw).1.rows := member
    rcases createReservation_cases store request draw with ⟨_, failed⟩ |
      ⟨made, after, built, inserted, created⟩
    · rw [failed] at added
      exact .inl added
    · rw [created] at added
      rcases ((Table.insert?_eq_some inserted).2.2 record).mp added with rfl | old
      · exact .inr ⟨request, rfl, newReservation_name built⟩
      · exact .inl old
  | removing =>
    simp only [reservationService] at member
    split at member
    · exact .inl member
    · exact .inl (Table.mem_remove.mp member).1
  | listing =>
    simp only [reservationService] at member
    split at member <;> exact .inl member
  | deleting | getting | gettingByName | authorizing =>
    exact .inl member

theorem ExposureInv.step (inv : ExposureInv state)
    (stepped : state.step cfg action = some next) : ExposureInv next := by
  obtain ⟨server, reservations⟩ := step_frame stepped
  refine ⟨?_, fun record member => ?_⟩
  · rcases server with same | ⟨_, moved⟩
    · rw [same]
      exact inv.server
    · exact serverInv_step inv.server (server_step_inv moved)
  · rcases reservations with same | ⟨own, -, moved⟩
    · rw [same] at member
      exact inv.names record member
    · cases own with
      | start =>
        obtain ⟨-, same⟩ := Calls.Service.step_start moved
        rw [same] at member
        exact inv.names record member
      | advance =>
        obtain ⟨_, -, same⟩ := Calls.Service.step_advance moved
        rw [same] at member
        rcases reservationService_advance_rows member with old | ⟨_, -, normalized⟩
        · exact inv.names record old
        · exact validateSubdomain_of_normalizeName normalized

theorem unreserved_step {subdomain : Bytes}
    (unreserved : state.reservations.store.lookupByName subdomain = none)
    (quiet : NotReserving subdomain state action) (stepped : state.step cfg action = some next) :
    next.reservations.store.lookupByName subdomain = none := by
  rcases (step_frame stepped).2 with same | ⟨own, rfl, moved⟩
  · rw [same]
    exact unreserved
  · rw [Table.findOther?_eq_none_iff] at unreserved ⊢
    intro record member
    cases own with
    | start =>
      obtain ⟨-, same⟩ := Calls.Service.step_start moved
      rw [same] at member
      exact unreserved record member
    | advance =>
      obtain ⟨_, called, same⟩ := Calls.Service.step_advance moved
      rw [same] at member
      rcases reservationService_advance_rows member with old | ⟨request, rfl, normalized⟩
      · exact unreserved record old
      · rintro rfl
        exact quiet request called normalized

theorem unreserved_of_deleted {id : Id} {draw : ReservationDraw} {subdomain : Bytes}
    (reserved : state.reservations.store.lookupByName subdomain = some record)
    (deleting : state.deletes? (.advance id draw) = some record.id)
    (stepped : state.step cfg (.reservations (.advance id draw)) = some next) :
    next.reservations.store.lookupByName subdomain = none := by
  obtain ⟨_, called, same⟩ := Calls.Service.step_advance (step_reservations stepped).2
  simp only [Exposure.deletes?, called] at deleting
  split at deleting
  next reservation removing =>
    cases removing
    split at deleting
    · cases deleting
    next works =>
      cases deleting
      rw [Table.findOther?_eq_none_iff]
      intro other member
      rw [same] at member
      simp only [reservationService, if_neg works, Table.mem_remove] at member
      obtain ⟨there, named⟩ := Table.findOther?_eq_some_iff.mp reserved
      intro sameName
      exact member.2 (congrArg ReservationRecord.id
        (Table.eq_of_other member.1 there (sameName.trans named.symm)))
  · cases deleting

/-- The policy of a reserved name denies a request, and then the reservation is deleted.  Until the
name is reserved again, the request is kept from the tunnel exactly when something else stops it. -/
theorem deleted_reservation_shuts_out_iff {before after last : Exposure Conn Query Id}
    {subdomain : Bytes} {session : TunnelSession Conn} {record : ReservationRecord}
    {request : HTTPRequest} {denial draw : RequestDraw} {access : AccessPolicyEvaluation} {id : Id}
    {deletion : ReservationDraw} {actions : List (ExposureAction Conn Query Id)}
    (reached : Reaches (Exposure.step cfg) (Exposure.initial cfg) before)
    (reserved : before.reservations.store.lookupByName subdomain = some record)
    (deleting : before.deletes? (.advance id deletion) = some record.id)
    (deleted : before.step cfg (.reservations (.advance id deletion)) = some after)
    (ran : exec (Exposure.step cfg) after actions = some last)
    (quiet : Guarded (Exposure.step cfg) (NotReserving subdomain) after actions)
    (connected : sessionBySubdomain last.server subdomain = some session) :
    (before.handlePublicRequest cfg request denial).2 = .accessDenied subdomain access →
      (¬ Forwards cfg last request draw session ↔
        ShutOut cfg last subdomain request draw session) := by
  intro _
  have start : ExposureInv after :=
    (reaches_invariant (fun _ _ _ inv stepped => inv.step stepped) exposureInv_initial
      reached).step deleted
  have kept := exec_invariant
    (fun (state : Exposure Conn Query Id) action next
        (holds : ExposureInv state ∧ state.reservations.store.lookupByName subdomain = none)
        quiet stepped => ⟨holds.1.step stepped, unreserved_step holds.2 quiet stepped⟩)
    ⟨start, unreserved_of_deleted reserved deleting deleted⟩ quiet ran
  exact kept.1.forwards_unreserved request draw connected kept.2

end Runs

def exampleConfig : ExposureConfig where
  rootDomain := ascii "tunnels.example"
  hashing := plainHashing

/-- A name is reserved, its policy asks for a token, its agent connects, and the
deletion of the reservation is one step from its end. -/
def protectedRun : List (ExposureAction Unit Unit Bool) :=
  [.reservations (.start true (.create ⟨ascii "demo", ascii "tok_1"⟩)),
    .reservations (.advance true { id := some [1] }),
    .policies (.start true (.create
      { mode := ascii "bearer_token", bearerToken := ascii "s3cret"
        reservedSubdomainID := ascii "rs_AQ" })),
    .policies (.advance true { id := some [2] }),
    .gateway (.authenticated ()) 0, .gateway (.chooseName () (.requested (ascii "demo"))) 0,
    .gateway (.register () (ascii "tun_1") []) 0, .gateway (.announced ()) 0,
    .gateway (.addSession ()) 0,
    .reservations (.start false (.delete (ascii "rs_AQ"))), .reservations (.advance false {})]

def anonymous : HTTPRequest where
  host := ascii "demo.tunnels.example"
  remoteAddr := ascii "198.51.100.7:4000"
  header := []

def protectedState : Exposure Unit Unit Bool :=
  (exec (Exposure.step exampleConfig) (Exposure.initial exampleConfig) protectedRun).getD
    (Exposure.initial exampleConfig)

def exposedState : Exposure Unit Unit Bool :=
  (protectedState.step exampleConfig (.reservations (.advance false {}))).getD protectedState

theorem deletion_opens_live_tunnel :
    ∃ session record access,
      Reaches (Exposure.step exampleConfig) (Exposure.initial exampleConfig) protectedState ∧
      protectedState.reservations.store.lookupByName (ascii "demo") = some record ∧
      sessionBySubdomain protectedState.server (ascii "demo") = some session ∧
      (protectedState.handlePublicRequest exampleConfig anonymous {}).2 =
        .accessDenied (ascii "demo") access ∧
      protectedState.deletes? (.advance false {}) = some record.id ∧
      protectedState.step exampleConfig (.reservations (.advance false {})) =
        some exposedState ∧
      sessionBySubdomain exposedState.server (ascii "demo") = some session ∧
      Forwards exampleConfig exposedState anonymous {} session :=
  ⟨_, _, _, ⟨protectedRun, rfl⟩, rfl, rfl, rfl, rfl, rfl, rfl, _, rfl⟩

theorem deleted_reservation_shuts_out_iff_demo :
    (protectedState.handlePublicRequest exampleConfig anonymous {}).2 =
        .accessDenied (ascii "demo") ⟨false, ascii "bearer_token"⟩ ∧
      (¬ Forwards exampleConfig exposedState anonymous {} ⟨ascii "tun_1", ascii "demo", ()⟩ ↔
        ShutOut exampleConfig exposedState (ascii "demo") anonymous {}
          ⟨ascii "tun_1", ascii "demo", ()⟩) := by
  have reached : Reaches (Exposure.step exampleConfig) (Exposure.initial exampleConfig)
      protectedState := ⟨protectedRun, rfl⟩
  have deleted : protectedState.step exampleConfig (.reservations (.advance false {})) =
      some exposedState := rfl
  have denied : (protectedState.handlePublicRequest exampleConfig anonymous {}).2 =
      .accessDenied (ascii "demo") ⟨false, ascii "bearer_token"⟩ := rfl
  exact ⟨denied, deleted_reservation_shuts_out_iff reached rfl rfl deleted
    (exec_nil exposedState) trivial rfl denied⟩

end Porthook.Tunnel
