import Porthook.ControlPlane.Authorization

/-!
# What one admin token can reach

A token for the admin tokens can create others, and nothing compares the scopes of a new
token with those of its creator.  Here the holder of one token makes any sequence of
requests, each with that token or with one that was created on the way.
-/

namespace Porthook.ControlPlane

open Protocol Transition

section Sequences

variable (cfg : ServerConfig)

def AdminHandler.passes? (handler : AdminHandler) (request : APIRequest) (draw : APIDraw)
    (stores : Stores) : Option Bytes :=
  match handler.check request.method request.path with
  | .error _ => none
  | .ok scope =>
    match (authorizeAdminRequest cfg stores.adminTokens request.header scope draw.auth).2 with
    | .error _ => none
    | .ok _ => some scope

def passes? (request : APIRequest) (draw : APIDraw) (stores : Stores) : Option Bytes :=
  match request.dispatched with
  | .handled endpoint =>
    match guard cfg endpoint with
    | .admin handler => handler.passes? cfg request draw stores
    | _ => none
  | _ => none

def createdToken? (response : APIResponse) : Option Bytes :=
  match response.body with
  | .createdToken .admin created => some created.token
  | _ => none

/-- The tokens that have been created from the first one, and the scopes of the requests
that were let through. -/
structure Holder where
  stores : Stores
  held : List Bytes
  passed : List Bytes := []

def Holder.after (holder : Holder) (call : APIRequest × APIDraw) : Holder where
  stores := (serve cfg call.1 call.2 holder.stores).1
  held := holder.held ++ (createdToken? (serve cfg call.1 call.2 holder.stores).2).toList
  passed := holder.passed ++ (passes? cfg call.1 call.2 holder.stores).toList

def Holder.step (holder : Holder) (call : APIRequest × APIDraw) : Option Holder :=
  match bearerToken? call.1.header with
  | none => none
  | some token => if token ∈ holder.held then some (holder.after cfg call) else none

end Sequences

section Spared

variable {cfg : ServerConfig} {stores : Stores} {draw : APIDraw}

def Spared (stores : Stores) (result : Stores × APIResponse) : Prop :=
  result.1.adminTokens = stores.adminTokens ∧ createdToken? result.2 = none

def SparesAdminTokens (act : Act) : Prop :=
  ∀ request draw stores, Spared stores (act request draw stores)

theorem spared_callTokens (request : TokenRequest .agent) (status : TokenError → Nat) :
    Spared stores (callTokens cfg .agent request status draw stores) := by
  refine ⟨rfl, ?_⟩
  simp only [callTokens]
  split <;> rfl

theorem createdToken?_reservationResponse (status : ReservationError → Nat)
    (reply : Option ReservationReply) :
    createdToken? (reservationResponse status reply) = none := by
  unfold reservationResponse
  split <;> rfl

theorem spared_callReservations (request : ReservationRequest) (status : ReservationError → Nat) :
    Spared stores (callReservations request status draw stores) :=
  ⟨rfl, createdToken?_reservationResponse status _⟩

theorem spared_callPolicies (request : PolicyRequest) (stored : Nat)
    (status : PolicyError → Nat) :
    Spared stores (callPolicies cfg request stored status draw stores) := by
  refine ⟨rfl, ?_⟩
  simp only [callPolicies]
  split <;> rfl

theorem spared_callDomains (request : DomainRequest) (status : DomainError → Nat) :
    Spared stores (callDomains request status draw stores) := by
  refine ⟨rfl, ?_⟩
  simp only [callDomains]
  split <;> rfl

theorem spares_decoding {Struct : Type} {decode : Option Json → Option Struct}
    {act : Struct → Act} (spares : ∀ value, SparesAdminTokens (act value)) :
    SparesAdminTokens (decoding decode act) := by
  intro request draw stores
  unfold decoding
  split
  · exact ⟨rfl, rfl⟩
  next value _ => exact spares value request draw stores

theorem spares_identified {path : String} {taken : List Bytes} {act : Bytes → Act}
    (spares : ∀ id, SparesAdminTokens (act id)) :
    SparesAdminTokens (identified path taken act) := by
  intro request draw stores
  unfold identified
  split
  · exact ⟨rfl, rfl⟩
  next id _ => exact spares id request draw stores

theorem spared_forReservation {id : Bytes} {create : APIDraw → Stores → Stores × APIResponse}
    (spares : ∀ draw stores, Spared stores (create draw stores)) :
    Spared stores (forReservation id create draw stores) := by
  unfold forReservation
  split
  · exact ⟨rfl, rfl⟩
  · exact spares draw stores
  · exact ⟨rfl, rfl⟩

theorem spares_handleCollection {path : String} {scope : Bytes} {list create : Act}
    (listing : SparesAdminTokens list) (creating : SparesAdminTokens create) :
    SparesAdminTokens (handleCollection path scope list create).act := by
  intro request draw stores
  simp only [handleCollection]
  split
  · exact listing request draw stores
  · exact creating request draw stores

theorem spares_createReservedSubdomain : SparesAdminTokens createReservedSubdomain := by
  refine spares_decoding fun value request draw stores => ?_
  split
  · exact ⟨rfl, rfl⟩
  · exact ⟨rfl, rfl⟩
  · split
    · exact ⟨rfl, rfl⟩
    · exact spared_callReservations _ _

theorem spared_deleteReservedSubdomain (id : Bytes) :
    Spared stores (deleteReservedSubdomain cfg id draw stores) := by
  unfold deleteReservedSubdomain
  dsimp only
  split
  next reservations _ =>
    refine ⟨?_, rfl⟩
    unfold Stores.cascade
    split <;> rfl
  · exact ⟨rfl, createdToken?_reservationResponse _ _⟩

theorem spares_customDomainByID : SparesAdminTokens customDomainByID := by
  intro request draw stores
  unfold customDomainByID
  dsimp only
  split
  · split
    · exact ⟨rfl, rfl⟩
    · split
      · exact ⟨rfl, rfl⟩
      · exact spared_callDomains _ _
  · split
    · exact ⟨rfl, rfl⟩
    · split
      · exact ⟨rfl, rfl⟩
      · split <;> exact spared_callDomains _ _

theorem spares_accessPolicyByID : SparesAdminTokens (handleAccessPolicyByID cfg).act := by
  refine spares_identified fun id request draw stores => ?_
  split
  · exact spared_callPolicies _ _ _
  · split
    · exact spares_decoding (fun value _ _ _ => spared_callPolicies _ _ _) request draw stores
    · exact spared_callPolicies _ _ _

theorem spares_handleEvents : SparesAdminTokens handleEvents.act := by
  intro request draw stores
  simp only [handleEvents, handleMethods]
  split <;> exact ⟨rfl, rfl⟩

theorem spares_gatewayOperator : SparesAdminTokens (gatewayOperator cfg) := by
  intro request draw stores
  unfold gatewayOperator
  split
  · exact ⟨rfl, rfl⟩
  · split
    · exact ⟨rfl, rfl⟩
    · split <;> exact ⟨rfl, rfl⟩

theorem spares_handleEvaluateAccessPolicy :
    SparesAdminTokens (handleEvaluateAccessPolicy cfg) := by
  refine spares_decoding fun value request draw stores => ⟨rfl, ?_⟩
  dsimp only
  split <;> rfl

theorem spares_handleLookupCustomDomain : SparesAdminTokens handleLookupCustomDomain := by
  refine spares_decoding fun value request draw stores => ⟨rfl, ?_⟩
  dsimp only
  split <;> rfl

/-- A guarded handler leaves the admin tokens alone, unless it asks for their scope. -/
def Guard.Spares : Guard → Prop
  | .unguarded _ => True
  | .validator act => SparesAdminTokens act
  | .admin handler => SparesAdminTokens handler.act ∨
      ∀ method path scope, handler.check method path = .ok scope → scope = scopeAdminTokens

theorem guard_spares (cfg : ServerConfig) (endpoint : Endpoint) : (guard cfg endpoint).Spares := by
  cases endpoint with
  | healthz | readyz | metrics | dashboard | status => trivial
  | gatewayOperator => exact .inl spares_gatewayOperator
  | events => exact .inl spares_handleEvents
  | adminTokens =>
    refine .inr fun method path scope checked => ?_
    exact (Option.some.inj ((asks_handleCollection _ _ _ (by decide)).asked checked).1).symm
  | adminTokenByID =>
    refine .inr fun method path scope checked => ?_
    exact (Option.some.inj ((asks_handleMethods _ _ _ (by decide)).asked checked).1).symm
  | tokens =>
    exact .inl (spares_handleCollection (fun _ _ _ => spared_callTokens _ _)
      (spares_decoding fun _ _ _ _ => spared_callTokens _ _))
  | tokenByID => exact .inl (spares_identified fun _ _ _ _ => spared_callTokens _ _)
  | validateToken => exact spares_decoding fun _ _ _ _ => spared_callTokens _ _
  | accessPolicies =>
    exact .inl (spares_handleCollection (fun _ _ _ => spared_callPolicies _ _ _)
      (spares_decoding fun _ _ _ _ => spared_forReservation fun _ _ => spared_callPolicies _ _ _))
  | accessPolicyByID => exact .inl spares_accessPolicyByID
  | evaluateAccessPolicy => exact spares_handleEvaluateAccessPolicy
  | customDomains =>
    exact .inl (spares_handleCollection (fun _ _ _ => spared_callDomains _ _)
      (spares_decoding fun _ _ _ _ => spared_forReservation fun _ _ => spared_callDomains _ _))
  | customDomainByID => exact .inl spares_customDomainByID
  | lookupCustomDomain => exact spares_handleLookupCustomDomain
  | reservedSubdomains =>
    exact .inl (spares_handleCollection (fun _ _ _ => spared_callReservations _ _)
      spares_createReservedSubdomain)
  | reservedSubdomainByID =>
    exact .inl (spares_identified fun _ _ _ _ => spared_deleteReservedSubdomain _)
  | authorizeReservedSubdomain => exact spares_decoding fun _ _ _ _ => spared_callReservations _ _

theorem createdToken?_plain {response : APIResponse} (plain : response.body.Plain) :
    createdToken? response = none := by
  unfold createdToken?
  split
  next created shown =>
    rw [shown] at plain
    cases plain
  · rfl

end Spared

section Request

variable {cfg : ServerConfig} {request : APIRequest} {draw : APIDraw} {stores : Stores}

/-- What a request has to be to be let through with a scope. -/
structure Passes (cfg : ServerConfig) (request : APIRequest) (draw : APIDraw) (stores : Stores)
    (scope : Bytes) (endpoint : Endpoint) (handler : AdminHandler) : Prop where
  handled : request.dispatched = .handled endpoint
  guarded : guard cfg endpoint = .admin handler
  checked : handler.check request.method request.path = .ok scope
  authorized : ∃ auth,
    (authorizeAdminRequest cfg stores.adminTokens request.header scope draw.auth).2 = .ok auth

variable {scope : Bytes}

theorem passes?_eq_some_iff :
    passes? cfg request draw stores = some scope ↔
      ∃ endpoint handler, Passes cfg request draw stores scope endpoint handler := by
  constructor
  · intro passed
    unfold passes? at passed
    split at passed
    next endpoint handled =>
      split at passed
      next handler guarded =>
        unfold AdminHandler.passes? at passed
        split at passed
        · cases passed
        next asked checked =>
          split at passed
          · cases passed
          next auth authorized =>
            cases passed
            exact ⟨endpoint, handler, handled, guarded, checked, auth, authorized⟩
      · cases passed
    · cases passed
  · rintro ⟨_, _, handled, guarded, checked, _, authorized⟩
    simp only [passes?, handled, guarded, AdminHandler.passes?, checked, authorized]

theorem Passes.asked {endpoint : Endpoint} {handler : AdminHandler}
    (passes : Passes cfg request draw stores scope endpoint handler) :
    endpoint.scope? request.path = some scope ∧ scope ≠ [] := by
  have fits := guard_fits cfg endpoint
  rw [passes.guarded] at fits
  exact fits.asked passes.checked

theorem grants_of_passes? (injective : Function.Injective cfg.hashing.sha256)
    (passed : passes? cfg request draw stores = some scope) :
    ∃ token, bearerToken? request.header = some token ∧
      Grants cfg stores.adminTokens token scope := by
  obtain ⟨_, _, passes⟩ := passes?_eq_some_iff.mp passed
  obtain ⟨_, authorized⟩ := passes.authorized
  exact grants_of_authorizeAdminRequest injective passes.asked.2 authorized

theorem known_of_passes? (passed : passes? cfg request draw stores = some scope) :
    scope ∈ Realm.admin.knownScopes := by
  obtain ⟨endpoint, _, passes⟩ := passes?_eq_some_iff.mp passed
  have asked := passes.asked.1
  cases endpoint with
  | gatewayOperator =>
    obtain ⟨⟨_, _⟩, routed, rfl⟩ := Option.map_eq_some_iff.mp asked
    exact gatewayOperatorRoute_known routed
  | healthz | readyz | metrics | dashboard | status | validateToken | evaluateAccessPolicy
  | lookupCustomDomain | authorizeReservedSubdomain => cases asked
  | events | adminTokens | adminTokenByID | tokens | tokenByID | accessPolicies
  | accessPolicyByID | customDomains | customDomainByID | reservedSubdomains
  | reservedSubdomainByID =>
    cases asked
    decide

/-- The admin tokens are as they were but for the times of their last use, and none is
shown. -/
def Kept (stores : Stores) (result : Stores × APIResponse) : Prop :=
  result.1.adminTokens.rows.map TokenRecord.core =
      stores.adminTokens.rows.map TokenRecord.core ∧
    createdToken? result.2 = none

theorem Spared.kept {result : Stores × APIResponse} (spared : Spared stores result) :
    Kept stores result := ⟨by rw [spared.1], spared.2⟩

theorem kept_validator {act : Act} (spares : SparesAdminTokens act) :
    Kept stores ((Guard.validator act).serve cfg request draw stores) := by
  simp only [Guard.serve]
  split
  · exact ⟨rfl, rfl⟩
  · split
    · exact ⟨rfl, rfl⟩
    · exact (spares request draw stores).kept

theorem kept_admin (injective : Function.Injective cfg.hashing.sha256) {handler : AdminHandler}
    {scope? : Bytes → Option Bytes} (asks : handler.Asks scope?)
    (spares : (Guard.admin handler).Spares)
    (passed : handler.passes? cfg request draw stores ≠ some scopeAdminTokens) :
    Kept stores (handler.serve cfg request draw stores) := by
  unfold AdminHandler.serve
  cases checked : handler.check request.method request.path with
  | error => exact ⟨rfl, createdToken?_plain (asks.plain checked)⟩
  | ok scope =>
    have core := core_authorizeAdminRequest injective stores.adminTokens request.header scope
      draw.auth
    dsimp only
    split
    next adminTokens response authorized =>
      rw [authorized] at core
      have refusal := congrArg Prod.snd authorized
      exact ⟨core, createdToken?_plain (admission_eq_error refusal)⟩
    next adminTokens auth authorized =>
      rw [authorized] at core
      rcases spares with spares | asksFor
      · obtain ⟨same, none⟩ := spares request draw { stores with adminTokens }
        exact ⟨by rw [same]; exact core, none⟩
      · cases asksFor _ _ _ checked
        refine absurd ?_ passed
        simp only [AdminHandler.passes?, checked, authorized]

theorem kept_serve (injective : Function.Injective cfg.hashing.sha256)
    (passed : passes? cfg request draw stores ≠ some scopeAdminTokens) :
    Kept stores (serve cfg request draw stores) := by
  unfold serve
  unfold passes? at passed
  split
  · exact ⟨rfl, rfl⟩
  · exact ⟨rfl, rfl⟩
  · exact ⟨rfl, rfl⟩
  next endpoint handled =>
    simp only [handled] at passed
    have fits := guard_fits cfg endpoint
    have spares := guard_spares cfg endpoint
    cases guarded : guard cfg endpoint with
    | unguarded =>
      rw [guarded] at fits
      exact ⟨rfl, createdToken?_plain (fits request draw stores)⟩
    | validator =>
      rw [guarded] at spares
      exact kept_validator spares
    | admin =>
      rw [guarded] at fits spares passed
      exact kept_admin injective fits spares passed

end Request

section Within

variable {cfg : ServerConfig}

variable {call : APIRequest × APIDraw}

theorem Holder.step_eq_some_iff {holder next : Holder} :
    holder.step cfg call = some next ↔
      ∃ token, bearerToken? call.1.header = some token ∧ token ∈ holder.held ∧
        next = holder.after cfg call := by
  constructor
  · intro stepped
    unfold Holder.step at stepped
    repeat' split at stepped
    all_goals cases stepped
    next token given holds => exact ⟨token, given, holds, rfl⟩
  · rintro ⟨_, given, holds, rfl⟩
    simp only [Holder.step, given, if_pos holds]

/-- The token has every scope that there is, or it can neither create others nor is it the
configured one. -/
def Contained (cfg : ServerConfig) (secret : Bytes) (record : TokenRecord) : Prop :=
  (∀ scope ∈ Realm.admin.knownScopes, scope ∈ record.scopes) ∨
    secret ≠ cfg.adminToken ∧ (record.revokedAt ≠ none ∨ scopeAdminTokens ∉ record.scopes)

/-- What remains true while a token is used that cannot create others. -/
structure Confined (stores : Stores) (secret : Bytes) (record : TokenRecord) (holder : Holder) :
    Prop where
  same : holder.stores.adminTokens.rows.map TokenRecord.core =
    stores.adminTokens.rows.map TokenRecord.core
  held : holder.held = [secret]
  passed : ∀ scope ∈ holder.passed, scope ∈ record.scopes

theorem mem_of_core {first second : TokenStore}
    (same : first.rows.map TokenRecord.core = second.rows.map TokenRecord.core)
    {row : TokenRecord} (member : row ∈ first.rows) :
    ∃ other ∈ second.rows, other.core = row.core := by
  have image : row.core ∈ first.rows.map TokenRecord.core := List.mem_map_of_mem member
  rw [same] at image
  exact List.mem_map.mp image

theorem grants_record {stores : Stores} {store : TokenStore} {secret scope : Bytes}
    {record : TokenRecord} (member : record ∈ stores.adminTokens.rows)
    (hashed : record.tokenHash = hashToken cfg.hashing.sha256 secret)
    (other : secret ≠ cfg.adminToken)
    (same : store.rows.map TokenRecord.core = stores.adminTokens.rows.map TokenRecord.core)
    (grants : Grants cfg store secret scope) :
    record.revokedAt = none ∧ scope ∈ record.scopes := by
  rcases grants with configured | ⟨found, live, held⟩
  · exact absurd configured other
  obtain ⟨row, rowMember, core⟩ := mem_of_core same live.member
  have hash : row.tokenHash = record.tokenHash := by
    have := congrArg TokenRecord.tokenHash core
    exact this.trans (live.hashed.trans hashed.symm)
  cases Table.eq_of_other rowMember member hash
  have revoked : record.core.revokedAt = found.core.revokedAt := congrArg _ core
  have scopes : record.core.scopes = found.core.scopes := congrArg _ core
  refine ⟨revoked.trans live.unrevoked, ?_⟩
  change scope ∈ record.core.scopes
  rw [scopes]
  exact held

theorem Confined.step (injective : Function.Injective cfg.hashing.sha256) {stores : Stores}
    {secret : Bytes} {record : TokenRecord} (member : record ∈ stores.adminTokens.rows)
    (hashed : record.tokenHash = hashToken cfg.hashing.sha256 secret)
    (other : secret ≠ cfg.adminToken)
    (unable : record.revokedAt ≠ none ∨ scopeAdminTokens ∉ record.scopes) {holder next : Holder}
    (confined : Confined stores secret record holder)
    (stepped : holder.step cfg call = some next) : Confined stores secret record next := by
  obtain ⟨token, given, holds, rfl⟩ := Holder.step_eq_some_iff.mp stepped
  have isSecret : token = secret := by
    rw [confined.held] at holds
    exact List.mem_singleton.mp holds
  have granted : ∀ scope, passes? cfg call.1 call.2 holder.stores = some scope →
      record.revokedAt = none ∧ scope ∈ record.scopes := by
    intro scope passed
    obtain ⟨used, usedGiven, grants⟩ := grants_of_passes? injective passed
    have : used = secret := by
      rw [given] at usedGiven
      exact (Option.some.inj usedGiven).symm.trans isSecret
    rw [this] at grants
    exact grants_record member hashed other confined.same grants
  have notAdmin : passes? cfg call.1 call.2 holder.stores ≠ some scopeAdminTokens := by
    intro passed
    obtain ⟨unrevoked, held⟩ := granted _ passed
    rcases unable with revoked | lacking
    · exact revoked unrevoked
    · exact lacking held
  obtain ⟨same, none⟩ := kept_serve injective notAdmin
  refine ⟨same.trans confined.same, ?_, ?_⟩
  · simp [Holder.after, none, confined.held]
  intro scope scopeMember
  rcases List.mem_append.mp scopeMember with before | now
  · exact confined.passed scope before
  · exact (granted scope (by simpa using now)).2

theorem passed_known {first last : Holder}
    (before : ∀ scope ∈ first.passed, scope ∈ Realm.admin.knownScopes)
    (reached : Reaches (Holder.step cfg) first last) :
    ∀ scope ∈ last.passed, scope ∈ Realm.admin.knownScopes := by
  have preserved : ∀ (holder : Holder) (call : APIRequest × APIDraw) (next : Holder),
      (∀ scope ∈ holder.passed, scope ∈ Realm.admin.knownScopes) →
      holder.step cfg call = some next →
      ∀ scope ∈ next.passed, scope ∈ Realm.admin.knownScopes := by
    intro holder call next known stepped scope member
    obtain ⟨_, -, -, rfl⟩ := Holder.step_eq_some_iff.mp stepped
    rcases List.mem_append.mp member with old | new
    · exact known scope old
    · exact known_of_passes? (by simpa using new)
  exact reaches_invariant preserved before reached

end Within

section Beyond

variable {cfg : ServerConfig}

def bearerHeader (token : Bytes) : Header := [(ascii "Authorization", [ascii "Bearer " ++ token])]

theorem bearerToken?_bearerHeader {token : Bytes} (trimmed : trimSpace token = token)
    (nonempty : token ≠ []) : bearerToken? (bearerHeader token) = some token := by
  have read : (bearerHeader token).get (ascii "Authorization") = ascii "Bearer " ++ token := by
    have canonical : canonicalHeaderKey (ascii "Authorization") = ascii "Authorization" := by
      decide +kernel
    simp [Header.get, Header.valuesOf, Header.values, bearerHeader, canonical]
  have cut : cutPrefix? (ascii "Bearer " ++ token) (ascii "Bearer ") = some token := by
    simp [cutPrefix?]
  simp [bearerToken?, read, cut, trimmed, if_neg nonempty]

variable {scope : Bytes}

theorem authorizeAdminRequest_of_grants (injective : Function.Injective cfg.hashing.sha256)
    {store : TokenStore} {header : Header} {token : Bytes}
    (given : bearerToken? header = some token) (grants : Grants cfg store token scope) :
    ∃ auth, (authorizeAdminRequest cfg store header scope [{}, {}]).2 = .ok auth := by
  obtain ⟨trimmed, nonempty⟩ := bearerToken?_eq_some given
  simp only [authorizeAdminRequest, authorizeAdmin, given]
  by_cases bootstrap : cfg.adminToken ≠ [] ∧
      secretEqual cfg.hashing.sha256 token cfg.adminToken = true
  · rw [if_pos bootstrap]
    exact ⟨_, rfl⟩
  · rw [if_neg bootstrap]
    rcases grants with rfl | ⟨record, live, held⟩
    · exact absurd ⟨nonempty, (secretEqual_iff injective).mpr ⟨nonempty, rfl⟩⟩ bootstrap
    have found : store.lookupByHash (hashToken cfg.hashing.sha256 token) = some record :=
      Table.findOther?_eq_some_iff.mpr ⟨live.member, live.hashed⟩
    have looked : lookupToken cfg.hashing.sha256 .admin store token ([] : List Bytes) {} =
        .continues (.marking token ([] : List Bytes) record) := by
      simp only [lookupToken, trimmed, if_neg nonempty, found, live.unrevoked]
      rfl
    have answered : (tokenService cfg.hashing.sha256 .admin).answer store
        (.validate token ([] : List Bytes)) [{}, {}] = (store.markUsed record.id 0,
          some (.validation (Realm.admin.validResult record))) := by
      simp [Calls.Service.answer, Calls.Service.complete, tokenService, TokenRequest.call, looked]
    simp [answered, admission, Realm.validResult, held]

theorem handleCollection_check (path : String) (scope : Bytes) (list create : Act)
    {method : Bytes} (allowed : method = ascii "GET" ∨ method = ascii "POST") :
    (handleCollection path scope list create).check method (ascii path) = .ok scope := by
  have permitted : ¬ (method ≠ ascii "GET" ∧ method ≠ ascii "POST") := by
    rcases allowed with get | post
    · exact fun neither => neither.1 get
    · exact fun neither => neither.2 post
  simp only [handleCollection, ne_eq, not_true_eq_false, if_false]
  exact if_neg permitted

theorem exists_probe (cfg : ServerConfig) (known : scope ∈ Realm.admin.knownScopes) :
    ∃ path endpoint handler, routes.dispatch (ascii "GET") path path = .handled endpoint ∧
      guard cfg endpoint = .admin handler ∧ handler.check (ascii "GET") path = .ok scope := by
  have routed : gatewayOperatorRoute (ascii "/api/v1/gateway/runtime") =
      some (ascii "/api/v1/runtime", scopeRuntimeDiagnostics) := by decide +kernel
  simp only [Realm.knownScopes, List.mem_cons, List.not_mem_nil, or_false] at known
  rcases known with rfl | rfl | rfl | rfl | rfl | rfl | rfl
  · exact ⟨ascii "/api/v1/admin-tokens", .adminTokens, _, by decide +kernel, rfl,
      handleCollection_check _ _ _ _ (.inl rfl)⟩
  · exact ⟨ascii "/api/v1/tokens", .tokens, _, by decide +kernel, rfl,
      handleCollection_check _ _ _ _ (.inl rfl)⟩
  · exact ⟨ascii "/api/v1/reserved-subdomains", .reservedSubdomains, _, by decide +kernel, rfl,
      handleCollection_check _ _ _ _ (.inl rfl)⟩
  · exact ⟨ascii "/api/v1/custom-domains", .customDomains, _, by decide +kernel, rfl,
      handleCollection_check _ _ _ _ (.inl rfl)⟩
  · exact ⟨ascii "/api/v1/access-policies", .accessPolicies, _, by decide +kernel, rfl,
      handleCollection_check _ _ _ _ (.inl rfl)⟩
  · exact ⟨ascii "/api/v1/events", .events, _, by decide +kernel, rfl, rfl⟩
  · refine ⟨ascii "/api/v1/gateway/runtime", .gatewayOperator, _, by decide +kernel, rfl, ?_⟩
    simp only [handleGatewayOperator, ne_eq, not_true_eq_false, if_false, routed]
    rfl

theorem exists_pass (injective : Function.Injective cfg.hashing.sha256) (holder : Holder)
    {token : Bytes} (known : scope ∈ Realm.admin.knownScopes) (trimmed : trimSpace token = token)
    (nonempty : token ≠ []) (holds : token ∈ holder.held)
    (grants : Grants cfg holder.stores.adminTokens token scope) :
    ∃ last, Reaches (Holder.step cfg) holder last ∧ scope ∈ last.passed := by
  obtain ⟨path, endpoint, handler, handled, guarded, checked⟩ := exists_probe cfg known
  let request : APIRequest := { path, escapedPath := path, header := bearerHeader token }
  have given : bearerToken? request.header = some token :=
    bearerToken?_bearerHeader trimmed nonempty
  have passed : passes? cfg request { auth := [{}, {}] } holder.stores = some scope :=
    passes?_eq_some_iff.mpr ⟨endpoint, handler, handled, guarded, checked,
      authorizeAdminRequest_of_grants injective given grants⟩
  refine ⟨holder.after cfg (request, { auth := [{}, {}] }), ?_, ?_⟩
  · exact Reaches.single _ (Holder.step_eq_some_iff.mpr ⟨token, given, holds, rfl⟩)
  · simp [Holder.after, passed]

structure FreshDraw (sha256 : Bytes → Bytes) (store : TokenStore) (draw : TokenDraw)
    (token id : Bytes) : Prop where
  works : draw.storeFails = false
  token_drawn : randomSecret Realm.admin.secretHead draw.secret = some token
  id_drawn : randomSecret Realm.admin.idHead draw.id = some id
  token_free : hashToken sha256 token ∉ store.rows.map TokenRecord.tokenHash
  id_free : id ∉ store.rows.map TokenRecord.id

theorem exists_freshDraw {sha256 : Bytes → Bytes} (injective : Function.Injective sha256)
    (store : TokenStore) : ∃ draw token id, FreshDraw sha256 store draw token id := by
  obtain ⟨secretData, token, tokenDrawn, tokenFree⟩ := exists_fresh_secret
    Realm.admin.secretHead (sha256Hex_injective injective) (store.rows.map TokenRecord.tokenHash)
  obtain ⟨idData, id, idDrawn, idFree⟩ := exists_fresh_secret Realm.admin.idHead
    Function.injective_id (store.rows.map TokenRecord.id)
  exact ⟨{ secret := some secretData, id := some idData }, token, id, rfl, tokenDrawn, idDrawn,
    tokenFree, idFree⟩

section Create

variable {sha256 : Bytes → Bytes} {store : TokenStore} {draw : TokenDraw} {token id : Bytes}

theorem FreshDraw.newToken (fresh : FreshDraw sha256 store draw token id) :
    ControlPlane.newToken .admin { name := ascii "all" } draw =
      .ok ⟨id, ascii "all", token, Realm.admin.knownScopes, draw.now⟩ := by
  have named : trimSpace (ascii "all") = ascii "all" := by decide +kernel
  have drawn : Realm.admin.randomToken draw = .ok (token, id) := by
    simp only [Realm.randomToken, fresh.token_drawn, fresh.id_drawn]
  simp only [ControlPlane.newToken, named, drawn]
  rfl

theorem FreshDraw.usable (fresh : FreshDraw sha256 store draw token id) :
    trimSpace token = token ∧ token ≠ [] := by
  refine ⟨trimSpace_randomSecret (by decide +kernel) fresh.token_drawn, ?_⟩
  obtain ⟨_, -, rfl⟩ := Option.map_eq_some_iff.mp fresh.token_drawn
  exact List.cons_ne_nil _ _

theorem FreshDraw.answer (fresh : FreshDraw sha256 store draw token id) :
    ∃ next created, (tokenService sha256 .admin).answer store
        (.create { name := ascii "all" }) [draw] = (next, some (.created created)) ∧
      created.token = token ∧ created.scopes = Realm.admin.knownScopes ∧
      LiveToken sha256 next token (created.record sha256) := by
  let created : CreatedToken := ⟨id, ascii "all", token, Realm.admin.knownScopes, draw.now⟩
  have issued : ControlPlane.newToken .admin { name := ascii "all" } draw = .ok created :=
    fresh.newToken
  have keyFree : store.find? (created.record sha256).id = none :=
    Table.find?_eq_none_iff.mpr fun row member same =>
      fresh.id_free (List.mem_map.mpr ⟨row, member, same⟩)
  have otherFree : store.findOther? (created.record sha256).tokenHash = none :=
    Table.findOther?_eq_none_iff.mpr fun row member same =>
      fresh.token_free (List.mem_map.mpr ⟨row, member, same⟩)
  obtain ⟨next, inserted⟩ := Option.isSome_iff_exists.mp (Table.insert?_isSome keyFree otherFree)
  refine ⟨next, created, ?_, rfl, rfl, ?_⟩
  · simp [Calls.Service.answer, Calls.Service.complete, tokenService, TokenRequest.call,
      createToken, issued, fresh.works, TokenStore.create, inserted]
  · exact ⟨((Table.insert?_eq_some inserted).2.2 _).mpr (.inl rfl), rfl, rfl⟩

end Create

def createRequest (token : Bytes) : APIRequest where
  method := ascii "POST"
  path := ascii "/api/v1/admin-tokens"
  escapedPath := ascii "/api/v1/admin-tokens"
  header := bearerHeader token
  body := some (.object [(ascii "name", .string (ascii "all"))])

theorem createRequest_dispatched (token : Bytes) :
    (createRequest token).dispatched = .handled .adminTokens := by
  change routes.dispatch (ascii "POST") (ascii "/api/v1/admin-tokens")
    (ascii "/api/v1/admin-tokens") = _
  decide +kernel

theorem decodeCreateToken_createRequest (token : Bytes) :
    decodeCreateToken (createRequest token).body = some { name := ascii "all" } := by
  rfl

variable {secret : Bytes}

theorem serve_createRequest {stores : Stores} {draw : TokenDraw} {used next : TokenStore}
    {auth : AdminAuthorization} {created : CreatedToken}
    (authorized : authorizeAdminRequest cfg stores.adminTokens (bearerHeader secret)
      scopeAdminTokens [{}, {}] = (used, .ok auth))
    (answered : (tokenService cfg.hashing.sha256 .admin).answer used
      (.create { name := ascii "all" }) [draw] = (next, some (.created created))) :
    serve cfg (createRequest secret) { auth := [{}, {}], tokens := [draw] } stores =
      ({ stores with adminTokens := next },
        { status := 201, body := .createdToken .admin created }) := by
  have checked : (handleAdminTokens cfg).check (createRequest secret).method
      (createRequest secret).path = .ok scopeAdminTokens :=
    handleCollection_check _ _ _ _ (.inr rfl)
  have posted : ¬ ascii "POST" = ascii "GET" := by decide
  have acted : (handleAdminTokens cfg).act (createRequest secret)
      { auth := [{}, {}], tokens := [draw] } { stores with adminTokens := used } =
      ({ stores with adminTokens := next },
        { status := 201, body := .createdToken .admin created }) := by
    have post : (createRequest secret).method = ascii "POST" := rfl
    simp only [handleAdminTokens, listAndCreateTokens, handleCollection, post, if_neg posted,
      decoding, decodeCreateToken_createRequest, callTokens, Stores.tokenStore, answered,
      Stores.withTokenStore]
  simp only [serve, createRequest_dispatched, guard, Guard.serve, AdminHandler.serve, checked]
  have sent : (createRequest secret).header = bearerHeader secret := rfl
  simp only [sent, authorized]
  exact acted

/-- With the scope of the admin tokens a token can be created that has every scope. -/
theorem exists_all_scopes (injective : Function.Injective cfg.hashing.sha256) (holder : Holder)
    (trimmed : trimSpace secret = secret) (nonempty : secret ≠ []) (holds : secret ∈ holder.held)
    (grants : Grants cfg holder.stores.adminTokens secret scopeAdminTokens) :
    ∃ next token record, Reaches (Holder.step cfg) holder next ∧ token ∈ next.held ∧
      trimSpace token = token ∧ token ≠ [] ∧
      LiveToken cfg.hashing.sha256 next.stores.adminTokens token record ∧
      record.scopes = Realm.admin.knownScopes := by
  have given : bearerToken? (bearerHeader secret) = some secret :=
    bearerToken?_bearerHeader trimmed nonempty
  obtain ⟨auth, authorized⟩ := authorizeAdminRequest_of_grants injective given grants
  cases authorization : authorizeAdminRequest cfg holder.stores.adminTokens
      (bearerHeader secret) scopeAdminTokens [{}, {}] with
  | mk used =>
    rw [authorization] at authorized
    cases authorized
    obtain ⟨draw, _, _, fresh⟩ := exists_freshDraw injective used
    obtain ⟨_, created, answered, rfl, scopes, live⟩ := fresh.answer
    have served := serve_createRequest authorization answered
    let call : APIRequest × APIDraw :=
      (createRequest secret, { auth := [{}, {}], tokens := [draw] })
    refine ⟨holder.after cfg call, created.token, created.record cfg.hashing.sha256,
      .single call (Holder.step_eq_some_iff.mpr ⟨secret, given, holds, rfl⟩), ?_,
      fresh.usable.1, fresh.usable.2, ?_, scopes⟩
    · simp [Holder.after, call, served, createdToken?]
    · simp only [Holder.after, call, served]
      exact live

theorem exists_escalation (injective : Function.Injective cfg.hashing.sha256) {stores : Stores}
    {record : TokenRecord} (member : record ∈ stores.adminTokens.rows)
    (hashed : record.tokenHash = hashToken cfg.hashing.sha256 secret)
    (trimmed : trimSpace secret = secret) (nonempty : secret ≠ [])
    (escapes : ¬ Contained cfg secret record) :
    ∃ last, Reaches (Holder.step cfg) { stores, held := [secret] } last ∧
      ∃ scope ∈ last.passed, scope ∉ record.scopes := by
  simp only [Contained, not_or, not_forall, not_and_or, not_not] at escapes
  obtain ⟨⟨scope, known, missing⟩, able⟩ := escapes
  have holds : secret ∈ [secret] := List.mem_singleton.mpr rfl
  rcases able with configured | ⟨unrevoked, creates⟩
  · obtain ⟨last, reached, passed⟩ := exists_pass injective { stores, held := [secret] } known
      trimmed nonempty holds (.inl configured)
    exact ⟨last, reached, scope, passed, missing⟩
  · have live : LiveToken cfg.hashing.sha256 stores.adminTokens secret record :=
      ⟨member, hashed, unrevoked⟩
    obtain ⟨middle, _, made, created, tokenHeld, tokenTrimmed, tokenNonempty, tokenLive, all⟩ :=
      exists_all_scopes injective { stores, held := [secret] } trimmed nonempty holds
        (.inr ⟨record, live, creates⟩)
    have granted : scope ∈ made.scopes := by
      rw [all]
      exact known
    obtain ⟨last, reached, passed⟩ := exists_pass injective middle known tokenTrimmed
      tokenNonempty tokenHeld (.inr ⟨made, tokenLive, granted⟩)
    exact ⟨last, created.trans reached, scope, passed, missing⟩

end Beyond

/-- The requests that one admin token leads to are let through for its own scopes only,
exactly if it cannot create tokens or has nothing to gain from them. -/
theorem no_scope_escalation_iff (cfg : ServerConfig)
    (injective : Function.Injective cfg.hashing.sha256) (stores : Stores) (secret : Bytes)
    (record : TokenRecord) (member : record ∈ stores.adminTokens.rows)
    (hashed : record.tokenHash = hashToken cfg.hashing.sha256 secret)
    (trimmed : trimSpace secret = secret) (nonempty : secret ≠ []) :
    (∀ last, Reaches (Holder.step cfg) { stores, held := [secret] } last →
        ∀ scope ∈ last.passed, scope ∈ record.scopes) ↔
      Contained cfg secret record := by
  constructor
  · intro within
    by_contra escapes
    obtain ⟨last, reached, scope, passed, missing⟩ :=
      exists_escalation injective member hashed trimmed nonempty escapes
    exact missing (within last reached scope passed)
  · intro contained last reached scope passed
    rcases contained with everything | ⟨other, unable⟩
    · exact everything scope (passed_known (by simp) reached scope passed)
    have start : Confined stores secret record { stores, held := [secret] } :=
      ⟨rfl, rfl, by simp⟩
    have confined := reaches_invariant
      (fun _ _ _ holds stepped => holds.step injective member hashed other unable stepped)
      start reached
    exact confined.passed scope passed

theorem no_scope_escalation_iff_reader :
    (∀ last, Reaches (Holder.step { adminToken := ascii "root", hashing := plainHashing })
        { stores := readerStores, held := [ascii "pat_reader"] } last →
        ∀ scope ∈ last.passed, scope ∈ readerToken.scopes) ∧
      Contained { adminToken := ascii "root", hashing := plainHashing } (ascii "pat_reader")
        readerToken := by
  have contained : Contained { adminToken := ascii "root", hashing := plainHashing }
      (ascii "pat_reader") readerToken := .inr ⟨by decide, .inr (by decide)⟩
  exact ⟨(no_scope_escalation_iff _ plainHashing_sound.injective readerStores
    (ascii "pat_reader") readerToken (List.mem_singleton.mpr rfl) rfl (by decide +kernel)
    (by decide)).mpr contained, contained⟩

def managerToken : TokenRecord where
  id := ascii "adm_1"
  name := ascii "manager"
  tokenHash := hashToken plainHashing.sha256 (ascii "pat_manager")
  scopes := [scopeAdminTokens]
  createdAt := 0

def managerStores : Stores where
  adminTokens := { rows := [managerToken], key_nodup := by decide, other_nodup := by decide }

/-- A token is created without naming scopes, and then used to list the agents' tokens. -/
def managerRequests : List (APIRequest × APIDraw) := [
  (createRequest (ascii "pat_manager"),
    { auth := [{}, {}], tokens := [{ secret := some [0], id := some [0] }] }),
  ({ path := ascii "/api/v1/tokens", escapedPath := ascii "/api/v1/tokens"
     header := bearerHeader (ascii "pat_AA") }, { auth := [{}, {}] })]

theorem created_token_exceeds_creator :
    (exec (Holder.step { adminToken := ascii "root", hashing := plainHashing })
        { stores := managerStores, held := [ascii "pat_manager"] } managerRequests).map
          Holder.passed = some [scopeAdminTokens, scopeTokens] ∧
      managerToken ∈ managerStores.adminTokens.rows ∧ managerToken.revokedAt = none ∧
      managerToken.scopes = [scopeAdminTokens] := by
  decide +kernel

end Porthook.ControlPlane
