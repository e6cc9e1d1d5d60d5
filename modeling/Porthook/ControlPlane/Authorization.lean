import Porthook.ControlPlane.Server

/-!
# Who may do what

Every handler that reads or changes a store, or asks the gateway, stands behind
`authorizeAdminRequest` or `validatorAuthorized`.  A request that neither lets through leaves the
stores as they are, but for the time at which an admin token was last used.
-/

namespace Porthook.ControlPlane

open Protocol

section Validate

variable {sha256 : Bytes → Bytes} {store : TokenStore} {token : Bytes} {draws : List TokenDraw}

structure LiveToken (sha256 : Bytes → Bytes) (store : TokenStore) (token : Bytes)
    (record : TokenRecord) : Prop where
  member : record ∈ store.rows
  hashed : record.tokenHash = hashToken sha256 token
  unrevoked : record.revokedAt = none

theorem answer_validate_cases (sha256 : Bytes → Bytes) (store : TokenStore) (token : Bytes)
    (draws : List TokenDraw) :
    let answered := (tokenService sha256 .admin).answer store (.validate token ([] : List Bytes))
      draws
    (∃ reply, answered = (store, reply) ∧
        ∀ result, reply = some (.validation result) → result.valid = false) ∨
      ∃ record now, LiveToken sha256 store (trimSpace token) record ∧
        answered = (store.markUsed record.id now,
          some (.validation (Realm.admin.validResult record))) := by
  intro answered
  cases draws with
  | nil => exact .inl ⟨none, rfl, by rintro _ ⟨⟩⟩
  | cons first rest =>
    cases looked : lookupToken sha256 .admin store token ([] : List Bytes) first with
    | returns reply =>
      have ends : answered = (store, some reply) := by
        simp only [answered, Calls.Service.answer, Calls.Service.complete, tokenService,
          TokenRequest.call, looked]
      refine .inl ⟨some reply, ends, ?_⟩
      rintro _ same
      rcases lookupToken_eq_returns looked with ⟨_, rfl⟩ | rfl
      · cases same
      · cases same
        rfl
    | continues =>
      obtain ⟨record, rfl, member, hashed, unrevoked, -⟩ := lookupToken_eq_continues looked
      cases rest with
      | nil =>
        have ends : answered = (store, none) := by
          simp only [answered, Calls.Service.answer, Calls.Service.complete, tokenService,
            TokenRequest.call, looked]
        exact .inl ⟨none, ends, by rintro _ ⟨⟩⟩
      | cons second =>
        cases fails : second.storeFails with
        | true =>
          have ends : answered = (store, some (.failed .storeFailed)) := by
            simp [answered, Calls.Service.answer, Calls.Service.complete, tokenService,
              TokenRequest.call, looked, fails]
          exact .inl ⟨_, ends, by rintro _ ⟨⟩⟩
        | false =>
          refine .inr ⟨record, second.now, ⟨member, hashed, unrevoked⟩, ?_⟩
          simp [answered, Calls.Service.answer, Calls.Service.complete, tokenService,
            TokenRequest.call, looked, fails]

end Validate

/-- The bodies that are made of the program's own texts, of counts and of the request. -/
def APIBody.Plain : APIBody → Prop
  | .empty | .notice _ | .notReady _ | .status _ _ _ | .metrics _ | .dashboard | .moved _ => True
  | _ => False

section Admin

variable {cfg : ServerConfig}

def Grants (cfg : ServerConfig) (store : TokenStore) (token scope : Bytes) : Prop :=
  token = cfg.adminToken ∨
    ∃ record, LiveToken cfg.hashing.sha256 store token record ∧ scope ∈ record.scopes

theorem bearerToken?_eq_some {header : Header} {token : Bytes}
    (given : bearerToken? header = some token) : trimSpace token = token ∧ token ≠ [] := by
  obtain ⟨rest, -, found⟩ := Option.bind_eq_some_iff.mp given
  dsimp only at found
  split at found
  · cases found
  next nonempty =>
    cases found
    exact ⟨trimSpace_trimSpace rest, nonempty⟩

theorem authorizeAdmin_cases (injective : Function.Injective cfg.hashing.sha256)
    (store : TokenStore) (header : Header) (scope : Bytes) (draws : List TokenDraw) :
    let authorized := authorizeAdmin cfg store header scope draws
    (∃ auth, authorized = (store, auth) ∧
        ∀ granted, auth = some granted → granted.authenticated = false) ∨
      (bearerToken? header = some cfg.adminToken ∧ ∃ auth, authorized = (store, some auth)) ∨
      ∃ token record now auth, bearerToken? header = some token ∧
        LiveToken cfg.hashing.sha256 store token record ∧
        authorized = (store.markUsed record.id now, some auth) ∧
        auth.authorized = (scope = [] || record.scopes.contains scope) := by
  intro authorized
  cases given : bearerToken? header with
  | none =>
    refine .inl ⟨some {}, ?_, fun granted same => by cases same; rfl⟩
    simp only [authorized, authorizeAdmin, given]
  | some token =>
    by_cases bootstrap : cfg.adminToken ≠ [] ∧
        secretEqual cfg.hashing.sha256 token cfg.adminToken = true
    · have same := ((secretEqual_iff injective).mp bootstrap.2).2
      refine .inr (.inl ⟨congrArg some same, ?_⟩)
      simp only [authorized, authorizeAdmin, given, if_pos bootstrap]
      exact ⟨_, rfl⟩
    · have validated := answer_validate_cases cfg.hashing.sha256 store token draws
      dsimp only at validated
      rw [(bearerToken?_eq_some given).1] at validated
      rcases validated with ⟨_, answered, invalid⟩ | ⟨record, now, live, answered⟩
      · refine .inl ?_
        simp only [authorized, authorizeAdmin, given, if_neg bootstrap, answered]
        split
        next result found =>
          cases found
          have refused := invalid result rfl
          simp only [refused, Bool.not_false, if_true]
          exact ⟨some {}, rfl, fun granted same => by cases same; rfl⟩
        next found =>
          cases found
          exact ⟨none, rfl, by rintro _ ⟨⟩⟩
      · refine .inr (.inr ⟨token, record, now, ?_⟩)
        simp only [authorized, authorizeAdmin, given, if_neg bootstrap, answered]
        exact ⟨_, trivial, live, rfl, rfl⟩

variable {auth : Option AdminAuthorization} {granted : AdminAuthorization}

theorem admission_eq_error {response : APIResponse}
    (denied : admission auth = .error response) : response.body.Plain := by
  unfold admission at denied
  repeat' split at denied
  all_goals cases denied
  · trivial
  · trivial
  trivial

theorem admission_eq_ok (admitted : admission auth = .ok granted) :
    auth = some granted ∧ granted.authenticated = true ∧ granted.authorized = true := by
  unfold admission at admitted
  repeat' split at admitted
  all_goals cases admitted
  next known allowed => exact ⟨rfl, by simpa using known, by simpa using allowed⟩

theorem core_authorizeAdminRequest (injective : Function.Injective cfg.hashing.sha256)
    (store : TokenStore) (header : Header) (scope : Bytes) (draws : List TokenDraw) :
    (authorizeAdminRequest cfg store header scope draws).1.rows.map TokenRecord.core =
      store.rows.map TokenRecord.core := by
  have ends := authorizeAdmin_cases injective store header scope draws
  dsimp only at ends
  simp only [authorizeAdminRequest]
  rcases ends with ⟨_, ended, -⟩ | ⟨-, _, ended⟩ | ⟨-, record, now, _, -, -, ended, -⟩
  · rw [ended]
  · rw [ended]
  · rw [ended]
    exact TokenStore.core_markUsed store record.id now

theorem grants_of_authorizeAdminRequest (injective : Function.Injective cfg.hashing.sha256)
    {store : TokenStore} {header : Header} {scope : Bytes} {draws : List TokenDraw}
    (needed : scope ≠ [])
    (admitted : (authorizeAdminRequest cfg store header scope draws).2 = .ok granted) :
    ∃ token, bearerToken? header = some token ∧ Grants cfg store token scope := by
  have ends := authorizeAdmin_cases injective store header scope draws
  dsimp only at ends
  simp only [authorizeAdminRequest] at admitted
  obtain ⟨same, known, allowed⟩ := admission_eq_ok admitted
  rcases ends with ⟨auth, ended, unknown⟩ | ⟨given, -⟩ |
    ⟨token, record, now, auth, given, live, ended, checked⟩
  · rw [ended] at same
    rw [unknown granted same] at known
    cases known
  · exact ⟨cfg.adminToken, given, .inl rfl⟩
  rw [ended] at same
  cases same
  rw [allowed] at checked
  have held : scope ∈ record.scopes := by simpa [needed] using checked.symm
  exact ⟨token, given, .inr ⟨record, live, held⟩⟩

end Admin

def APIRequest.endpoint? (request : APIRequest) : Option Endpoint :=
  match request.dispatched with
  | .handled endpoint => some endpoint
  | _ => none

/-- The bearer token of the request is the configured one, an admin token with the scope of
the endpoint, or the validator's token where it is asked for. -/
def Permitted (cfg : ServerConfig) (stores : Stores) (request : APIRequest) : Prop :=
  ∃ token, bearerToken? request.header = some token ∧ (token = cfg.adminToken ∨
      (∃ record scope, LiveToken cfg.hashing.sha256 stores.adminTokens token record ∧
        request.endpoint?.bind (Endpoint.scope? request.path) = some scope ∧
        scope ∈ record.scopes) ∨
      (∃ endpoint ∈ validatorEndpoints, request.endpoint? = some endpoint) ∧
        token = cfg.validatorToken)

structure Untouched (before after : Stores) : Prop where
  tokens : after.tokens = before.tokens
  adminTokens : after.adminTokens.rows.map TokenRecord.core =
    before.adminTokens.rows.map TokenRecord.core
  reservations : after.reservations = before.reservations
  policies : after.policies = before.policies
  domains : after.domains = before.domains

theorem Untouched.refl (stores : Stores) : Untouched stores stores := ⟨rfl, rfl, rfl, rfl, rfl⟩

section Guards

variable {scope : Bytes}

theorem gatewayOperatorRoute_known {path upstream : Bytes}
    (routed : gatewayOperatorRoute path = some (upstream, scope)) :
    scope ∈ Realm.admin.knownScopes := by
  unfold gatewayOperatorRoute at routed
  dsimp only at routed
  split at routed
  · cases routed; decide
  repeat' split at routed
  all_goals cases routed
  · decide
  · decide
  decide

/-- The scopes that a handler asks for before it does anything else. -/
structure AdminHandler.Asks (handler : AdminHandler) (scope? : Bytes → Option Bytes) : Prop where
  asked : ∀ {method path scope}, handler.check method path = .ok scope →
    scope? path = some scope ∧ scope ≠ []
  plain : ∀ {method path response}, handler.check method path = .error response →
    response.body.Plain

theorem asks_handleCollection (name : String) (list create : Act)
    (needed : scope ≠ []) : (handleCollection name scope list create).Asks fun _ => some scope where
  asked := by
    intro method path asked checked
    simp only [handleCollection] at checked
    repeat' split at checked
    all_goals cases checked
    exact ⟨rfl, needed⟩
  plain := by
    intro method path response checked
    simp only [handleCollection] at checked
    repeat' split at checked
    all_goals cases checked
    · trivial
    trivial

theorem asks_handleMethods (methods : List Bytes) (allow : String) (act : Act)
    (needed : scope ≠ []) : (handleMethods methods allow scope act).Asks fun _ => some scope where
  asked := by
    intro method path asked checked
    simp only [handleMethods] at checked
    split at checked
    · cases checked
    · cases checked
      exact ⟨rfl, needed⟩
  plain := by
    intro method path response checked
    simp only [handleMethods] at checked
    split at checked
    · cases checked; trivial
    · cases checked

theorem asks_handleGatewayOperator (cfg : ServerConfig) :
    (handleGatewayOperator cfg).Asks fun path => (gatewayOperatorRoute path).map Prod.snd where
  asked := by
    intro method path asked checked
    simp only [handleGatewayOperator] at checked
    repeat' split at checked
    all_goals cases checked
    next routed =>
      exact ⟨by rw [routed]; rfl,
        ne_of_mem_of_not_mem (gatewayOperatorRoute_known routed) (by decide)⟩
  plain := by
    intro method path response checked
    simp only [handleGatewayOperator] at checked
    repeat' split at checked
    all_goals cases checked
    · trivial
    trivial

/-- What the guard of an endpoint has to be: without a scope it shows nothing, or it is one
of the validator's. -/
def Guard.Fits (endpoint : Endpoint) : Guard → Prop
  | .unguarded respond => ∀ request draw stores, (respond request draw stores).body.Plain
  | .validator _ => endpoint ∈ validatorEndpoints
  | .admin handler => handler.Asks endpoint.scope?

theorem getting_plain {respond : APIDraw → Stores → APIResponse}
    (plain : ∀ draw stores, (respond draw stores).body.Plain) (request : APIRequest)
    (draw : APIDraw) (stores : Stores) : (getting respond request draw stores).body.Plain := by
  unfold getting
  split
  · trivial
  · exact plain draw stores

theorem handleReady_plain (request : APIRequest) (draw : APIDraw) (stores : Stores) :
    (handleReady request draw stores).body.Plain := by
  refine getting_plain (fun draw _ => ?_) request draw stores
  split <;> trivial

theorem handleStatus_plain (cfg : ServerConfig) (request : APIRequest) (draw : APIDraw)
    (stores : Stores) : (handleStatus cfg request draw stores).body.Plain := by
  refine getting_plain (fun draw _ => ?_) request draw stores
  split <;> trivial

theorem handleDashboard_plain (request : APIRequest) : (handleDashboard request).body.Plain := by
  unfold handleDashboard
  split <;> trivial

theorem guard_fits (cfg : ServerConfig) (endpoint : Endpoint) :
    (guard cfg endpoint).Fits endpoint := by
  cases endpoint with
  | healthz => exact fun _ _ _ => trivial
  | readyz => exact handleReady_plain
  | metrics => exact getting_plain fun _ _ => trivial
  | dashboard => exact fun request _ _ => handleDashboard_plain request
  | status => exact handleStatus_plain cfg
  | gatewayOperator => exact asks_handleGatewayOperator cfg
  | events => exact asks_handleMethods _ _ _ (by decide)
  | adminTokens => exact asks_handleCollection _ _ _ (by decide)
  | adminTokenByID => exact asks_handleMethods _ _ _ (by decide)
  | tokens => exact asks_handleCollection _ _ _ (by decide)
  | tokenByID => exact asks_handleMethods _ _ _ (by decide)
  | validateToken => exact (by decide : Endpoint.validateToken ∈ validatorEndpoints)
  | accessPolicies => exact asks_handleCollection _ _ _ (by decide)
  | accessPolicyByID => exact asks_handleMethods _ _ _ (by decide)
  | evaluateAccessPolicy => exact (by decide : Endpoint.evaluateAccessPolicy ∈ validatorEndpoints)
  | customDomains => exact asks_handleCollection _ _ _ (by decide)
  | customDomainByID => exact asks_handleMethods _ _ _ (by decide)
  | lookupCustomDomain => exact (by decide : Endpoint.lookupCustomDomain ∈ validatorEndpoints)
  | reservedSubdomains => exact asks_handleCollection _ _ _ (by decide)
  | reservedSubdomainByID => exact asks_handleMethods _ _ _ (by decide)
  | authorizeReservedSubdomain =>
    exact (by decide : Endpoint.authorizeReservedSubdomain ∈ validatorEndpoints)

end Guards

section Denied

variable {cfg : ServerConfig} {stores : Stores} {request : APIRequest} {endpoint : Endpoint}

theorem admin_denied (injective : Function.Injective cfg.hashing.sha256) {handler : AdminHandler}
    (asks : handler.Asks endpoint.scope?) (handled : request.endpoint? = some endpoint)
    (denied : ¬ Permitted cfg stores request) (draw : APIDraw) :
    Untouched stores (handler.serve cfg request draw stores).1 ∧
      (handler.serve cfg request draw stores).2.body.Plain := by
  unfold AdminHandler.serve
  cases checked : handler.check request.method request.path with
  | error => exact ⟨.refl stores, asks.plain checked⟩
  | ok scope =>
    obtain ⟨asksFor, needed⟩ := asks.asked checked
    have core := core_authorizeAdminRequest injective stores.adminTokens request.header scope
      draw.auth
    dsimp only
    split
    next adminTokens response authorized =>
      have unused : adminTokens.rows.map TokenRecord.core =
          stores.adminTokens.rows.map TokenRecord.core := by
        rwa [authorized] at core
      have refusal := congrArg Prod.snd authorized
      exact ⟨⟨rfl, unused, rfl, rfl, rfl⟩, admission_eq_error refusal⟩
    next adminTokens granted authorized =>
      obtain ⟨token, given, grants⟩ := grants_of_authorizeAdminRequest injective needed
        (congrArg Prod.snd authorized)
      refine absurd ⟨token, given, ?_⟩ denied
      rcases grants with configured | ⟨record, live, held⟩
      · exact .inl configured
      · refine .inr (.inl ⟨record, scope, live, ?_, held⟩)
        rw [handled]
        exact asksFor

theorem validator_denied (injective : Function.Injective cfg.hashing.sha256) {act : Act}
    (validates : endpoint ∈ validatorEndpoints) (handled : request.endpoint? = some endpoint)
    (denied : ¬ Permitted cfg stores request) (draw : APIDraw) :
    Untouched stores ((Guard.validator act).serve cfg request draw stores).1 ∧
      ((Guard.validator act).serve cfg request draw stores).2.body.Plain := by
  simp only [Guard.serve]
  split
  · exact ⟨.refl stores, trivial⟩
  split
  · exact ⟨.refl stores, trivial⟩
  next authorized =>
    simp only [Bool.not_eq_true, Bool.not_eq_false', authorizedBearer,
      Bool.and_eq_true] at authorized
    cases given : bearerToken? request.header with
    | none => rw [given] at authorized; cases authorized.2
    | some token =>
      rw [given] at authorized
      have same := ((secretEqual_iff injective).mp authorized.2).2
      exact absurd ⟨token, given, .inr (.inr ⟨⟨endpoint, validates, handled⟩, same⟩)⟩ denied

theorem guard_denied (injective : Function.Injective cfg.hashing.sha256) {guard : Guard}
    (fits : guard.Fits endpoint) (handled : request.endpoint? = some endpoint)
    (denied : ¬ Permitted cfg stores request) (draw : APIDraw) :
    Untouched stores (guard.serve cfg request draw stores).1 ∧
      (guard.serve cfg request draw stores).2.body.Plain := by
  cases guard with
  | unguarded => exact ⟨.refl stores, fits request draw stores⟩
  | validator => exact validator_denied injective fits handled denied draw
  | admin => exact admin_denied injective fits handled denied draw

end Denied

/-- A request without a token that permits it changes nothing but the time at which an
admin token was last used, and is shown no record. -/
theorem authorization_complete (cfg : ServerConfig)
    (injective : Function.Injective cfg.hashing.sha256) (stores : Stores) (request : APIRequest)
    (draw : APIDraw) (denied : ¬ Permitted cfg stores request) :
    Untouched stores (serve cfg request draw stores).1 ∧
      (serve cfg request draw stores).2.body.Plain := by
  unfold serve
  split
  · exact ⟨.refl stores, trivial⟩
  · exact ⟨.refl stores, trivial⟩
  · exact ⟨.refl stores, trivial⟩
  next endpoint handled =>
    have addressed : request.endpoint? = some endpoint := by
      simp only [APIRequest.endpoint?, handled]
    exact guard_denied injective (guard_fits cfg endpoint) addressed denied draw

def readerToken : TokenRecord where
  id := ascii "adm_1"
  name := ascii "reader"
  tokenHash := hashToken plainHashing.sha256 (ascii "pat_reader")
  scopes := [scopeTokens]
  createdAt := 0

def readerStores : Stores where
  adminTokens := { rows := [readerToken], key_nodup := by decide, other_nodup := by decide }

def readerRequest : APIRequest where
  path := ascii "/api/v1/admin-tokens"
  escapedPath := ascii "/api/v1/admin-tokens"
  header := [(ascii "Authorization", [ascii "Bearer pat_reader"])]

theorem reader_not_permitted :
    ¬ Permitted { adminToken := ascii "root", hashing := plainHashing } readerStores
      readerRequest := by
  have given : bearerToken? readerRequest.header = some (ascii "pat_reader") := by decide +kernel
  have addressed : readerRequest.endpoint? = some .adminTokens := by decide +kernel
  rintro ⟨_, same, granted⟩
  rw [given] at same
  cases same
  rcases granted with configured | ⟨_, _, live, asked, held⟩ | ⟨⟨endpoint, validates, same⟩, -⟩
  · exact absurd configured (by decide)
  · cases List.mem_singleton.mp live.member
    rw [addressed] at asked
    cases asked
    exact absurd held (by decide)
  · rw [addressed] at same
    cases same
    exact absurd validates (by decide)

theorem authorization_complete_reader :
    ¬ Permitted { adminToken := ascii "root", hashing := plainHashing } readerStores readerRequest ∧
      Untouched readerStores (serve { adminToken := ascii "root", hashing := plainHashing }
        readerRequest { auth := [{ now := 7 }, { now := 7 }] } readerStores).1 ∧
      (serve { adminToken := ascii "root", hashing := plainHashing } readerRequest
        { auth := [{ now := 7 }, { now := 7 }] } readerStores).2.body.Plain :=
  ⟨reader_not_permitted, authorization_complete _ plainHashing_sound.injective readerStores
    readerRequest _ reader_not_permitted⟩

end Porthook.ControlPlane
