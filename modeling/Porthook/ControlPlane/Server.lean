import Porthook.ControlPlane.Lookups
import Porthook.ControlPlane.Routes
import Porthook.ControlPlane.Tokens
import Porthook.Gateway.ClientIP

/-!
# The HTTP server of the control plane

One request from the mux to the response, with every store it can reach.  An admin handler is cut
in two at `authorizeAdminRequest`: what it tests before, and what it does once the request was let
through.  What the audit log and the gateway's management server answer is drawn.
-/

namespace Porthook.ControlPlane

open Protocol

structure ServerConfig where
  adminToken : Bytes := []
  validatorToken : Bytes := []
  gatewayManagementURL : Bytes := []
  gatewayManagementToken : Bytes := []
  version : Bytes := ascii "dev"
  clientIPs : ClientIP.Resolver := ⟨[]⟩
  backend : Backend := .memory
  hashing : Hashing

structure Stores where
  tokens : TokenStore := .empty
  adminTokens : TokenStore := .empty
  reservations : ReservationStore := .empty
  policies : PolicyStore := .empty
  domains : DomainStore := .empty

namespace Stores

variable (stores : Stores)

def tokenStore : Realm → TokenStore
  | .agent => stores.tokens
  | .admin => stores.adminTokens

def withTokenStore (store : TokenStore) : Realm → Stores
  | .agent => { stores with tokens := store }
  | .admin => { stores with adminTokens := store }

/-- The foreign keys of the database delete what refers to a reservation. -/
def cascade (backend : Backend) (reservation : Bytes) : Stores :=
  match backend with
  | .memory => stores
  | .postgres => { stores with
      policies := stores.policies.filter fun policy => policy.reservedSubdomainID ≠ reservation
      domains := stores.domains.filter fun domain => domain.reservedSubdomainID ≠ reservation }

end Stores

/-- A request; `body` is the one JSON value of a body within the limit. -/
structure APIRequest where
  method : Bytes := ascii "GET"
  path : Bytes
  escapedPath : Bytes
  query : Bytes := []
  header : Header := []
  remoteAddr : Bytes := []
  body : Option Json := none

inductive Notice where
  | ok
  | ready
  | pageNotFound
  | unauthorized
  | forbidden
  | authorizationFailed
  | tokenIDNotFound
  | tokenIDRevoked
  | reservedSubdomainIDNotFound
  | subdomainRequired
  | gatewayNotConfigured
  | gatewayRequestInvalid
  | gatewayRequestFailed
  deriving DecidableEq

inductive ServiceError where
  | invalidJSON
  | token (err : TokenError)
  | reservation (err : ReservationError)
  | policy (err : PolicyError)
  | domain (err : DomainError)
  | events (err : Bytes)
  | canceled
  deriving DecidableEq

/-- The gauges of `writeInventoryMetrics`; one whose list fails is left out. -/
structure Inventory where
  ready : Bool
  tokens : Option Nat
  tokensRevoked : Option Nat
  reservedSubdomains : Option Nat
  accessPolicies : Option Nat
  customDomains : Option Nat

inductive APIBody where
  | empty
  | notice (notice : Notice)
  | notReady (err : Bytes)
  | status (ready : Bool) (version : Bytes) (err : Bytes)
  | metrics (inventory : Inventory)
  | dashboard
  | moved (path : Bytes)
  | failure (err : ServiceError)
  | tokens (listed : List TokenSummary)
  | createdToken (realm : Realm) (created : CreatedToken)
  | validation (result : ValidationResult)
  | reservations (listed : List ReservationRecord)
  | reservation (reservation : ReservationRecord)
  | authorization (result : AuthorizationResult)
  | policies (listed : List PolicySummary)
  | policy (policy : PolicySummary)
  | evaluation (result : CheckPolicyResult)
  | domains (listed : List DomainSummary)
  | domain (domain : DomainSummary)
  | lookup (result : LookupCustomDomainResponse)
  | events (page : Json)
  | gateway (header : Header) (body : Bytes)

structure APIResponse where
  status : Nat
  allow : Bytes := []
  body : APIBody := .empty

def methodNotAllowed (allow : String) : APIResponse := { status := 405, allow := ascii allow }

def notFound : APIResponse := { status := 404, body := .notice .pageNotFound }

def refused (status : Nat) (notice : Notice) : APIResponse := { status, body := .notice notice }

def failed (status : Nat) (err : ServiceError) : APIResponse := { status, body := .failure err }

structure GatewayRequest where
  url : Bytes
  query : Bytes
  header : Header

structure GatewayResponse where
  status : Nat
  header : Header := []
  body : Bytes := []

inductive GatewayFailure where
  | badURL
  | badRequest
  | unreachable
  deriving DecidableEq

/-- The steps of the services, the error of `ready`, the page of audit events or its error, and what
becomes of a request to the gateway. -/
structure APIDraw where
  auth : List TokenDraw := []
  tokens : List TokenDraw := []
  reservations : List ReservationDraw := []
  policies : List PolicyDraw := []
  domains : List DomainDraw := []
  token : TokenDraw := {}
  reservation : ReservationDraw := {}
  policy : PolicyDraw := {}
  domain : DomainDraw := {}
  unready : Option Bytes := none
  events : Except (Nat × Bytes) Json := .ok .null
  gateway : GatewayRequest → Except GatewayFailure GatewayResponse := fun _ => .error .unreachable

def decodeJSON {Struct : Type} (fields : List (Protocol.Field Struct)) (zero : Struct) :
    Option Json → Option Struct
  | some .null => some zero
  | some (.object members) => members.foldlM
      (fun value member => (findField? fields member.1).bind fun field =>
        field.store value member.2) zero
  | _ => none

def stringField {Struct : Type} (name : String) (current : Struct → Bytes)
    (store : Struct → Bytes → Struct) : Protocol.Field Struct where
  name := ascii name
  store value json := (decodeString (current value) json).map (store value)

def stringsField {Struct : Type} (name : String) (store : Struct → List Bytes → Struct) :
    Protocol.Field Struct where
  name := ascii name
  store value json := (decodeStrings json).map (store value)

def decodeCreateToken : Option Json → Option CreateTokenRequest :=
  decodeJSON [
    stringField "name" (·.name) fun value name => { value with name },
    stringsField "scopes" fun value scopes => { value with scopes }] { name := [] }

def decodeCreateReservation : Option Json → Option CreateReservationRequest :=
  decodeJSON [
    stringField "name" (·.name) fun value name => { value with name },
    stringField "token_id" (·.tokenID) fun value tokenID => { value with tokenID }]
    { name := [], tokenID := [] }

def policyFields : List (Protocol.Field UpdatePolicyRequest) := [
  stringField "mode" (·.mode) fun value mode => { value with mode },
  stringField "basic_username" (·.basicUsername) fun value basicUsername =>
    { value with basicUsername },
  stringField "basic_password" (·.basicPassword) fun value basicPassword =>
    { value with basicPassword },
  stringField "bearer_token" (·.bearerToken) fun value bearerToken => { value with bearerToken },
  stringsField "ip_allowlist" fun value ipAllowlist => { value with ipAllowlist }]

def decodeUpdatePolicy : Option Json → Option UpdatePolicyRequest := decodeJSON policyFields {}

def decodeCreatePolicy : Option Json → Option CreatePolicyRequest :=
  decodeJSON (stringField "reserved_subdomain_id" (·.reservedSubdomainID)
      (fun value reservedSubdomainID => { value with reservedSubdomainID }) ::
    policyFields.map fun field =>
      { name := field.name
        store := fun value json => (field.store value.toUpdatePolicyRequest json).map
          fun toUpdatePolicyRequest => { value with toUpdatePolicyRequest } })
    { reservedSubdomainID := [] }

def decodeCreateDomain : Option Json → Option CreateDomainRequest :=
  decodeJSON [
    stringField "hostname" (·.hostname) fun value hostname => { value with hostname },
    stringField "reserved_subdomain_id" (·.reservedSubdomainID) fun value reservedSubdomainID =>
      { value with reservedSubdomainID }] { hostname := [], reservedSubdomainID := [] }

structure ValidateTokenRequest where
  token : Bytes := []
  scope : Bytes := []

def decodeValidateToken : Option Json → Option ValidateTokenRequest :=
  decodeJSON [
    stringField "token" (·.token) fun value token => { value with token },
    stringField "scope" (·.scope) fun value scope => { value with scope }] {}

structure AuthorizeReservedSubdomainRequest where
  tokenID : Bytes := []
  subdomain : Bytes := []

def decodeAuthorizeReservedSubdomain : Option Json → Option AuthorizeReservedSubdomainRequest :=
  decodeJSON [
    stringField "token_id" (·.tokenID) fun value tokenID => { value with tokenID },
    stringField "subdomain" (·.subdomain) fun value subdomain => { value with subdomain }] {}

def decodeEvaluateAccessPolicy : Option Json → Option EvaluateAccessPolicyRequest :=
  decodeJSON [
    stringField "subdomain" (·.subdomain) fun value subdomain => { value with subdomain },
    stringField "remote_ip" (·.remoteIP) fun value remoteIP => { value with remoteIP },
    stringField "basic_username" (·.basicUsername) fun value basicUsername =>
      { value with basicUsername },
    stringField "basic_password" (·.basicPassword) fun value basicPassword =>
      { value with basicPassword },
    stringField "bearer_token" (·.bearerToken) fun value bearerToken =>
      { value with bearerToken }] { subdomain := [] }

def decodeLookupCustomDomain : Option Json → Option Bytes :=
  decodeJSON [stringField "hostname" id fun _ hostname => hostname] []

def isTokenRequestError : TokenError → Bool
  | .nameRequired | .unsupportedScope _ => true
  | _ => false

def isReservationRequestError : ReservationError → Bool
  | .nameRequired | .tokenIDRequired | .invalidName _ _ => true
  | _ => false

def isAccessPolicyRequestError : PolicyError → Bool
  | .reservedSubdomainIDRequired | .modeRequired | .modeUnsupported _ | .secretRequired
  | .basicUsernameRequired | .ipAllowlistRequired | .invalidIPAllowlistEntry _ => true
  | _ => false

def isCustomDomainRequestError : DomainError → Bool
  | .hostnameRequired | .reservedSubdomainIDRequired | .invalidHostname _ _ => true
  | _ => false

def errorStatus {Err : Type} (cases : List ((Err → Bool) × Nat)) (err : Err) : Nat :=
  ((cases.find? fun entry => entry.1 err).map Prod.snd).getD 500

section Handlers

variable (cfg : ServerConfig)

def callTokens (realm : Realm) (request : TokenRequest realm) (status : TokenError → Nat)
    (draw : APIDraw) (stores : Stores) : Stores × APIResponse :=
  let (store, reply) := (tokenService cfg.hashing.sha256 realm).answer (stores.tokenStore realm)
    request draw.tokens
  (stores.withTokenStore store realm,
    match reply with
    | none => failed 500 .canceled
    | some (.created created) => { status := 201, body := .createdToken realm created }
    | some (.validation result) => { status := 200, body := .validation result }
    | some .revoked => { status := 204 }
    | some (.tokens listed) => { status := 200, body := .tokens listed }
    | some (.failed err) => failed (status err) (.token err))

def reservationResponse (status : ReservationError → Nat) : Option ReservationReply → APIResponse
  | none => failed 500 .canceled
  | some (.created reservation) => { status := 201, body := .reservation reservation }
  | some .deleted => { status := 204 }
  | some (.found (some reservation)) => { status := 200, body := .reservation reservation }
  | some (.found none) => failed 404 (.reservation .notFound)
  | some (.reservations listed) => { status := 200, body := .reservations listed }
  | some (.authorization result) => { status := 200, body := .authorization result }
  | some (.failed err) => failed (status err) (.reservation err)

def callReservations (request : ReservationRequest) (status : ReservationError → Nat)
    (draw : APIDraw) (stores : Stores) : Stores × APIResponse :=
  let (reservations, reply) := reservationService.answer stores.reservations request
    draw.reservations
  ({ stores with reservations }, reservationResponse status reply)

/-- A policy that is created is answered with another status than one that is updated. -/
def callPolicies (request : PolicyRequest) (stored : Nat) (status : PolicyError → Nat)
    (draw : APIDraw) (stores : Stores) : Stores × APIResponse :=
  let (policies, reply) := (policyService cfg.hashing).answer stores.policies request draw.policies
  ({ stores with policies },
    match reply with
    | none => failed 500 .canceled
    | some (.policy policy) => { status := stored, body := .policy policy }
    | some .deleted => { status := 204 }
    | some (.checked result) => { status := 200, body := .evaluation result }
    | some (.found (some policy)) => { status := 200, body := .policy policy }
    | some (.found none) => failed 404 (.policy .notFound)
    | some (.policies listed) => { status := 200, body := .policies listed }
    | some (.failed err) => failed (status err) (.policy err))

def callDomains (request : DomainRequest) (status : DomainError → Nat) (draw : APIDraw)
    (stores : Stores) : Stores × APIResponse :=
  let (domains, reply) := domainService.answer stores.domains request draw.domains
  ({ stores with domains },
    match reply with
    | none => failed 500 .canceled
    | some (.created domain) => { status := 201, body := .domain domain }
    | some (.verified domain) => { status := 200, body := .domain domain }
    | some .deleted => { status := 204 }
    | some (.found (some domain)) => { status := 200, body := .domain domain }
    | some (.found none) => failed 404 (.domain .notFound)
    | some (.domains listed) => { status := 200, body := .domains listed }
    | some (.failed err) => failed (status err) (.domain err))

def getToken (store : TokenStore) (id : Bytes) (draw : TokenDraw) :
    Except TokenError (Option TokenSummary) :=
  let id := trimSpace id
  if id = [] then .ok none
  else if draw.storeFails then .error .storeFailed
  else .ok ((store.lookupByID id).map TokenRecord.summary)

abbrev Act := APIRequest → APIDraw → Stores → Stores × APIResponse

/-- `check` is given the method and the path, and `act` what `authorizeAdminRequest` let
through with the scope of `check`. -/
structure AdminHandler where
  check : Bytes → Bytes → Except APIResponse Bytes
  act : Act

def decoding {Struct : Type} (decode : Option Json → Option Struct)
    (act : Struct → APIRequest → APIDraw → Stores → Stores × APIResponse) : Act :=
  fun request draw stores =>
    match decode request.body with
    | none => (stores, failed 400 .invalidJSON)
    | some value => act value request draw stores

def handleCollection (path : String) (scope : Bytes) (list create : Act) : AdminHandler where
  check method requested :=
    if requested ≠ ascii path then .error notFound
    else if method ≠ ascii "GET" ∧ method ≠ ascii "POST" then
      .error (methodNotAllowed "GET, POST")
    else .ok scope
  act request draw stores :=
    if request.method = ascii "GET" then list request draw stores else create request draw stores

def listAndCreateTokens (realm : Realm) (path : String) (scope : Bytes) : AdminHandler :=
  handleCollection path scope
    (fun _ draw stores => callTokens cfg realm .list (fun _ => 500) draw stores)
    (decoding decodeCreateToken fun value _ draw stores =>
      callTokens cfg realm (.create value) (errorStatus [(isTokenRequestError, 400)]) draw stores)

def handleAdminTokens : AdminHandler :=
  listAndCreateTokens cfg .admin "/api/v1/admin-tokens" scopeAdminTokens

def handleTokens : AdminHandler := listAndCreateTokens cfg .agent "/api/v1/tokens" scopeTokens

def createReservedSubdomain : Act :=
  decoding decodeCreateReservation fun value _ draw stores =>
    match getToken stores.tokens value.tokenID draw.token with
    | .error err => (stores, failed 500 (.token err))
    | .ok none => (stores, refused 400 .tokenIDNotFound)
    | .ok (some token) =>
      if token.revokedAt.isSome then (stores, refused 400 .tokenIDRevoked)
      else callReservations (.create value)
        (errorStatus [(fun err => err = .alreadyExists, 409), (isReservationRequestError, 400)])
        draw stores

def handleReservedSubdomains : AdminHandler :=
  handleCollection "/api/v1/reserved-subdomains" scopeReservations
    (fun _ draw stores => callReservations .list (fun _ => 500) draw stores)
    createReservedSubdomain

/-- A policy and a domain are created only for a reservation that there is. -/
def forReservation (id : Bytes) (create : APIDraw → Stores → Stores × APIResponse)
    (draw : APIDraw) (stores : Stores) : Stores × APIResponse :=
  match getReservation stores.reservations id draw.reservation with
  | .failed err => (stores, failed 500 (.reservation err))
  | .found (some _) => create draw stores
  | _ => (stores, refused 400 .reservedSubdomainIDNotFound)

def handleAccessPolicies : AdminHandler :=
  handleCollection "/api/v1/access-policies" scopeAccessPolicies
    (fun _ draw stores => callPolicies cfg .list 200 (fun _ => 500) draw stores)
    (decoding decodeCreatePolicy fun value _ draw stores =>
      forReservation value.reservedSubdomainID (callPolicies cfg (.create value) 201
        (errorStatus [(fun err => err = .alreadyExists, 409), (isAccessPolicyRequestError, 400)]))
        draw stores)

def handleCustomDomains : AdminHandler :=
  handleCollection "/api/v1/custom-domains" scopeDomains
    (fun _ draw stores => callDomains .list (fun _ => 500) draw stores)
    (decoding decodeCreateDomain fun value _ draw stores =>
      forReservation value.reservedSubdomainID (callDomains (.create value)
        (errorStatus [(fun err => err = .alreadyExists, 409), (isCustomDomainRequestError, 400)]))
        draw stores)

def resourceID? (id : Bytes) (taken : List Bytes) : Option Bytes :=
  if id = [] ∨ id ∈ taken ∨ 47 ∈ id then none else some id

/-- A handler that looks at nothing but the method before it authorizes. -/
def handleMethods (methods : List Bytes) (allow : String) (scope : Bytes) (act : Act) :
    AdminHandler where
  check method _ := if method ∉ methods then .error (methodNotAllowed allow) else .ok scope
  act := act

def identified (path : String) (taken : List Bytes)
    (act : Bytes → APIRequest → APIDraw → Stores → Stores × APIResponse) : Act :=
  fun request draw stores =>
    match resourceID? (trimPrefix request.path (ascii path)) taken with
    | none => (stores, notFound)
    | some id => act id request draw stores

def handleTokenByID : AdminHandler :=
  handleMethods [ascii "DELETE"] "DELETE" scopeTokens
    (identified "/api/v1/tokens/" [ascii "validate"] fun id _ draw stores =>
      callTokens cfg .agent (.revoke id) (fun _ => 500) draw stores)

def handleAdminTokenByID : AdminHandler :=
  handleMethods [ascii "DELETE"] "DELETE" scopeAdminTokens
    (identified "/api/v1/admin-tokens/" [] fun id _ draw stores =>
      callTokens cfg .admin (.revoke id) (fun _ => 500) draw stores)

/-- The database deletes the policy and the domains of a reservation with it. -/
def deleteReservedSubdomain (id : Bytes) (draw : APIDraw) (stores : Stores) :
    Stores × APIResponse :=
  let status := errorStatus [(fun err => err = ReservationError.notFound, 404)]
  match reservationService.answer stores.reservations (.delete id) draw.reservations with
  | (reservations, some .deleted) =>
    ({ stores with reservations }.cascade cfg.backend (trimSpace id), { status := 204 })
  | (reservations, reply) => ({ stores with reservations }, reservationResponse status reply)

def handleReservedSubdomainByID : AdminHandler :=
  handleMethods [ascii "DELETE"] "DELETE" scopeReservations
    (identified "/api/v1/reserved-subdomains/" [ascii "authorize"] fun id _ draw stores =>
      deleteReservedSubdomain cfg id draw stores)

def handleAccessPolicyByID : AdminHandler :=
  handleMethods [ascii "GET", ascii "PUT", ascii "DELETE"] "GET, PUT, DELETE" scopeAccessPolicies
    (identified "/api/v1/access-policies/" [ascii "evaluate"] fun id request draw stores =>
      if request.method = ascii "GET" then
        callPolicies cfg (.get id) 200 (fun _ => 500) draw stores
      else if request.method = ascii "PUT" then
        decoding decodeUpdatePolicy (fun value _ draw stores =>
          callPolicies cfg (.update id value) 200
            (errorStatus [(fun err => err = .notFound, 404), (isAccessPolicyRequestError, 400)])
            draw stores) request draw stores
      else
        callPolicies cfg (.delete id) 200 (errorStatus [(fun err => err = .notFound, 404)]) draw
          stores)

def customDomainByID : Act := fun request draw stores =>
  let id := trimPrefix request.path (ascii "/api/v1/custom-domains/")
  let status := errorStatus [(fun err => err = DomainError.notFound, 404)]
  if (ascii "/verify").isSuffixOf id then
    if request.method ≠ ascii "POST" then (stores, methodNotAllowed "POST")
    else
      match resourceID? (trimSuffix id (ascii "/verify")) [ascii "lookup"] with
      | none => (stores, notFound)
      | some id => callDomains (.verify id) status draw stores
  else if request.method = ascii "POST" then (stores, methodNotAllowed "GET, DELETE")
  else
    match resourceID? id [ascii "lookup"] with
    | none => (stores, notFound)
    | some id =>
      if request.method = ascii "GET" then callDomains (.get id) (fun _ => 500) draw stores
      else callDomains (.delete id) status draw stores

def handleCustomDomainByID : AdminHandler :=
  handleMethods [ascii "GET", ascii "DELETE", ascii "POST"] "GET, DELETE, POST" scopeDomains
    customDomainByID

def handleEvents : AdminHandler :=
  handleMethods [ascii "GET"] "GET" scopeAuditHistory fun _ draw stores =>
    match draw.events with
    | .error (status, err) => (stores, failed status (.events err))
    | .ok page => (stores, { status := 200, body := .events page })

def trimRightSlashes (text : Bytes) : Bytes := (text.reverse.dropWhile (· = 47)).reverse

/-- Headers of the request that are passed on if they are there. -/
def passHeader (name : String) (received sent : Header) : Header :=
  let value := received.get (ascii name)
  if value = [] then sent else sent.set (ascii name) value

def gatewayRequest (request : APIRequest) (upstreamPath : Bytes) : GatewayRequest where
  url := trimRightSlashes cfg.gatewayManagementURL ++ upstreamPath
  query := request.query
  header := passHeader "X-Request-ID" request.header (passHeader "Accept" request.header
    (Header.set [] (ascii "Authorization") (ascii "Bearer " ++ cfg.gatewayManagementToken)))

def copyGatewayResponseHeader (received : Header) : Header :=
  ["Content-Type", "Cache-Control", "ETag", "Last-Modified"].foldl
    (fun copied name => passHeader name received copied) []

def gatewayOperator : Act := fun request draw stores =>
  match gatewayOperatorRoute request.path with
  | none => (stores, notFound)
  | some (upstreamPath, _) =>
    if trimSpace cfg.gatewayManagementURL = [] ∨ trimSpace cfg.gatewayManagementToken = [] then
      (stores, refused 503 .gatewayNotConfigured)
    else
      match draw.gateway (gatewayRequest cfg request upstreamPath) with
      | .error .badURL => (stores, refused 503 .gatewayNotConfigured)
      | .error .badRequest => (stores, refused 500 .gatewayRequestInvalid)
      | .error .unreachable => (stores, refused 502 .gatewayRequestFailed)
      | .ok response => (stores,
          { status := response.status
            body := .gateway (copyGatewayResponseHeader response.header) response.body })

def handleGatewayOperator : AdminHandler where
  check method path :=
    if method ≠ ascii "GET" then .error (methodNotAllowed "GET")
    else
      match gatewayOperatorRoute path with
      | none => .error notFound
      | some (_, scope) => .ok scope
  act := gatewayOperator cfg

def handleValidateToken : Act :=
  decoding decodeValidateToken fun value _ draw stores =>
    callTokens cfg .agent (.validate value.token value.scope)
      (errorStatus [(fun err => match err with
        | .unsupportedScope _ => true
        | _ => false, 400)]) draw stores

def handleAuthorizeReservedSubdomain : Act :=
  decoding decodeAuthorizeReservedSubdomain fun value _ draw stores =>
    callReservations (.authorize value.tokenID value.subdomain)
      (errorStatus [(isReservationRequestError, 400)]) draw stores

def handleEvaluateAccessPolicy : Act :=
  decoding decodeEvaluateAccessPolicy fun value request draw stores =>
    let (policies, result) := answerEvaluation cfg.hashing
      (cfg.clientIPs.resolveString request.remoteAddr request.header) stores.reservations
      stores.policies value draw.reservation draw.policies
    ({ stores with policies },
      match result with
      | .ok result => { status := 200, body := .evaluation result }
      | .error .subdomainRequired => refused 400 .subdomainRequired
      | .error (.reservation err) =>
        failed (errorStatus [(isReservationRequestError, 400)] err) (.reservation err)
      | .error (.policy err) => failed 500 (.policy err)
      | .error .canceled => failed 500 .canceled)

def handleLookupCustomDomain : Act :=
  decoding decodeLookupCustomDomain fun hostname _ draw stores =>
    (stores,
      match lookupCustomDomain stores.reservations stores.domains hostname draw.domain
          draw.reservation with
      | .ok result => { status := 200, body := .lookup result }
      | .error (.domain err) =>
        failed (errorStatus [(isCustomDomainRequestError, 400)] err) (.domain err)
      | .error (.reservation err) => failed 500 (.reservation err))

def getting (respond : APIDraw → Stores → APIResponse) (request : APIRequest) (draw : APIDraw)
    (stores : Stores) : APIResponse :=
  if request.method ≠ ascii "GET" then methodNotAllowed "GET" else respond draw stores

def handleReady : APIRequest → APIDraw → Stores → APIResponse :=
  getting fun draw _ =>
    match draw.unready with
    | some err => { status := 503, body := .notReady err }
    | none => { status := 200, body := .notice .ready }

def handleStatus : APIRequest → APIDraw → Stores → APIResponse :=
  getting fun draw _ =>
    match draw.unready with
    | some err => { status := 503, body := .status false cfg.version err }
    | none => { status := 200, body := .status true cfg.version [] }

def counted {Row : Type} (rows : List Row) (fails : Bool) : Option Nat :=
  if fails then none else some rows.length

def inventory (draw : APIDraw) (stores : Stores) : Inventory where
  ready := draw.unready.isNone
  tokens := counted stores.tokens.rows draw.token.storeFails
  tokensRevoked := counted (stores.tokens.rows.filter fun token => token.revokedAt.isSome)
    draw.token.storeFails
  reservedSubdomains := counted stores.reservations.rows draw.reservation.storeFails
  accessPolicies := counted stores.policies.rows draw.policy.storeFails
  customDomains := counted stores.domains.rows draw.domain.storeFails

def handleMetrics : APIRequest → APIDraw → Stores → APIResponse :=
  getting fun draw stores => { status := 200, body := .metrics (inventory draw stores) }

def handleDashboard (request : APIRequest) : APIResponse :=
  if request.path = ascii "/dashboard" then
    { status := 301, body := .moved (ascii "/dashboard/") }
  else { status := 200, body := .dashboard }

def bearerToken? (header : Header) : Option Bytes :=
  (cutPrefix? (header.get (ascii "Authorization")) (ascii "Bearer ")).bind fun token =>
    let token := trimSpace token
    if token = [] then none else some token

def authorizedBearer (header : Header) (configuredToken : Bytes) : Bool :=
  configuredToken ≠ [] &&
    match bearerToken? header with
    | none => false
    | some token => secretEqual cfg.hashing.sha256 token configuredToken

structure AdminAuthorization where
  authenticated : Bool := false
  authorized : Bool := false
  source : Bytes := []
  tokenID : Bytes := []
  tokenName : Bytes := []
  scopes : List Bytes := []

/-- `authorizeAdmin`; an error of the store is `none`. -/
def authorizeAdmin (store : TokenStore) (header : Header) (scope : Bytes)
    (draws : List TokenDraw) : TokenStore × Option AdminAuthorization :=
  match bearerToken? header with
  | none => (store, some {})
  | some token =>
    if cfg.adminToken ≠ [] ∧ secretEqual cfg.hashing.sha256 token cfg.adminToken then
      (store, some
        { authenticated := true, authorized := true, source := ascii "bootstrap"
          scopes := Realm.admin.defaultScopes })
    else
      match (tokenService cfg.hashing.sha256 .admin).answer store
          (.validate token ([] : List Bytes)) draws with
      | (store, some (.validation result)) =>
        if !result.valid then (store, some {})
        else (store, some
          { authenticated := true, authorized := scope = [] || result.scopes.contains scope
            source := ascii "admin_token", tokenID := result.tokenID
            tokenName := result.name, scopes := result.scopes })
      | (store, _) => (store, none)

def admission : Option AdminAuthorization → Except APIResponse AdminAuthorization
  | none => .error (refused 500 .authorizationFailed)
  | some auth =>
    if !auth.authenticated then .error (refused 401 .unauthorized)
    else if !auth.authorized then .error (refused 403 .forbidden)
    else .ok auth

def authorizeAdminRequest (store : TokenStore) (header : Header) (scope : Bytes)
    (draws : List TokenDraw) : TokenStore × Except APIResponse AdminAuthorization :=
  let (store, auth) := authorizeAdmin cfg store header scope draws
  (store, admission auth)

inductive Guard where
  | unguarded (respond : APIRequest → APIDraw → Stores → APIResponse)
  | validator (act : Act)
  | admin (handler : AdminHandler)

def guard : Endpoint → Guard
  | .healthz => .unguarded fun _ _ _ => { status := 200, body := .notice .ok }
  | .readyz => .unguarded handleReady
  | .metrics => .unguarded handleMetrics
  | .dashboard => .unguarded fun request _ _ => handleDashboard request
  | .status => .unguarded (handleStatus cfg)
  | .gatewayOperator => .admin (handleGatewayOperator cfg)
  | .events => .admin handleEvents
  | .adminTokens => .admin (handleAdminTokens cfg)
  | .adminTokenByID => .admin (handleAdminTokenByID cfg)
  | .tokens => .admin (handleTokens cfg)
  | .tokenByID => .admin (handleTokenByID cfg)
  | .validateToken => .validator (handleValidateToken cfg)
  | .accessPolicies => .admin (handleAccessPolicies cfg)
  | .accessPolicyByID => .admin (handleAccessPolicyByID cfg)
  | .evaluateAccessPolicy => .validator (handleEvaluateAccessPolicy cfg)
  | .customDomains => .admin handleCustomDomains
  | .customDomainByID => .admin handleCustomDomainByID
  | .lookupCustomDomain => .validator handleLookupCustomDomain
  | .reservedSubdomains => .admin handleReservedSubdomains
  | .reservedSubdomainByID => .admin (handleReservedSubdomainByID cfg)
  | .authorizeReservedSubdomain => .validator handleAuthorizeReservedSubdomain

def AdminHandler.serve (handler : AdminHandler) (request : APIRequest) (draw : APIDraw)
    (stores : Stores) : Stores × APIResponse :=
  match handler.check request.method request.path with
  | .error response => (stores, response)
  | .ok scope =>
    match authorizeAdminRequest cfg stores.adminTokens request.header scope draw.auth with
    | (adminTokens, .error response) => ({ stores with adminTokens }, response)
    | (adminTokens, .ok _) => handler.act request draw { stores with adminTokens }

def Guard.serve (guard : Guard) (request : APIRequest) (draw : APIDraw) (stores : Stores) :
    Stores × APIResponse :=
  match guard with
  | .unguarded respond => (stores, respond request draw stores)
  | .validator act =>
    if request.method ≠ ascii "POST" then (stores, methodNotAllowed "POST")
    else if !authorizedBearer cfg request.header cfg.validatorToken then
      (stores, refused 401 .unauthorized)
    else act request draw stores
  | .admin handler => handler.serve cfg request draw stores

def APIRequest.dispatched (request : APIRequest) : Dispatched Endpoint :=
  routes.dispatch request.method request.path request.escapedPath

def serve (request : APIRequest) (draw : APIDraw) (stores : Stores) : Stores × APIResponse :=
  match request.dispatched with
  | .badRequest => (stores, { status := 400 })
  | .redirected path => (stores, { status := 301, body := .moved path })
  | .notFound => (stores, notFound)
  | .handled endpoint => (guard cfg endpoint).serve cfg request draw stores

end Handlers

end Porthook.ControlPlane
