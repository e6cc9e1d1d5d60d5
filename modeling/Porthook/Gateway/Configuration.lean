import Porthook.Foundations.NetipText
import Porthook.Foundations.Url
import Porthook.Gateway.ClientIP
import Porthook.Protocol.Text

/-!
# The configuration of the gateway

`ValidateConfig` and `newServerWithRequestLogWriter` read the same strings.  The validation trims
the URL of the control plane before it parses it, and the client does not.
-/

namespace Porthook.Gateway

open Protocol Netip Url

/-- The numbers of a `Config`, with durations in nanoseconds. -/
inductive Setting where
  | controlPlaneTimeout | customDomainCacheTTL | customDomainMissTTL | maxBodyBytes
  | wsMessageMaxBytes | maxConcurrentStreams | rateLimitRequestsPerSecond | rateLimitBurst
  | authAttemptLimit | authAttemptWindow | streamChunkBytes | readHeaderTimeout | readTimeout
  | writeTimeout | idleTimeout | handshakeTimeout | streamRequestTimeout | streamIdleTimeout
  | streamMaxLifetime | webSocketWriteTimeout | webSocketPingInterval | webSocketPongTimeout
  | shutdownTimeout | requestLogLimit | requestLogWriteTimeout | requestLogRetention
  | requestLogPruneInterval | dbMaxOpenConns | dbMaxIdleConns | dbConnMaxLifetime
  | dbConnMaxIdleTime
  deriving DecidableEq

def oneSecond : Int := 1000000000

def Setting.default : Setting → Int
  | .customDomainCacheTTL | .readTimeout | .streamRequestTimeout => 30 * oneSecond
  | .controlPlaneTimeout | .customDomainMissTTL | .readHeaderTimeout | .webSocketPongTimeout
  | .shutdownTimeout => 5 * oneSecond
  | .maxBodyBytes | .wsMessageMaxBytes => 1048576
  | .maxConcurrentStreams => 64
  | .rateLimitRequestsPerSecond => 60
  | .rateLimitBurst => 120
  | .authAttemptLimit | .dbMaxIdleConns => 5
  | .authAttemptWindow | .streamIdleTimeout => 60 * oneSecond
  | .streamChunkBytes => 32768
  | .writeTimeout => 35 * oneSecond
  | .idleTimeout => 120 * oneSecond
  | .handshakeTimeout | .webSocketWriteTimeout => 10 * oneSecond
  | .streamMaxLifetime | .requestLogPruneInterval => 3600 * oneSecond
  | .webSocketPingInterval => 15 * oneSecond
  | .requestLogLimit => 500
  | .requestLogWriteTimeout => oneSecond
  | .requestLogRetention => 30 * 24 * 3600 * oneSecond
  | .dbMaxOpenConns => 20
  | .dbConnMaxLifetime => 1800 * oneSecond
  | .dbConnMaxIdleTime => 300 * oneSecond

/-- Zero is a value of its own, and only what is negative stands for the default. -/
def Setting.keepsZero : Setting → Bool
  | .customDomainCacheTTL | .customDomainMissTTL | .streamIdleTimeout | .requestLogLimit
  | .requestLogRetention | .requestLogPruneInterval | .dbMaxIdleConns | .dbConnMaxLifetime
  | .dbConnMaxIdleTime => true
  | _ => false

def Setting.missing (setting : Setting) (value : Int) : Bool :=
  if setting.keepsZero then value < 0 else value ≤ 0

/-- The settings that `ValidateConfig` checks, in its order, by the names it reports. -/
def checkedSettings : List (String × Setting) :=
  [("PORTHOOK_CONTROL_PLANE_TIMEOUT", .controlPlaneTimeout),
    ("PORTHOOK_MAX_BODY_BYTES", .maxBodyBytes),
    ("PORTHOOK_WS_MESSAGE_MAX_BYTES", .wsMessageMaxBytes),
    ("PORTHOOK_MAX_CONCURRENT_STREAMS", .maxConcurrentStreams),
    ("PORTHOOK_RATE_LIMIT_RPS", .rateLimitRequestsPerSecond),
    ("PORTHOOK_RATE_LIMIT_BURST", .rateLimitBurst),
    ("PORTHOOK_AUTH_ATTEMPT_LIMIT", .authAttemptLimit),
    ("PORTHOOK_AUTH_ATTEMPT_WINDOW", .authAttemptWindow),
    ("PORTHOOK_STREAM_CHUNK_BYTES", .streamChunkBytes),
    ("PORTHOOK_READ_HEADER_TIMEOUT", .readHeaderTimeout),
    ("PORTHOOK_READ_TIMEOUT", .readTimeout), ("PORTHOOK_WRITE_TIMEOUT", .writeTimeout),
    ("PORTHOOK_IDLE_TIMEOUT", .idleTimeout), ("PORTHOOK_HANDSHAKE_TIMEOUT", .handshakeTimeout),
    ("PORTHOOK_STREAM_REQUEST_TIMEOUT", .streamRequestTimeout),
    ("PORTHOOK_STREAM_IDLE_TIMEOUT", .streamIdleTimeout),
    ("PORTHOOK_STREAM_MAX_LIFETIME", .streamMaxLifetime),
    ("PORTHOOK_WS_WRITE_TIMEOUT", .webSocketWriteTimeout),
    ("PORTHOOK_WS_PING_INTERVAL", .webSocketPingInterval),
    ("PORTHOOK_WS_PONG_TIMEOUT", .webSocketPongTimeout),
    ("PORTHOOK_SHUTDOWN_TIMEOUT", .shutdownTimeout),
    ("PORTHOOK_REQUEST_LOG_LIMIT", .requestLogLimit),
    ("PORTHOOK_REQUEST_LOG_WRITE_TIMEOUT", .requestLogWriteTimeout),
    ("PORTHOOK_REQUEST_LOG_RETENTION", .requestLogRetention),
    ("PORTHOOK_REQUEST_LOG_PRUNE_INTERVAL", .requestLogPruneInterval),
    ("PORTHOOK_DB_MAX_OPEN_CONNS", .dbMaxOpenConns),
    ("PORTHOOK_DB_MAX_IDLE_CONNS", .dbMaxIdleConns),
    ("PORTHOOK_DB_CONN_MAX_LIFETIME", .dbConnMaxLifetime),
    ("PORTHOOK_DB_CONN_MAX_IDLE_TIME", .dbConnMaxIdleTime)]

structure Config where
  publicAddr : Bytes := []
  agentAddr : Bytes := []
  managementAddr : Bytes := []
  managementToken : Bytes := []
  trustedProxies : Bytes := []
  rootDomain : Bytes := []
  publicURL : Bytes := []
  staticToken : Bytes := []
  controlPlaneURL : Bytes := []
  controlPlaneToken : Bytes := []
  setting : Setting → Int := fun _ => 0

def normalizeConfig (cfg : Config) : Config :=
  let orDefault (text fallback : Bytes) := if text = [] then fallback else text
  { cfg with
    publicAddr := orDefault cfg.publicAddr (ascii ":8080")
    agentAddr := orDefault cfg.agentAddr (ascii ":8081")
    managementAddr := orDefault cfg.managementAddr (ascii ":8082")
    rootDomain := orDefault cfg.rootDomain (ascii "localhost")
    publicURL := orDefault cfg.publicURL (ascii "http://localhost:8080")
    staticToken := orDefault cfg.staticToken (ascii "dev-token")
    setting := fun setting =>
      if setting.missing (cfg.setting setting) then setting.default else cfg.setting setting }

/-- A number that was normalised passes its check. -/
theorem not_missing_normalizeConfig (cfg : Config) (setting : Setting) :
    setting.missing ((normalizeConfig cfg).setting setting) = false := by
  have default : setting.missing setting.default = false := by cases setting <;> decide
  simp only [normalizeConfig]
  split
  · exact default
  next given => simpa using given

structure ConfigValidationProblem where
  field : String
  message : String

def reported (field : String) : Option String → List ConfigValidationProblem
  | none => []
  | some message => [⟨field, message⟩]

/-- Host and port of `net.SplitHostPort`. -/
def splitHostPort? (text : Bytes) : Option (Bytes × Bytes) :=
  (splitHost? text).bind fun host => (cutLast? 58 text).map fun parts => (host, parts.2)

def validateListenAddr (value : Bytes) : Option String :=
  if trimSpace value = [] then some "must not be empty"
  else
    match splitHostPort? value with
    | none => some "must be a listen address such as :8080 or 127.0.0.1:8080"
    | some (_, port) =>
      match parseInt64? port with
      | none => some "must include a TCP port between 1 and 65535"
      | some parsed =>
        if parsed ≤ 0 ∨ 65535 < parsed then some "must include a TCP port between 1 and 65535"
        else none

def validateRootDomain (value : Bytes) : Option String :=
  let value := trimSpace value
  if value = [] then some "must not be empty"
  else if 47 ∈ value ∨ 58 ∈ value then some "must be a hostname, not a URL"
  else if (ascii "*.").isPrefixOf value then some "must omit the wildcard prefix"
  else none

def looksLikePlaceholderSecret (value : Bytes) : Bool :=
  let value := toLower (trimSpace value)
  value = [] || [ascii "change-me", ascii "changeme", ascii "dev-token"].any fun part =>
    value.tails.any (part.isPrefixOf ·)

/-- `strings.EqualFold` with the default; a long s is folded as well. -/
def foldsToLocalhost (value : Bytes) : Prop :=
  toLower value = ascii "localhost" ∨ toLower value = ascii "localho" ++ [0xC5, 0xBF, 116]

instance (value : Bytes) : Decidable (foldsToLocalhost value) := inferInstanceAs (Decidable (_ ∨ _))

/-- `ParseTrustedProxies`; `none` is its error. -/
def parseTrustedProxies (raw : Bytes) : Option (List Prefix) :=
  let fields := (raw.splitOnP fun byte => [44, 32, 9, 10].contains byte).filter (· ≠ [])
  fields.mapM fun field =>
    match parsePrefix? field with
    | some net => some net.masked
    | none => (parseAddr? field).map fun addr => Prefix.masked ⟨addr.unmap, addr.unmap.bitLen⟩

section Codec

variable {User : Type} (codec : AuthorityCodec User)

def validateHTTPURL (field : String) (value : Bytes) (requireHTTPS : Bool) : Option String :=
  match URL.parse codec (trimSpace value) with
  | none => some "must be a valid URL"
  | some parsed =>
    if parsed.scheme = [] ∨ parsed.host = [] then some "must include scheme and host"
    else if parsed.scheme ≠ ascii "http" ∧ parsed.scheme ≠ ascii "https" then
      some "must use http or https"
    else if requireHTTPS ∧ parsed.scheme ≠ ascii "https" then
      some (field ++ " must use https in production mode")
    else none

def secretProblem (value : Bytes) (needed : Option String) (production : Bool) : Option String :=
  if trimSpace value = [] then needed
  else if production ∧ looksLikePlaceholderSecret value then
    some "must be replaced with a generated secret in production mode"
  else none

/-- What `ValidateConfig` checks of the control plane, or of the token in its place. -/
def controlPlaneProblems (cfg : Config) (production : Bool) : List ConfigValidationProblem :=
  if trimSpace cfg.controlPlaneURL ≠ [] then
    reported "PORTHOOK_CONTROL_PLANE_URL"
      (validateHTTPURL codec "PORTHOOK_CONTROL_PLANE_URL" cfg.controlPlaneURL false) ++
    reported "PORTHOOK_CONTROL_PLANE_TOKEN" (secretProblem cfg.controlPlaneToken
      (some "is required when PORTHOOK_CONTROL_PLANE_URL is configured") production)
  else
    reported "PORTHOOK_CONTROL_PLANE_URL"
      (if production then some "is required in production mode" else none) ++
    reported "PORTHOOK_STATIC_TOKEN"
      (if trimSpace cfg.staticToken = [] then
        some "is required when no control plane is configured"
      else if cfg.staticToken = ascii "dev-token" ∧ production then
        some "must not use the default development token in production mode"
      else none)

def validateConfig (cfg : Config) (production : Bool) : List ConfigValidationProblem :=
  let cfg := normalizeConfig cfg
  let required : Option String :=
    if production then some "is required in production mode" else none
  reported "PORTHOOK_ADDR" (validateListenAddr cfg.publicAddr) ++
  reported "PORTHOOK_AGENT_ADDR" (validateListenAddr cfg.agentAddr) ++
  reported "PORTHOOK_MANAGEMENT_ADDR" (validateListenAddr cfg.managementAddr) ++
  reported "PORTHOOK_TRUSTED_PROXIES"
    (if parseTrustedProxies cfg.trustedProxies = none then some "parse trusted proxy"
    else if trimSpace cfg.trustedProxies = [] then required else none) ++
  reported "PORTHOOK_MANAGEMENT_TOKEN" (secretProblem cfg.managementToken required production) ++
  reported "PORTHOOK_ROOT_DOMAIN" ((validateRootDomain cfg.rootDomain).or
      (if production ∧ foldsToLocalhost cfg.rootDomain then
        some "must not be localhost in production mode" else none)) ++
  reported "PORTHOOK_PUBLIC_URL"
    (validateHTTPURL codec "PORTHOOK_PUBLIC_URL" cfg.publicURL production) ++
  controlPlaneProblems codec cfg production ++
  checkedSettings.flatMap fun (field, setting) => reported field
    (if setting.missing (cfg.setting setting) then
      some (if setting.keepsZero then "must not be negative" else "must be positive")
    else none)

inductive ClientError where
  | tokenRequired
  | parse
  | schemeAndHostRequired
  deriving DecidableEq

/-- `controlPlaneClient`: the URL that its endpoints are made from, and its token. -/
structure ControlPlaneClient (User : Type) where
  base : URL User
  bearerToken : Bytes

def newControlPlaneClient (cfg : Config) : Except ClientError (ControlPlaneClient User) :=
  let controlPlaneToken := trimSpace cfg.controlPlaneToken
  if controlPlaneToken = [] then .error .tokenRequired
  else
    match URL.parse codec cfg.controlPlaneURL with
    | none => .error .parse
    | some parsed =>
      if parsed.scheme = [] ∨ parsed.host = [] then .error .schemeAndHostRequired
      else .ok ⟨parsed, controlPlaneToken⟩

/-- What answers for the control plane: nobody asks it if it is not configured, and every
answer is an error where its client could not be made. -/
inductive Authority (Static User : Type) where
  | static (own : Static)
  | controlPlane (client : ControlPlaneClient User)
  | failing (err : ClientError)

def Authority.Fails {Static : Type} : Authority Static User → Prop
  | .failing _ => True
  | _ => False

def newAuthority {Static : Type} (own : Static) (cfg : Config) : Authority Static User :=
  if trimSpace cfg.controlPlaneURL = [] then .static own
  else
    match newControlPlaneClient codec cfg with
    | .error err => .failing err
    | .ok client => .controlPlane client

def newAgentTokenValidator (cfg : Config) : Authority Bytes User :=
  newAuthority codec cfg.staticToken cfg

def newReservedSubdomainAuthorizer (cfg : Config) : Authority Unit User := newAuthority codec () cfg

def newAccessPolicyEvaluator (cfg : Config) : Authority Unit User := newAuthority codec () cfg

/-- Its cache is made beside it. -/
def newCustomDomainResolver (cfg : Config) : Authority Unit User := newAuthority codec () cfg

structure ServerParts (User : Type) where
  tokens : Authority Bytes User
  reserved : Authority Unit User
  access : Authority Unit User
  domains : Authority Unit User
  trustedProxies : Option (List Prefix)

/-- What `newServerWithRequestLogWriter` makes of a configuration; proxies that do not parse
are dropped. -/
def newServerWithRequestLogWriter (cfg : Config) : ServerParts User :=
  let cfg := normalizeConfig cfg
  { tokens := newAgentTokenValidator codec cfg
    reserved := newReservedSubdomainAuthorizer codec cfg
    access := newAccessPolicyEvaluator codec cfg
    domains := newCustomDomainResolver codec cfg
    trustedProxies := parseTrustedProxies cfg.trustedProxies }

def ServerParts.FallsBack (parts : ServerParts User) : Prop :=
  parts.tokens.Fails ∨ parts.reserved.Fails ∨ parts.access.Fails ∨ parts.domains.Fails ∨
    parts.trustedProxies = none

end Codec

section Validated

variable {User : Type} {codec : AuthorityCodec User} {cfg : Config} {production : Bool}

theorem reported_eq_nil_iff {field : String} {problem : Option String} :
    reported field problem = [] ↔ problem = none := by
  cases problem <;> simp [reported]

theorem checks_of_validated (validated : validateConfig codec cfg production = []) :
    parseTrustedProxies cfg.trustedProxies ≠ none ∧
      validateRootDomain (normalizeConfig cfg).rootDomain = none ∧
      controlPlaneProblems codec (normalizeConfig cfg) production = [] := by
  simp only [validateConfig, List.append_eq_nil_iff, reported_eq_nil_iff,
    Option.or_eq_none_iff] at validated
  obtain ⟨⟨⟨⟨⟨⟨-, proxies⟩, -⟩, root, -⟩, -⟩, problems⟩, -⟩ := validated
  split at proxies
  · cases proxies
  next parsed => exact ⟨parsed, root, problems⟩

theorem parse_of_validateHTTPURL {field : String} {value : Bytes} {requireHTTPS : Bool}
    (valid : validateHTTPURL codec field value requireHTTPS = none) :
    ∃ parsed, URL.parse codec (trimSpace value) = some parsed ∧ parsed.scheme ≠ [] ∧
      parsed.host ≠ [] := by
  unfold validateHTTPURL at valid
  split at valid
  · cases valid
  next parsed found =>
    split at valid
    · cases valid
    next present => exact ⟨parsed, found, not_or.mp present⟩

theorem controlPlane_of_validated (validated : validateConfig codec cfg production = [])
    (configured : trimSpace cfg.controlPlaneURL ≠ []) :
    trimSpace cfg.controlPlaneToken ≠ [] ∧
      ∃ parsed, URL.parse codec (trimSpace cfg.controlPlaneURL) = some parsed ∧
        parsed.scheme ≠ [] ∧ parsed.host ≠ [] := by
  have problems := (checks_of_validated validated).2.2
  unfold controlPlaneProblems at problems
  split at problems
  · rw [List.append_eq_nil_iff, reported_eq_nil_iff, reported_eq_nil_iff] at problems
    obtain ⟨url, secret⟩ := problems
    unfold secretProblem at secret
    split at secret
    · cases secret
    next token => exact ⟨token, parse_of_validateHTTPURL url⟩
  next blank => exact absurd configured blank

def ClientURL (codec : AuthorityCodec User) (url : Bytes) : Prop :=
  ∃ parsed, URL.parse codec url = some parsed ∧ parsed.scheme ≠ [] ∧ parsed.host ≠ []

theorem fails_newAuthority_iff {Static : Type} {own : Static}
    (token : trimSpace cfg.controlPlaneURL ≠ [] → trimSpace cfg.controlPlaneToken ≠ []) :
    (newAuthority codec own cfg).Fails ↔
      trimSpace cfg.controlPlaneURL ≠ [] ∧ ¬ ClientURL codec cfg.controlPlaneURL := by
  unfold newAuthority newControlPlaneClient ClientURL
  split
  next blank => simp [Authority.Fails, blank]
  next configured =>
    simp only [if_neg (token configured)]
    cases URL.parse codec cfg.controlPlaneURL with
    | none => simp [Authority.Fails, configured]
    | some parsed =>
      by_cases missing : parsed.scheme = [] ∨ parsed.host = []
      · simp [Authority.Fails, configured, missing, imp_iff_not_or]
      · simp [Authority.Fails, configured, not_or.mp missing]

/-- A validated configuration falls back exactly if the URL of the control plane parses to a scheme
and a host only after it was trimmed. -/
theorem validated_falls_back_iff (validated : validateConfig codec cfg production = []) :
    ((newServerWithRequestLogWriter codec cfg).FallsBack ↔
      trimSpace cfg.controlPlaneURL ≠ [] ∧ ¬ ClientURL codec cfg.controlPlaneURL) ∧
    (trimSpace cfg.controlPlaneURL = cfg.controlPlaneURL →
      ¬ (newServerWithRequestLogWriter codec cfg).FallsBack) ∧
    (trimSpace cfg.controlPlaneURL ≠ [] → dropSpace? cfg.controlPlaneURL ≠ none →
      (newServerWithRequestLogWriter codec cfg).FallsBack) := by
  have token (configured : trimSpace cfg.controlPlaneURL ≠ []) :
      trimSpace cfg.controlPlaneToken ≠ [] :=
    (controlPlane_of_validated validated configured).1
  have fails {Static : Type} (own : Static) : (newAuthority codec own (normalizeConfig cfg)).Fails ↔
        trimSpace cfg.controlPlaneURL ≠ [] ∧ ¬ ClientURL codec cfg.controlPlaneURL :=
    fails_newAuthority_iff token
  have proxies : parseTrustedProxies (normalizeConfig cfg).trustedProxies ≠ none :=
    (checks_of_validated validated).1
  have falls : (newServerWithRequestLogWriter codec cfg).FallsBack ↔
      trimSpace cfg.controlPlaneURL ≠ [] ∧ ¬ ClientURL codec cfg.controlPlaneURL := by
    simp [ServerParts.FallsBack, newServerWithRequestLogWriter, newAgentTokenValidator,
      newReservedSubdomainAuthorizer, newAccessPolicyEvaluator, newCustomDomainResolver, fails,
      proxies]
  refine ⟨falls, fun trimmed => ?_, fun configured space => falls.mpr ⟨configured, ?_⟩⟩
  · rw [falls]
    rintro ⟨configured, unparsed⟩
    have parsed := (controlPlane_of_validated validated configured).2
    rw [trimmed] at parsed
    exact unparsed parsed
  · rintro ⟨_, found, scheme, -⟩
    -- a scheme starts with a letter
    obtain ⟨first, _, text, letter⟩ := URL.parse_letter found scheme
    have graphic : Base64.Graphic first := by
      simp only [isLetter, Bool.or_eq_true, Bool.and_eq_true, decide_eq_true_eq] at letter
      rcases letter with ⟨low, high⟩ | ⟨low, high⟩
      · exact ⟨UInt8.le_trans (by decide) low, UInt8.le_trans high (by decide)⟩
      · exact ⟨UInt8.le_trans (by decide) low, UInt8.le_trans high (by decide)⟩
    rw [text, dropSpace?_graphic graphic] at space
    exact space rfl

end Validated

/-- Authorities without userinfo whose port, if there is one, is a number. -/
def plainCodec : AuthorityCodec Empty where
  parse text :=
    if (splitHostPort? text).all fun parts => parts.2.all fun byte => 48 ≤ byte ∧ byte ≤ 57 then
      some (none, text)
    else none
  userText := nofun
  hostText := id

def controlled (controlPlaneURL : Bytes) : Config where
  controlPlaneURL := controlPlaneURL
  controlPlaneToken := ascii "secret"

theorem validated_falls_back_iff_plain :
    validateConfig plainCodec (controlled (ascii "https://cp.example")) false = [] ∧
      ¬ (newServerWithRequestLogWriter plainCodec
        (controlled (ascii "https://cp.example"))).FallsBack := by
  have validated : validateConfig plainCodec (controlled (ascii "https://cp.example")) false =
      [] := by decide +kernel
  exact ⟨validated, (validated_falls_back_iff validated).2.1 (by decide)⟩

/-- The URL is valid with a space in front, and the client cannot be made from it. -/
theorem leading_space_falls_back :
    validateConfig plainCodec (controlled (ascii " https://cp.example")) false = [] ∧
      (newServerWithRequestLogWriter plainCodec
        (controlled (ascii " https://cp.example"))).FallsBack := by
  refine ⟨by decide +kernel, .inl ?_⟩
  trivial

end Porthook.Gateway
