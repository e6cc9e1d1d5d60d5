import Porthook.Foundations.Url
import Porthook.Protocol.Text

/-!
# The routes of the control plane

The patterns that `Handler` registers with `http.ServeMux`, and the one that a request
is dispatched to.  The mux reads the path as it was escaped, segment by segment; the
handlers then read the path that `net/url` has decoded.
-/

namespace Porthook.ControlPlane

open Protocol

def cleanElements (elements : List Bytes) : List Bytes :=
  elements.foldl (fun out element =>
    if element = [] ∨ element = ascii "." then out
    else if element = ascii ".." then out.dropLast
    else out ++ [element]) []

def cleanPath (path : Bytes) : Bytes :=
  let rooted := if path.head? = some 47 then path else 47 :: path
  let clean := (cleanElements (splitByte 47 rooted)).flatMap fun element => 47 :: element
  if clean = [] then [47]
  else if rooted.getLast? = some 47 then clean ++ [47]
  else clean

/-- A text that is not escaped properly is matched as it is. -/
def pathUnescape (text : Bytes) : Bytes := (Url.unescape? text).getD text

/-- The segments that `firstSegment` takes off a path one by one; a slash at the end is
one of its own. -/
def pathSegments : Bytes → List Bytes
  | [] => []
  | _ :: rest =>
    let parts := splitByte 47 rest
    let last := parts.getLast?.getD []
    parts.dropLast.map pathUnescape ++ [if last = [] then [47] else pathUnescape last]

/-- Patterns without methods, hosts and wildcards.  A pattern that ends with a slash
stands for all paths below it; none of these lies below another. -/
structure ServeMux (Handler : Type) where
  literal : List (List Bytes × Handler)
  below : List (List Bytes × Handler)

inductive Dispatched (Handler : Type) where
  | badRequest
  | redirected (path : Bytes)
  | notFound
  | handled (handler : Handler)
  deriving DecidableEq

namespace ServeMux

variable {Handler : Type} (mux : ServeMux Handler)

/-- `matchPath`: a literal segment is preferred to the rest of a path. -/
def lookup (segments : List Bytes) : Option Handler :=
  match mux.literal.find? fun entry => entry.1 = segments with
  | some entry => some entry.2
  | none => (mux.below.find? fun entry =>
    entry.1.isPrefixOf segments && entry.1.length < segments.length).map Prod.snd

/-- `findHandler`, after the test for `*` in `ServeHTTP`. -/
def dispatch (method path escapedPath : Bytes) : Dispatched Handler :=
  if escapedPath = ascii "*" then .badRequest
  else
    let cleaned := if method = ascii "CONNECT" then escapedPath else cleanPath escapedPath
    let segments := pathSegments cleaned
    -- the path without the slash is not registered, but with it there is a pattern
    if cleaned ≠ [] ∧ cleaned.getLast? ≠ some 47 ∧ (∀ entry ∈ mux.literal, entry.1 ≠ segments) ∧
        ∃ entry ∈ mux.below, entry.1 = segments then
      .redirected (cleanPath path ++ [47])
    else if cleaned ≠ escapedPath then .redirected cleaned
    else
      match mux.lookup segments with
      | none => .notFound
      | some handler => .handled handler

end ServeMux

inductive Endpoint where
  | healthz
  | readyz
  | metrics
  | dashboard
  | status
  | gatewayOperator
  | events
  | adminTokens
  | adminTokenByID
  | tokens
  | tokenByID
  | validateToken
  | accessPolicies
  | accessPolicyByID
  | evaluateAccessPolicy
  | customDomains
  | customDomainByID
  | lookupCustomDomain
  | reservedSubdomains
  | reservedSubdomainByID
  | authorizeReservedSubdomain
  deriving DecidableEq

def literalSegments (pattern : String) : List Bytes := splitByte 47 ((ascii pattern).drop 1)

def routes : ServeMux Endpoint where
  literal := [ (literalSegments "/healthz", .healthz), (literalSegments "/readyz", .readyz),
    (literalSegments "/metrics", .metrics),
    (literalSegments "/dashboard", .dashboard),
    (literalSegments "/api/v1/status", .status),
    (literalSegments "/api/v1/events", .events),
    (literalSegments "/api/v1/admin-tokens", .adminTokens),
    (literalSegments "/api/v1/tokens", .tokens),
    (literalSegments "/api/v1/tokens/validate", .validateToken),
    (literalSegments "/api/v1/access-policies", .accessPolicies),
    (literalSegments "/api/v1/access-policies/evaluate", .evaluateAccessPolicy),
    (literalSegments "/api/v1/custom-domains", .customDomains),
    (literalSegments "/api/v1/custom-domains/lookup", .lookupCustomDomain),
    (literalSegments "/api/v1/reserved-subdomains", .reservedSubdomains),
    (literalSegments "/api/v1/reserved-subdomains/authorize", .authorizeReservedSubdomain)]
  below := [ (literalSegments "/dashboard", .dashboard),
    (literalSegments "/api/v1/gateway", .gatewayOperator),
    (literalSegments "/api/v1/admin-tokens", .adminTokenByID),
    (literalSegments "/api/v1/tokens", .tokenByID),
    (literalSegments "/api/v1/access-policies", .accessPolicyByID),
    (literalSegments "/api/v1/custom-domains", .customDomainByID),
    (literalSegments "/api/v1/reserved-subdomains", .reservedSubdomainByID)]

example : routes.dispatch (ascii "GET") (ascii "/api/v1/gateway") (ascii "/api/v1/gateway") =
    .redirected (ascii "/api/v1/gateway/") := by decide +kernel

example : routes.dispatch (ascii "POST") (ascii "/api/v1/tokens/validate")
    (ascii "/api/v1/tokens/%76alidate") = .handled .validateToken := by decide +kernel

def scopeAdminTokens : Bytes := ascii "admin_tokens"
def scopeTokens : Bytes := ascii "tokens"
def scopeReservations : Bytes := ascii "reservations"
def scopeDomains : Bytes := ascii "domains"
def scopeAccessPolicies : Bytes := ascii "access_policies"
def scopeAuditHistory : Bytes := ascii "audit_history"
def scopeRuntimeDiagnostics : Bytes := ascii "runtime_diagnostics"

/-- The path that the gateway is asked for, and the scope that this takes. -/
def gatewayOperatorRoute (path : Bytes) : Option (Bytes × Bytes) :=
  let suffix := trimPrefix path (ascii "/api/v1/gateway")
  if suffix ∈ [ascii "/healthz", ascii "/readyz", ascii "/metrics"] then
    some (suffix, scopeRuntimeDiagnostics)
  else if suffix ∈ [ascii "/runtime", ascii "/tunnels"] then
    some (ascii "/api/v1" ++ suffix, scopeRuntimeDiagnostics)
  else if suffix = ascii "/request-logs" then
    some (ascii "/api/v1/request-logs", scopeAuditHistory)
  else
    match cutPrefix? suffix (ascii "/tunnels/") with
    | none => none
    | some tunnelID =>
      if tunnelID ≠ [] ∧ 47 ∉ tunnelID then
        some (ascii "/api/v1" ++ suffix, scopeRuntimeDiagnostics)
      else none

/-- The scope of an endpoint; those without one are open or for the validator. -/
def Endpoint.scope? (path : Bytes) : Endpoint → Option Bytes
  | .gatewayOperator => (gatewayOperatorRoute path).map Prod.snd
  | .events => some scopeAuditHistory
  | .adminTokens | .adminTokenByID => some scopeAdminTokens
  | .tokens | .tokenByID => some scopeTokens
  | .accessPolicies | .accessPolicyByID => some scopeAccessPolicies
  | .customDomains | .customDomainByID => some scopeDomains
  | .reservedSubdomains | .reservedSubdomainByID => some scopeReservations
  | _ => none

def validatorEndpoints : List Endpoint :=
  [.validateToken, .evaluateAccessPolicy, .lookupCustomDomain, .authorizeReservedSubdomain]

end Porthook.ControlPlane
