import Porthook.Foundations.Netip
import Porthook.Gateway.Registry
import Porthook.Protocol.Text

/-!
# From the host of a request to a subdomain

`routeForHost`: a host under the root domain names its subdomain; any other host
may be a custom domain, which the control plane resolves.  Its answers are kept for
a while, hits for longer than misses.
-/

namespace Porthook.Gateway

open Protocol

def hostOnly (host : Bytes) : Bytes := (Netip.splitHost? host).getD host

def subdomainFromHost (rootDomain hostport : Bytes) : Option Bytes :=
  let host := toLower (trimSpace hostport)
  if host = [] then none
  else
    let host := hostOnly host
    let suffix := 46 :: toLower (trimSpace rootDomain)
    if !suffix.isSuffixOf host then none
    else
      let subdomain := trimSuffix host suffix
      if subdomain = [] ∨ 46 ∈ subdomain then none
      else if validateSubdomain subdomain then some subdomain else none

def customDomainLookupHostname (hostport : Bytes) : Option Bytes :=
  let host := toLower (trimSpace hostport)
  if host = [] then none
  else if (Netip.splitHost? host).isNone ∧ 58 ∈ host then none
  else
    let host := trimSuffix (hostOnly host) (ascii ".")
    if 46 ∉ host then none
    else if 42 ∈ host ∨ 47 ∈ host ∨ 95 ∈ host then none
    else if (splitByte 46 host).all validateSubdomain then some host else none

def sameHostname (left right : Bytes) : Bool :=
  let left := trimSuffix (toLower (trimSpace left)) (ascii ".")
  let right := trimSuffix (toLower (trimSpace right)) (ascii ".")
  left ≠ [] && left == right

theorem subdomainFromHost_valid {rootDomain hostport subdomain : Bytes}
    (routed : subdomainFromHost rootDomain hostport = some subdomain) :
    validateSubdomain subdomain = true := by
  unfold subdomainFromHost at routed
  dsimp only at routed
  repeat' split at routed
  all_goals cases routed
  next valid => exact valid

structure CustomDomainResolution where
  found : Bool
  reason : Bytes := []
  hostname : Bytes := []
  customDomainID : Bytes := []
  reservedSubdomainID : Bytes := []
  subdomain : Bytes := []
  status : Bytes := []

structure CustomDomainCacheEntry where
  result : CustomDomainResolution
  expires : Nat

structure CustomDomainCache where
  hitTTL : Int
  missTTL : Int
  cache : Bytes → Option CustomDomainCacheEntry := fun _ => none

/-- Negative times stand for the defaults: half a minute for a hit and five seconds for a
miss.  With both at zero nothing is ever kept. -/
def newCachedCustomDomainResolver (hitTTL missTTL : Int) : CustomDomainCache where
  hitTTL := if hitTTL < 0 then 30 * 1000000000 else hitTTL
  missTTL := if missTTL < 0 then 5 * 1000000000 else missTTL

namespace CustomDomainCache

def key (hostname : Bytes) : Bytes := toLower (trimSpace hostname)

def kept? (resolver : CustomDomainCache) (hostname : Bytes) (now : Nat) :
    Option CustomDomainResolution :=
  if key hostname = [] then none
  else (resolver.cache (key hostname)).bind fun entry =>
    if now < entry.expires then some entry.result else none

def keep (resolver : CustomDomainCache) (hostname : Bytes) (now : Nat)
    (result : CustomDomainResolution) : CustomDomainCache :=
  let ttl := if result.found then resolver.hitTTL else resolver.missTTL
  if key hostname = [] ∨ ttl ≤ 0 then resolver
  else { resolver with
    cache := Function.update resolver.cache (key hostname) (some ⟨result, now + ttl.toNat⟩) }

def resolveCustomDomain (resolver : CustomDomainCache) (hostname : Bytes) (now : Nat)
    (next : Option CustomDomainResolution) : CustomDomainCache × Option CustomDomainResolution :=
  match resolver.kept? hostname now with
  | some result => (resolver, some result)
  | none =>
    match next with
    | none => (resolver, none)
    | some result => (resolver.keep hostname now result, some result)

end CustomDomainCache

structure HostRoute where
  subdomain : Bytes := []
  customDomain : Bytes := []
  missReason : Bytes := []

inductive RouteError where
  | lookupFailed
  | noSubdomain (hostname : Bytes)
  | invalidSubdomain (hostname subdomain : Bytes)
  deriving DecidableEq

inductive Routing where
  | routed (route : HostRoute)
  | missed (route : HostRoute)
  | failed (err : RouteError)

def customDomainStatusMissReason (status : Bytes) : Bytes :=
  let status := trimSpace status
  if status = ascii "pending_verification" then ascii "not_verified"
  else if status = ascii "verification_failed" then ascii "verification_failed"
  else ascii "not_found"

def customDomainMissReason (reason : Bytes) : Bytes :=
  let reason := trimSpace reason
  if reason = [] then ascii "not_found" else reason

def routeForResolution (hostname : Bytes) (result : CustomDomainResolution) : Routing :=
  let customDomain := if trimSpace result.hostname = [] then hostname else trimSpace result.hostname
  if !result.found then .missed { customDomain, missReason := customDomainMissReason result.reason }
  else if result.status ≠ [] ∧ result.status ≠ ascii "active" then
    .missed { customDomain, missReason := customDomainStatusMissReason result.status }
  else
    let subdomain := toLower (trimSpace result.subdomain)
    if subdomain = [] then .failed (.noSubdomain hostname)
    else if validateSubdomain subdomain then .routed { subdomain, customDomain }
    else .failed (.invalidSubdomain hostname result.subdomain)

/-- The hostname that `routeForHost` has resolved, if it comes to that. -/
def customDomainOf (rootDomain hostport : Bytes) : Option Bytes :=
  if (subdomainFromHost rootDomain hostport).isSome then none
  else (customDomainLookupHostname hostport).filter fun hostname =>
    !sameHostname hostname rootDomain

def routeForHost (rootDomain : Bytes) (resolver : CustomDomainCache) (hostport : Bytes) (now : Nat)
    (next : Bytes → Option CustomDomainResolution) : CustomDomainCache × Routing :=
  match subdomainFromHost rootDomain hostport with
  | some subdomain => (resolver, .routed { subdomain })
  | none =>
    match customDomainOf rootDomain hostport with
    | none => (resolver, .missed {})
    | some hostname =>
      match resolver.resolveCustomDomain hostname now (next hostname) with
      | (resolver, none) => (resolver, .failed .lookupFailed)
      | (resolver, some result) => (resolver, routeForResolution hostname result)

/-- The subdomain that a host is routed to without asking the control plane. -/
def knownSubdomain (rootDomain : Bytes) (resolver : CustomDomainCache) (hostport : Bytes)
    (now : Nat) : Option Bytes :=
  match subdomainFromHost rootDomain hostport with
  | some subdomain => some subdomain
  | none =>
    (customDomainOf rootDomain hostport).bind fun hostname =>
      (resolver.kept? hostname now).bind fun result =>
        match routeForResolution hostname result with
        | .routed route => some route.subdomain
        | _ => none

theorem routeForResolution_routed {hostname : Bytes} {result : CustomDomainResolution}
    {route : HostRoute} (routed : routeForResolution hostname result = .routed route) :
    result.found = true ∧ route.subdomain = toLower (trimSpace result.subdomain) ∧
      validateSubdomain route.subdomain = true := by
  unfold routeForResolution at routed
  dsimp only at routed
  split at routed
  · cases routed
  next found =>
    split at routed
    · cases routed
    split at routed
    · cases routed
    split at routed
    next valid =>
      cases routed
      exact ⟨by simpa using found, rfl, valid⟩
    · cases routed

variable {resolver : CustomDomainCache}

theorem routeForHost_routed {rootDomain : Bytes} {after : CustomDomainCache} {hostport : Bytes}
    {now : Nat} {next : Bytes → Option CustomDomainResolution} {route : HostRoute}
    (routed : routeForHost rootDomain resolver hostport now next = (after, .routed route)) :
    knownSubdomain rootDomain resolver hostport now = some route.subdomain ∨
      ∃ hostname result, customDomainOf rootDomain hostport = some hostname ∧
        next hostname = some result ∧ routeForResolution hostname result = .routed route := by
  unfold routeForHost at routed
  split at routed
  next subdomain under =>
    cases routed
    refine .inl ?_
    unfold knownSubdomain
    rw [under]
  next elsewhere =>
    split at routed
    · cases routed
    next hostname custom =>
      simp only [CustomDomainCache.resolveCustomDomain] at routed
      split at routed
      · cases routed
      next later result answered =>
        split at answered
        next kept =>
          cases answered
          have resolved : routeForResolution hostname result = .routed route :=
            (Prod.mk.inj routed).2
          refine .inl ?_
          simp [knownSubdomain, elsewhere, custom, kept, resolved]
        · split at answered
          · cases answered
          next asked =>
            cases answered
            exact .inr ⟨hostname, result, custom, asked, (Prod.mk.inj routed).2⟩

theorem routeForHost_known {rootDomain : Bytes} {hostport : Bytes} {now : Nat} {subdomain : Bytes}
    (next : Bytes → Option CustomDomainResolution)
    (known : knownSubdomain rootDomain resolver hostport now = some subdomain) :
    ∃ route, route.subdomain = subdomain ∧ validateSubdomain subdomain = true ∧
      routeForHost rootDomain resolver hostport now next = (resolver, .routed route) := by
  unfold knownSubdomain at known
  split at known
  next under =>
    cases known
    refine ⟨{ subdomain }, rfl, subdomainFromHost_valid under, ?_⟩
    simp only [routeForHost, under]
  next elsewhere =>
    obtain ⟨_, custom, known⟩ := Option.bind_eq_some_iff.mp known
    obtain ⟨_, kept, known⟩ := Option.bind_eq_some_iff.mp known
    split at known
    next route resolved =>
      cases known
      refine ⟨route, rfl, (routeForResolution_routed resolved).2.2, ?_⟩
      simp [routeForHost, elsewhere, custom, CustomDomainCache.resolveCustomDomain, kept, resolved]
    · cases known

end Porthook.Gateway
