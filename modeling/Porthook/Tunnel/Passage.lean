import Porthook.Tunnel.Exposure

/-!
# What a forwarded request has passed

A request reaches a tunnel only under the name of the tunnel or through a custom domain
that stands for it, and only past the access policy of the name.
-/

namespace Porthook.Tunnel

open Protocol Transition Gateway ControlPlane

variable {Conn Query Id : Type} [DecidableEq Conn] [DecidableEq Query] [DecidableEq Id]

theorem always_exposureInv (cfg : ExposureConfig) (actions : List (ExposureAction Conn Query Id)) :
    Always (Exposure.step cfg) ExposureInv (.initial cfg) actions :=
  always_of_invariant (fun _ _ _ inv stepped => inv.step stepped) exposureInv_initial actions

/-- A request is forwarded only to a tunnel that is being served.  Its host names the tunnel under
the root domain, or by an answer of the control plane that is kept, or stands for it now. -/
theorem forwarded_under_name (cfg : ExposureConfig)
    (actions : List (ExposureAction Conn Query Id)) :
    Always (Exposure.step cfg) (fun state => ∀ request draw session,
      Forwards cfg state request draw session →
        state.server.conn session.owner = .serving session ∧
        (knownSubdomain cfg.rootDomain state.resolver request.host draw.resolvedAt =
            some session.subdomain ∨
          ∃ hostname, customDomainOf cfg.rootDomain request.host = some hostname ∧
            StandsFor state hostname session.subdomain)) (.initial cfg) actions := by
  apply (always_exposureInv cfg actions).mono
  intro state inv request draw session forwards
  obtain ⟨_, route, routed, found, -⟩ := forwards_iff.mp forwards
  rw [inv.session_subdomain found]
  obtain ⟨_, -, listed⟩ := Option.bind_eq_some_iff.mp found
  refine ⟨(inv.server.listed _ _ listed).2, ?_⟩
  rcases routeForHost_routed routed with known | ⟨hostname, _, custom, looked, resolved⟩
  · exact .inl known
  · exact .inr ⟨hostname, custom, inv.standsFor looked resolved⟩

/-- A request is forwarded only if the control plane has answered, and if the name is reserved, only
if the policy of the reservation admits what the request brings. -/
theorem forwarded_past_policy (cfg : ExposureConfig)
    (actions : List (ExposureAction Conn Query Id)) :
    Always (Exposure.step cfg) (fun state => ∀ request draw session,
      Forwards cfg state request draw session → ∃ access, draw.access = some access ∧
        ∀ reservation record,
          state.reservations.store.lookupByName session.subdomain = some reservation →
          state.policies.store.lookupByReservedSubdomainID (trimSpace reservation.id) =
            some record →
          let sent := evaluationRequest cfg session.subdomain request
          PolicyAdmits cfg.hashing record
            { sent with remoteIP := if sent.remoteIP = [] then access.remoteIP else sent.remoteIP })
      (.initial cfg) actions := by
  apply (always_exposureInv cfg actions).mono
  intro state inv request draw session forwards
  obtain ⟨_, route, routed, found, -, -, -, _, allowed, evaluated⟩ := forwards_iff.mp forwards
  rw [inv.session_subdomain found]
  cases asked : draw.access with
  | none =>
    rw [asked] at evaluated
    cases evaluated
  | some access =>
    refine ⟨access, rfl, fun reservation record reserved stored => ?_⟩
    -- a reserved name is valid, so it is the name that the control plane looks up
    obtain ⟨member, same⟩ := Table.findOther?_eq_some_iff.mp reserved
    have valid : validateSubdomain route.subdomain = true := same ▸ inv.names reservation member
    have sent : (evaluationRequest cfg route.subdomain request).subdomain = route.subdomain :=
      receivedFrom_subdomain valid
    simp only [asked, Exposure.evaluatePublicAccess, answerEvaluation, sent,
      trimSpace_subdomain valid, if_neg (subdomain_ne_nil valid)] at evaluated
    split at evaluated
    · cases evaluated
    next answered =>
      cases evaluated
      have admits := evaluateAccessPolicy_admits valid reserved stored
        (congrArg Prod.snd answered) allowed
      exact admits

end Porthook.Tunnel
