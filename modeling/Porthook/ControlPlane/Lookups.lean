import Porthook.ControlPlane.Access
import Porthook.ControlPlane.Domains
import Porthook.ControlPlane.Reservations

/-!
# What the gateway asks about a host

`lookupCustomDomain` and `evaluateAccessPolicy` of the control plane.  Each looks a
reservation up on the way from what the gateway knows to what it asks for.
-/

namespace Porthook.ControlPlane

open Protocol Gateway

def DomainStatus.text : DomainStatus → Bytes
  | .pendingVerification => ascii "pending_verification"
  | .active => ascii "active"
  | .verificationFailed => ascii "verification_failed"

structure LookupCustomDomainResponse where
  found : Bool
  reason : Bytes := []
  hostname : Bytes := []
  customDomainID : Bytes := []
  reservedSubdomainID : Bytes := []
  subdomain : Bytes := []
  status : Bytes := []

inductive LookupError where
  | domain (err : DomainError)
  | reservation (err : ReservationError)
  deriving DecidableEq

def DomainSummary.missed (domain : DomainSummary) (reason : Bytes) :
    LookupCustomDomainResponse where
  found := false
  reason := reason
  hostname := domain.hostname
  customDomainID := domain.id
  reservedSubdomainID := domain.reservedSubdomainID
  status := domain.status.text

def lookupCustomDomain (reservations : ReservationStore) (domains : DomainStore)
    (hostname : Bytes) (draw : DomainDraw) (reservationDraw : ReservationDraw) :
    Except LookupError LookupCustomDomainResponse :=
  match getDomainByHostname domains hostname draw with
  | .failed err => .error (.domain err)
  | .found (some domain) =>
    match domain.status with
    | .verificationFailed => .ok (domain.missed (ascii "verification_failed"))
    | .pendingVerification => .ok (domain.missed (ascii "not_verified"))
    | .active =>
      match getReservation reservations domain.reservedSubdomainID reservationDraw with
      | .failed err => .error (.reservation err)
      | .found (some reservation) =>
        .ok { domain.missed [] with found := true, subdomain := reservation.name }
      | _ => .ok (domain.missed (ascii "reservation_not_found"))
  | _ =>
    match normalizeHostname hostname with
    | .error err => .error (.domain err)
    | .ok normalized =>
      .ok { found := false, hostname := normalized, reason := ascii "not_found" }

variable {reservations : ReservationStore}

theorem lookupCustomDomain_found {domains : DomainStore} {hostname : Bytes} {draw : DomainDraw}
    {reservationDraw : ReservationDraw} {response : LookupCustomDomainResponse}
    (answered : lookupCustomDomain reservations domains hostname draw reservationDraw =
      .ok response) (found : response.found) :
    ∃ record ∈ domains.rows, normalizeHostname hostname = .ok record.hostname ∧
      record.status = .active ∧ ∃ reservation ∈ reservations.rows,
        reservation.id = trimSpace record.reservedSubdomainID ∧
        response.subdomain = reservation.name := by
  unfold lookupCustomDomain at answered
  split at answered
  · cases answered
  next domain stored =>
    split at answered
    · cases answered; cases found
    · cases answered; cases found
    next active =>
      split at answered
      · cases answered
      next reservation looked =>
        cases answered
        unfold getDomainByHostname at stored
        split at stored
        · cases stored
        next normalized =>
          split at stored
          · cases stored
          obtain ⟨record, there, rfl⟩ := Option.map_eq_some_iff.mp (DomainReply.found.inj stored)
          obtain ⟨member, rfl⟩ := Table.findOther?_eq_some_iff.mp there
          unfold getReservation at looked
          dsimp only at looked
          repeat' split at looked
          any_goals cases looked
          obtain ⟨held, same⟩ := Table.find?_eq_some_iff.mp (ReservationReply.found.inj looked)
          exact ⟨record, member, normalized, active, reservation, held, same, rfl⟩
      · cases answered; cases found
  · split at answered
    · cases answered
    · cases answered; cases found

structure EvaluateAccessPolicyRequest where
  subdomain : Bytes
  remoteIP : Bytes := []
  basicUsername : Bytes := []
  basicPassword : Bytes := []
  bearerToken : Bytes := []

inductive EvaluationError where
  | subdomainRequired
  | reservation (err : ReservationError)
  | policy (err : PolicyError)
  | canceled
  deriving DecidableEq

variable (hashing : Hashing)

/-- The reservation of a name has the policy; a name without one is public. -/
def evaluateAccessPolicy (reservations : ReservationStore) (policies : PolicyStore)
    (request : EvaluateAccessPolicyRequest) (draw : ReservationDraw) (draws : List PolicyDraw) :
    PolicyStore × Except EvaluationError CheckPolicyResult :=
  match getReservationByName reservations request.subdomain draw with
  | .failed err => (policies, .error (.reservation err))
  | .found (some reservation) =>
    let check : CheckPolicyRequest :=
      { reservedSubdomainID := reservation.id, remoteIP := request.remoteIP
        basicUsername := request.basicUsername, basicPassword := request.basicPassword
        bearerToken := request.bearerToken }
    match (policyService hashing).complete policies (.checking check) draws with
    | (policies, .returns (.checked result)) => (policies, .ok result)
    | (policies, .returns (.failed err)) => (policies, .error (.policy err))
    | (policies, _) => (policies, .error .canceled)
  | _ => (policies, .ok { allowed := true, mode := .modePublic, reason := ascii "not_reserved" })

/-- What `handleEvaluateAccessPolicy` does with a request that it has decoded; an
address that is not given is the one the request came from. -/
def answerEvaluation (clientIP : Bytes) (reservations : ReservationStore) (policies : PolicyStore)
    (request : EvaluateAccessPolicyRequest) (draw : ReservationDraw) (draws : List PolicyDraw) :
    PolicyStore × Except EvaluationError CheckPolicyResult :=
  let subdomain := trimSpace request.subdomain
  if subdomain = [] then (policies, .error .subdomainRequired)
  else
    let remoteIP := if request.remoteIP = [] then clientIP else request.remoteIP
    evaluateAccessPolicy hashing reservations policies { request with subdomain, remoteIP } draw
      draws

variable {request : EvaluateAccessPolicyRequest}

theorem evaluateAccessPolicy_unreserved (policies : PolicyStore) {draw : ReservationDraw}
    (draws : List PolicyDraw) (valid : validateSubdomain request.subdomain)
    (works : draw.storeFails = false)
    (unreserved : reservations.lookupByName request.subdomain = none) :
    evaluateAccessPolicy hashing reservations policies request draw draws =
      (policies, .ok { allowed := true, mode := .modePublic, reason := ascii "not_reserved" }) := by
  have asked : getReservationByName reservations request.subdomain draw = .found none := by
    simp [getReservationByName, normalizeName_of_valid valid, works, unreserved]
  simp only [evaluateAccessPolicy, asked]

theorem evaluateAccessPolicy_storeFails (reservations : ReservationStore) (policies : PolicyStore)
    {draw : ReservationDraw} (draws : List PolicyDraw) (fails : draw.storeFails) :
    ∃ err, evaluateAccessPolicy hashing reservations policies request draw draws =
      (policies, .error (.reservation err)) := by
  have asked : ∃ err, getReservationByName reservations request.subdomain draw = .failed err := by
    unfold getReservationByName
    split
    next err _ => exact ⟨err, rfl⟩
    · exact ⟨.storeFailed, if_pos fails⟩
  obtain ⟨err, asked⟩ := asked
  exact ⟨err, by simp only [evaluateAccessPolicy, asked]⟩

/-- What a policy asks of a request, by its mode. -/
def PolicyAdmits (record : PolicyRecord) (request : EvaluateAccessPolicyRequest) : Prop :=
  match record.mode with
  | .modePublic => True
  | .modeBasicAuth =>
    (basicAuthMatches hashing record request.basicUsername request.basicPassword).1 = true
  | .modeBearerToken =>
    secretHashEqual (hashSecret hashing.sha256 (trimSpace request.bearerToken)) record.secretHash
  | .modeIPAllowlist => ipAllowed request.remoteIP record.ipAllowlist
  | .unsupported _ => False

variable {hashing} {record : PolicyRecord}

theorem checkRecord_denies (id : Bytes) (barred : ¬ PolicyAdmits hashing record request) :
    ∃ reason, checkRecord hashing record
        { reservedSubdomainID := id, remoteIP := request.remoteIP
          basicUsername := request.basicUsername, basicPassword := request.basicPassword
          bearerToken := request.bearerToken } =
      .returns (.checked { allowed := false, mode := record.mode, reason }) := by
  unfold PolicyAdmits at barred
  unfold checkRecord
  cases mode : record.mode with
  | modePublic => simp [mode] at barred
  | modeBasicAuth =>
    simp only [mode, Bool.not_eq_true] at barred
    rcases matched : basicAuthMatches hashing record request.basicUsername
      request.basicPassword with ⟨_, _⟩
    rw [matched] at barred
    cases barred
    exact ⟨_, rfl⟩
  | modeBearerToken | modeIPAllowlist =>
    simp only [mode] at barred
    exact ⟨_, if_neg barred⟩
  | unsupported => exact ⟨_, rfl⟩

theorem evaluateAccessPolicy_admits {policies : PolicyStore} {draw : ReservationDraw}
    {draws : List PolicyDraw} {reservation : ReservationRecord} {result : CheckPolicyResult}
    (valid : validateSubdomain request.subdomain)
    (reserved : reservations.lookupByName request.subdomain = some reservation)
    (stored : policies.lookupByReservedSubdomainID (trimSpace reservation.id) = some record)
    (answered : (evaluateAccessPolicy hashing reservations policies request draw draws).2 =
      .ok result) (allowed : result.allowed) :
    PolicyAdmits hashing record request := by
  by_contra barred
  obtain ⟨reason, denied⟩ := checkRecord_denies reservation.id barred
  simp only [evaluateAccessPolicy, getReservationByName, normalizeName_of_valid valid,
    reserved] at answered
  by_cases fails : draw.storeFails = true
  · simp [fails] at answered
  simp only [if_neg fails] at answered
  cases draws with
  | nil => simp [Calls.Service.complete] at answered
  | cons first =>
    simp only [Calls.Service.complete, policyService, checkPolicy, stored, denied] at answered
    by_cases unnamed : trimSpace reservation.id = []
    · simp [unnamed] at answered
    by_cases broken : first.storeFails = true
    · simp [unnamed, broken] at answered
    simp only [if_neg unnamed, if_neg broken] at answered
    cases answered
    cases allowed

end Porthook.ControlPlane
