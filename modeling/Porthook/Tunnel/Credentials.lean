import Porthook.ControlPlane.AccessTerms
import Porthook.Tunnel.Exposure

/-!
# Basic credentials from end to end

A client sends a user name and a password in one header with a colon between them, the gateway
splits and forwards them as JSON, and the control plane trims and compares them.  A name with a
colon in it is accepted, and no client can send it; bytes that are not UTF-8 are lost on the way.
-/

namespace Porthook.Tunnel

open Protocol Base64 Gateway ControlPlane

def cutColon (credentials : Bytes) : Bytes × Bytes :=
  (credentials.takeWhile (· ≠ 58), (credentials.dropWhile (· ≠ 58)).tail)

theorem cutColon_of_not_mem {username : Bytes} (colon : 58 ∉ username) (password : Bytes) :
    cutColon (username ++ 58 :: password) = (username, password) := by
  have plain : ∀ byte ∈ username, decide (byte ≠ 58) = true := by
    intro byte member
    rw [decide_eq_true_eq]
    rintro rfl
    exact colon member
  rw [cutColon, List.takeWhile_append_of_pos plain, List.dropWhile_append_of_pos plain]
  simp

theorem not_mem_cutColon (credentials : Bytes) : 58 ∉ (cutColon credentials).1 := fun member => by
  have kept := List.all_eq_true.mp List.all_takeWhile 58 member
  simp at kept

/-- A policy that was set to a user name and a password.  What an update does not give
is what the policy had. -/
inductive Configured (hashing : Hashing) : PolicyRecord → Bytes → Bytes → Prop where
  | created {request : CreatePolicyRequest} {draw : PolicyDraw} {record : PolicyRecord}
      (made : newPolicyRecord hashing request draw = .ok record)
      (mode : record.mode = .modeBasicAuth) :
      Configured hashing record request.basicUsername request.basicPassword
  | updated {existing record : PolicyRecord} {username password : Bytes}
      {request : UpdatePolicyRequest} {draw : PolicyDraw}
      (before : existing.mode = .modeBasicAuth → Configured hashing existing username password)
      (made : updatedPolicyRecord hashing existing request draw = .ok record)
      (mode : record.mode = .modeBasicAuth) :
      Configured hashing record
        (if trimSpace request.basicUsername = [] then username else request.basicUsername)
        (if trimSpace request.basicPassword = [] then password else request.basicPassword)

theorem given?_none_eq_some {text found : Bytes} (given : given? text none = some found) :
    found = trimSpace text := by
  unfold given? at given
  split at given
  · cases given
  · exact (Option.some.inj given).symm

variable {hashing : Hashing}

theorem newPolicyRecord_login {request : CreatePolicyRequest} {draw : PolicyDraw}
    {record : PolicyRecord} (made : newPolicyRecord hashing request draw = .ok record)
    (mode : record.mode = .modeBasicAuth) :
    Encodes hashing record
      (.login (trimSpace request.basicUsername) (trimSpace request.basicPassword)) := by
  obtain ⟨-, terms, set, encoded⟩ := newPolicyRecord_eq_ok made
  have known := encoded.mode.symm.trans mode
  obtain ⟨chosen, -, set⟩ := Option.bind_eq_some_iff.mp set
  cases terms with
  | everyone | bearer | addresses => cases known
  | login =>
    cases chosen with
    | modeBasicAuth =>
      obtain ⟨_, named, set⟩ := Option.bind_eq_some_iff.mp set
      obtain ⟨_, given, same⟩ := Option.map_eq_some_iff.mp set
      cases same
      rwa [← given?_none_eq_some named, ← given?_none_eq_some given]
    | modePublic | unsupported => cases set
    | modeBearerToken | modeIPAllowlist =>
      obtain ⟨_, -, same⟩ := Option.map_eq_some_iff.mp set
      cases same

theorem updatedPolicyRecord_login {existing record : PolicyRecord} {username password : Bytes}
    {request : UpdatePolicyRequest} {draw : PolicyDraw}
    (before : existing.mode = .modeBasicAuth →
      Encodes hashing existing (.login (trimSpace username) (trimSpace password)))
    (made : updatedPolicyRecord hashing existing request draw = .ok record)
    (mode : record.mode = .modeBasicAuth) :
    Encodes hashing record (.login (trimSpace (if trimSpace request.basicUsername = [] then username
        else request.basicUsername))
      (trimSpace (if trimSpace request.basicPassword = [] then password
        else request.basicPassword))) := by
  have named (present : updatedUsername existing request ≠ []) :
      updatedUsername existing request = trimSpace
        (if trimSpace request.basicUsername = [] then username else request.basicUsername) := by
    simp only [updatedUsername] at present ⊢
    by_cases blank : trimSpace request.basicUsername = []
    · rw [if_pos blank]
      split at present
      next kept => rw [if_pos kept, (before kept.2).2.1.1]
      next => exact absurd blank present
    · rw [if_neg blank, if_neg fun both => blank both.1]
  unfold updatedPolicyRecord at made
  dsimp only at made
  generalize (if trimSpace request.mode = [] then existing.mode.text
    else trimSpace request.mode) = text at made
  cases chosen : normalizeMode text with
  | error => rw [chosen] at made; cases made
  | ok updated =>
    simp only [chosen, Except.bind] at made
    cases updated with
    | modeBasicAuth =>
      dsimp only at made
      split at made
      · cases made
      next present =>
        have name := named present
        split at made
        next given =>
          split at made
          · cases made
          next hash hashed =>
            cases made
            rw [if_neg given]
            exact ⟨rfl, ⟨name, name ▸ present⟩, ⟨given, hashPassword_eq_some hashed⟩, rfl⟩
        next blank =>
          split at made
          next kept =>
            cases made
            rw [if_pos (not_not.mp blank)]
            exact ⟨rfl, ⟨name, name ▸ present⟩, (before kept.1).2.2.1, rfl⟩
          · cases made
    | modePublic => cases made; cases mode
    | unsupported => cases made
    | modeBearerToken =>
      dsimp only at made
      split at made
      · cases made; cases mode
      · split at made
        · cases made; cases mode
        · cases made
    | modeIPAllowlist =>
      dsimp only at made
      split at made
      · cases made; cases mode
      · cases listed : normalizeIPAllowlist request.ipAllowlist with
        | error => rw [listed] at made; cases made
        | ok => rw [listed] at made; cases made; cases mode

theorem Configured.encodes {record : PolicyRecord} {username password : Bytes}
    (configured : Configured hashing record username password) :
    Encodes hashing record (.login (trimSpace username) (trimSpace password)) := by
  induction configured with
  | created made mode => exact newPolicyRecord_login made mode
  | updated _ made mode ih =>
    exact updatedPolicyRecord_login ih made mode

/-- A login at a name whose reservation has the policy, with control plane and stores
working. -/
structure LoginAttempt {Conn Query Id : Type} (cfg : ExposureConfig)
    (state : Exposure Conn Query Id) (subdomain : Bytes) (record : PolicyRecord)
    (request : HTTPRequest) (draw : AccessDraw) (username password : Bytes) : Prop where
  valid : validateSubdomain subdomain = true
  guarded : ∃ reservation, state.reservations.store.lookupByName subdomain = some reservation ∧
    trimSpace reservation.id ≠ [] ∧
    state.policies.store.lookupByReservedSubdomainID (trimSpace reservation.id) = some record
  answered : draw.reservation.storeFails = false ∧
    ∃ first rest, draw.policy = first :: rest ∧ first.storeFails = false
  sent : cfg.basicAuth request.header = some (cutColon (username ++ 58 :: password))

section Attempt

variable {Conn Query Id : Type} {cfg : ExposureConfig} {state : Exposure Conn Query Id}
  {subdomain username password : Bytes} {record : PolicyRecord} {request : HTTPRequest}
  {draw : AccessDraw}

theorem evaluatePublicAccess_login (sound : cfg.hashing.Sound)
    (configured : Configured cfg.hashing record username password)
    (attempt : LoginAttempt cfg state subdomain record request draw username password) :
    (∃ access, (state.evaluatePublicAccess cfg subdomain request (some draw)).2 = some access ∧
      access.allowed = true) ↔
      trimSpace (evaluationRequest cfg subdomain request).basicUsername = trimSpace username ∧
      trimSpace (evaluationRequest cfg subdomain request).basicPassword = trimSpace password := by
  obtain ⟨valid, ⟨reservation, reserved, identified, found⟩, ⟨works, first, rest, drawn, checks⟩,
    -⟩ := attempt
  have sent : (evaluationRequest cfg subdomain request).subdomain = subdomain :=
    receivedFrom_subdomain valid
  have asked : getReservationByName state.reservations.store subdomain draw.reservation =
      .found (some reservation) := by
    simp [getReservationByName, normalizeName_of_valid valid, works, reserved]
  simp only [Exposure.evaluatePublicAccess, answerEvaluation, sent, trimSpace_subdomain valid,
    if_neg (subdomain_ne_nil valid), evaluateAccessPolicy, asked, drawn]
  generalize evaluationRequest cfg subdomain request = evaluation
  generalize (if evaluation.remoteIP = [] then draw.remoteIP else evaluation.remoteIP) = remoteIP
  obtain ⟨reply, checked, admits⟩ := checkRecord_encoded sound configured.encodes
    { reservedSubdomainID := reservation.id, remoteIP, basicUsername := evaluation.basicUsername,
      basicPassword := evaluation.basicPassword, bearerToken := evaluation.bearerToken }
  rw [PolicyTerms.Admits] at admits
  rw [← admits]
  simp only [Calls.Service.complete, policyService, checkPolicy, identified, if_false, checks,
    Bool.false_eq_true, found, checked]
  cases reply with
  | checked => simp [PolicyReply.allows]
  | policy | deleted | found | policies | failed => simp [PolicyReply.allows]

/-- The credentials of a policy open the tunnel exactly if the user name has no colon and
both outlive the transport as JSON. -/
theorem credentials_accepted_iff (sound : cfg.hashing.Sound)
    (configured : Configured cfg.hashing record username password)
    (attempt : LoginAttempt cfg state subdomain record request draw username password) :
    (∃ access, (state.evaluatePublicAccess cfg subdomain request (some draw)).2 = some access ∧
      access.allowed = true) ↔
      58 ∉ username ∧ trimSpace (receivedFrom 0 username) = trimSpace username ∧
        trimSpace (receivedFrom 0 password) = trimSpace password := by
  rw [evaluatePublicAccess_login sound configured attempt]
  simp only [evaluationRequest, attempt.sent, Option.getD_some]
  by_cases colon : 58 ∈ username
  · -- the stored name has a colon, and what arrives has none
    refine iff_of_false (fun both => ?_) fun both => both.1 colon
    have graphic : Graphic 58 := by decide
    have stored := (mem_trimSpace graphic).mpr colon
    rw [← both.1, mem_trimSpace graphic] at stored
    rcases mem_receivedFrom stored with arrived | replaced
    · exact not_mem_cutColon _ arrived
    · exact absurd replaced (by decide)
  · simp [cutColon_of_not_mem colon, colon]

end Attempt

def loginConfig : ExposureConfig where
  rootDomain := ascii "tunnels.example"
  hashing := plainHashing
  basicAuth header :=
    ((cutPrefix? (header.get (ascii "Authorization")) (ascii "Basic ")).bind base64Decode?).map
      cutColon

def loginRequest (authorization : Bytes) : HTTPRequest where
  host := ascii "demo.tunnels.example"
  remoteAddr := ascii "198.51.100.7:4000"
  header := [(ascii "Authorization", [authorization])]

def loginPolicy (basicUsername basicPassword : Bytes) : CreatePolicyRequest where
  mode := ascii "basic_auth"
  basicUsername := basicUsername
  basicPassword := basicPassword
  reservedSubdomainID := ascii "rs_1"

def loginRecord (basicUsername basicPassword : Bytes) : PolicyRecord where
  reservedSubdomainID := ascii "rs_1"
  mode := .modeBasicAuth
  basicUsername := basicUsername
  secretHash := argon2idPrefix ++ basicPassword
  createdAt := 0
  updatedAt := 0

def loginState (record : PolicyRecord) : Exposure Unit Unit Unit :=
  { Exposure.initial loginConfig with
    reservations :=
      { store := (Table.empty.insert? ⟨ascii "rs_1", ascii "demo", ascii "tok_1", 0⟩).getD
          Table.empty }
    policies := { store := (Table.empty.insert? record).getD Table.empty } }

theorem credentials_accepted_iff_ada :
    ∃ access, ((loginState (loginRecord (ascii "ada") (ascii "pw"))).evaluatePublicAccess
        loginConfig (ascii "demo") (loginRequest (ascii "Basic YWRhOnB3")) (some {})).2 =
      some access ∧ access.allowed = true := by
  have made : newPolicyRecord plainHashing (loginPolicy (ascii "ada") (ascii "pw"))
      { salt := some [] } = .ok (loginRecord (ascii "ada") (ascii "pw")) := rfl
  refine (credentials_accepted_iff plainHashing_sound (.created made rfl)
    ⟨by decide, ⟨_, rfl, by decide, rfl⟩, ⟨rfl, _, _, rfl, rfl⟩, rfl⟩).mpr ?_
  exact ⟨by decide, by decide, by decide⟩

/-- The policy is accepted, and its own credentials are denied. -/
theorem colon_denied :
    newPolicyRecord plainHashing (loginPolicy (ascii "a:b") (ascii "pw")) { salt := some [] } =
        .ok (loginRecord (ascii "a:b") (ascii "pw")) ∧
      base64Encode (ascii "a:b:pw") = ascii "YTpiOnB3" ∧
      ((loginState (loginRecord (ascii "a:b") (ascii "pw"))).evaluatePublicAccess loginConfig
        (ascii "demo") (loginRequest (ascii "Basic YTpiOnB3")) (some {})).2 =
        some ⟨false, ascii "basic_auth"⟩ :=
  ⟨rfl, by decide, rfl⟩

end Porthook.Tunnel
