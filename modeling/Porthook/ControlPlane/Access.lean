import Porthook.ControlPlane.Secrets
import Porthook.Foundations.Calls
import Porthook.Foundations.NetipText
import Porthook.Foundations.Table

/-!
# Access policies

The package `access`.  `UpdatePolicy` reads the policy in one step and writes it in another;
`CheckPolicy` reads it, and where it finds the digest of an older release it stores the record it
has read with a new hash of the password it was given.
-/

namespace Porthook.ControlPlane

open Protocol

/-- `PolicyMode`; a stored mode can be one that this release does not know. -/
inductive PolicyMode where
  | modePublic
  | modeBasicAuth
  | modeBearerToken
  | modeIPAllowlist
  | unsupported (mode : Bytes)
  deriving DecidableEq

def PolicyMode.text : PolicyMode → Bytes
  | .modePublic => ascii "public"
  | .modeBasicAuth => ascii "basic_auth"
  | .modeBearerToken => ascii "bearer_token"
  | .modeIPAllowlist => ascii "ip_allowlist"
  | .unsupported mode => mode

def supportedModes : List PolicyMode :=
  [.modePublic, .modeBasicAuth, .modeBearerToken, .modeIPAllowlist]

inductive PolicyError where
  | reservedSubdomainIDRequired
  | modeRequired
  | modeUnsupported (mode : Bytes)
  | secretRequired
  | basicUsernameRequired
  | ipAllowlistRequired
  | invalidIPAllowlistEntry (value : Bytes)
  | notFound
  | alreadyExists
  | randomFailed
  | storeFailed
  deriving DecidableEq

structure PolicyRecord where
  id : Bytes := []
  reservedSubdomainID : Bytes
  mode : PolicyMode
  basicUsername : Bytes := []
  secretHash : Bytes := []
  ipAllowlist : List Bytes := []
  createdAt : Nat
  updatedAt : Nat

structure UpdatePolicyRequest where
  mode : Bytes := []
  basicUsername : Bytes := []
  basicPassword : Bytes := []
  bearerToken : Bytes := []
  ipAllowlist : List Bytes := []

structure CreatePolicyRequest extends UpdatePolicyRequest where
  reservedSubdomainID : Bytes

structure CheckPolicyRequest where
  reservedSubdomainID : Bytes
  remoteIP : Bytes := []
  basicUsername : Bytes := []
  basicPassword : Bytes := []
  bearerToken : Bytes := []

structure CheckPolicyResult where
  allowed : Bool
  mode : PolicyMode
  reason : Bytes := []

structure PolicySummary where
  id : Bytes
  reservedSubdomainID : Bytes
  mode : PolicyMode
  basicUsername : Bytes
  secretConfigured : Bool
  ipAllowlist : List Bytes
  createdAt : Nat
  updatedAt : Nat

def PolicyRecord.summary (record : PolicyRecord) : PolicySummary where
  id := record.id
  reservedSubdomainID := record.reservedSubdomainID
  mode := record.mode
  basicUsername := record.basicUsername
  secretConfigured := record.secretHash ≠ []
  ipAllowlist := record.ipAllowlist
  createdAt := record.createdAt
  updatedAt := record.updatedAt

/-- `byID` and `byReservation`. -/
abbrev PolicyStore := Table PolicyRecord.id PolicyRecord.reservedSubdomainID

namespace PolicyStore

def create (store : PolicyStore) (record : PolicyRecord) : Except PolicyError PolicyStore :=
  match store.insert? record with
  | none => .error .alreadyExists
  | some next => .ok next

/-- The whole record is overwritten; it must belong to the same reservation. -/
def update (store : PolicyStore) (record : PolicyRecord) : Except PolicyError PolicyStore :=
  match store.find? record.id with
  | none => .error .notFound
  | some existing =>
    if existing.reservedSubdomainID ≠ record.reservedSubdomainID then
      .error .reservedSubdomainIDRequired
    else .ok ((store.replace? record).getD store)

abbrev lookupByID (store : PolicyStore) (id : Bytes) : Option PolicyRecord := store.find? id

abbrev lookupByReservedSubdomainID (store : PolicyStore) (id : Bytes) : Option PolicyRecord :=
  store.findOther? id

def list (store : PolicyStore) : List PolicyRecord :=
  store.rows.mergeSort fun first second =>
    if first.reservedSubdomainID = second.reservedSubdomainID then first.id ≤ second.id
    else first.reservedSubdomainID ≤ second.reservedSubdomainID

theorem create_eq_ok {store next : PolicyStore} {record : PolicyRecord}
    (created : create store record = .ok next) : store.insert? record = some next := by
  unfold create at created
  split at created
  · cases created
  next inserted => cases created; exact inserted

theorem update_eq_ok {store next : PolicyStore} {record : PolicyRecord}
    (updated : update store record = .ok next) : store.replace? record = some next := by
  unfold update at updated
  repeat' split at updated
  all_goals cases updated
  next existing found same =>
    have replaceable := Table.replace?_isSome found (not_not.mp same)
    rw [Option.isSome_iff_exists] at replaceable
    obtain ⟨_, replaced⟩ := replaceable
    rw [replaced, Option.getD_some]

end PolicyStore

def normalizeMode (mode : Bytes) : Except PolicyError PolicyMode :=
  let mode := toLower (trimSpace mode)
  if mode = [] then .error .modeRequired
  else
    match supportedModes.find? fun supported => supported.text = mode with
    | none => .error (.modeUnsupported mode)
    | some supported => .ok supported

theorem normalizeMode_text {mode : PolicyMode} (supported : mode ∈ supportedModes) :
    normalizeMode mode.text = .ok mode := by
  revert mode
  decide

def normalizeIPAllowlistValue (value : Bytes) : Except PolicyError Bytes :=
  match Netip.parsePrefix? value with
  | some net => .ok net.masked.string
  | none =>
    match Netip.parseAddr? value with
    | none => .error (.invalidIPAllowlistEntry value)
    | some addr => .ok addr.string

def addAllowlistValue (out : List Bytes) (value : Bytes) : Except PolicyError (List Bytes) :=
  let value := trimSpace value
  if value = [] then .ok out
  else (normalizeIPAllowlistValue value).map fun normalized =>
    if normalized ∈ out then out else out ++ [normalized]

def normalizeIPAllowlist (values : List Bytes) : Except PolicyError (List Bytes) :=
  (values.foldlM addAllowlistValue []).bind fun out =>
    if out = [] then .error .ipAllowlistRequired else .ok out

def ipAllowed (remoteIP : Bytes) (allowlist : List Bytes) : Bool :=
  let remoteIP := trimSpace remoteIP
  if remoteIP = [] then false
  else
    match Netip.parseAddr? remoteIP with
    | none => false
    | some addr => allowlist.any fun value =>
      match Netip.parsePrefix? value with
      | some net => net.contains addr
      | none => Netip.parseAddr? value = some addr

example : normalizeIPAllowlist [ascii " 192.0.2.7/24", ascii "", ascii "2001:DB8::0:1"] =
    .ok [ascii "192.0.2.0/24", ascii "2001:db8::1"] := by decide

/-- SHA-256, what `HashPassword` writes behind its prefix for a salt and a password, and
`VerifyPassword`, whose error is `false`. -/
structure Hashing where
  sha256 : Bytes → Bytes
  derived : Bytes → Bytes → Bytes
  verifyPassword : Bytes → Bytes → Bool

def argon2idPrefix : Bytes := ascii "$argon2id$"

def isPasswordHash (hash : Bytes) : Bool := argon2idPrefix.isPrefixOf hash

section Service

variable (hashing : Hashing)

def hashPassword (password : Bytes) (salt : Option Bytes) : Option Bytes :=
  salt.map fun salt => argon2idPrefix ++ hashing.derived salt password

def secretHashEqual (gotHash wantHash : Bytes) : Bool :=
  gotHash ≠ [] && wantHash ≠ [] && gotHash == wantHash

def basicAuthMatches (record : PolicyRecord) (username password : Bytes) : Bool × Bool :=
  let username := trimSpace username
  let password := trimSpace password
  if username = [] ∨ password = [] ∨ record.basicUsername = [] ∨ record.secretHash = [] then
    (false, false)
  else if !secretEqual hashing.sha256 username record.basicUsername then (false, false)
  else if isPasswordHash record.secretHash then
    (hashing.verifyPassword record.secretHash password, false)
  else (secretHashEqual (hashSecret hashing.sha256 password) record.secretHash, true)

structure PolicyDraw where
  now : Nat := 0
  salt : Option Bytes := none
  id : Option Bytes := none
  storeFails : Bool := false

inductive PolicyRequest where
  | create (request : CreatePolicyRequest)
  | update (id : Bytes) (request : UpdatePolicyRequest)
  | delete (id : Bytes)
  | check (request : CheckPolicyRequest)
  | get (id : Bytes)
  | getForReservedSubdomain (reservedSubdomainID : Bytes)
  | list

/-- Where a call is: an update holds on to the record it is about to write, and a
check to the one it has read, if it is to be upgraded. -/
inductive PolicyCall where
  | creating (request : CreatePolicyRequest)
  | updating (id : Bytes) (request : UpdatePolicyRequest)
  | storing (record : PolicyRecord)
  | deleting (id : Bytes)
  | removing (id : Bytes)
  | checking (request : CheckPolicyRequest)
  | upgrading (record : PolicyRecord) (password : Bytes)
  | getting (id : Bytes)
  | gettingForReservedSubdomain (reservedSubdomainID : Bytes)
  | listing

inductive PolicyReply where
  | policy (summary : PolicySummary)
  | deleted
  | checked (result : CheckPolicyResult)
  | found (summary : Option PolicySummary)
  | policies (listed : List PolicySummary)
  | failed (err : PolicyError)

def PolicyRequest.call : PolicyRequest → PolicyCall
  | .create request => .creating request
  | .update id request => .updating id request
  | .delete id => .deleting id
  | .check request => .checking request
  | .get id => .getting id
  | .getForReservedSubdomain id => .gettingForReservedSubdomain id
  | .list => .listing

def newPolicyRecord (request : CreatePolicyRequest) (draw : PolicyDraw) :
    Except PolicyError PolicyRecord :=
  let reservedSubdomainID := trimSpace request.reservedSubdomainID
  if reservedSubdomainID = [] then .error .reservedSubdomainIDRequired
  else (normalizeMode request.mode).bind fun mode =>
    let record : PolicyRecord :=
      { reservedSubdomainID, mode, createdAt := draw.now, updatedAt := draw.now }
    match mode with
    | .modePublic => .ok record
    | .modeBasicAuth =>
      let basicUsername := trimSpace request.basicUsername
      let password := trimSpace request.basicPassword
      if basicUsername = [] then .error .basicUsernameRequired
      else if password = [] then .error .secretRequired
      else
        match hashPassword hashing password draw.salt with
        | none => .error .randomFailed
        | some secretHash => .ok { record with basicUsername, secretHash }
    | .modeBearerToken =>
      let token := trimSpace request.bearerToken
      if token = [] then .error .secretRequired
      else .ok { record with secretHash := hashSecret hashing.sha256 token }
    | .modeIPAllowlist => (normalizeIPAllowlist request.ipAllowlist).map fun ipAllowlist =>
      { record with ipAllowlist }
    | .unsupported mode => .error (.modeUnsupported mode)

def updatedUsername (existing : PolicyRecord) (request : UpdatePolicyRequest) : Bytes :=
  let username := trimSpace request.basicUsername
  if username = [] ∧ existing.mode = .modeBasicAuth then existing.basicUsername else username

/-- What is not given is taken from the existing policy if it has the same mode. -/
def updatedPolicyRecord (existing : PolicyRecord) (request : UpdatePolicyRequest)
    (draw : PolicyDraw) : Except PolicyError PolicyRecord :=
  let modeText := if trimSpace request.mode = [] then existing.mode.text else trimSpace request.mode
  (normalizeMode modeText).bind fun mode =>
    let record : PolicyRecord :=
      { id := existing.id, reservedSubdomainID := existing.reservedSubdomainID, mode
        createdAt := existing.createdAt, updatedAt := draw.now }
    match mode with
    | .modePublic => .ok record
    | .modeBasicAuth =>
      let basicUsername := updatedUsername existing request
      let password := trimSpace request.basicPassword
      if basicUsername = [] then .error .basicUsernameRequired
      else if password ≠ [] then
        match hashPassword hashing password draw.salt with
        | none => .error .randomFailed
        | some secretHash => .ok { record with basicUsername, secretHash }
      else if existing.mode = .modeBasicAuth ∧ existing.secretHash ≠ [] then
        .ok { record with basicUsername, secretHash := existing.secretHash }
      else .error .secretRequired
    | .modeBearerToken =>
      let token := trimSpace request.bearerToken
      if token ≠ [] then .ok { record with secretHash := hashSecret hashing.sha256 token }
      else if existing.mode = .modeBearerToken ∧ existing.secretHash ≠ [] then
        .ok { record with secretHash := existing.secretHash }
      else .error .secretRequired
    | .modeIPAllowlist =>
      if request.ipAllowlist = [] ∧ existing.mode = .modeIPAllowlist ∧
          existing.ipAllowlist ≠ [] then
        .ok { record with ipAllowlist := existing.ipAllowlist }
      else (normalizeIPAllowlist request.ipAllowlist).map fun ipAllowlist =>
        { record with ipAllowlist }
    | .unsupported mode => .error (.modeUnsupported mode)

def createPolicy (store : PolicyStore) (request : CreatePolicyRequest) (draw : PolicyDraw) :
    PolicyStore × PolicyReply :=
  match newPolicyRecord hashing request draw with
  | .error err => (store, .failed err)
  | .ok record =>
    match randomSecret (ascii "ap_") draw.id with
    | none => (store, .failed .randomFailed)
    | some id =>
      if draw.storeFails then (store, .failed .storeFailed)
      else
        match PolicyStore.create store { record with id } with
        | .error err => (store, .failed err)
        | .ok next => (next, .policy { record with id }.summary)

/-- `UpdatePolicy` up to the store's `Update`. -/
def lookupUpdatedPolicy (store : PolicyStore) (id : Bytes) (request : UpdatePolicyRequest)
    (draw : PolicyDraw) : Calls.Outcome PolicyCall PolicyReply :=
  let id := trimSpace id
  if id = [] then .returns (.failed .notFound)
  else if draw.storeFails then .returns (.failed .storeFailed)
  else
    match store.lookupByID id with
    | none => .returns (.failed .notFound)
    | some existing =>
      match updatedPolicyRecord hashing existing request draw with
      | .error err => .returns (.failed err)
      | .ok record => .continues (.storing record)

/-- The end of `UpdatePolicy`. -/
def storePolicy (store : PolicyStore) (record : PolicyRecord) (draw : PolicyDraw) :
    PolicyStore × PolicyReply :=
  if draw.storeFails then (store, .failed .storeFailed)
  else
    match PolicyStore.update store record with
    | .error err => (store, .failed err)
    | .ok next => (next, .policy record.summary)

/-- `DeletePolicy` up to the store's `Delete`. -/
def lookupDeletedPolicy (store : PolicyStore) (id : Bytes) (draw : PolicyDraw) :
    Calls.Outcome PolicyCall PolicyReply :=
  let id := trimSpace id
  if id = [] then .returns (.failed .notFound)
  else if draw.storeFails then .returns (.failed .storeFailed)
  else
    match store.lookupByID id with
    | none => .returns (.failed .notFound)
    | some _ => .continues (.removing id)

def checkRecord (record : PolicyRecord) (request : CheckPolicyRequest) :
    Calls.Outcome PolicyCall PolicyReply :=
  let denied (reason : Bytes) : Calls.Outcome PolicyCall PolicyReply :=
    .returns (.checked { allowed := false, mode := record.mode, reason })
  let allowed : Calls.Outcome PolicyCall PolicyReply :=
    .returns (.checked { allowed := true, mode := record.mode })
  match record.mode with
  | .modePublic =>
    .returns (.checked { allowed := true, mode := record.mode, reason := ascii "public" })
  | .modeBasicAuth =>
    match basicAuthMatches hashing record request.basicUsername request.basicPassword with
    | (false, _) => denied (ascii "basic_auth_required")
    | (true, true) => .continues (.upgrading record request.basicPassword)
    | (true, false) => allowed
  | .modeBearerToken =>
    if secretHashEqual (hashSecret hashing.sha256 (trimSpace request.bearerToken))
        record.secretHash then allowed
    else denied (ascii "bearer_token_required")
  | .modeIPAllowlist =>
    if ipAllowed request.remoteIP record.ipAllowlist then allowed
    else denied (ascii "ip_not_allowed")
  | .unsupported _ => denied (ascii "unsupported_policy_mode")

/-- `CheckPolicy` up to the upgrade of the digest. -/
def checkPolicy (store : PolicyStore) (request : CheckPolicyRequest) (draw : PolicyDraw) :
    Calls.Outcome PolicyCall PolicyReply :=
  let reservedSubdomainID := trimSpace request.reservedSubdomainID
  if reservedSubdomainID = [] then .returns (.failed .reservedSubdomainIDRequired)
  else if draw.storeFails then .returns (.failed .storeFailed)
  else
    match store.lookupByReservedSubdomainID reservedSubdomainID with
    | none => .returns
        (.checked { allowed := true, mode := .modePublic, reason := ascii "no_policy" })
    | some record => checkRecord hashing record request

/-- The record is written back as it was read, with a new hash; errors are dropped. -/
def upgradeBasicAuthHash (store : PolicyStore) (record : PolicyRecord) (password : Bytes)
    (draw : PolicyDraw) : PolicyStore :=
  match hashPassword hashing (trimSpace password) draw.salt with
  | none => store
  | some secretHash =>
    if draw.storeFails then store
    else
      match PolicyStore.update store { record with secretHash } with
      | .error _ => store
      | .ok next => next

def getPolicy (lookup : Bytes → Option PolicyRecord) (wanted : Bytes) (draw : PolicyDraw) :
    PolicyReply :=
  let wanted := trimSpace wanted
  if wanted = [] then .found none
  else if draw.storeFails then .failed .storeFailed
  else .found ((lookup wanted).map PolicyRecord.summary)

def policyService : Calls.Service PolicyStore PolicyRequest PolicyCall PolicyDraw PolicyReply where
  enter := PolicyRequest.call
  advance store
    | .creating request, draw =>
      let (next, reply) := createPolicy hashing store request draw
      (next, .returns reply)
    | .updating id request, draw => (store, lookupUpdatedPolicy hashing store id request draw)
    | .storing record, draw =>
      let (next, reply) := storePolicy store record draw
      (next, .returns reply)
    | .deleting id, draw => (store, lookupDeletedPolicy store id draw)
    | .removing id, draw =>
      if draw.storeFails then (store, .returns (.failed .storeFailed))
      else (store.remove id, .returns .deleted)
    | .checking request, draw => (store, checkPolicy hashing store request draw)
    | .upgrading record password, draw =>
      (upgradeBasicAuthHash hashing store record password draw,
        .returns (.checked { allowed := true, mode := record.mode }))
    | .getting id, draw => (store, .returns (getPolicy store.lookupByID id draw))
    | .gettingForReservedSubdomain id, draw =>
      (store, .returns (getPolicy store.lookupByReservedSubdomainID id draw))
    | .listing, draw =>
      if draw.storeFails then (store, .returns (.failed .storeFailed))
      else (store, .returns (.policies (store.list.map PolicyRecord.summary)))

end Service

/-- SHA-256 has no collisions and no empty digest, and `VerifyPassword` accepts for a
hash of `HashPassword` exactly the password that was hashed. -/
structure Hashing.Sound (hashing : Hashing) : Prop where
  injective : Function.Injective hashing.sha256
  nonempty : ∀ secret, hashing.sha256 secret ≠ []
  verify_iff : ∀ salt password given,
    hashing.verifyPassword (argon2idPrefix ++ hashing.derived salt password) given = true ↔
      password = given

def plainHashing : Hashing where
  sha256 secret := 0 :: secret
  derived _ password := password
  verifyPassword hash password := hash = argon2idPrefix ++ password

theorem plainHashing_sound : plainHashing.Sound where
  injective _ _ same := (List.cons.inj same).2
  nonempty _ := List.cons_ne_nil _ _
  verify_iff _ password given := by simp [plainHashing]

theorem isPasswordHash_append (rest : Bytes) : isPasswordHash (argon2idPrefix ++ rest) = true := by
  simp [isPasswordHash]

variable {hashing : Hashing} {store : PolicyStore}

theorem hashPassword_eq_some {password hash : Bytes} {salt : Option Bytes}
    (hashed : hashPassword hashing password salt = some hash) :
    ∃ salt, hash = argon2idPrefix ++ hashing.derived salt password := by
  obtain ⟨salt, -, rfl⟩ := Option.map_eq_some_iff.mp hashed
  exact ⟨salt, rfl⟩

theorem createPolicy_cases (hashing : Hashing) (store : PolicyStore)
    (request : CreatePolicyRequest) (draw : PolicyDraw) :
    (∃ err, createPolicy hashing store request draw = (store, .failed err)) ∨
      ∃ record id next, newPolicyRecord hashing request draw = .ok record ∧
        randomSecret (ascii "ap_") draw.id = some id ∧
        store.insert? { record with id } = some next ∧
        createPolicy hashing store request draw = (next, .policy { record with id }.summary) := by
  unfold createPolicy
  split
  next err _ => exact .inl ⟨err, rfl⟩
  next record made =>
    split
    · exact .inl ⟨.randomFailed, rfl⟩
    next id drawn =>
      split
      · exact .inl ⟨.storeFailed, rfl⟩
      split
      next err _ => exact .inl ⟨err, rfl⟩
      next next created =>
        exact .inr ⟨record, id, next, made, drawn, PolicyStore.create_eq_ok created, rfl⟩

variable {id : Bytes} {request : UpdatePolicyRequest} {draw : PolicyDraw} {call : PolicyCall}

theorem lookupUpdatedPolicy_eq_continues
    (continued : lookupUpdatedPolicy hashing store id request draw = .continues call) :
    ∃ existing record, call = .storing record ∧ store.find? (trimSpace id) = some existing ∧
      updatedPolicyRecord hashing existing request draw = .ok record := by
  unfold lookupUpdatedPolicy at continued
  dsimp only at continued
  split at continued
  · cases continued
  split at continued
  · cases continued
  split at continued
  · cases continued
  next existing found =>
    split at continued
    · cases continued
    next record updated =>
      cases continued
      exact ⟨existing, record, rfl, found, updated⟩

theorem lookupUpdatedPolicy_eq_returns {reply : PolicyReply}
    (returned : lookupUpdatedPolicy hashing store id request draw = .returns reply) :
    ∃ err, reply = .failed err := by
  unfold lookupUpdatedPolicy at returned
  dsimp only at returned
  split at returned
  · cases returned; exact ⟨_, rfl⟩
  repeat' split at returned
  all_goals cases returned
  · exact ⟨_, rfl⟩
  · exact ⟨_, rfl⟩
  exact ⟨_, rfl⟩

theorem storePolicy_cases (store : PolicyStore) (record : PolicyRecord) (draw : PolicyDraw) :
    (∃ err, storePolicy store record draw = (store, .failed err)) ∨
      ∃ next, store.replace? record = some next ∧
        storePolicy store record draw = (next, .policy record.summary) := by
  unfold storePolicy
  split
  · exact .inl ⟨.storeFailed, rfl⟩
  · split
    next err _ => exact .inl ⟨err, rfl⟩
    next next updated => exact .inr ⟨next, PolicyStore.update_eq_ok updated, rfl⟩

theorem lookupDeletedPolicy_eq_continues
    (continued : lookupDeletedPolicy store id draw = .continues call) :
    call = .removing (trimSpace id) := by
  unfold lookupDeletedPolicy at continued
  dsimp only at continued
  repeat' split at continued
  all_goals cases continued
  rfl

theorem lookupDeletedPolicy_eq_returns {reply : PolicyReply}
    (returned : lookupDeletedPolicy store id draw = .returns reply) :
    ∃ err, reply = .failed err := by
  unfold lookupDeletedPolicy at returned
  dsimp only at returned
  repeat' split at returned
  all_goals cases returned
  · exact ⟨_, rfl⟩
  · exact ⟨_, rfl⟩
  exact ⟨_, rfl⟩

structure LegacyMatch (hashing : Hashing) (record : PolicyRecord) (password : Bytes) : Prop where
  mode : record.mode = .modeBasicAuth
  legacy : isPasswordHash record.secretHash = false
  equal : secretHashEqual (hashSecret hashing.sha256 password) record.secretHash = true

theorem checkRecord_eq_continues {record : PolicyRecord} {request : CheckPolicyRequest}
    (continued : checkRecord hashing record request = .continues call) :
    call = .upgrading record request.basicPassword ∧
      LegacyMatch hashing record (trimSpace request.basicPassword) := by
  unfold checkRecord at continued
  dsimp only at continued
  split at continued
  · cases continued
  next mode =>
    split at continued
    · cases continued
    next matching =>
      cases continued
      simp only [basicAuthMatches] at matching
      split at matching
      · cases matching
      split at matching
      · cases matching
      split at matching
      · rw [Prod.mk.injEq] at matching
        cases matching.2
      next legacy =>
        rw [Prod.mk.injEq] at matching
        exact ⟨rfl, mode, by simpa using legacy, matching.1⟩
    · cases continued
  · split at continued <;> cases continued
  · split at continued <;> cases continued
  · cases continued

theorem checkPolicy_eq_continues {request : CheckPolicyRequest}
    (continued : checkPolicy hashing store request draw = .continues call) :
    ∃ record ∈ store.rows, call = .upgrading record request.basicPassword ∧
      LegacyMatch hashing record (trimSpace request.basicPassword) := by
  unfold checkPolicy at continued
  dsimp only at continued
  repeat' split at continued
  any_goals cases continued
  next record found =>
    exact ⟨record, (Table.findOther?_eq_some_iff.mp found).1, checkRecord_eq_continues continued⟩

theorem upgradeBasicAuthHash_cases (hashing : Hashing) (store : PolicyStore)
    (record : PolicyRecord) (password : Bytes) (draw : PolicyDraw) :
    upgradeBasicAuthHash hashing store record password draw = store ∨
      ∃ secretHash next, hashPassword hashing (trimSpace password) draw.salt = some secretHash ∧
        store.replace? { record with secretHash } = some next ∧
        upgradeBasicAuthHash hashing store record password draw = next := by
  unfold upgradeBasicAuthHash
  split
  · exact .inl rfl
  next secretHash hashed =>
    split
    · exact .inl rfl
    split
    · exact .inl rfl
    next next updated =>
      exact .inr ⟨secretHash, next, hashed, PolicyStore.update_eq_ok updated, rfl⟩

end Porthook.ControlPlane
