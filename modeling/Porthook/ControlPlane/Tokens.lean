import Porthook.ControlPlane.Secrets
import Porthook.Foundations.Calls
import Porthook.Foundations.Table

/-!
# Agent tokens and admin tokens

The packages `tokens` and `admintokens` are alike but for the scopes they know, the defaults, and
how `ValidateToken` treats the scopes it is asked for, so they are one service over a `Realm`.  A
token is shown once, when it is created; the store keeps its digest.
-/

namespace Porthook.ControlPlane

open Protocol

inductive Realm where
  | agent
  | admin
  deriving DecidableEq

inductive TokenError where
  | nameRequired
  | unsupportedScope (scope : Bytes)
  | alreadyExists
  | randomFailed
  | storeFailed
  deriving DecidableEq

structure TokenRecord where
  id : Bytes
  name : Bytes
  tokenHash : Bytes
  scopes : List Bytes
  createdAt : Nat
  lastUsedAt : Option Nat := none
  revokedAt : Option Nat := none
  deriving DecidableEq

structure TokenSummary where
  id : Bytes
  name : Bytes
  scopes : List Bytes
  createdAt : Nat
  lastUsedAt : Option Nat
  revokedAt : Option Nat

def TokenRecord.summary (record : TokenRecord) : TokenSummary :=
  ⟨record.id, record.name, record.scopes, record.createdAt, record.lastUsedAt, record.revokedAt⟩

def TokenRecord.core (record : TokenRecord) : TokenRecord := { record with lastUsedAt := none }

structure CreateTokenRequest where
  name : Bytes
  scopes : List Bytes := []

structure CreatedToken where
  id : Bytes
  name : Bytes
  token : Bytes
  scopes : List Bytes
  createdAt : Nat

structure ValidationResult where
  valid : Bool
  tokenID : Bytes := []
  name : Bytes := []
  scopes : List Bytes := []

/-- `byID` and `byHash`. -/
abbrev TokenStore := Table TokenRecord.id TokenRecord.tokenHash

namespace TokenStore

def create (store : TokenStore) (record : TokenRecord) : Except TokenError TokenStore :=
  match store.insert? record with
  | none => .error .alreadyExists
  | some next => .ok next

abbrev lookupByHash (store : TokenStore) (tokenHash : Bytes) : Option TokenRecord :=
  store.findOther? tokenHash

abbrev lookupByID (store : TokenStore) (id : Bytes) : Option TokenRecord := store.find? id

/-- Newest first, and by id among those of one time. -/
def list (store : TokenStore) : List TokenRecord :=
  store.rows.mergeSort fun first second =>
    if first.createdAt = second.createdAt then first.id ≤ second.id
    else second.createdAt ≤ first.createdAt

def markUsed (store : TokenStore) (id : Bytes) (usedAt : Nat) : TokenStore :=
  match store.find? id with
  | none => store
  | some record =>
    if record.revokedAt.isSome then store
    else (store.replace? { record with lastUsedAt := some usedAt }).getD store

def revoke (store : TokenStore) (id : Bytes) (revokedAt : Nat) : TokenStore :=
  match store.find? id with
  | none => store
  | some record => (store.replace? { record with revokedAt := some revokedAt }).getD store

theorem rows_change {store : TokenStore} {record : TokenRecord} {id : Bytes}
    (change : TokenRecord → TokenRecord) (sameID : ∀ held, (change held).id = held.id)
    (sameHash : ∀ held, (change held).tokenHash = held.tokenHash)
    (found : store.find? id = some record) :
    ((store.replace? (change record)).getD store).rows =
      store.rows.map fun held => if held.id = id then change held else held := by
  obtain ⟨member, keyed⟩ := Table.find?_eq_some_iff.mp found
  have there : store.find? (change record).id = some record := by
    rw [sameID, keyed]
    exact found
  obtain ⟨next, replaced⟩ := Option.isSome_iff_exists.mp
    (Table.replace?_isSome there (sameHash record).symm)
  rw [replaced, Option.getD_some, (Table.rows_replace? replaced).2, sameID, keyed]
  apply List.map_congr_left
  intro held heldMember
  split
  next heldKeyed => rw [Table.eq_of_key heldMember member (heldKeyed.trans keyed.symm)]
  · rfl

theorem core_markUsed (store : TokenStore) (id : Bytes) (usedAt : Nat) :
    (store.markUsed id usedAt).rows.map TokenRecord.core = store.rows.map TokenRecord.core := by
  unfold markUsed
  split
  · rfl
  next record found =>
    split
    · rfl
    have rows := rows_change (fun record => { record with lastUsedAt := some usedAt })
      (fun _ => rfl) (fun _ => rfl) found
    rw [rows, List.map_map]
    apply List.map_congr_left
    intro held _
    simp only [Function.comp_apply]
    split <;> rfl

theorem rows_revoke (store : TokenStore) (id : Bytes) (revokedAt : Nat) :
    (store.revoke id revokedAt).rows = store.rows.map fun held =>
      if held.id = id then { held with revokedAt := some revokedAt } else held := by
  unfold revoke
  split
  next missing =>
    rw [Table.find?_eq_none_iff] at missing
    conv_lhs => rw [← List.map_id store.rows]
    apply List.map_congr_left
    intro held member
    exact (if_neg (missing held member)).symm
  next record found =>
    exact rows_change (fun record => { record with revokedAt := some revokedAt })
      (fun _ => rfl) (fun _ => rfl) found

end TokenStore

namespace Realm

def knownScopes : Realm → List Bytes
  | .agent => [ascii "register_tunnel"]
  | .admin => [ascii "admin_tokens", ascii "tokens", ascii "reservations", ascii "domains",
      ascii "access_policies", ascii "audit_history", ascii "runtime_diagnostics"]

def defaultScopes : Realm → List Bytes
  | .agent => [ascii "register_tunnel"]
  | .admin => knownScopes .admin

def secretHead : Realm → Bytes
  | .agent => ascii "ph_"
  | .admin => ascii "pat_"

def idHead : Realm → Bytes
  | .agent => ascii "tok_"
  | .admin => ascii "adm_"

end Realm

def normalizeScopes (known scopes : List Bytes) : Except TokenError (List Bytes) :=
  scopes.foldlM (fun out scope =>
    let scope := trimSpace scope
    if scope = [] then .ok out
    else if scope ∉ known then .error (.unsupportedScope scope)
    else if scope ∈ out then .ok out
    else .ok (out ++ [scope])) []

/-- What one step of a call gets from outside: the time, two reads of random bytes,
and whether the store can be reached. -/
structure TokenDraw where
  now : Nat := 0
  secret : Option Bytes := none
  id : Option Bytes := none
  storeFails : Bool := false

def Realm.randomToken (realm : Realm) (draw : TokenDraw) : Except TokenError (Bytes × Bytes) :=
  match randomSecret realm.secretHead draw.secret, randomSecret realm.idHead draw.id with
  | some token, some id => .ok (token, id)
  | _, _ => .error .randomFailed

def Realm.normalizedScopes (realm : Realm) (request : CreateTokenRequest) :
    Except TokenError (List Bytes) :=
  (normalizeScopes realm.knownScopes request.scopes).map fun scopes =>
    if scopes = [] then realm.defaultScopes else scopes

/-- `CreateToken` up to the store: the agent service draws the secrets before it
looks at the scopes. -/
def newToken (realm : Realm) (request : CreateTokenRequest) (draw : TokenDraw) :
    Except TokenError CreatedToken :=
  let name := trimSpace request.name
  if name = [] then .error .nameRequired
  else
    match realm with
    | .agent => (realm.randomToken draw).bind fun (token, id) =>
      (realm.normalizedScopes request).map fun scopes => ⟨id, name, token, scopes, draw.now⟩
    | .admin => (realm.normalizedScopes request).bind fun scopes =>
      (realm.randomToken draw).map fun (token, id) => ⟨id, name, token, scopes, draw.now⟩

def CreatedToken.record (sha256 : Bytes → Bytes) (created : CreatedToken) : TokenRecord where
  id := created.id
  name := created.name
  tokenHash := hashToken sha256 created.token
  scopes := created.scopes
  createdAt := created.createdAt

variable {request : CreateTokenRequest} {scopes : List Bytes}

theorem newToken_eq_ok {realm : Realm} {draw : TokenDraw} {created : CreatedToken}
    (issued : newToken realm request draw = .ok created) :
    realm.normalizedScopes request = .ok created.scopes ∧
      randomSecret realm.secretHead draw.secret = some created.token ∧
      randomSecret realm.idHead draw.id = some created.id := by
  have drawn : ∀ token id, realm.randomToken draw = .ok (token, id) →
      randomSecret realm.secretHead draw.secret = some token ∧
        randomSecret realm.idHead draw.id = some id := by
    intro token id random
    unfold Realm.randomToken at random
    split at random
    next token' id' first second =>
      cases random
      exact ⟨first, second⟩
    · cases random
  unfold newToken at issued
  dsimp only at issued
  split at issued
  · cases issued
  split at issued
  · cases random : Realm.agent.randomToken draw with
    | error => rw [random] at issued; cases issued
    | ok =>
      cases granted : Realm.agent.normalizedScopes request with
      | error => rw [random, granted] at issued; cases issued
      | ok =>
        rw [random, granted] at issued
        cases issued
        exact ⟨rfl, drawn _ _ random⟩
  · cases granted : Realm.admin.normalizedScopes request with
    | error => rw [granted] at issued; cases issued
    | ok =>
      cases random : Realm.admin.randomToken draw with
      | error => rw [random, granted] at issued; cases issued
      | ok =>
        rw [random, granted] at issued
        cases issued
        exact ⟨rfl, drawn _ _ random⟩

theorem trimSpace_newToken {realm : Realm} {draw : TokenDraw} {created : CreatedToken}
    (issued : newToken realm request draw = .ok created) :
    trimSpace created.id = created.id := by
  refine trimSpace_randomSecret ?_ (newToken_eq_ok issued).2.2
  cases realm with
  | agent | admin => decide +kernel

/-- The scopes `ValidateToken` is asked for: one for an agent token, any number for
an admin token. -/
def Realm.Required : Realm → Type
  | .agent => Bytes
  | .admin => List Bytes

/-- The agent service trims the scope it is asked for; an empty one is no requirement. -/
def AgentHolds (required : Bytes) (scopes : List Bytes) : Prop :=
  trimSpace required ≠ [] → trimSpace required ∈ scopes

def AdminHolds (required scopes : List Bytes) : Prop :=
  ∀ scope ∈ required, scope ≠ [] → scope ∈ scopes

def Realm.Holds : (realm : Realm) → realm.Required → List Bytes → Prop
  | .agent => AgentHolds
  | .admin => AdminHolds

/-- The admin service refuses scopes it does not know before it looks the token up. -/
def adminRefusal? (required : List Bytes) : Option TokenError :=
  ((required.map trimSpace).find? fun scope =>
    scope ≠ [] ∧ scope ∉ Realm.admin.knownScopes).map .unsupportedScope

def Realm.refusal? : (realm : Realm) → realm.Required → Option TokenError
  | .agent => fun _ => none
  | .admin => adminRefusal?

def agentAdmits (required : Bytes) (scopes : List Bytes) : Except TokenError Bool :=
  let scope := trimSpace required
  if scope ≠ [] ∧ scope ∉ Realm.agent.knownScopes then .error (.unsupportedScope scope)
  else .ok (scope = [] || scopes.contains scope)

/-- The scopes are compared as they were given, although only trimmed ones were
checked to be known. -/
def adminAdmits (required scopes : List Bytes) : Except TokenError Bool :=
  .ok (required.all fun scope => scope = [] || scopes.contains scope)

def Realm.admits : (realm : Realm) → realm.Required → List Bytes → Except TokenError Bool
  | .agent => agentAdmits
  | .admin => adminAdmits

theorem agentHolds_of_admits {required : Bytes}
    (admitted : agentAdmits required scopes = .ok true) : AgentHolds required scopes := by
  intro present
  simp only [agentAdmits] at admitted
  split at admitted
  · cases admitted
  · simp only [Except.ok.injEq, Bool.or_eq_true, decide_eq_true_eq,
      List.contains_iff_mem] at admitted
    exact admitted.resolve_left present

theorem adminHolds_of_admits {required : List Bytes}
    (admitted : adminAdmits required scopes = .ok true) : AdminHolds required scopes := by
  intro scope member present
  simp only [adminAdmits, Except.ok.injEq, List.all_eq_true, Bool.or_eq_true, decide_eq_true_eq,
    List.contains_iff_mem] at admitted
  exact (admitted scope member).resolve_left present

theorem Realm.holds_of_admits {realm : Realm} {required : realm.Required}
    (admitted : realm.admits required scopes = .ok true) : realm.Holds required scopes := by
  cases realm with
  | agent => exact agentHolds_of_admits admitted
  | admin => exact adminHolds_of_admits admitted

inductive TokenRequest (realm : Realm) where
  | create (request : CreateTokenRequest)
  | validate (token : Bytes) (required : realm.Required)
  | revoke (id : Bytes)
  | list

/-- Where a call is: before its first use of the store, or between the lookup of
`ValidateToken` and its `MarkUsed`. -/
inductive TokenCall (realm : Realm) where
  | creating (request : CreateTokenRequest)
  | validating (token : Bytes) (required : realm.Required)
  | marking (token : Bytes) (required : realm.Required) (record : TokenRecord)
  | revoking (id : Bytes)
  | listing

inductive TokenReply where
  | created (token : CreatedToken)
  | validation (result : ValidationResult)
  | revoked
  | tokens (listed : List TokenSummary)
  | failed (err : TokenError)

def TokenRequest.call {realm : Realm} : TokenRequest realm → TokenCall realm
  | .create request => .creating request
  | .validate token required => .validating token required
  | .revoke id => .revoking id
  | .list => .listing

def Realm.validResult (realm : Realm) (record : TokenRecord) : ValidationResult where
  valid := true
  tokenID := record.id
  name := match realm with
    | .agent => []
    | .admin => record.name
  scopes := record.scopes

section Service

variable (sha256 : Bytes → Bytes) (realm : Realm)

def createToken (store : TokenStore) (request : CreateTokenRequest) (draw : TokenDraw) :
    TokenStore × TokenReply :=
  match newToken realm request draw with
  | .error err => (store, .failed err)
  | .ok created =>
    if draw.storeFails then (store, .failed .storeFailed)
    else
      match TokenStore.create store (created.record sha256) with
      | .error err => (store, .failed err)
      | .ok next => (next, .created created)

/-- `ValidateToken` up to `MarkUsed`. -/
def lookupToken (store : TokenStore) (token : Bytes) (required : realm.Required)
    (draw : TokenDraw) : Calls.Outcome (TokenCall realm) TokenReply :=
  let trimmed := trimSpace token
  if trimmed = [] then .returns (.validation ⟨false, [], [], []⟩)
  else
    match realm.refusal? required with
    | some err => .returns (.failed err)
    | none =>
      if draw.storeFails then .returns (.failed .storeFailed)
      else
        match store.lookupByHash (hashToken sha256 trimmed) with
        | none => .returns (.validation ⟨false, [], [], []⟩)
        | some record =>
          if record.revokedAt.isSome then .returns (.validation ⟨false, [], [], []⟩)
          else
            match realm.admits required record.scopes with
            | .error err => .returns (.failed err)
            | .ok false => .returns (.validation ⟨false, [], [], []⟩)
            | .ok true => .continues (.marking token required record)

def revokeToken (store : TokenStore) (id : Bytes) (draw : TokenDraw) : TokenStore × TokenReply :=
  let id := trimSpace id
  if id = [] then (store, .revoked)
  else if draw.storeFails then (store, .failed .storeFailed)
  else (store.revoke id draw.now, .revoked)

def tokenService :
    Calls.Service TokenStore (TokenRequest realm) (TokenCall realm) TokenDraw TokenReply where
  enter := TokenRequest.call
  advance store
    | .creating request, draw =>
      let (next, reply) := createToken sha256 realm store request draw
      (next, .returns reply)
    | .validating token required, draw =>
      (store, lookupToken sha256 realm store token required draw)
    | .marking _ _ record, draw =>
      if draw.storeFails then (store, .returns (.failed .storeFailed))
      else (store.markUsed record.id draw.now, .returns (.validation (realm.validResult record)))
    | .revoking id, draw =>
      let (next, reply) := revokeToken store id draw
      (next, .returns reply)
    | .listing, draw =>
      if draw.storeFails then (store, .returns (.failed .storeFailed))
      else (store, .returns (.tokens (store.list.map TokenRecord.summary)))

end Service

variable {sha256 : Bytes → Bytes} {realm : Realm} {store : TokenStore}

theorem createToken_cases (sha256 : Bytes → Bytes) (realm : Realm) (store : TokenStore)
    (request : CreateTokenRequest) (draw : TokenDraw) :
    (∃ err, createToken sha256 realm store request draw = (store, .failed err)) ∨
      ∃ created next, newToken realm request draw = .ok created ∧
        store.insert? (created.record sha256) = some next ∧
        createToken sha256 realm store request draw = (next, .created created) := by
  unfold createToken
  split
  next err _ => exact .inl ⟨err, rfl⟩
  next created issued =>
    split
    · exact .inl ⟨.storeFailed, rfl⟩
    unfold TokenStore.create
    cases inserted : store.insert? (created.record sha256) with
    | none => exact .inl ⟨.alreadyExists, rfl⟩
    | some next => exact .inr ⟨created, next, issued, inserted, rfl⟩

variable {required : realm.Required}

theorem lookupToken_eq_continues {token : Bytes} {draw : TokenDraw} {call : TokenCall realm}
    (continued : lookupToken sha256 realm store token required draw = .continues call) :
    ∃ record, call = .marking token required record ∧ record ∈ store.rows ∧
      record.tokenHash = hashToken sha256 (trimSpace token) ∧ record.revokedAt = none ∧
      realm.Holds required record.scopes := by
  unfold lookupToken at continued
  dsimp only at continued
  split at continued
  · cases continued
  split at continued
  · cases continued
  split at continued
  · cases continued
  split at continued
  · cases continued
  next record found =>
    split at continued
    · cases continued
    next live =>
      split at continued
      · cases continued
      · cases continued
      next admitted =>
        cases continued
        obtain ⟨member, hashed⟩ := Table.findOther?_eq_some_iff.mp found
        have unrevoked : record.revokedAt = none := by simpa using live
        exact ⟨record, rfl, member, hashed, unrevoked, Realm.holds_of_admits admitted⟩

theorem lookupToken_eq_returns {token : Bytes} {draw : TokenDraw} {reply : TokenReply}
    (returned : lookupToken sha256 realm store token required draw = .returns reply) :
    (∃ err, reply = .failed err) ∨ reply = .validation ⟨false, [], [], []⟩ := by
  unfold lookupToken at returned
  dsimp only at returned
  split at returned
  · exact .inr (by cases returned; rfl)
  split at returned
  next err _ => exact .inl ⟨err, by cases returned; rfl⟩
  · split at returned
    · exact .inl ⟨.storeFailed, by cases returned; rfl⟩
    split at returned
    · exact .inr (by cases returned; rfl)
    split at returned
    · exact .inr (by cases returned; rfl)
    split at returned
    next err _ => exact .inl ⟨err, by cases returned; rfl⟩
    · exact .inr (by cases returned; rfl)
    · cases returned

end Porthook.ControlPlane
