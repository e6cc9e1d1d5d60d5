import Porthook.ControlPlane.Secrets
import Porthook.Foundations.Calls
import Porthook.Foundations.Table

/-!
# Custom domains

The package `customdomains`: its store, and its service as calls in flight.
`VerifyDomain` looks the record up, asks the resolver, and stores the whole
record back, so it takes three steps.
-/

namespace Porthook.ControlPlane

open Protocol

inductive DomainStatus where
  | pendingVerification
  | active
  | verificationFailed
  deriving DecidableEq

inductive DomainError where
  | hostnameRequired
  | invalidHostname (hostname reason : Bytes)
  | reservedSubdomainIDRequired
  | alreadyExists
  | notFound
  | verificationTokenEmpty
  | randomFailed
  | storeFailed
  deriving DecidableEq

structure DomainRecord where
  id : Bytes
  hostname : Bytes
  reservedSubdomainID : Bytes
  status : DomainStatus
  verificationToken : Bytes
  verifiedAt : Option Nat := none
  createdAt : Nat
  updatedAt : Nat
  deriving DecidableEq

structure CreateDomainRequest where
  hostname : Bytes
  reservedSubdomainID : Bytes

def hostnameLabelError? (label : Bytes) : Option Bytes :=
  if label = [] then some (ascii "hostname labels cannot be empty")
  else if 63 < label.length then some (ascii "hostname labels must be at most 63 characters")
  else if label.head? = some 45 ∨ label.getLast? = some 45 then
    some (ascii "hostname labels cannot start or end with hyphen")
  else if label.all fun byte =>
      (97 ≤ byte && byte ≤ 122) || (48 ≤ byte && byte ≤ 57) || byte == 45 then none
  else some (ascii "hostname labels can contain only lowercase ASCII letters, numbers, and hyphens")

def normalizeHostname (hostname : Bytes) : Except DomainError Bytes :=
  let hostname := trimSuffix (toLower (trimSpace hostname)) (ascii ".")
  if hostname = [] then .error .hostnameRequired
  else if 58 ∈ hostname ∨ 42 ∈ hostname then .error (.invalidHostname hostname [])
  else if 253 < hostname.length then
    .error (.invalidHostname hostname (ascii "hostname must be at most 253 characters"))
  else if 46 ∉ hostname then
    .error (.invalidHostname hostname (ascii "hostname must contain at least one dot"))
  else
    match (splitByte 46 hostname).findSome? hostnameLabelError? with
    | some reason => .error (.invalidHostname hostname reason)
    | none => .ok hostname

def verificationName (hostname : Bytes) : Bytes :=
  ascii "_porthook." ++ trimSuffix (toLower (trimSpace hostname)) (ascii ".")

def verificationTXTMatches (values : List Bytes) (token : Bytes) : Bool :=
  values.any fun value =>
    trimSpace value = token || trimSpace value = ascii "porthook-domain-verification=" ++ token

example : verificationName (ascii "Shop.Example.com.") = ascii "_porthook.shop.example.com" := by
  decide

structure DomainSummary where
  id : Bytes
  hostname : Bytes
  reservedSubdomainID : Bytes
  status : DomainStatus
  verificationToken : Bytes
  verificationName : Bytes
  verifiedAt : Option Nat
  createdAt : Nat
  updatedAt : Nat

def DomainRecord.summary (record : DomainRecord) : DomainSummary where
  id := record.id
  hostname := record.hostname
  reservedSubdomainID := record.reservedSubdomainID
  status := record.status
  verificationToken := record.verificationToken
  verificationName := verificationName record.hostname
  verifiedAt := record.verifiedAt
  createdAt := record.createdAt
  updatedAt := record.updatedAt

/-- `byID` and `byHostname`. -/
abbrev DomainStore := Table DomainRecord.id DomainRecord.hostname

namespace DomainStore

def create (store : DomainStore) (record : DomainRecord) : Except DomainError DomainStore :=
  match store.insert? record with
  | none => .error .alreadyExists
  | some next => .ok next

/-- The whole record is overwritten, whatever became of it since it was read. -/
def update (store : DomainStore) (record : DomainRecord) : Except DomainError DomainStore :=
  if (store.find? record.id).isNone then .error .notFound
  else
    match store.replace? record with
    | none => .error .alreadyExists
    | some next => .ok next

abbrev lookupByID (store : DomainStore) (id : Bytes) : Option DomainRecord := store.find? id

abbrev lookupByHostname (store : DomainStore) (hostname : Bytes) : Option DomainRecord :=
  store.findOther? hostname

def list (store : DomainStore) : List DomainRecord :=
  store.rows.mergeSort fun first second =>
    if first.hostname = second.hostname then first.id ≤ second.id
    else first.hostname ≤ second.hostname

theorem create_eq_ok {store next : DomainStore} {record : DomainRecord}
    (created : create store record = .ok next) : store.insert? record = some next := by
  unfold create at created
  split at created <;> cases created
  assumption

theorem update_eq_ok {store next : DomainStore} {record : DomainRecord}
    (updated : update store record = .ok next) : store.replace? record = some next := by
  unfold update at updated
  repeat' split at updated
  all_goals cases updated
  assumption

end DomainStore

inductive DomainRequest where
  | create (request : CreateDomainRequest)
  | verify (id : Bytes)
  | delete (id : Bytes)
  | get (id : Bytes)
  | getByHostname (hostname : Bytes)
  | list

/-- Where a call is.  A verification holds on to the record it read while it waits
for the resolver, and then to the result it is about to store. -/
inductive DomainCall where
  | creating (request : CreateDomainRequest)
  | verifying (id : Bytes)
  | resolving (record : DomainRecord) (name : Bytes)
  | updating (record : DomainRecord) (status : DomainStatus) (verifiedAt : Option Nat) (now : Nat)
  | deleting (id : Bytes)
  | removing (id : Bytes)
  | getting (id : Bytes)
  | gettingByHostname (hostname : Bytes)
  | listing

/-- What one step of a call gets from outside; the resolver's error is `none`. -/
structure DomainDraw where
  now : Nat := 0
  id : Option Bytes := none
  token : Option Bytes := none
  txt : Option (List Bytes) := none
  storeFails : Bool := false

inductive DomainReply where
  | created (domain : DomainSummary)
  | verified (domain : DomainSummary)
  | deleted
  | found (domain : Option DomainSummary)
  | domains (listed : List DomainSummary)
  | failed (err : DomainError)

def DomainRequest.call : DomainRequest → DomainCall
  | .create request => .creating request
  | .verify id => .verifying id
  | .delete id => .deleting id
  | .get id => .getting id
  | .getByHostname hostname => .gettingByHostname hostname
  | .list => .listing

/-- `CreateDomain` up to the store. -/
def newDomain (request : CreateDomainRequest) (draw : DomainDraw) :
    Except DomainError DomainRecord :=
  (normalizeHostname request.hostname).bind fun hostname =>
    let reservedSubdomainID := trimSpace request.reservedSubdomainID
    if reservedSubdomainID = [] then .error .reservedSubdomainIDRequired
    else
      match randomSecret (ascii "cd_") draw.id, randomSecret (ascii "phdv_") draw.token with
      | some id, some verificationToken => .ok
          { id, hostname, reservedSubdomainID, status := .pendingVerification, verificationToken
            createdAt := draw.now, updatedAt := draw.now }
      | _, _ => .error .randomFailed

def createDomain (store : DomainStore) (request : CreateDomainRequest) (draw : DomainDraw) :
    DomainStore × DomainReply :=
  match newDomain request draw with
  | .error err => (store, .failed err)
  | .ok record =>
    if draw.storeFails then (store, .failed .storeFailed)
    else
      match DomainStore.create store record with
      | .error err => (store, .failed err)
      | .ok next => (next, .created record.summary)

/-- `VerifyDomain` up to the question to the resolver. -/
def lookupDomain (store : DomainStore) (id : Bytes) (draw : DomainDraw) :
    Calls.Outcome DomainCall DomainReply :=
  let id := trimSpace id
  if id = [] then .returns (.failed .notFound)
  else if draw.storeFails then .returns (.failed .storeFailed)
  else
    match store.lookupByID id with
    | none => .returns (.failed .notFound)
    | some record =>
      if record.status = .active then .returns (.verified record.summary)
      else if trimSpace record.verificationToken = [] then
        .returns (.failed .verificationTokenEmpty)
      else .continues (.resolving record (verificationName record.hostname))

def resolveDomain (record : DomainRecord) (draw : DomainDraw) : DomainCall :=
  match draw.txt with
  | none => .updating record .verificationFailed record.verifiedAt draw.now
  | some values =>
    if verificationTXTMatches values record.verificationToken then
      .updating record .active (some draw.now) draw.now
    else .updating record .verificationFailed record.verifiedAt draw.now

/-- The end of `VerifyDomain`. -/
def storeVerification (store : DomainStore) (record : DomainRecord) (draw : DomainDraw) :
    DomainStore × DomainReply :=
  if draw.storeFails then (store, .failed .storeFailed)
  else
    match DomainStore.update store record with
    | .error err => (store, .failed err)
    | .ok next => (next, .verified record.summary)

/-- `DeleteDomain` up to the store's `Delete`. -/
def lookupDeletedDomain (store : DomainStore) (id : Bytes) (draw : DomainDraw) :
    Calls.Outcome DomainCall DomainReply :=
  let id := trimSpace id
  if id = [] then .returns (.failed .notFound)
  else if draw.storeFails then .returns (.failed .storeFailed)
  else
    match store.lookupByID id with
    | none => .returns (.failed .notFound)
    | some _ => .continues (.removing id)

def getDomain (store : DomainStore) (id : Bytes) (draw : DomainDraw) : DomainReply :=
  let id := trimSpace id
  if id = [] then .found none
  else if draw.storeFails then .failed .storeFailed
  else .found ((store.lookupByID id).map DomainRecord.summary)

def getDomainByHostname (store : DomainStore) (hostname : Bytes) (draw : DomainDraw) :
    DomainReply :=
  match normalizeHostname hostname with
  | .error err => .failed err
  | .ok hostname =>
    if draw.storeFails then .failed .storeFailed
    else .found ((store.lookupByHostname hostname).map DomainRecord.summary)

def domainService : Calls.Service DomainStore DomainRequest DomainCall DomainDraw DomainReply where
  enter := DomainRequest.call
  advance store
    | .creating request, draw =>
      let (next, reply) := createDomain store request draw
      (next, .returns reply)
    | .verifying id, draw => (store, lookupDomain store id draw)
    | .resolving record _, draw => (store, .continues (resolveDomain record draw))
    | .updating record status verifiedAt now, draw =>
      let (next, reply) := storeVerification store
        { record with status, verifiedAt, updatedAt := now } draw
      (next, .returns reply)
    | .deleting id, draw => (store, lookupDeletedDomain store id draw)
    | .removing id, draw =>
      if draw.storeFails then (store, .returns (.failed .storeFailed))
      else (store.remove id, .returns .deleted)
    | .getting id, draw => (store, .returns (getDomain store id draw))
    | .gettingByHostname hostname, draw =>
      (store, .returns (getDomainByHostname store hostname draw))
    | .listing, draw =>
      if draw.storeFails then (store, .returns (.failed .storeFailed))
      else (store, .returns (.domains (store.list.map DomainRecord.summary)))

variable {store : DomainStore}

variable {draw : DomainDraw}

theorem newDomain_eq_ok {request : CreateDomainRequest} {record : DomainRecord}
    (made : newDomain request draw = .ok record) :
    record.status = .pendingVerification ∧ record.verifiedAt = none := by
  simp only [newDomain, Except.bind] at made
  repeat' split at made
  all_goals cases made
  exact ⟨rfl, rfl⟩

theorem createDomain_cases (store : DomainStore) (request : CreateDomainRequest)
    (draw : DomainDraw) :
    (∃ err, createDomain store request draw = (store, .failed err)) ∨
      ∃ record next, newDomain request draw = .ok record ∧ store.insert? record = some next ∧
        createDomain store request draw = (next, .created record.summary) := by
  unfold createDomain
  split
  · exact .inl ⟨_, rfl⟩
  split
  · exact .inl ⟨_, rfl⟩
  split
  · exact .inl ⟨_, rfl⟩
  next record made _ _ next created =>
    exact .inr ⟨record, next, made, DomainStore.create_eq_ok created, rfl⟩

theorem lookupDomain_eq_continues {id : Bytes} {call : DomainCall}
    (continued : lookupDomain store id draw = .continues call) :
    ∃ record, call = .resolving record (verificationName record.hostname) ∧
      record ∈ store.rows ∧ record.id = trimSpace id ∧ record.status ≠ .active := by
  simp only [lookupDomain] at continued
  repeat' split at continued
  all_goals cases continued
  next record found inactive _ =>
    obtain ⟨member, keyed⟩ := Table.find?_eq_some_iff.mp found
    exact ⟨record, rfl, member, keyed, inactive⟩

theorem resolveDomain_eq (record : DomainRecord) (draw : DomainDraw) :
    (∃ values, draw.txt = some values ∧
        verificationTXTMatches values record.verificationToken = true ∧
        resolveDomain record draw = .updating record .active (some draw.now) draw.now) ∨
      resolveDomain record draw =
        .updating record .verificationFailed record.verifiedAt draw.now := by
  unfold resolveDomain
  split
  · exact .inr rfl
  next values answered =>
    split
    next matching => exact .inl ⟨values, answered, matching, rfl⟩
    · exact .inr rfl

theorem storeVerification_cases (store : DomainStore) (record : DomainRecord) (draw : DomainDraw) :
    (∃ err, storeVerification store record draw = (store, .failed err)) ∨
      ∃ next, store.replace? record = some next ∧
        storeVerification store record draw = (next, .verified record.summary) := by
  unfold storeVerification
  split
  · exact .inl ⟨_, rfl⟩
  split
  · exact .inl ⟨_, rfl⟩
  next next updated => exact .inr ⟨next, DomainStore.update_eq_ok updated, rfl⟩

theorem lookupDeletedDomain_eq_continues {id : Bytes} {call : DomainCall}
    (continued : lookupDeletedDomain store id draw = .continues call) :
    call = .removing (trimSpace id) := by
  simp only [lookupDeletedDomain] at continued
  repeat' split at continued
  all_goals cases continued
  rfl

end Porthook.ControlPlane
