import Porthook.ControlPlane.Secrets
import Porthook.Foundations.Calls
import Porthook.Foundations.Table
import Porthook.Gateway.Registry
import Porthook.Protocol.HopByHop

/-!
# Reserved subdomains

The package `reserved`: which agent token a name belongs to.
-/

namespace Porthook.ControlPlane

open Protocol Gateway

def subdomainError? (name : Bytes) : Option Bytes :=
  if name = [] then some (ascii "subdomain is required")
  else if 63 < name.length then some (ascii "subdomain must be at most 63 characters")
  else if name.head? = some 45 ∨ name.getLast? = some 45 then
    some (ascii "subdomain cannot start or end with hyphen")
  else if name.all fun byte => (97 ≤ byte && byte ≤ 122) || (48 ≤ byte && byte ≤ 57) || byte == 45
  then none
  else some (ascii "subdomain can contain only lowercase ASCII letters, numbers, and hyphens")

theorem subdomainError?_eq_none_iff (name : Bytes) :
    subdomainError? name = none ↔ validateSubdomain name = true := by
  unfold subdomainError? validateSubdomain
  by_cases empty : name = []
  · simp [empty]
  by_cases long : 63 < name.length
  · simp [empty, long, Nat.not_le.mpr long]
  by_cases hyphen : name.head? = some 45 ∨ name.getLast? = some 45
  · rcases hyphen with first | last
    · simp [empty, long, first]
    · simp [empty, long, last]
  · obtain ⟨first, last⟩ := not_or.mp hyphen
    have short : name.length ≤ 63 := Nat.le_of_not_lt long
    have shaped : (decide (name ≠ []) && decide (name.length ≤ 63) &&
        decide (name.head? ≠ some 45) && decide (name.getLast? ≠ some 45)) = true := by
      simp [empty, short, first, last]
    rw [if_neg empty, if_neg long, if_neg hyphen, shaped, Bool.true_and]
    generalize name.all _ = letters
    cases letters <;> simp

theorem receivedFrom_subdomain {name : Bytes} (valid : validateSubdomain name) :
    receivedFrom 0 name = name := by
  apply receivedFrom_ascii
  intro byte member
  simp only [validateSubdomain, Bool.and_eq_true, List.all_eq_true] at valid
  have letter := valid.2 byte member
  simp only [Bool.or_eq_true, Bool.and_eq_true, decide_eq_true_eq, beq_iff_eq] at letter
  rcases letter with (⟨_, small⟩ | ⟨_, small⟩) | rfl
  · exact UInt8.lt_of_le_of_lt small (by decide)
  · exact UInt8.lt_of_le_of_lt small (by decide)
  · decide

inductive Backend where
  | memory
  | postgres
  deriving DecidableEq

inductive ReservationError where
  | nameRequired
  | invalidName (name reason : Bytes)
  | tokenIDRequired
  | alreadyExists
  | notFound
  | randomFailed
  | storeFailed
  deriving DecidableEq

structure ReservationRecord where
  id : Bytes
  name : Bytes
  tokenID : Bytes
  createdAt : Nat

structure CreateReservationRequest where
  name : Bytes
  tokenID : Bytes

/-- `byID` and `byName`. -/
abbrev ReservationStore := Table ReservationRecord.id ReservationRecord.name

namespace ReservationStore

def create (store : ReservationStore) (record : ReservationRecord) :
    Except ReservationError ReservationStore :=
  match store.insert? record with
  | none => .error .alreadyExists
  | some next => .ok next

abbrev lookupByID (store : ReservationStore) (id : Bytes) : Option ReservationRecord :=
  store.find? id

abbrev lookupByName (store : ReservationStore) (name : Bytes) : Option ReservationRecord :=
  store.findOther? name

def list (store : ReservationStore) : List ReservationRecord :=
  store.rows.mergeSort fun first second =>
    if first.name = second.name then first.id ≤ second.id else first.name ≤ second.name

theorem create_eq_ok {store next : ReservationStore} {record : ReservationRecord}
    (created : create store record = .ok next) : store.insert? record = some next := by
  unfold create at created
  split at created
  · cases created
  next inserted => cases created; exact inserted

end ReservationStore

def normalizeName (name : Bytes) : Except ReservationError Bytes :=
  let name := toLower (trimSpace name)
  if name = [] then .error .nameRequired
  else
    match subdomainError? name with
    | some reason => .error (.invalidName name reason)
    | none => .ok name

variable {name : Bytes}

theorem subdomain_letters (valid : validateSubdomain name) :
    ∀ byte ∈ name, (97 ≤ byte ∧ byte ≤ 122) ∨ (48 ≤ byte ∧ byte ≤ 57) ∨ byte = 45 := by
  simp only [validateSubdomain, Bool.and_eq_true, List.all_eq_true, Bool.or_eq_true,
    decide_eq_true_eq, beq_iff_eq, or_assoc] at valid
  exact valid.2

theorem subdomain_ne_nil (valid : validateSubdomain name) : name ≠ [] := by
  rintro rfl
  cases valid

theorem trimSpace_subdomain (valid : validateSubdomain name) : trimSpace name = name := by
  refine trimSpace_graphic fun byte member => ?_
  rcases subdomain_letters valid byte member with ⟨low, high⟩ | ⟨low, high⟩ | rfl
  · exact ⟨UInt8.le_trans (by decide) low, UInt8.le_trans high (by decide)⟩
  · exact ⟨UInt8.le_trans (by decide) low, UInt8.le_trans high (by decide)⟩
  · decide

theorem toLower_of_letters
    (letters : ∀ byte ∈ name, (97 ≤ byte ∧ byte ≤ 122) ∨ (48 ≤ byte ∧ byte ≤ 57) ∨ byte = 45) :
    toLower name = name := by
  have plain : ∀ value : Fin 256, ((97 : UInt8) ≤ ⟨⟨value⟩⟩ ∧ (⟨⟨value⟩⟩ : UInt8) ≤ 122) ∨
      ((48 : UInt8) ≤ ⟨⟨value⟩⟩ ∧ (⟨⟨value⟩⟩ : UInt8) ≤ 57) ∨ (⟨⟨value⟩⟩ : UInt8) = 45 →
      (⟨⟨value⟩⟩ : UInt8) < 128 ∧ lowerByte ⟨⟨value⟩⟩ = id ⟨⟨value⟩⟩ := by decide +kernel
  have same : name.map lowerByte = name.map id :=
    List.map_congr_left fun byte member => (plain byte.toFin (letters byte member)).2
  rw [toLower_ascii fun byte member => (plain byte.toFin (letters byte member)).1, same, List.map_id]

theorem toLower_subdomain (valid : validateSubdomain name) : toLower name = name :=
  toLower_of_letters (subdomain_letters valid)

theorem normalizeName_of_valid (valid : validateSubdomain name) :
    normalizeName name = .ok name := by
  have unnamed := (subdomainError?_eq_none_iff name).mpr valid
  simp only [normalizeName, trimSpace_subdomain valid, toLower_subdomain valid,
    if_neg (subdomain_ne_nil valid), unnamed]

theorem validateSubdomain_of_normalizeName {text : Bytes}
    (normalized : normalizeName text = .ok name) : validateSubdomain name = true := by
  simp only [normalizeName] at normalized
  repeat' split at normalized
  all_goals cases normalized
  next unnamed => exact (subdomainError?_eq_none_iff _).mp unnamed

structure AuthorizationResult where
  allowed : Bool
  reason : Bytes := []

structure ReservationDraw where
  now : Nat := 0
  id : Option Bytes := none
  storeFails : Bool := false

inductive ReservationRequest where
  | create (request : CreateReservationRequest)
  | delete (id : Bytes)
  | get (id : Bytes)
  | getByName (name : Bytes)
  | list
  | authorize (tokenID subdomain : Bytes)

inductive ReservationCall where
  | creating (request : CreateReservationRequest)
  | deleting (id : Bytes)
  | removing (id : Bytes)
  | getting (id : Bytes)
  | gettingByName (name : Bytes)
  | listing
  | authorizing (tokenID subdomain : Bytes)

inductive ReservationReply where
  | created (reservation : ReservationRecord)
  | deleted
  | found (reservation : Option ReservationRecord)
  | reservations (listed : List ReservationRecord)
  | authorization (result : AuthorizationResult)
  | failed (err : ReservationError)

def ReservationRequest.call : ReservationRequest → ReservationCall
  | .create request => .creating request
  | .delete id => .deleting id
  | .get id => .getting id
  | .getByName name => .gettingByName name
  | .list => .listing
  | .authorize tokenID subdomain => .authorizing tokenID subdomain

/-- `CreateReservation` up to the store. -/
def newReservation (request : CreateReservationRequest) (draw : ReservationDraw) :
    Except ReservationError ReservationRecord :=
  (normalizeName request.name).bind fun name =>
    let tokenID := trimSpace request.tokenID
    if tokenID = [] then .error .tokenIDRequired
    else
      match randomSecret (ascii "rs_") draw.id with
      | none => .error .randomFailed
      | some id => .ok { id, name, tokenID, createdAt := draw.now }

def createReservation (store : ReservationStore) (request : CreateReservationRequest)
    (draw : ReservationDraw) : ReservationStore × ReservationReply :=
  match newReservation request draw with
  | .error err => (store, .failed err)
  | .ok record =>
    if draw.storeFails then (store, .failed .storeFailed)
    else
      match ReservationStore.create store record with
      | .error err => (store, .failed err)
      | .ok next => (next, .created record)

/-- `DeleteReservation` up to the store's `Delete`. -/
def lookupDeletedReservation (store : ReservationStore) (id : Bytes) (draw : ReservationDraw) :
    Calls.Outcome ReservationCall ReservationReply :=
  let id := trimSpace id
  if id = [] then .returns (.failed .notFound)
  else if draw.storeFails then .returns (.failed .storeFailed)
  else
    match store.lookupByID id with
    | none => .returns (.failed .notFound)
    | some _ => .continues (.removing id)

def getReservation (store : ReservationStore) (id : Bytes) (draw : ReservationDraw) :
    ReservationReply :=
  let id := trimSpace id
  if id = [] then .found none
  else if draw.storeFails then .failed .storeFailed
  else .found (store.lookupByID id)

def getReservationByName (store : ReservationStore) (name : Bytes) (draw : ReservationDraw) :
    ReservationReply :=
  match normalizeName name with
  | .error err => .failed err
  | .ok name => if draw.storeFails then .failed .storeFailed else .found (store.lookupByName name)

def authorizeReservation (store : ReservationStore) (tokenID subdomain : Bytes)
    (draw : ReservationDraw) : ReservationReply :=
  let tokenID := trimSpace tokenID
  if tokenID = [] then .authorization ⟨false, ascii "missing_token_id"⟩
  else
    match normalizeName subdomain with
    | .error err => .failed err
    | .ok name =>
      if draw.storeFails then .failed .storeFailed
      else
        match store.lookupByName name with
        | none => .authorization ⟨false, ascii "not_reserved"⟩
        | some record =>
          if record.tokenID ≠ tokenID then
            .authorization ⟨false, ascii "reserved_for_another_token"⟩
          else .authorization ⟨true, []⟩

def reservationService : Calls.Service ReservationStore ReservationRequest ReservationCall
    ReservationDraw ReservationReply where
  enter := ReservationRequest.call
  advance store
    | .creating request, draw =>
      let (next, reply) := createReservation store request draw
      (next, .returns reply)
    | .deleting id, draw => (store, lookupDeletedReservation store id draw)
    | .removing id, draw =>
      if draw.storeFails then (store, .returns (.failed .storeFailed))
      else (store.remove id, .returns .deleted)
    | .getting id, draw => (store, .returns (getReservation store id draw))
    | .gettingByName name, draw => (store, .returns (getReservationByName store name draw))
    | .listing, draw =>
      if draw.storeFails then (store, .returns (.failed .storeFailed))
      else (store, .returns (.reservations store.list))
    | .authorizing tokenID subdomain, draw =>
      (store, .returns (authorizeReservation store tokenID subdomain draw))

theorem newReservation_name {request : CreateReservationRequest} {draw : ReservationDraw}
    {record : ReservationRecord} (made : newReservation request draw = .ok record) :
    normalizeName request.name = .ok record.name := by
  simp only [newReservation, Except.bind] at made
  repeat' split at made
  all_goals cases made
  next name normalized _ _ _ _ => exact normalized

theorem createReservation_cases (store : ReservationStore) (request : CreateReservationRequest)
    (draw : ReservationDraw) :
    (∃ err, createReservation store request draw = (store, .failed err)) ∨
      ∃ record next, newReservation request draw = .ok record ∧ store.insert? record = some next ∧
        createReservation store request draw = (next, .created record) := by
  unfold createReservation
  split
  next err _ => exact .inl ⟨err, rfl⟩
  next record made =>
    split
    · exact .inl ⟨.storeFailed, rfl⟩
    split
    next err _ => exact .inl ⟨err, rfl⟩
    next next created =>
      exact .inr ⟨record, next, made, ReservationStore.create_eq_ok created, rfl⟩

theorem authorizeReservation_allowed {store : ReservationStore} {tokenID subdomain : Bytes}
    {draw : ReservationDraw} (valid : validateSubdomain subdomain)
    {result : AuthorizationResult} (allowed : result.allowed)
    (answered : authorizeReservation store tokenID subdomain draw = .authorization result) :
    ∃ record, store.lookupByName subdomain = some record ∧ record.tokenID = trimSpace tokenID := by
  unfold authorizeReservation at answered
  dsimp only at answered
  rw [normalizeName_of_valid valid] at answered
  split at answered
  · cases answered
    cases allowed
  · dsimp only at answered
    repeat' split at answered
    any_goals cases answered
    · cases allowed
    next record found _ => cases allowed
    next record found same => exact ⟨record, found, not_not.mp same⟩

end Porthook.ControlPlane
