import Mathlib.Logic.Function.Basic
import Porthook.ControlPlane.Access
import Porthook.ControlPlane.Domains
import Porthook.ControlPlane.Reservations
import Porthook.ControlPlane.Tokens

/-!
# The stores in memory

Each of them is a map from ids to records and a second map from another key to ids, and
each has its own code for keeping the two in step.  `stores_consistent` says that they
all do.
-/

namespace Porthook.ControlPlane

open Protocol

structure MemoryStore (Record : Type) where
  byID : Bytes → Option Record := fun _ => none
  byOther : Bytes → Option Bytes := fun _ => none

namespace MemoryStore

variable {Record Error : Type}

section Operations

variable (id other : Record → Bytes) (store : MemoryStore Record)

def put (record : Record) : MemoryStore Record where
  byID := Function.update store.byID (id record) (some record)
  byOther := Function.update store.byOther (other record) (some (id record))

def create (alreadyExists : Error) (record : Record) : MemoryStore Record × Option Error :=
  if (store.byID (id record)).isSome then (store, some alreadyExists)
  else if (store.byOther (other record)).isSome then (store, some alreadyExists)
  else (store.put id other record, none)

def delete (key : Bytes) : MemoryStore Record × Option Error :=
  match store.byID key with
  | none => (store, none)
  | some record =>
    ({ byID := Function.update store.byID key none
       byOther := Function.update store.byOther (other record) none }, none)

def lookup (value : Bytes) : Option Record := (store.byOther value).bind store.byID

/-- The two maps are inverse to each other. -/
structure Consistent : Prop where
  primary : ∀ key record, store.byID key = some record →
    id record = key ∧ store.byOther (other record) = some key
  secondary : ∀ value key, store.byOther value = some key →
    ∃ record, store.byID key = some record ∧ other record = value

def vacate (key : Bytes) : MemoryStore Record :=
  match store.byID key with
  | none => store
  | some existing => { store with byOther := Function.update store.byOther (other existing) none }

end Operations

variable {id other : Record → Bytes} {store : MemoryStore Record}

namespace Consistent

variable {record : Record}

theorem lookup_eq_some_iff (consistent : store.Consistent id other)
    {value : Bytes} : store.lookup value = some record ↔
      store.byID (id record) = some record ∧ other record = value := by
  constructor
  · intro found
    obtain ⟨key, indexed, stored⟩ := Option.bind_eq_some_iff.mp found
    obtain ⟨_, isHeld, same⟩ := consistent.secondary value key indexed
    cases stored.symm.trans isHeld
    rw [(consistent.primary key record stored).1]
    exact ⟨stored, same⟩
  · rintro ⟨stored, rfl⟩
    rw [lookup, (consistent.primary _ record stored).2]
    exact stored

theorem eq_of_other (consistent : store.Consistent id other) {first second : Record}
    (one : store.byID (id first) = some first) (two : store.byID (id second) = some second)
    (same : other first = other second) : first = second := by
  have found := consistent.lookup_eq_some_iff.mpr ⟨one, same⟩
  rw [consistent.lookup_eq_some_iff.mpr ⟨two, rfl⟩] at found
  exact (Option.some.inj found).symm

theorem replace (consistent : store.Consistent id other) (record : Record)
    (free : ∀ key, store.byOther (other record) = some key → key = id record) :
    ((store.vacate other (id record)).put id other record).Consistent id other := by
  have vacated : ∀ value key, (store.vacate other (id record)).byOther value = some key ↔
      store.byOther value = some key ∧ key ≠ id record := by
    intro value key
    unfold vacate
    cases existing : store.byID (id record) with
    | none =>
      refine (and_iff_left_of_imp fun indexed same => ?_).symm
      obtain ⟨_, stored, -⟩ := consistent.secondary value key indexed
      rw [same, existing] at stored
      cases stored
    | some old =>
      dsimp only
      rw [Function.update_apply]
      split
      next same =>
        rw [same, (consistent.primary _ old existing).2]
        constructor
        · rintro ⟨⟩
        · rintro ⟨isKey, different⟩
          exact absurd (Option.some.inj isKey).symm different
      next elsewhere =>
        refine (and_iff_left_of_imp fun indexed same => elsewhere ?_).symm
        obtain ⟨_, stored, here⟩ := consistent.secondary value key indexed
        rw [same, existing] at stored
        cases stored
        exact here.symm
  have kept : (store.vacate other (id record)).byID = store.byID := by
    unfold vacate
    split <;> rfl
  refine ⟨fun key held stored => ?_, fun value key indexed => ?_⟩
  · simp only [put, kept] at stored ⊢
    rw [Function.update_apply] at stored ⊢
    split at stored
    next same =>
      cases stored
      exact ⟨same.symm, by rw [if_pos rfl, same]⟩
    next different =>
      obtain ⟨isKey, indexed⟩ := consistent.primary key held stored
      refine ⟨isKey, ?_⟩
      rw [if_neg, vacated]
      · exact ⟨indexed, different⟩
      · intro same
        exact different (free key (same ▸ indexed))
  · simp only [put, kept] at indexed ⊢
    rw [Function.update_apply] at indexed
    split at indexed
    next same =>
      cases indexed
      exact ⟨record, Function.update_self .., same.symm⟩
    next elsewhere =>
      obtain ⟨there, different⟩ := (vacated value key).mp indexed
      rw [Function.update_of_ne different]
      exact consistent.secondary value key there

theorem create (consistent : store.Consistent id other) (alreadyExists : Error) (record : Record) :
    (store.create id other alreadyExists record).1.Consistent id other := by
  unfold MemoryStore.create
  split
  · exact consistent
  next unknown =>
    split
    · exact consistent
    next unused =>
      have replaced := consistent.replace record fun key indexed =>
        absurd (by rw [indexed]; rfl) unused
      have absent : store.byID (id record) = none := Option.not_isSome_iff_eq_none.mp unknown
      rwa [vacate, absent] at replaced

theorem delete (consistent : store.Consistent id other) (key : Bytes) :
    (store.delete other key : _ × Option Error).1.Consistent id other := by
  unfold MemoryStore.delete
  split
  · exact consistent
  next gone isGone =>
    obtain ⟨_, indexed⟩ := consistent.primary key gone isGone
    refine ⟨fun own record stored => ?_, fun value own found => ?_⟩
    · dsimp only at stored ⊢
      rw [Function.update_apply] at stored ⊢
      split at stored
      · cases stored
      next different =>
        obtain ⟨isOwn, there⟩ := consistent.primary own record stored
        refine ⟨isOwn, ?_⟩
        rw [if_neg, there]
        intro same
        rw [same, indexed] at there
        exact different (Option.some.inj there).symm
    · dsimp only at found ⊢
      rw [Function.update_apply] at found
      split at found
      · cases found
      next elsewhere =>
        obtain ⟨record, stored, here⟩ := consistent.secondary value own found
        refine ⟨record, ?_, here⟩
        rw [Function.update_of_ne, stored]
        rintro rfl
        cases stored.symm.trans isGone
        exact elsewhere here.symm

theorem overwrite (consistent : store.Consistent id other) {existing : Record}
    (stored : store.byID (id record) = some existing) (same : other existing = other record) :
    (store.put id other record).Consistent id other := by
  have indexed := (consistent.primary _ existing stored).2
  have replaced := consistent.replace record fun key found =>
    Option.some.inj (found.symm.trans (same ▸ indexed))
  rw [vacate, stored] at replaced
  simpa [put, same] using replaced

theorem amend (consistent : store.Consistent id other) {key : Bytes} {changed : Record}
    (stored : store.byID key = some record) (sameID : id changed = id record)
    (sameOther : other changed = other record) :
    Consistent id other { store with byID := Function.update store.byID key (some changed) } := by
  obtain ⟨isKey, indexed⟩ := consistent.primary key record stored
  have isChanged : id changed = key := sameID.trans isKey
  have kept :
      Function.update store.byOther (other changed) (some (id changed)) = store.byOther := by
    rw [isChanged, sameOther, ← indexed, Function.update_eq_self]
  have written := consistent.overwrite (isChanged.symm ▸ stored) sameOther.symm
  rwa [put, kept, isChanged] at written

end Consistent

/-- After any calls the maps are inverse to each other, a record is found under its second
key as under its id, and a call that fails changes nothing. -/
def Sound {Call : Type} (id other : Record → Bytes)
    (step : MemoryStore Record → Call → MemoryStore Record × Option Error) : Prop :=
  ∀ calls : List Call, ∀ store, store = calls.foldl (fun store call => (step store call).1) {} →
    store.Consistent id other ∧ (∀ value record, store.lookup value = some record ↔
        store.byID (id record) = some record ∧ other record = value) ∧
      (∀ first second, store.byID (id first) = some first → store.byID (id second) = some second →
        other first = other second → first = second) ∧
      ∀ call err, (step store call).2 = some err → (step store call).1 = store

theorem sound_of_steps {Call : Type}
    {step : MemoryStore Record → Call → MemoryStore Record × Option Error}
    (keeps : ∀ store call, store.Consistent id other → (step store call).1.Consistent id other)
    (fails : ∀ store call err, (step store call).2 = some err → (step store call).1 = store) :
    Sound id other step := by
  rintro calls _ rfl
  have consistent :
      (calls.foldl (fun store call => (step store call).1) {}).Consistent id other := by
    refine List.foldlRecOn calls _ ⟨?_, ?_⟩ fun store kept call _ => keeps store call kept
    · rintro _ _ ⟨⟩
    · rintro _ _ ⟨⟩
  exact ⟨consistent, fun value record => consistent.lookup_eq_some_iff,
    fun first second one two same => consistent.eq_of_other one two same, fails _⟩

theorem create_fails {alreadyExists err : Error} {record : Record}
    (failed : (store.create id other alreadyExists record).2 = some err) :
    (store.create id other alreadyExists record).1 = store := by
  revert failed
  unfold create
  repeat' split
  all_goals rintro ⟨⟩ <;> rfl

theorem delete_fails {key : Bytes} {err : Error} (failed : (store.delete other key).2 = some err) :
    (store.delete other key : _ × Option Error).1 = store := by
  unfold delete at failed
  split at failed <;> cases failed

end MemoryStore

open MemoryStore

/-- The stores of agent tokens and of admin tokens have the same code. -/
inductive TokenStoreCall where
  | create (record : TokenRecord)
  | markUsed (id : Bytes) (usedAt : Nat)
  | revoke (id : Bytes) (revokedAt : Nat)

def tokenStoreStep (store : MemoryStore TokenRecord) :
    TokenStoreCall → MemoryStore TokenRecord × Option TokenError
  | .create record => store.create TokenRecord.id TokenRecord.tokenHash .alreadyExists record
  | .markUsed id usedAt =>
    match store.byID id with
    | none => (store, none)
    | some record =>
      if record.revokedAt.isSome then (store, none)
      else
        let used := { record with lastUsedAt := some usedAt }
        ({ store with byID := Function.update store.byID id (some used) }, none)
  | .revoke id revokedAt =>
    match store.byID id with
    | none => (store, none)
    | some record =>
      let revoked := { record with revokedAt := some revokedAt }
      ({ store with byID := Function.update store.byID id (some revoked) }, none)

theorem tokenStore_sound :
    MemoryStore.Sound TokenRecord.id TokenRecord.tokenHash tokenStoreStep := by
  refine sound_of_steps (fun store call consistent => ?_) fun store call err failed => ?_
  · cases call with
    | create record => exact consistent.create _ record
    | markUsed =>
      simp only [tokenStoreStep]
      split
      · exact consistent
      next record stored =>
        split
        · exact consistent
        · exact consistent.amend stored rfl rfl
    | revoke =>
      simp only [tokenStoreStep]
      split
      · exact consistent
      next record stored => exact consistent.amend stored rfl rfl
  · cases call with
    | create => exact create_fails failed
    | markUsed | revoke =>
      simp only [tokenStoreStep] at failed
      repeat' split at failed
      all_goals cases failed

inductive ReservationStoreCall where
  | create (record : ReservationRecord)
  | delete (id : Bytes)

def reservationStoreStep (store : MemoryStore ReservationRecord) :
    ReservationStoreCall → MemoryStore ReservationRecord × Option ReservationError
  | .create record => store.create ReservationRecord.id ReservationRecord.name .alreadyExists record
  | .delete id => store.delete ReservationRecord.name id

theorem reservationStore_sound :
    MemoryStore.Sound ReservationRecord.id ReservationRecord.name reservationStoreStep := by
  refine sound_of_steps (fun store call consistent => ?_) fun store call err failed => ?_
  · cases call with
    | create record => exact consistent.create _ record
    | delete id => exact consistent.delete id
  · cases call with
    | create => exact create_fails failed
    | delete => exact delete_fails failed

inductive PolicyStoreCall where
  | create (record : PolicyRecord)
  | update (record : PolicyRecord)
  | delete (id : Bytes)

def policyStoreStep (store : MemoryStore PolicyRecord) :
    PolicyStoreCall → MemoryStore PolicyRecord × Option PolicyError
  | .create record =>
    store.create PolicyRecord.id PolicyRecord.reservedSubdomainID .alreadyExists record
  | .update record =>
    match store.byID record.id with
    | none => (store, some .notFound)
    | some existing =>
      if existing.reservedSubdomainID ≠ record.reservedSubdomainID then
        (store, some .reservedSubdomainIDRequired)
      else (store.put PolicyRecord.id PolicyRecord.reservedSubdomainID record, none)
  | .delete id => store.delete PolicyRecord.reservedSubdomainID id

theorem policyStore_sound :
    MemoryStore.Sound PolicyRecord.id PolicyRecord.reservedSubdomainID policyStoreStep := by
  refine sound_of_steps (fun store call consistent => ?_) fun store call err failed => ?_
  · cases call with
    | create record => exact consistent.create _ record
    | update =>
      simp only [policyStoreStep]
      split
      · exact consistent
      next existing stored =>
        split
        · exact consistent
        next same => exact consistent.overwrite stored (not_not.mp same)
    | delete id => exact consistent.delete id
  · cases call with
    | create => exact create_fails failed
    | update =>
      revert failed
      simp only [policyStoreStep]
      repeat' split
      all_goals rintro ⟨⟩ <;> rfl
    | delete => exact delete_fails failed

inductive DomainStoreCall where
  | create (record : DomainRecord)
  | update (record : DomainRecord)
  | delete (id : Bytes)

/-- An update can move a domain to another hostname, which gives up the old one. -/
def domainStoreStep (store : MemoryStore DomainRecord) :
    DomainStoreCall → MemoryStore DomainRecord × Option DomainError
  | .create record => store.create DomainRecord.id DomainRecord.hostname .alreadyExists record
  | .update record =>
    match store.byID record.id with
    | none => (store, some .notFound)
    | some existing =>
      if existing.hostname ≠ record.hostname then
        if (store.byOther record.hostname).any (· ≠ record.id) then (store, some .alreadyExists)
        else
          (MemoryStore.put DomainRecord.id DomainRecord.hostname
            { store with byOther := Function.update store.byOther existing.hostname none }
            record, none)
      else (store.put DomainRecord.id DomainRecord.hostname record, none)
  | .delete id => store.delete DomainRecord.hostname id

theorem domainStore_sound :
    MemoryStore.Sound DomainRecord.id DomainRecord.hostname domainStoreStep := by
  refine sound_of_steps (fun store call consistent => ?_) fun store call err failed => ?_
  · cases call with
    | create record => exact consistent.create _ record
    | update record =>
      simp only [domainStoreStep]
      split
      · exact consistent
      next existing stored =>
        split
        · split
          · exact consistent
          next unused =>
            have replaced := consistent.replace record fun key indexed => by
              simpa [indexed] using unused
            rwa [vacate, stored] at replaced
        next same => exact consistent.overwrite stored (not_not.mp same)
    | delete id => exact consistent.delete id
  · cases call with
    | create => exact create_fails failed
    | update =>
      revert failed
      simp only [domainStoreStep]
      repeat' split
      all_goals rintro ⟨⟩ <;> rfl
    | delete => exact delete_fails failed

/-- The store of each kind, the one of agent tokens as the one of admin tokens. -/
theorem stores_consistent : MemoryStore.Sound TokenRecord.id TokenRecord.tokenHash tokenStoreStep ∧
      MemoryStore.Sound ReservationRecord.id ReservationRecord.name reservationStoreStep ∧
      MemoryStore.Sound PolicyRecord.id PolicyRecord.reservedSubdomainID policyStoreStep ∧
      MemoryStore.Sound DomainRecord.id DomainRecord.hostname domainStoreStep :=
  ⟨tokenStore_sound, reservationStore_sound, policyStore_sound, domainStore_sound⟩

end Porthook.ControlPlane
