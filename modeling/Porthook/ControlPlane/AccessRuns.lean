import Porthook.ControlPlane.Access

/-!
# Policy updates and concurrent checks

What `UpdatePolicy` has written is what is stored until the next write, provided that each upgrade
of an old digest still finds the policy that its check has read.  A check that was under way during
the update writes the old policy back.
-/

namespace Porthook.ControlPlane

open Protocol Transition Calls

variable {Id : Type}

def acceptsPassword (hashing : Hashing) (secretHash password : Bytes) : Bool :=
  if isPasswordHash secretHash then hashing.verifyPassword secretHash password
  else secretHashEqual (hashSecret hashing.sha256 password) secretHash

theorem acceptsPassword_hashed {hashing : Hashing} (sound : hashing.Sound) (salt password : Bytes)
    (given : Bytes) :
    acceptsPassword hashing (argon2idPrefix ++ hashing.derived salt password) given = true ↔
      password = given := by
  rw [acceptsPassword, if_pos (isPasswordHash_append _)]
  exact sound.verify_iff salt password given

variable {record : PolicyRecord} {password : Bytes}

theorem acceptsPassword_legacy {hashing : Hashing} (sound : hashing.Sound)
    (found : LegacyMatch hashing record password) (given : Bytes) :
    acceptsPassword hashing record.secretHash given = true ↔ password = given := by
  have equal := found.equal
  simp only [acceptsPassword, found.legacy, Bool.false_eq_true, if_false]
  simp only [secretHashEqual, Bool.and_eq_true, decide_eq_true_eq, beq_iff_eq] at equal ⊢
  constructor
  · rintro ⟨-, same⟩
    exact sha256Hex_injective sound.injective (equal.2.trans same.symm)
  · rintro rfl
    exact equal

abbrev PolicyEvent (Id : Type) := Event Id PolicyRequest PolicyCall PolicyDraw PolicyReply

def policyUpdated? : PolicyEvent Id → Option PolicyRecord
  | .stepped _ (.storing record) _ (.returns (.policy _)) => some record
  | _ => none

def policyWritten? : PolicyEvent Id → Option Bytes
  | .stepped _ (.storing record) _ (.returns (.policy _)) => some record.id
  | .stepped _ (.removing id) _ (.returns .deleted) => some id
  | _ => none

/-- `UpdatePolicy` has written this record and neither it nor `DeletePolicy` has
written that policy since. -/
def UpdateStands (trace : List (PolicyEvent Id)) (written : PolicyRecord) : Prop :=
  Stands (fun event => policyUpdated? event = some written)
    (fun event => policyWritten? event = some written.id) trace

/-- The mode, the username, the allowlist and the secret of a policy; a secret stays
the same if it is hashed again. -/
structure SameTerms (hashing : Hashing) (written stored : PolicyRecord) : Prop where
  mode : stored.mode = written.mode
  username : stored.basicUsername = written.basicUsername
  allowlist : stored.ipAllowlist = written.ipAllowlist
  secret : stored.secretHash = written.secretHash ∨ written.mode = .modeBasicAuth ∧
    ∀ password, acceptsPassword hashing stored.secretHash password =
      acceptsPassword hashing written.secretHash password

theorem SameTerms.refl (hashing : Hashing) (record : PolicyRecord) :
    SameTerms hashing record record :=
  ⟨rfl, rfl, rfl, .inl rfl⟩

theorem SameTerms.accepts {hashing : Hashing} {written stored : PolicyRecord}
    (same : SameTerms hashing written stored) (password : Bytes) :
    acceptsPassword hashing stored.secretHash password =
      acceptsPassword hashing written.secretHash password := by
  rcases same.secret with equal | ⟨-, equal⟩
  · rw [equal]
  · exact equal password

def StoredAsUpdated (hashing : Hashing) (store : PolicyStore) (trace : List (PolicyEvent Id)) :
    Prop :=
  ∀ written, UpdateStands trace written →
    ∃ stored, store.find? written.id = some stored ∧ SameTerms hashing written stored

/-- An upgrade finds the policy that its check has read, apart from the upgrades of
other checks with the same password, or none. -/
def UpgradesWhatItRead (hashing : Hashing) (store : PolicyStore) (call : PolicyCall)
    (_ : PolicyDraw) : Prop :=
  match call with
  | .upgrading read password => ∀ stored, store.find? read.id = some stored →
      stored.mode = read.mode ∧ stored.basicUsername = read.basicUsername ∧
        stored.ipAllowlist = read.ipAllowlist ∧
        (stored.secretHash = read.secretHash ∨ ∃ salt, stored.secretHash =
          argon2idPrefix ++ hashing.derived salt (trimSpace password))
  | _ => True

def UpgradeHolding (hashing : Hashing) (_ : PolicyStore) (_ : List (PolicyEvent Id)) (_ : Id) :
    PolicyCall → Prop
  | .upgrading read password => LegacyMatch hashing read (trimSpace password)
  | _ => True

variable {hashing : Hashing} {store next : PolicyStore} {trace : List (PolicyEvent Id)}
  {event : PolicyEvent Id}

theorem UpgradeHolding.concat {other : List (PolicyEvent Id)} {id : Id} {call : PolicyCall}
    (holds : UpgradeHolding hashing store trace id call) :
    UpgradeHolding hashing next other id call := by
  cases call <;> exact holds

theorem StoredAsUpdated.quiet (stored : StoredAsUpdated hashing store trace)
    (same : ∀ id record, store.find? id = some record → next.find? id = some record)
    (updatesNone : policyUpdated? event = none) :
    StoredAsUpdated hashing next (trace ++ [event]) := by
  intro written stands
  rcases stands_concat.mp stands with updated | ⟨stands, -⟩
  · rw [updatesNone] at updated
    cases updated
  · obtain ⟨record, found, terms⟩ := stored written stands
    exact ⟨record, same _ record found, terms⟩

theorem StoredAsUpdated.create (stored : StoredAsUpdated hashing store trace)
    (inserted : store.insert? record = some next) (updatesNone : policyUpdated? event = none) :
    StoredAsUpdated hashing next (trace ++ [event]) := by
  refine stored.quiet (fun id held found => ?_) updatesNone
  have different : id ≠ record.id := by
    rintro rfl
    rw [(Table.insert?_eq_some inserted).1] at found
    cases found
  rw [Table.find?_insert? inserted, if_neg different]
  exact found

theorem StoredAsUpdated.update (stored : StoredAsUpdated hashing store trace)
    (replaced : store.replace? record = some next) (updates : policyUpdated? event = some record)
    (writes : policyWritten? event = some record.id) :
    StoredAsUpdated hashing next (trace ++ [event]) := by
  intro written stands
  rcases stands_concat.mp stands with updated | ⟨stands, kept⟩
  · rw [updates] at updated
    cases updated
    exact ⟨record, by rw [Table.find?_replace? replaced, if_pos rfl], .refl hashing record⟩
  · have different : written.id ≠ record.id := fun same =>
      kept (writes.trans (congrArg some same.symm))
    rw [Table.find?_replace? replaced, if_neg different]
    exact stored written stands

theorem StoredAsUpdated.remove (stored : StoredAsUpdated hashing store trace) {gone : Bytes}
    (updatesNone : policyUpdated? event = none) (writes : policyWritten? event = some gone) :
    StoredAsUpdated hashing (store.remove gone) (trace ++ [event]) := by
  intro written stands
  rcases stands_concat.mp stands with updated | ⟨stands, kept⟩
  · rw [updatesNone] at updated
    cases updated
  · have different : written.id ≠ gone := fun same => kept (writes.trans (congrArg some same.symm))
    rw [Table.find?_remove, if_neg different]
    exact stored written stands

theorem sameTerms_upgrade (sound : hashing.Sound) {read stored written : PolicyRecord}
    {salt : Bytes} (found : LegacyMatch hashing read (trimSpace password))
    (terms : SameTerms hashing written stored)
    (unchanged : stored.mode = read.mode ∧ stored.basicUsername = read.basicUsername ∧
      stored.ipAllowlist = read.ipAllowlist ∧ (stored.secretHash = read.secretHash ∨
        ∃ salt, stored.secretHash = argon2idPrefix ++ hashing.derived salt (trimSpace password))) :
    SameTerms hashing written
      { read with secretHash := argon2idPrefix ++ hashing.derived salt (trimSpace password) } := by
  obtain ⟨mode, username, allowlist, secret⟩ := unchanged
  refine ⟨mode.symm.trans terms.mode, username.symm.trans terms.username,
    allowlist.symm.trans terms.allowlist, .inr ⟨?_, fun given => ?_⟩⟩
  · exact terms.mode.symm.trans (mode.trans found.mode)
  rw [← terms.accepts given, Bool.eq_iff_iff, acceptsPassword_hashed sound]
  rcases secret with same | ⟨_, same⟩
  · rw [same, acceptsPassword_legacy sound found]
  · rw [same, acceptsPassword_hashed sound]

theorem storedAsUpdated_upgrade (sound : hashing.Sound) {id : Id} {read : PolicyRecord}
    {draw : PolicyDraw} {outcome : Outcome PolicyCall PolicyReply}
    (stored : StoredAsUpdated hashing store trace)
    (holding : UpgradeHolding hashing store trace id (.upgrading read password))
    (unchanged : UpgradesWhatItRead hashing store (.upgrading read password) draw) :
    StoredAsUpdated hashing (upgradeBasicAuthHash hashing store read password draw)
      (trace ++ [.stepped id (.upgrading read password) draw outcome]) := by
  rcases upgradeBasicAuthHash_cases hashing store read password draw with
    same | ⟨secretHash, next, hashed, replaced, upgraded⟩
  · rw [same]
    exact stored.quiet (fun _ _ found => found) rfl
  · rw [upgraded]
    obtain ⟨_, rfl⟩ := hashPassword_eq_some hashed
    intro written stands
    rcases stands_concat.mp stands with updated | ⟨stands, -⟩
    · cases updated
    obtain ⟨held, found, terms⟩ := stored written stands
    rw [Table.find?_replace? replaced]
    split
    next same =>
      refine ⟨_, rfl, sameTerms_upgrade sound holding terms (unchanged held ?_)⟩
      rw [← same]
      exact found
    · exact ⟨held, found, terms⟩

theorem policies_rely (sound : hashing.Sound) [DecidableEq Id] :
    (policyService hashing).Rely (UpgradesWhatItRead hashing)
      (fun store (trace : List (PolicyEvent Id)) => StoredAsUpdated hashing store trace)
      (UpgradeHolding hashing) where
  start id request stored := by
    refine ⟨stored.quiet (fun _ _ found => found) rfl, ?_⟩
    cases request <;> trivial
  start_other request other _ holding := holding.concat
  advance := by
    intro store trace id call draw stored holding unchanged
    have still : ∀ id record, store.find? id = some record → store.find? id = some record :=
      fun _ _ found => found
    cases call with
    | creating request =>
      refine ⟨?_, by rintro _ ⟨⟩⟩
      simp only [policyService]
      rcases createPolicy_cases hashing store request draw with
        ⟨err, failed⟩ | ⟨record, fresh, next, -, -, inserted, succeeded⟩
      · rw [failed]
        exact stored.quiet still rfl
      · rw [succeeded]
        exact stored.create inserted rfl
    | updating =>
      refine ⟨stored.quiet still rfl, fun next continued => ?_⟩
      obtain ⟨_, _, rfl, -⟩ := lookupUpdatedPolicy_eq_continues continued
      trivial
    | storing record =>
      refine ⟨?_, by rintro _ ⟨⟩⟩
      simp only [policyService]
      rcases storePolicy_cases store record draw with ⟨_, failed⟩ | ⟨_, replaced, succeeded⟩
      · rw [failed]
        exact stored.quiet still rfl
      · rw [succeeded]
        exact stored.update replaced rfl rfl
    | deleting =>
      refine ⟨stored.quiet still rfl, fun next continued => ?_⟩
      rw [lookupDeletedPolicy_eq_continues continued]
      trivial
    | removing =>
      simp only [policyService]
      split
      · exact ⟨stored.quiet still rfl, by rintro _ ⟨⟩⟩
      · exact ⟨stored.remove rfl rfl, by rintro _ ⟨⟩⟩
    | checking =>
      refine ⟨stored.quiet still rfl, fun next continued => ?_⟩
      obtain ⟨_, -, rfl, found⟩ := checkPolicy_eq_continues continued
      exact found
    | upgrading =>
      exact ⟨storedAsUpdated_upgrade sound stored holding unchanged, by rintro _ ⟨⟩⟩
    | getting => exact ⟨stored.quiet still rfl, by rintro _ ⟨⟩⟩
    | gettingForReservedSubdomain =>
      exact ⟨stored.quiet still rfl, by rintro _ ⟨⟩⟩
    | listing =>
      simp only [policyService]
      split <;> exact ⟨stored.quiet still rfl, by rintro _ ⟨⟩⟩
  advance_other _ _ _ _ holding := holding.concat

abbrev PolicyState (Id : Type) :=
  State Id PolicyStore PolicyRequest PolicyCall PolicyDraw PolicyReply

/-- Where each upgrade finds the policy that its check has read, what `UpdatePolicy`
has written is stored until `UpdatePolicy` or `DeletePolicy` writes again. -/
theorem policy_update_kept (sound : hashing.Sound) [DecidableEq Id] (store : PolicyStore)
    (actions : List (Action Id PolicyRequest PolicyDraw))
    (unchanged : Guarded (policyService hashing).step
      (Service.Meets (UpgradesWhatItRead hashing)) ({ store } : PolicyState Id) actions) :
    Always (policyService hashing).step (fun state => ∀ written, UpdateStands state.trace written →
        ∃ stored, state.store.find? written.id = some stored ∧ SameTerms hashing written stored)
      ({ store } : PolicyState Id) actions := by
  have start : Holds (fun store (trace : List (PolicyEvent Id)) =>
      StoredAsUpdated hashing store trace) (UpgradeHolding hashing) ({ store } : PolicyState Id) :=
    ⟨fun written stands => absurd stands not_stands_nil, by rintro _ _ ⟨⟩⟩
  exact ((policies_rely sound).always start unchanged).mono fun _ holds => holds.1

def legacyPolicy : PolicyRecord where
  id := ascii "ap_1"
  reservedSubdomainID := ascii "rs_1"
  mode := .modeBasicAuth
  basicUsername := ascii "ada"
  secretHash := hashSecret plainHashing.sha256 (ascii "old")
  createdAt := 0
  updatedAt := 0

def legacyStore : PolicyStore := ⟨[legacyPolicy], by decide, by decide⟩

def oldLogin : CheckPolicyRequest where
  reservedSubdomainID := ascii "rs_1"
  basicUsername := ascii "ada"
  basicPassword := ascii "old"

/-- The password is changed while a check with the old one is under way. -/
def rotationRun : List (Action Nat PolicyRequest PolicyDraw) :=
  [.start 0 (.check oldLogin), .advance 0 {},
    .start 1 (.update (ascii "ap_1") { basicPassword := ascii "new" }),
    .advance 1 { now := 1, salt := some [] }, .advance 1 {}, .advance 0 { salt := some [] }]

theorem rotated_password_comes_back : ∃ state written stored, exec (policyService plainHashing).step
        ({ store := legacyStore } : PolicyState Nat) rotationRun = some state ∧
      UpdateStands state.trace written ∧ state.store.find? written.id = some stored ∧
      acceptsPassword plainHashing written.secretHash (ascii "new") = true ∧
      acceptsPassword plainHashing stored.secretHash (ascii "new") = false ∧
      acceptsPassword plainHashing stored.secretHash (ascii "old") = true :=
  ⟨_, { legacyPolicy with secretHash := argon2idPrefix ++ ascii "new", updatedAt := 1 },
    { legacyPolicy with secretHash := argon2idPrefix ++ ascii "old" }, rfl,
    stands_concat.mpr (.inr ⟨stands_concat.mpr (.inl rfl), nofun⟩), rfl, by decide, by decide,
    by decide⟩

def orderlyRun : List (Action Nat PolicyRequest PolicyDraw) :=
  [.start 0 (.check oldLogin), .advance 0 {}, .advance 0 { salt := some [] },
    .start 1 (.update (ascii "ap_1") { basicPassword := ascii "new" }),
    .advance 1 { now := 1, salt := some [] }, .advance 1 {}]

theorem policy_update_kept_orderly :
    Guarded (policyService plainHashing).step (Service.Meets (UpgradesWhatItRead plainHashing))
        ({ store := legacyStore } : PolicyState Nat) orderlyRun ∧
      Always (policyService plainHashing).step
        (fun state => ∀ written, UpdateStands state.trace written →
          ∃ stored, state.store.find? written.id = some stored ∧
            SameTerms plainHashing written stored)
        ({ store := legacyStore } : PolicyState Nat) orderlyRun := by
  have unchanged : Guarded (policyService plainHashing).step
      (Service.Meets (UpgradesWhatItRead plainHashing))
      ({ store := legacyStore } : PolicyState Nat) orderlyRun := by
    refine (guarded_cons_of_some rfl).mpr ⟨trivial, (guarded_cons_of_some rfl).mpr ⟨?_,
      (guarded_cons_of_some rfl).mpr ⟨?_, (guarded_cons_of_some rfl).mpr ⟨trivial,
        (guarded_cons_of_some rfl).mpr ⟨?_, (guarded_cons_of_some rfl).mpr ⟨?_, trivial⟩⟩⟩⟩⟩⟩
    · rintro _ ⟨⟩
      trivial
    · -- the upgrade finds the policy as it was read
      rintro _ ⟨⟩ _ ⟨⟩
      exact ⟨rfl, rfl, rfl, .inl rfl⟩
    · rintro _ ⟨⟩
      trivial
    · rintro _ ⟨⟩
      trivial
  exact ⟨unchanged, policy_update_kept plainHashing_sound legacyStore orderlyRun unchanged⟩

end Porthook.ControlPlane
