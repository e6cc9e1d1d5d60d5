import Porthook.ControlPlane.Tokens

/-!
# Token validation under any interleaving

Calls of `CreateToken`, `ValidateToken`, `RevokeToken` and `ListTokens` on one store, in any order
and overlapping in any way.  A validation looks the token up in one step and marks it as used in a
later one.
-/

namespace Porthook.ControlPlane

open Protocol Transition Calls

variable {Id : Type} {realm : Realm}

abbrev TokenEvent (Id : Type) (realm : Realm) :=
  Event Id (TokenRequest realm) (TokenCall realm) TokenDraw TokenReply

def issues? : TokenEvent Id realm → Option CreatedToken
  | .stepped _ _ _ (.returns (.created created)) => some created
  | _ => none

def revokes? : TokenEvent Id realm → Option Bytes
  | .stepped _ (.revoking id) _ (.returns .revoked) => some (trimSpace id)
  | _ => none

def Issued (trace : List (TokenEvent Id realm)) (secret tokenID : Bytes) (scopes : List Bytes) :
    Prop :=
  ∃ event ∈ trace, ∃ created, issues? event = some created ∧ created.token = secret ∧
    created.id = tokenID ∧ created.scopes = scopes

def NotRevoked (trace : List (TokenEvent Id realm)) (tokenID : Bytes) : Prop :=
  Justified (fun before event => revokes? event = some tokenID →
    ∀ earlier ∈ before, ∀ created, issues? earlier = some created → created.id ≠ tokenID) trace

/-- The call `id` has found a record that was issued, not revoked, and good for what
was asked, at the moment it looked. -/
def Found (trace : List (TokenEvent Id realm)) (id : Id) (token : Bytes)
    (required : realm.Required) (record : TokenRecord) : Prop :=
  ∃ before draw since, trace = before ++ .stepped id (.validating token required) draw
      (.continues (.marking token required record)) :: since ∧
    (∀ event ∈ since, event.starts? ≠ some id) ∧ Serves before id (.validate token required) ∧
    Issued before (trimSpace token) record.id record.scopes ∧ NotRevoked before record.id ∧
    realm.Holds required record.scopes

/-- A step that returns a valid token belongs to a call that found it. -/
def Sound (before : List (TokenEvent Id realm)) : TokenEvent Id realm → Prop
  | .stepped id _ _ (.returns (.validation result)) =>
    result.valid = true → ∃ token required record, Found before id token required record ∧
      result.tokenID = record.id ∧ result.scopes = record.scopes
  | _ => True

variable {sha256 : Bytes → Bytes} {store next : TokenStore} {trace : List (TokenEvent Id realm)}
  {event : TokenEvent Id realm}

structure Consistent (sha256 : Bytes → Bytes) (store : TokenStore)
    (trace : List (TokenEvent Id realm)) : Prop where
  issued : ∀ record ∈ store.rows, ∃ event ∈ trace, ∃ created, issues? event = some created ∧
    created.id = record.id ∧ hashToken sha256 created.token = record.tokenHash ∧
    created.scopes = record.scopes
  live : ∀ record ∈ store.rows, record.revokedAt = none → NotRevoked trace record.id
  kept : ∀ event ∈ trace, ∀ created, issues? event = some created →
    trimSpace created.id = created.id ∧ created.id ≠ [] ∧
      ∃ record ∈ store.rows, record.id = created.id
  sound : Justified Sound trace

def TokenHolding (_ : TokenStore) (trace : List (TokenEvent Id realm)) (id : Id) :
    TokenCall realm → Prop
  | .validating token required => Serves trace id (.validate token required)
  | .marking token required record => Found trace id token required record
  | _ => True

theorem NotRevoked.concat {tokenID : Bytes} (holds : NotRevoked trace tokenID)
    (harmless : revokes? event ≠ some tokenID) : NotRevoked (trace ++ [event]) tokenID :=
  Justified.concat holds fun revoked => absurd revoked harmless

theorem notRevoked_of_unissued {tokenID : Bytes}
    (unissued : ∀ event ∈ trace, ∀ created, issues? event = some created → created.id ≠ tokenID) :
    NotRevoked trace tokenID := by
  intro before event after split _ earlier member
  apply unissued
  rw [split]
  exact List.mem_append_left _ member

theorem Found.concat {id : Id} {token : Bytes} {required : realm.Required} {record : TokenRecord}
    (holds : Found trace id token required record) (other : event.starts? ≠ some id) :
    Found (trace ++ [event]) id token required record := by
  obtain ⟨before, draw, since, rfl, alone, known⟩ := holds
  refine ⟨before, draw, since ++ [event], by simp, fun later member => ?_, known⟩
  rcases List.mem_append.mp member with old | new
  · exact alone later old
  · rw [List.mem_singleton.mp new]
    exact other

theorem TokenHolding.concat {id : Id} {call : TokenCall realm}
    (holds : TokenHolding store trace id call) (other : event.starts? ≠ some id) :
    TokenHolding next (trace ++ [event]) id call := by
  cases call with
  | validating => exact Serves.concat holds other
  | marking => exact Found.concat holds other
  | creating | revoking | listing => trivial

theorem Consistent.quiet (consistent : Consistent sha256 store trace)
    (same : next.rows.map TokenRecord.core = store.rows.map TokenRecord.core)
    (issuesNone : issues? event = none) (revokesNone : revokes? event = none)
    (sound : Sound trace event) : Consistent sha256 next (trace ++ [event]) := by
  have back : ∀ record ∈ next.rows, ∃ old ∈ store.rows, old.core = record.core := by
    intro record member
    have mapped : record.core ∈ next.rows.map TokenRecord.core := List.mem_map_of_mem member
    rw [same] at mapped
    exact List.mem_map.mp mapped
  have forth : ∀ old ∈ store.rows, ∃ record ∈ next.rows, record.core = old.core := by
    intro old member
    have mapped : old.core ∈ store.rows.map TokenRecord.core := List.mem_map_of_mem member
    rw [← same] at mapped
    exact List.mem_map.mp mapped
  refine ⟨fun record member => ?_, fun record member unrevoked => ?_,
    fun later member created issued => ?_, consistent.sound.concat sound⟩
  · obtain ⟨old, oldMember, cores⟩ := back record member
    obtain ⟨origin, originMember, created, issued, sameID, sameHash, sameScopes⟩ :=
      consistent.issued old oldMember
    simp only [TokenRecord.core, TokenRecord.mk.injEq] at cores
    obtain ⟨ids, -, hashes, scopes, -⟩ := cores
    exact ⟨origin, List.mem_append_left _ originMember, created, issued, sameID.trans ids,
      sameHash.trans hashes, sameScopes.trans scopes⟩
  · obtain ⟨old, oldMember, cores⟩ := back record member
    simp only [TokenRecord.core, TokenRecord.mk.injEq] at cores
    obtain ⟨ids, -, -, -, -, -, revocations⟩ := cores
    rw [← ids]
    exact (consistent.live old oldMember (revocations.trans unrevoked)).concat
      (by simp [revokesNone])
  · rcases List.mem_append.mp member with earlier | last
    · obtain ⟨trimmed, named, old, oldMember, sameID⟩ :=
        consistent.kept later earlier created issued
      obtain ⟨record, recordMember, cores⟩ := forth old oldMember
      simp only [TokenRecord.core, TokenRecord.mk.injEq] at cores
      exact ⟨trimmed, named, record, recordMember, cores.1.trans sameID⟩
    · rw [List.mem_singleton.mp last, issuesNone] at issued
      cases issued

theorem Consistent.issue (consistent : Consistent sha256 store trace) {created : CreatedToken}
    (inserted : store.insert? (created.record sha256) = some next)
    (issuesIt : issues? event = some created) (revokesNone : revokes? event = none)
    (sound : Sound trace event) (trimmed : trimSpace created.id = created.id)
    (named : created.id ≠ []) : Consistent sha256 next (trace ++ [event]) := by
  obtain ⟨idFree, -, rows⟩ := Table.insert?_eq_some inserted
  have fresh : ∀ earlier ∈ trace, ∀ other, issues? earlier = some other →
      other.id ≠ created.id := by
    intro earlier member other issued same
    obtain ⟨-, -, record, recordMember, sameID⟩ := consistent.kept earlier member other issued
    exact Table.find?_eq_none_iff.mp idFree record recordMember (sameID.trans same)
  refine ⟨fun record member => ?_, fun record member unrevoked => ?_,
    fun later member other issued => ?_, consistent.sound.concat sound⟩
  · rcases (rows record).mp member with rfl | old
    · exact ⟨event, by simp, created, issuesIt, rfl, rfl, rfl⟩
    · obtain ⟨origin, originMember, known⟩ := consistent.issued record old
      exact ⟨origin, List.mem_append_left _ originMember, known⟩
  · refine NotRevoked.concat ?_ (by simp [revokesNone])
    rcases (rows record).mp member with rfl | old
    · exact notRevoked_of_unissued fresh
    · exact consistent.live record old unrevoked
  · rcases List.mem_append.mp member with earlier | last
    · obtain ⟨otherTrimmed, otherNamed, record, recordMember, sameID⟩ :=
        consistent.kept later earlier other issued
      exact ⟨otherTrimmed, otherNamed, record, (rows record).mpr (.inr recordMember), sameID⟩
    · rw [List.mem_singleton.mp last, issuesIt] at issued
      cases issued
      exact ⟨trimmed, named, created.record sha256, (rows _).mpr (.inl rfl), rfl⟩

theorem Consistent.revoke (consistent : Consistent sha256 store trace) {id : Bytes} {now : Nat}
    (issuesNone : issues? event = none) (revokesIt : revokes? event = some id)
    (sound : Sound trace event) :
    Consistent sha256 (store.revoke id now) (trace ++ [event]) := by
  have rows := TokenStore.rows_revoke store id now
  refine ⟨fun record member => ?_, fun record member unrevoked => ?_,
    fun later member created issued => ?_, consistent.sound.concat sound⟩
  · rw [rows] at member
    obtain ⟨old, oldMember, rfl⟩ := List.mem_map.mp member
    obtain ⟨origin, originMember, created, issued, known⟩ := consistent.issued old oldMember
    refine ⟨origin, List.mem_append_left _ originMember, created, issued, ?_⟩
    split <;> exact known
  · rw [rows] at member
    obtain ⟨old, oldMember, rfl⟩ := List.mem_map.mp member
    split at unrevoked
    · cases unrevoked
    next other =>
      rw [if_neg other]
      refine (consistent.live old oldMember unrevoked).concat ?_
      rw [revokesIt]
      exact fun same => other (Option.some.inj same).symm
  · rcases List.mem_append.mp member with earlier | last
    · obtain ⟨trimmed, named, record, recordMember, sameID⟩ :=
        consistent.kept later earlier created issued
      refine ⟨trimmed, named, if record.id = id then { record with revokedAt := some now }
        else record, ?_, ?_⟩
      · rw [rows]
        exact List.mem_map_of_mem recordMember
      · split <;> exact sameID
    · rw [List.mem_singleton.mp last, issuesNone] at issued
      cases issued

theorem Consistent.revoke_nil (consistent : Consistent sha256 store trace) (now : Nat) :
    store.revoke [] now = store := by
  have missing : store.find? [] = none := by
    rw [Table.find?_eq_none_iff]
    intro record member
    obtain ⟨origin, originMember, created, issued, sameID, -⟩ := consistent.issued record member
    rw [← sameID]
    exact (consistent.kept origin originMember created issued).2.1
  simp only [TokenStore.revoke, missing]

theorem consistent_create (id : Id) (request : CreateTokenRequest) (draw : TokenDraw)
    (consistent : Consistent sha256 store trace) :
    Consistent sha256 (createToken sha256 realm store request draw).1
      (trace ++ [.stepped id (.creating request) draw
        (.returns (createToken sha256 realm store request draw).2)]) := by
  rcases createToken_cases sha256 realm store request draw with
    ⟨err, failed⟩ | ⟨created, next, issued, inserted, succeeded⟩
  · rw [failed]
    exact consistent.quiet rfl rfl rfl trivial
  · rw [succeeded]
    refine consistent.issue inserted rfl rfl trivial (trimSpace_newToken issued) ?_
    intro empty
    have drawn := (newToken_eq_ok issued).2.2
    rw [empty] at drawn
    obtain ⟨_, -, encoded⟩ := Option.map_eq_some_iff.mp drawn
    cases realm with
    | agent | admin => exact absurd (List.append_eq_nil_iff.mp encoded).1 (by decide)

theorem consistent_revoke (id : Id) (tokenID : Bytes) (draw : TokenDraw)
    (consistent : Consistent sha256 store trace) :
    Consistent sha256 (revokeToken store tokenID draw).1
      (trace ++ [.stepped id (.revoking tokenID) draw
        (.returns (revokeToken store tokenID draw).2)]) := by
  unfold revokeToken
  dsimp only
  split
  next empty =>
    have revoked : Consistent sha256 (store.revoke [] draw.now)
        (trace ++ [.stepped id (.revoking tokenID) draw (.returns .revoked)]) :=
      consistent.revoke rfl (congrArg some empty) trivial
    rwa [consistent.revoke_nil] at revoked
  · split
    · exact consistent.quiet rfl rfl rfl trivial
    · exact consistent.revoke rfl rfl trivial

theorem consistent_lookup (id : Id) (token : Bytes) (required : realm.Required)
    (draw : TokenDraw) (consistent : Consistent sha256 store trace) :
    Consistent sha256 store (trace ++ [.stepped id (.validating token required) draw
      (lookupToken sha256 realm store token required draw)]) := by
  cases outcome : lookupToken sha256 realm store token required draw with
  | continues => exact consistent.quiet rfl rfl rfl trivial
  | returns =>
    rcases lookupToken_eq_returns outcome with ⟨_, rfl⟩ | rfl
    · exact consistent.quiet rfl rfl rfl trivial
    · exact consistent.quiet rfl rfl rfl fun valid => absurd valid (by decide)

theorem found_of_lookup (injective : Function.Injective sha256) {id : Id} {token : Bytes}
    {required : realm.Required} {draw : TokenDraw} {call : TokenCall realm}
    (consistent : Consistent sha256 store trace)
    (called : Serves trace id (.validate token required))
    (continued : lookupToken sha256 realm store token required draw = .continues call) :
    TokenHolding store (trace ++ [.stepped id (.validating token required) draw
      (.continues call)]) id call := by
  obtain ⟨record, rfl, member, hashed, unrevoked, holds⟩ := lookupToken_eq_continues continued
  obtain ⟨origin, originMember, created, issued, sameID, sameHash, sameScopes⟩ :=
    consistent.issued record member
  refine ⟨trace, draw, [], rfl, by simp, called, ?_, consistent.live record member unrevoked, holds⟩
  -- one digest, so one secret
  have secret : created.token = trimSpace token :=
    sha256Hex_injective injective (sameHash.trans hashed)
  exact ⟨origin, originMember, created, issued, secret, sameID, sameScopes⟩

theorem tokens_rely (injective : Function.Injective sha256) [DecidableEq Id] :
    (tokenService sha256 realm).Rely (fun _ _ _ => True)
      (fun store (trace : List (TokenEvent Id realm)) => Consistent sha256 store trace)
      TokenHolding where
  start id request consistent := by
    refine ⟨consistent.quiet rfl rfl rfl trivial, ?_⟩
    cases request with
    | validate => exact serves_started _ id _
    | create | revoke | list => trivial
  start_other request other _ holding :=
    holding.concat fun same => other (Option.some.inj same).symm
  advance := by
    intro store trace id call draw consistent holding _
    cases call with
    | creating request =>
      exact ⟨consistent_create id request draw consistent, by rintro _ ⟨⟩⟩
    | validating token required =>
      refine ⟨consistent_lookup id token required draw consistent, fun next continued => ?_⟩
      have found := found_of_lookup injective consistent holding continued
      rwa [← continued] at found
    | marking token required record =>
      simp only [tokenService]
      split
      · exact ⟨consistent.quiet rfl rfl rfl trivial, by rintro _ ⟨⟩⟩
      · refine ⟨consistent.quiet (TokenStore.core_markUsed ..) rfl rfl fun _ => ?_, by rintro _ ⟨⟩⟩
        exact ⟨token, required, record, holding, rfl, rfl⟩
    | revoking tokenID =>
      exact ⟨consistent_revoke id tokenID draw consistent, by rintro _ ⟨⟩⟩
    | listing =>
      simp only [tokenService]
      split <;> exact ⟨consistent.quiet rfl rfl rfl trivial, by rintro _ ⟨⟩⟩
  advance_other _ _ _ _ holding := holding.concat (by simp [Event.starts?])

theorem consistent_reached (injective : Function.Injective sha256) [DecidableEq Id]
    {state : State Id TokenStore (TokenRequest realm) (TokenCall realm) TokenDraw TokenReply}
    (reached : Reaches (tokenService sha256 realm).step { store := Table.empty } state) :
    Consistent sha256 state.store state.trace := by
  refine ((tokens_rely injective).reached ⟨⟨?_, ?_, ?_, Justified.nil⟩, ?_⟩ reached).1
  · intro record member
    cases member
  · intro record member
    cases member
  · intro event member
    cases member
  · intro id call called
    cases called

/-- A call that was started after a revocation can only find tokens that were issued
after it too. -/
theorem Found.issued_after {before between since whole : List (TokenEvent Id realm)}
    {revocation : TokenEvent Id realm} {id : Id} {token token' : Bytes}
    {required required' : realm.Required} {record : TokenRecord}
    (found : Found whole id token' required' record)
    (split : whole = (before ++ revocation :: between) ++
      .started id (.validate token required) :: since)
    (alone : ∀ event ∈ since, event.starts? ≠ some id)
    (revoked : revokes? revocation = some record.id) :
    ∀ earlier ∈ before, ∀ created, issues? earlier = some created → created.id ≠ record.id := by
  obtain ⟨prefound, draw, later, lookedUp, aloneLater,
    ⟨prior, _, meanwhile, started, rfl, aloneMeanwhile⟩,
    -, unrevoked, -⟩ := found
  subst started
  -- the call was started once, so the two starts are the same
  have aligned : (before ++ revocation :: between) ++ .started id (.validate token required) ::
      since = prior ++ .started id (.validate token' required') :: (meanwhile ++ .stepped id
        (.validating token' required') draw (.continues (.marking token' required' record)) ::
        later) := by
    rw [← split, lookedUp]
    simp
  have aloneAll : ∀ event ∈ meanwhile ++ .stepped id (.validating token' required') draw
      (.continues (.marking token' required' record)) :: later, event.starts? ≠ some id := by
    intro event member
    rcases List.mem_append.mp member with early | late
    · exact aloneMeanwhile event early
    · rcases List.mem_cons.mp late with rfl | late
      · simp [Event.starts?]
      · exact aloneLater event late
  obtain ⟨rfl, -, -⟩ := last_split_unique (fun event => event.starts? = some id) aligned rfl rfl
    alone aloneAll
  exact unrevoked before revocation
    (between ++ .started id (.validate token' required') :: meanwhile) (by simp) revoked

/-- A valid token was issued by `CreateToken` and not revoked when it was looked up, and holds the
scopes asked for.  Once `RevokeToken` has returned, no later validation accepts it. -/
theorem token_validation_sound (injective : Function.Injective sha256) [DecidableEq Id]
    {state : State Id TokenStore (TokenRequest realm) (TokenCall realm) TokenDraw TokenReply}
    (reached : Reaches (tokenService sha256 realm).step { store := Table.empty } state) :
    (∀ before id call draw result after,
      state.trace = before ++ .stepped id call draw (.returns (.validation result)) :: after →
      result.valid = true → ∃ token required record, Found before id token required record ∧
          result.tokenID = record.id ∧ result.scopes = record.scopes) ∧
    ∀ tokenID before caller revocation between id token required since call draw result after,
      state.trace = (before ++ .stepped caller (.revoking tokenID) revocation (.returns .revoked) ::
        between) ++ .started id (.validate token required) :: since ++
        .stepped id call draw (.returns (.validation result)) :: after →
      (∃ event ∈ before, ∃ created, issues? event = some created ∧ created.id = tokenID) →
      (∀ event ∈ since, event.starts? ≠ some id) →
      result.valid = true → result.tokenID ≠ tokenID := by
  have consistent := consistent_reached injective reached
  refine ⟨fun before id call draw result after split valid =>
    consistent.sound before _ after split valid, ?_⟩
  intro tokenID before caller revocation between id token required since call draw result after
    split issued alone valid same
  obtain ⟨_, _, record, found, sameID, -⟩ := consistent.sound _ _ after split valid
  obtain ⟨event, member, created, issuedIt, createdID⟩ := issued
  have trimmed : trimSpace tokenID = tokenID := by
    have inTrace : event ∈ state.trace := by
      rw [split]
      simp [member]
    rw [← createdID]
    exact (consistent.kept event inTrace created issuedIt).1
  have named : tokenID = record.id := same.symm.trans sameID
  refine found.issued_after rfl alone ?_ event member created issuedIt (createdID.trans named)
  rw [← named]
  exact congrArg some trimmed

def laptopRun : List (Action Nat (TokenRequest .agent) TokenDraw) :=
  [.start 0 (.create { name := ascii "laptop" }),
    .advance 0 { now := 1, secret := some [1, 2, 3], id := some [4, 5, 6] },
    .start 1 (.validate (ascii " ph_AQID") (ascii "register_tunnel")),
    .advance 1 {}, .advance 1 { now := 2 }]

theorem token_validation_sound_laptop :
    ∃ state, exec (tokenService id .agent).step { store := Table.empty } laptopRun = some state ∧
      ∃ call draw result, state.trace = state.trace.take 4 ++
          [.stepped 1 call draw (.returns (.validation result))] ∧ result.valid = true ∧
        ∃ token required record, Found (state.trace.take 4) 1 token required record ∧
          result.tokenID = record.id ∧ result.scopes = record.scopes :=
  ⟨_, rfl, _, _, _, rfl, rfl,
    (token_validation_sound Function.injective_id ⟨laptopRun, rfl⟩).1 _ 1 _ _ _ [] rfl rfl⟩

end Porthook.ControlPlane
