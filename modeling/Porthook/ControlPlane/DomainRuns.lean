import Porthook.ControlPlane.Domains

/-!
# Custom domains under any interleaving

`VerifyDomain` reads a record, waits for the resolver, and writes the whole record back.  A stored
record is active only by proof of control, and a late write never brings a deleted id back.  But a
slow verification writes over a faster one.
-/

namespace Porthook.ControlPlane

open Protocol Transition Calls

variable {Id : Type}

abbrev DomainEvent (Id : Type) := Event Id DomainRequest DomainCall DomainDraw DomainReply

def domainCreated? : DomainEvent Id → Option DomainSummary
  | .stepped _ _ _ (.returns (.created domain)) => some domain
  | _ => none

def domainDeleted? : DomainEvent Id → Option Bytes
  | .stepped _ (.removing id) _ (.returns .deleted) => some id
  | _ => none

def domainActivated? : DomainEvent Id → Option Bytes
  | .stepped _ (.updating record .active _ _) _ (.returns (.verified _)) => some record.id
  | _ => none

def CreatedAs (trace : List (DomainEvent Id)) (record : DomainRecord) : Prop :=
  ∃ event ∈ trace, ∃ domain, domainCreated? event = some domain ∧ domain.id = record.id ∧
    domain.hostname = record.hostname ∧ domain.verificationToken = record.verificationToken

/-- A call of `VerifyDomain` for this id got the record's token from the resolver, for
the name that belongs to the record's hostname. -/
def ControlProved (trace : List (DomainEvent Id)) (record : DomainRecord) : Prop :=
  ∃ before call requested read draw outcome after values value,
    trace = before ++ .stepped call (.resolving read (verificationName record.hostname)) draw
      outcome :: after ∧
    Serves before call (.verify requested) ∧ trimSpace requested = record.id ∧
    draw.txt = some values ∧ value ∈ values ∧
    (trimSpace value = record.verificationToken ∨
      trimSpace value = ascii "porthook-domain-verification=" ++ record.verificationToken)

def DomainGone (trace : List (DomainEvent Id)) (id : Bytes) : Prop :=
  Stands (fun event => domainDeleted? event = some id)
    (fun event => ∃ domain, domainCreated? event = some domain ∧ domain.id = id) trace

def DomainActivated (trace : List (DomainEvent Id)) (id : Bytes) : Prop :=
  Stands (fun event => domainActivated? event = some id)
    (fun event => domainDeleted? event = some id) trace

variable {store next : DomainStore} {trace : List (DomainEvent Id)} {event : DomainEvent Id}

variable {record read : DomainRecord} {id : Id}

theorem CreatedAs.concat (created : CreatedAs trace record) :
    CreatedAs (trace ++ [event]) record := by
  obtain ⟨origin, member, known⟩ := created
  exact ⟨origin, List.mem_append_left _ member, known⟩

theorem ControlProved.concat (proved : ControlProved trace record) :
    ControlProved (trace ++ [event]) record := by
  obtain ⟨before, call, requested, read, draw, outcome, after, values, value, rfl, known⟩ := proved
  exact ⟨before, call, requested, read, draw, outcome, after ++ [event], values, value, by simp,
    known⟩

structure Vouched (trace : List (DomainEvent Id)) (record : DomainRecord) : Prop where
  created : CreatedAs trace record
  proved : record.status = .active → ControlProved trace record ∧ record.verifiedAt.isSome = true

theorem Vouched.concat (vouched : Vouched trace record) : Vouched (trace ++ [event]) record :=
  ⟨vouched.created.concat, fun active =>
    ⟨(vouched.proved active).1.concat, (vouched.proved active).2⟩⟩

structure DomainsVouched (store : DomainStore) (trace : List (DomainEvent Id)) : Prop where
  vouched : ∀ record ∈ store.rows, Vouched trace record
  gone : ∀ id, DomainGone trace id → store.find? id = none

def DomainHolding (_ : DomainStore) (trace : List (DomainEvent Id)) (id : Id) : DomainCall → Prop
  | .verifying requested => Serves trace id (.verify requested)
  | .resolving read name => name = verificationName read.hostname ∧ CreatedAs trace read ∧
      ∃ requested, Serves trace id (.verify requested) ∧ trimSpace requested = read.id
  | .updating read status verifiedAt now =>
    Vouched trace { read with status, verifiedAt, updatedAt := now }
  | _ => True

theorem DomainHolding.concat {call : DomainCall} (holds : DomainHolding store trace id call)
    (other : event.starts? ≠ some id) : DomainHolding next (trace ++ [event]) id call := by
  cases call with
  | verifying => exact Serves.concat holds other
  | resolving =>
    obtain ⟨named, created, requested, serves, same⟩ := holds
    exact ⟨named, created.concat, requested, serves.concat other, same⟩
  | updating => exact Vouched.concat holds
  | _ => trivial

theorem DomainsVouched.quiet (holds : DomainsVouched store trace)
    (deletesNone : domainDeleted? event = none) : DomainsVouched store (trace ++ [event]) := by
  refine ⟨fun record member => (holds.vouched record member).concat, fun id gone => ?_⟩
  rcases stands_concat.mp gone with deleted | ⟨gone, -⟩
  · rw [deletesNone] at deleted
    cases deleted
  · exact holds.gone id gone

theorem DomainsVouched.create (holds : DomainsVouched store trace)
    (inserted : store.insert? record = some next) (pending : record.status ≠ .active)
    (creates : domainCreated? event = some record.summary)
    (deletesNone : domainDeleted? event = none) : DomainsVouched next (trace ++ [event]) := by
  obtain ⟨-, -, rows⟩ := Table.insert?_eq_some inserted
  refine ⟨fun held member => ?_, fun id gone => ?_⟩
  · rcases (rows held).mp member with rfl | old
    · exact ⟨⟨event, by simp, held.summary, creates, rfl, rfl, rfl⟩,
        fun active => absurd active pending⟩
    · exact (holds.vouched held old).concat
  · rcases stands_concat.mp gone with deleted | ⟨gone, notCreated⟩
    · rw [deletesNone] at deleted
      cases deleted
    · have different : id ≠ record.id := fun same => notCreated ⟨record.summary, creates, same.symm⟩
      rw [Table.find?_insert? inserted, if_neg different]
      exact holds.gone id gone

theorem DomainsVouched.update (holds : DomainsVouched store trace)
    (replaced : store.replace? record = some next) (vouched : Vouched trace record)
    (deletesNone : domainDeleted? event = none) : DomainsVouched next (trace ++ [event]) := by
  obtain ⟨⟨_, found⟩, rows⟩ := Table.replace?_eq_some replaced
  refine ⟨fun held member => ?_, fun id gone => ?_⟩
  · rcases (rows held).mp member with rfl | ⟨there, -⟩
    · exact vouched.concat
    · exact (holds.vouched held there).concat
  · rcases stands_concat.mp gone with deleted | ⟨gone, -⟩
    · rw [deletesNone] at deleted
      cases deleted
    · -- only a stored id can be overwritten, and a deleted one is not stored
      have missing := holds.gone id gone
      have different : id ≠ record.id := by
        rintro rfl
        rw [found] at missing
        cases missing
      rw [Table.find?_replace? replaced, if_neg different]
      exact missing

theorem DomainsVouched.remove (holds : DomainsVouched store trace) {id : Bytes}
    (deletes : domainDeleted? event = some id) :
    DomainsVouched (store.remove id) (trace ++ [event]) := by
  refine ⟨fun record member => ?_, fun other gone => ?_⟩
  · exact (holds.vouched record (Table.mem_remove.mp member).1).concat
  rw [Table.find?_remove]
  split
  · rfl
  next different =>
    rcases stands_concat.mp gone with deleted | ⟨gone, -⟩
    · rw [deletes] at deleted
      exact absurd (Option.some.inj deleted).symm different
    · exact holds.gone other gone

theorem domains_vouched_create (id : Id) (request : CreateDomainRequest) (draw : DomainDraw)
    (holds : DomainsVouched store trace) :
    DomainsVouched (createDomain store request draw).1
      (trace ++ [.stepped id (.creating request) draw
        (.returns (createDomain store request draw).2)]) := by
  rcases createDomain_cases store request draw with
    ⟨err, failed⟩ | ⟨record, next, made, inserted, succeeded⟩
  · rw [failed]
    exact holds.quiet rfl
  · rw [succeeded]
    refine holds.create inserted ?_ rfl rfl
    rw [(newDomain_eq_ok made).1]
    decide

theorem domains_vouched_update {status : DomainStatus} {verifiedAt : Option Nat} {now : Nat}
    (draw : DomainDraw) (holds : DomainsVouched store trace)
    (vouched : Vouched trace { read with status, verifiedAt, updatedAt := now }) :
    DomainsVouched
      (storeVerification store { read with status, verifiedAt, updatedAt := now } draw).1
      (trace ++ [.stepped id (.updating read status verifiedAt now) draw
        (.returns (storeVerification store { read with status, verifiedAt, updatedAt := now }
          draw).2)]) := by
  rcases storeVerification_cases store { read with status, verifiedAt, updatedAt := now } draw with
    ⟨err, failed⟩ | ⟨next, replaced, succeeded⟩
  · rw [failed]
    exact holds.quiet rfl
  · rw [succeeded]
    exact holds.update replaced vouched rfl

theorem vouched_of_resolve {name : Bytes} (draw : DomainDraw)
    (holding : DomainHolding store trace id (.resolving read name)) :
    DomainHolding next (trace ++ [.stepped id (.resolving read name) draw
      (.continues (resolveDomain read draw))]) id (resolveDomain read draw) := by
  obtain ⟨rfl, created, requested, serves, same⟩ := holding
  rcases resolveDomain_eq read draw with ⟨values, answered, matching, resolved⟩ | resolved
  · simp only [verificationTXTMatches, List.any_eq_true, Bool.or_eq_true, decide_eq_true_eq]
      at matching
    obtain ⟨value, member, proof⟩ := matching
    rw [resolved]
    refine ⟨CreatedAs.concat created, fun _ => ⟨?_, rfl⟩⟩
    exact ⟨trace, id, requested, read, draw, _, [], values, value, rfl, serves, same, answered,
      member, proof⟩
  · rw [resolved]
    refine ⟨CreatedAs.concat created, fun active => ?_⟩
    cases active

theorem domains_rely [DecidableEq Id] : domainService.Rely (fun _ _ _ => True)
      (fun store (trace : List (DomainEvent Id)) => DomainsVouched store trace)
      DomainHolding where
  start id request holds := by
    refine ⟨holds.quiet rfl, ?_⟩
    cases request with
    | verify => exact serves_started _ id _
    | _ => trivial
  start_other request other _ holding :=
    holding.concat fun same => other (Option.some.inj same).symm
  advance := by
    intro store trace id call draw holds holding _
    cases call with
    | creating request =>
      exact ⟨domains_vouched_create id request draw holds, by rintro _ ⟨⟩⟩
    | verifying requested =>
      refine ⟨holds.quiet rfl, fun next continued => ?_⟩
      obtain ⟨record, rfl, member, keyed, -⟩ := lookupDomain_eq_continues continued
      refine ⟨rfl, (holds.vouched record member).created.concat, requested,
        Serves.concat holding (by simp [Event.starts?]), keyed.symm⟩
    | resolving =>
      refine ⟨holds.quiet rfl, fun next continued => ?_⟩
      cases continued
      exact vouched_of_resolve draw holding
    | updating =>
      exact ⟨domains_vouched_update draw holds holding, by rintro _ ⟨⟩⟩
    | deleting =>
      refine ⟨holds.quiet rfl, fun next continued => ?_⟩
      rw [lookupDeletedDomain_eq_continues continued]
      trivial
    | removing =>
      simp only [domainService]
      split
      · exact ⟨holds.quiet rfl, by rintro _ ⟨⟩⟩
      · exact ⟨holds.remove rfl, by rintro _ ⟨⟩⟩
    | getting | gettingByHostname => exact ⟨holds.quiet rfl, by rintro _ ⟨⟩⟩
    | listing =>
      simp only [domainService]
      split <;> exact ⟨holds.quiet rfl, by rintro _ ⟨⟩⟩
  advance_other _ _ _ _ holding := holding.concat (by simp [Event.starts?])

abbrev DomainState (Id : Type) :=
  State Id DomainStore DomainRequest DomainCall DomainDraw DomainReply

/-- An active domain is one whose control was proved, under the hostname and token it
was created with, and a deleted id comes back by `CreateDomain` only. -/
theorem domain_active_by_proof [DecidableEq Id] {state : DomainState Id}
    (reached : Reaches domainService.step { store := Table.empty } state) :
    (∀ record ∈ state.store.rows, CreatedAs state.trace record ∧ (record.status = .active →
        ControlProved state.trace record ∧ record.verifiedAt.isSome = true)) ∧
    ∀ id, DomainGone state.trace id → state.store.find? id = none := by
  have start : DomainsVouched Table.empty ([] : List (DomainEvent Id)) := by
    refine ⟨fun record member => ?_, fun id gone => absurd gone not_stands_nil⟩
    cases member
  have holds := (domains_rely.reached ⟨start, by rintro _ _ ⟨⟩⟩ reached).1
  exact ⟨fun record member =>
    ⟨(holds.vouched record member).created, (holds.vouched record member).proved⟩, holds.gone⟩

def shopRun : List (Action Nat DomainRequest DomainDraw) :=
  [.start 0 (.create { hostname := ascii "Shop.test", reservedSubdomainID := ascii "rs_1" }),
    .advance 0 { now := 1, id := some [1, 2, 3], token := some [4, 5, 6] },
    .start 1 (.verify (ascii "cd_AQID")), .advance 1 {},
    .advance 1 { now := 2, txt := some [ascii "spf", ascii " phdv_BAUG"] }, .advance 1 {}]

theorem domain_active_by_proof_shop :
    ∃ state, exec domainService.step { store := Table.empty } shopRun = some state ∧
      ∃ record, state.store.rows = [record] ∧ record.status = .active ∧
        ControlProved state.trace record :=
  ⟨_, rfl, _, rfl, rfl,
    (((domain_active_by_proof ⟨shopRun, rfl⟩).1 _ (List.mem_singleton.mpr rfl)).2 rfl).1⟩

/-- A failed verification stores its result over the record it has read, or over
nothing: the record has not been verified, deleted or replaced in between. -/
def FailsUnchanged (store : DomainStore) (call : DomainCall) (_ : DomainDraw) : Prop :=
  match call with
  | .updating read status _ _ =>
    status = .active ∨ store.find? read.id = none ∨ store.find? read.id = some read
  | _ => True

instance (store : DomainStore) (call : DomainCall) (draw : DomainDraw) :
    Decidable (FailsUnchanged store call draw) :=
  match call with
  | .updating _ _ _ _ => inferInstanceAs (Decidable (_ ∨ _ ∨ _))
  | .creating _ | .verifying _ | .resolving _ _ | .deleting _ | .removing _ | .getting _
  | .gettingByHostname _ | .listing => isTrue trivial

/-- A domain that was stored as active is active until it is deleted. -/
def StaysActive (store : DomainStore) (trace : List (DomainEvent Id)) : Prop :=
  ∀ id, DomainActivated trace id → ∃ record, store.find? id = some record ∧
    record.status = .active ∧ record.verifiedAt.isSome = true

def VerifyHolding (_ : DomainStore) (_ : List (DomainEvent Id)) (_ : Id) : DomainCall → Prop
  | .resolving read _ => read.status ≠ .active
  | .updating read status verifiedAt _ => read.status ≠ .active ∧
      (status = .active → verifiedAt.isSome = true)
  | _ => True

theorem VerifyHolding.concat {other : List (DomainEvent Id)} {call : DomainCall}
    (holds : VerifyHolding store trace id call) : VerifyHolding next other id call := by
  cases call <;> exact holds

theorem StaysActive.quiet (stays : StaysActive store trace)
    (same : ∀ id record, store.find? id = some record → next.find? id = some record)
    (activatesNone : domainActivated? event = none) : StaysActive next (trace ++ [event]) := by
  intro id activated
  rcases stands_concat.mp activated with active | ⟨activated, -⟩
  · rw [activatesNone] at active
    cases active
  · obtain ⟨record, found, known⟩ := stays id activated
    exact ⟨record, same id record found, known⟩

theorem StaysActive.create (stays : StaysActive store trace)
    (inserted : store.insert? record = some next) (activatesNone : domainActivated? event = none) :
    StaysActive next (trace ++ [event]) := by
  refine stays.quiet (fun id held found => ?_) activatesNone
  have different : id ≠ record.id := by
    rintro rfl
    rw [(Table.insert?_eq_some inserted).1] at found
    cases found
  rw [Table.find?_insert? inserted, if_neg different]
  exact found

theorem StaysActive.remove (stays : StaysActive store trace) {gone : Bytes}
    (deletes : domainDeleted? event = some gone) (activatesNone : domainActivated? event = none) :
    StaysActive (store.remove gone) (trace ++ [event]) := by
  intro id activated
  rcases stands_concat.mp activated with active | ⟨activated, kept⟩
  · rw [activatesNone] at active
    cases active
  · have different : id ≠ gone := by
      rintro rfl
      exact kept deletes
    rw [Table.find?_remove, if_neg different]
    exact stays id activated

theorem staysActive_update {status : DomainStatus} {verifiedAt : Option Nat} {now : Nat}
    {draw : DomainDraw} (stays : StaysActive store trace)
    (holding : VerifyHolding store trace id (.updating read status verifiedAt now))
    (unchanged : FailsUnchanged store (.updating read status verifiedAt now) draw)
    (replaced : store.replace? { read with status, verifiedAt, updatedAt := now } = some next) :
    StaysActive next (trace ++ [.stepped id (.updating read status verifiedAt now) draw
      (.returns (.verified
        (DomainRecord.summary { read with status, verifiedAt, updatedAt := now })))]) := by
  obtain ⟨inactive, stamped⟩ := holding
  intro wanted activated
  rw [Table.find?_replace? replaced]
  split
  next same =>
    refine ⟨_, rfl, ?_⟩
    rcases unchanged with active | missing | found
    · exact ⟨active, stamped active⟩
    · obtain ⟨⟨_, there⟩, -⟩ := Table.replace?_eq_some replaced
      rw [missing] at there
      cases there
    · rcases stands_concat.mp activated with active | ⟨activated, -⟩
      · cases status with
        | active => exact ⟨rfl, stamped rfl⟩
        | pendingVerification | verificationFailed => cases active
      · -- the record it read is stored, and it is not active
        obtain ⟨_, stored, active, -⟩ := stays wanted activated
        rw [same, found] at stored
        cases stored
        exact absurd active inactive
  next different =>
    rcases stands_concat.mp activated with active | ⟨activated, -⟩
    · cases status with
      | active => exact absurd (Option.some.inj active).symm different
      | pendingVerification | verificationFailed => cases active
    · exact stays wanted activated

theorem verifications_rely [DecidableEq Id] : domainService.Rely FailsUnchanged
      (fun store (trace : List (DomainEvent Id)) => StaysActive store trace) VerifyHolding where
  start id request stays := by
    refine ⟨stays.quiet (fun _ _ found => found) rfl, ?_⟩
    cases request <;> trivial
  start_other request other _ holding := holding.concat
  advance := by
    intro store trace id call draw stays holding unchanged
    have still : ∀ id record, store.find? id = some record → store.find? id = some record :=
      fun _ _ found => found
    cases call with
    | creating request =>
      refine ⟨?_, by rintro _ ⟨⟩⟩
      simp only [domainService]
      rcases createDomain_cases store request draw with
        ⟨err, failed⟩ | ⟨record, next, -, inserted, succeeded⟩
      · rw [failed]
        exact stays.quiet still rfl
      · rw [succeeded]
        exact stays.create inserted rfl
    | verifying =>
      refine ⟨stays.quiet still rfl, fun next continued => ?_⟩
      obtain ⟨_, rfl, -, -, inactive⟩ := lookupDomain_eq_continues continued
      exact inactive
    | resolving read =>
      refine ⟨stays.quiet still rfl, fun next continued => ?_⟩
      cases continued
      rcases resolveDomain_eq read draw with ⟨_, -, -, resolved⟩ | resolved
      · rw [resolved]
        exact ⟨holding, fun _ => rfl⟩
      · rw [resolved]
        exact ⟨holding, by rintro ⟨⟩⟩
    | updating read status verifiedAt now =>
      refine ⟨?_, by rintro _ ⟨⟩⟩
      simp only [domainService]
      rcases storeVerification_cases store { read with status, verifiedAt, updatedAt := now }
        draw with ⟨err, failed⟩ | ⟨next, replaced, succeeded⟩
      · rw [failed]
        exact stays.quiet still (by cases status <;> rfl)
      · rw [succeeded]
        exact staysActive_update stays holding unchanged replaced
    | deleting =>
      refine ⟨stays.quiet still rfl, fun next continued => ?_⟩
      rw [lookupDeletedDomain_eq_continues continued]
      trivial
    | removing =>
      simp only [domainService]
      split
      · exact ⟨stays.quiet still rfl, by rintro _ ⟨⟩⟩
      · exact ⟨stays.remove rfl rfl, by rintro _ ⟨⟩⟩
    | getting | gettingByHostname => exact ⟨stays.quiet still rfl, by rintro _ ⟨⟩⟩
    | listing =>
      simp only [domainService]
      split <;> exact ⟨stays.quiet still rfl, by rintro _ ⟨⟩⟩
  advance_other _ _ _ _ holding := holding.concat

/-- Where each failed verification still finds the record it has read, a verified
domain is active, with the time of its verification, until it is deleted. -/
theorem verified_domain_stays_active [DecidableEq Id] (store : DomainStore)
    (actions : List (Action Id DomainRequest DomainDraw))
    (unchanged : Guarded domainService.step (Service.Meets FailsUnchanged)
      ({ store } : DomainState Id) actions) :
    Always domainService.step (fun state => StaysActive state.store state.trace)
      ({ store } : DomainState Id) actions := by
  have start : Holds (fun store (trace : List (DomainEvent Id)) => StaysActive store trace)
      VerifyHolding ({ store } : DomainState Id) :=
    ⟨fun id activated => absurd activated not_stands_nil, by rintro _ _ ⟨⟩⟩
  exact (verifications_rely.always start unchanged).mono fun _ holds => holds.1

/-- Two verifications of one domain overlap: the resolver's answer to the slower one
does not have the record any more. -/
def overlapRun : List (Action Nat DomainRequest DomainDraw) :=
  shopRun.take 3 ++ [.start 2 (.verify (ascii "cd_AQID")), .advance 1 {}, .advance 2 {},
    .advance 1 { now := 2, txt := some [ascii "phdv_BAUG"] }, .advance 2 { now := 3 },
    .advance 1 {}, .advance 2 {}]

theorem overlapping_verification_demotes :
    ∃ state, exec domainService.step ({ store := Table.empty } : DomainState Nat) overlapRun =
        some state ∧ DomainActivated state.trace (ascii "cd_AQID") ∧
      (state.store.find? (ascii "cd_AQID")).map DomainRecord.status = some .verificationFailed :=
  ⟨_, rfl, stands_concat.mpr (.inr ⟨stands_concat.mpr (.inl rfl), nofun⟩), rfl⟩

theorem verified_domain_stays_active_shop :
    Guarded domainService.step (Service.Meets FailsUnchanged)
        ({ store := Table.empty } : DomainState Nat) shopRun ∧
      Always domainService.step (fun state => StaysActive state.store state.trace)
        ({ store := Table.empty } : DomainState Nat) shopRun :=
  have unchanged : Guarded domainService.step (Service.Meets FailsUnchanged)
      ({ store := Table.empty } : DomainState Nat) shopRun := by decide
  ⟨unchanged, verified_domain_stays_active Table.empty shopRun unchanged⟩

end Porthook.ControlPlane
