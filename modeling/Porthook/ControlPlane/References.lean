import Porthook.ControlPlane.Access
import Porthook.ControlPlane.Domains
import Porthook.ControlPlane.Reservations

/-!
# What refers to a reservation

The admin API looks for the reservation before it creates an access policy or a custom domain, and
another call can delete it in between.  The foreign keys of the database delete what refers to a
deleted reservation; the stores in memory know nothing of each other.
-/

namespace Porthook.ControlPlane

open Protocol Transition Calls

structure Holdings where
  reservations : ReservationStore := .empty
  policies : PolicyStore := .empty
  domains : DomainStore := .empty

namespace Holdings

variable (backend : Backend) (store : Holdings)

def reserved (id : Bytes) : Bool := (store.reservations.lookupByID id).isSome

def Refers (id : Bytes) : Prop :=
  (∃ policy ∈ store.policies.rows, policy.reservedSubdomainID = id) ∨
    ∃ domain ∈ store.domains.rows, domain.reservedSubdomainID = id

instance (id : Bytes) : Decidable (store.Refers id) := inferInstanceAs (Decidable (_ ∨ _))

def Integral : Prop := ∀ id, store.Refers id → store.reserved id = true

/-- The foreign keys are `ON DELETE CASCADE`. -/
def setReservations (reservations : ReservationStore) : Holdings :=
  match backend with
  | .memory => { store with reservations }
  | .postgres =>
    let deleted (id : Bytes) : Bool := store.reserved id && (reservations.lookupByID id).isNone
    { reservations
      policies := store.policies.filter fun policy => !deleted policy.reservedSubdomainID
      domains := store.domains.filter fun domain => !deleted domain.reservedSubdomainID }

def refuses (references : List Bytes) : Bool :=
  backend = .postgres && references.any fun id => !store.reserved id

end Holdings

inductive AdminRequest where
  | reservation (request : ReservationRequest)
  | policy (request : PolicyRequest)
  | domain (request : DomainRequest)

/-- Where a handler is: at what it checks before it creates something, or in the call
of a service. -/
inductive AdminCall where
  | checkingToken (request : CreateReservationRequest)
  | checkingPolicy (request : CreatePolicyRequest)
  | checkingDomain (request : CreateDomainRequest)
  | reservation (call : ReservationCall)
  | policy (call : PolicyCall)
  | domain (call : DomainCall)

/-- What a step gets from outside; `tokenError` is the message for a reservation whose
token cannot be used. -/
structure AdminDraw where
  tokenError : Option Bytes := none
  reservation : ReservationDraw := {}
  policy : PolicyDraw := {}
  domain : DomainDraw := {}

inductive AdminReply where
  | refused (message : Bytes)
  | reservation (reply : ReservationReply)
  | policy (reply : PolicyReply)
  | domain (reply : DomainReply)

def checkReservation (store : Holdings) (id : Bytes) (draw : AdminDraw) (creating : AdminCall) :
    Outcome AdminCall AdminReply :=
  match getReservation store.reservations id draw.reservation with
  | .failed err => .returns (.reservation (.failed err))
  | .found (some _) => .continues creating
  | _ => .returns (.refused (ascii "reserved_subdomain_id was not found"))

/-- The database does not tell a policy of another reservation from none. -/
def Backend.policyOutcome : Backend → PolicyCall → Outcome PolicyCall PolicyReply →
    Outcome PolicyCall PolicyReply
  | .postgres, .storing _, .returns (.failed .reservedSubdomainIDRequired) =>
    .returns (.failed .notFound)
  | _, _, outcome => outcome

def adminService (backend : Backend) (hashing : Hashing) :
    Service Holdings AdminRequest AdminCall AdminDraw AdminReply where
  enter
    | .reservation (.create request) => .checkingToken request
    | .reservation request => .reservation request.call
    | .policy (.create request) => .checkingPolicy request
    | .policy request => .policy request.call
    | .domain (.create request) => .checkingDomain request
    | .domain request => .domain request.call
  advance store
    | .checkingToken request, draw =>
      match draw.tokenError with
      | some message => (store, .returns (.refused message))
      | none => (store, .continues (.reservation (.creating request)))
    | .checkingPolicy request, draw =>
      (store, checkReservation store request.reservedSubdomainID draw (.policy (.creating request)))
    | .checkingDomain request, draw =>
      (store, checkReservation store request.reservedSubdomainID draw (.domain (.creating request)))
    | .reservation call, draw =>
      let (reservations, outcome) :=
        reservationService.advance store.reservations call draw.reservation
      (store.setReservations backend reservations, outcome.map .reservation .reservation)
    | .policy call, draw =>
      let (policies, outcome) := (policyService hashing).advance store.policies call draw.policy
      if store.refuses backend (policies.rows.map PolicyRecord.reservedSubdomainID) then
        (store, .returns (.policy (.failed .storeFailed)))
      else ({ store with policies }, (backend.policyOutcome call outcome).map .policy .policy)
    | .domain call, draw =>
      let (domains, outcome) := domainService.advance store.domains call draw.domain
      if store.refuses backend (domains.rows.map DomainRecord.reservedSubdomainID) then
        (store, .returns (.domain (.failed .storeFailed)))
      else ({ store with domains }, outcome.map .domain .domain)

/-- In memory, nothing refers to a reservation when it is deleted, and what is written refers to one
that is still there; a policy is written in the place of one of the same reservation. -/
def Careful : Backend → Holdings → AdminCall → AdminDraw → Prop
  | .memory, store, .reservation (.removing id), _ => ¬ store.Refers id
  | .memory, store, .policy (.creating request), _ =>
    store.reserved (trimSpace request.reservedSubdomainID) = true
  | .memory, store, .policy (.storing record), _ =>
    ∀ existing, store.policies.lookupByID record.id = some existing →
      existing.reservedSubdomainID = record.reservedSubdomainID
  | .memory, store, .domain (.creating request), _ =>
    store.reserved (trimSpace request.reservedSubdomainID) = true
  | .memory, store, .domain (.updating record _ _ _), _ =>
    store.reserved record.reservedSubdomainID = true
  | _, _, _, _ => True

variable {reservations : ReservationStore}

theorem reservation_kept {call : ReservationCall} (draw : ReservationDraw)
    {record : ReservationRecord} (member : record ∈ reservations.rows)
    (kept : call ≠ .removing record.id) :
    record ∈ (reservationService.advance reservations call draw).1.rows := by
  cases call with
  | creating request =>
    rcases createReservation_cases reservations request draw with
      ⟨err, failed⟩ | ⟨created, next, -, inserted, done⟩
    · simpa only [reservationService, failed] using member
    · simp only [reservationService, done]
      exact ((Table.insert?_eq_some inserted).2.2 record).mpr (.inr member)
  | removing =>
    simp only [reservationService]
    split
    · exact member
    · exact Table.mem_remove.mpr ⟨member, fun same => kept (same ▸ rfl)⟩
  | listing =>
    simp only [reservationService]
    split <;> exact member
  | _ => exact member

theorem newPolicyRecord_reserved {hashing : Hashing} {request : CreatePolicyRequest}
    {draw : PolicyDraw} {record : PolicyRecord}
    (made : newPolicyRecord hashing request draw = .ok record) :
    record.reservedSubdomainID = trimSpace request.reservedSubdomainID := by
  simp only [newPolicyRecord, Except.bind, Except.map] at made
  repeat' split at made
  all_goals cases made
  all_goals rfl

theorem PolicyStore.update_reserved {store next : PolicyStore} {record policy : PolicyRecord}
    (updated : update store record = .ok next) (member : policy ∈ next.rows) :
    ∃ old ∈ store.rows, old.reservedSubdomainID = policy.reservedSubdomainID := by
  rcases ((Table.replace?_eq_some (update_eq_ok updated)).2 policy).mp member with rfl | ⟨held, -⟩
  · unfold update at updated
    repeat' split at updated
    all_goals cases updated
    next existing found same =>
      exact ⟨existing, (Table.find?_eq_some_iff.mp found).1, not_not.mp same⟩
  · exact ⟨policy, held, rfl⟩

theorem policies_reserved {hashing : Hashing} {store : PolicyStore} {call : PolicyCall}
    {draw : PolicyDraw} {policy : PolicyRecord}
    (member : policy ∈ ((policyService hashing).advance store call draw).1.rows) :
    (∃ old ∈ store.rows, old.reservedSubdomainID = policy.reservedSubdomainID) ∨
      ∃ request, call = .creating request ∧
        policy.reservedSubdomainID = trimSpace request.reservedSubdomainID := by
  cases call with
  | creating request =>
    rcases createPolicy_cases hashing store request draw with
      ⟨err, failed⟩ | ⟨record, id, next, made, -, inserted, done⟩
    · simp only [policyService, failed] at member
      exact .inl ⟨policy, member, rfl⟩
    · simp only [policyService, done] at member
      rcases ((Table.insert?_eq_some inserted).2.2 policy).mp member with rfl | held
      · have named := newPolicyRecord_reserved made
        exact .inr ⟨request, rfl, named⟩
      · exact .inl ⟨policy, held, rfl⟩
  | storing =>
    simp only [policyService, storePolicy] at member
    repeat' split at member
    next => exact .inl ⟨policy, member, rfl⟩
    next => exact .inl ⟨policy, member, rfl⟩
    next updated => exact .inl (PolicyStore.update_reserved updated member)
  | upgrading =>
    simp only [policyService, upgradeBasicAuthHash] at member
    repeat' split at member
    next => exact .inl ⟨policy, member, rfl⟩
    next => exact .inl ⟨policy, member, rfl⟩
    next => exact .inl ⟨policy, member, rfl⟩
    next updated => exact .inl (PolicyStore.update_reserved updated member)
  | removing =>
    simp only [policyService] at member
    split at member
    · exact .inl ⟨policy, member, rfl⟩
    · exact .inl ⟨policy, (Table.mem_remove.mp member).1, rfl⟩
  | listing =>
    simp only [policyService] at member
    split at member <;> exact .inl ⟨policy, member, rfl⟩
  | _ => exact .inl ⟨policy, member, rfl⟩

theorem newDomain_reserved {request : CreateDomainRequest} {draw : DomainDraw}
    {record : DomainRecord} (made : newDomain request draw = .ok record) :
    record.reservedSubdomainID = trimSpace request.reservedSubdomainID := by
  simp only [newDomain, Except.bind] at made
  repeat' split at made
  all_goals cases made
  rfl

theorem domains_reserved {store : DomainStore} {call : DomainCall} {draw : DomainDraw}
    {domain : DomainRecord} (member : domain ∈ (domainService.advance store call draw).1.rows) :
    domain ∈ store.rows ∨ (∃ request, call = .creating request ∧
        domain.reservedSubdomainID = trimSpace request.reservedSubdomainID) ∨
      ∃ record status verifiedAt now, call = .updating record status verifiedAt now ∧
        domain.reservedSubdomainID = record.reservedSubdomainID := by
  cases call with
  | creating request =>
    rcases createDomain_cases store request draw with
      ⟨err, failed⟩ | ⟨record, next, made, inserted, done⟩
    · simp only [domainService, failed] at member
      exact .inl member
    · simp only [domainService, done] at member
      rcases ((Table.insert?_eq_some inserted).2.2 domain).mp member with rfl | held
      · exact .inr (.inl ⟨request, rfl, newDomain_reserved made⟩)
      · exact .inl held
  | updating record status verifiedAt now =>
    rcases storeVerification_cases store { record with status, verifiedAt, updatedAt := now } draw
      with ⟨err, failed⟩ | ⟨next, replaced, done⟩
    · simp only [domainService, failed] at member
      exact .inl member
    · simp only [domainService, done] at member
      rcases ((Table.replace?_eq_some replaced).2 domain).mp member with rfl | ⟨held, -⟩
      · exact .inr (.inr ⟨record, status, verifiedAt, now, rfl, rfl⟩)
      · exact .inl held
  | removing =>
    simp only [domainService] at member
    split at member
    · exact .inl member
    · exact .inl (Table.mem_remove.mp member).1
  | listing =>
    simp only [domainService] at member
    split at member <;> exact .inl member
  | _ => exact .inl member

theorem lookupByID_isSome_iff {id : Bytes} :
    (reservations.lookupByID id).isSome = true ↔ ∃ record ∈ reservations.rows, record.id = id := by
  simp only [ReservationStore.lookupByID, Option.isSome_iff_exists, Table.find?_eq_some_iff]

namespace Holdings

variable {store : Holdings}

theorem not_refuses {backend : Backend} {references : List Bytes}
    (whole : ∀ id ∈ references, store.reserved id = true) :
    store.refuses backend references = false := by
  simp only [refuses, Bool.and_eq_false_iff, List.any_eq_false]
  exact .inr fun id member => by simp [whole id member]

variable {reservations : ReservationStore}

theorem refers_setReservations {backend : Backend} {id : Bytes}
    (refers : (store.setReservations backend reservations).Refers id) : store.Refers id := by
  cases backend with
  | memory => exact refers
  | postgres =>
    rcases refers with ⟨policy, member, same⟩ | ⟨domain, member, same⟩
    · exact .inl ⟨policy, List.mem_of_mem_filter member, same⟩
    · exact .inr ⟨domain, List.mem_of_mem_filter member, same⟩

theorem setReservations_eq
    (kept : ∀ id, store.Refers id → (reservations.lookupByID id).isSome = true) :
    store.setReservations .postgres reservations = { store with reservations } := by
  have policies : ∀ policy ∈ store.policies.rows, (!(store.reserved policy.reservedSubdomainID &&
      (reservations.lookupByID policy.reservedSubdomainID).isNone)) = true := by
    intro policy member
    have there := kept _ (.inl ⟨policy, member, rfl⟩)
    simp [Option.isNone_eq_false_iff.mpr there]
  have domains : ∀ domain ∈ store.domains.rows, (!(store.reserved domain.reservedSubdomainID &&
      (reservations.lookupByID domain.reservedSubdomainID).isNone)) = true := by
    intro domain member
    have there := kept _ (.inr ⟨domain, member, rfl⟩)
    simp [Option.isNone_eq_false_iff.mpr there]
  simp only [setReservations, Holdings.mk.injEq, true_and]
  exact ⟨Table.ext (List.filter_eq_self.mpr policies), Table.ext (List.filter_eq_self.mpr domains)⟩

theorem Integral.setReservations (whole : store.Integral) (reservations : ReservationStore) :
    (store.setReservations .postgres reservations).Integral := by
  intro id refers
  have before := whole id (refers_setReservations refers)
  rcases refers with ⟨_, member, rfl⟩ | ⟨_, member, rfl⟩
  · have stays := (List.mem_filter.mp member).2
    simp only [before, Bool.true_and, Option.not_isNone] at stays
    exact stays
  · have stays := (List.mem_filter.mp member).2
    simp only [before, Bool.true_and, Option.not_isNone] at stays
    exact stays

end Holdings

section Runs

variable {hashing : Hashing} {store : Holdings} {call : AdminCall} {draw : AdminDraw}

/-- The database keeps the references whole, whatever is called. -/
theorem integral_advance (whole : store.Integral) :
    ((adminService .postgres hashing).advance store call draw).1.Integral := by
  cases call with
  | checkingToken =>
    simp only [adminService]
    split <;> exact whole
  | checkingPolicy | checkingDomain => exact whole
  | reservation => exact whole.setReservations _
  | policy =>
    simp only [adminService]
    split
    · exact whole
    next allowed =>
      simp only [Holdings.refuses, decide_true, Bool.true_and, List.any_map, List.any_eq_true,
        not_exists, not_and, Function.comp_apply, Bool.not_eq_true', Bool.not_eq_false] at allowed
      rintro id (⟨policy, member, rfl⟩ | other)
      · exact allowed policy member
      · exact whole id (.inr other)
  | domain =>
    simp only [adminService]
    split
    · exact whole
    next allowed =>
      simp only [Holdings.refuses, decide_true, Bool.true_and, List.any_map, List.any_eq_true,
        not_exists, not_and, Function.comp_apply, Bool.not_eq_true', Bool.not_eq_false] at allowed
      rintro id (other | ⟨domain, member, rfl⟩)
      · exact whole id (.inl other)
      · exact allowed domain member

theorem policyOutcome_eq {call : PolicyCall} (careful : Careful .memory store (.policy call) draw) :
    Backend.postgres.policyOutcome call
        ((policyService hashing).advance store.policies call draw.policy).2 =
      ((policyService hashing).advance store.policies call draw.policy).2 := by
  cases call with
  | storing record =>
    simp only [policyService, storePolicy, PolicyStore.update]
    split
    · rfl
    cases found : store.policies.find? record.id with
    | none => rfl
    | some existing =>
      simp only [careful existing found, ne_eq, not_true_eq_false, if_false]
      rfl
  | _ => rfl

theorem advance_agrees (whole : store.Integral) (careful : Careful .memory store call draw) :
    (adminService .memory hashing).advance store call draw =
      (adminService .postgres hashing).advance store call draw := by
  cases call with
  | checkingToken | checkingPolicy | checkingDomain => rfl
  | reservation call =>
    have kept : ∀ id, store.Refers id → ((reservationService.advance store.reservations call
        draw.reservation).1.lookupByID id).isSome = true := by
      intro id refers
      obtain ⟨record, member, rfl⟩ := lookupByID_isSome_iff.mp (whole id refers)
      refine lookupByID_isSome_iff.mpr ⟨record, reservation_kept draw.reservation member ?_, rfl⟩
      rintro rfl
      exact careful refers
    simp only [adminService, Holdings.setReservations_eq kept]
    rfl
  | policy call =>
    have allowed : ∀ backend, store.refuses backend (((policyService hashing).advance
        store.policies call draw.policy).1.rows.map PolicyRecord.reservedSubdomainID) = false := by
      refine fun backend => Holdings.not_refuses fun id member => ?_
      obtain ⟨_, written, rfl⟩ := List.mem_map.mp member
      rcases policies_reserved written with ⟨old, held, same⟩ | ⟨_, rfl, named⟩
      · exact whole _ (.inl ⟨old, held, same⟩)
      · rw [named]
        exact careful
    simp only [adminService, allowed, Bool.false_eq_true, if_false, policyOutcome_eq careful]
    rfl
  | domain call =>
    have allowed : ∀ backend, store.refuses backend ((domainService.advance
        store.domains call draw.domain).1.rows.map DomainRecord.reservedSubdomainID) = false := by
      refine fun backend => Holdings.not_refuses fun id member => ?_
      obtain ⟨domain, written, rfl⟩ := List.mem_map.mp member
      rcases domains_reserved written with
        held | ⟨request, rfl, named⟩ | ⟨record, status, verifiedAt, now, rfl, named⟩
      · exact whole _ (.inr ⟨domain, held, rfl⟩)
      · rw [named]
        exact careful
      · rw [named]
        exact careful
    simp [adminService, allowed]

theorem integral_careful {backend : Backend} (whole : store.Integral)
    (careful : Careful backend store call draw) :
    ((adminService backend hashing).advance store call draw).1.Integral := by
  cases backend with
  | memory =>
    rw [advance_agrees whole careful]
    exact integral_advance whole
  | postgres => exact integral_advance whole

/-- A reservation is gone with what referred to it, and the hostnames are free. -/
structure Deleted (id : Bytes) (before after : Holdings) : Prop where
  reservation : after.reserved id = false
  references : ¬ after.Refers id
  hostnames : ∀ domain ∈ before.domains.rows, domain.reservedSubdomainID = id →
    after.domains.lookupByHostname domain.hostname = none

theorem deleted_of_removing {backend : Backend} {id : Bytes} (whole : store.Integral)
    (careful : Careful backend store (.reservation (.removing id)) draw)
    (works : draw.reservation.storeFails = false) :
    Deleted id store
      ((adminService backend hashing).advance store (.reservation (.removing id)) draw).1 := by
  have after : ((adminService backend hashing).advance store (.reservation (.removing id))
      draw).1.Integral := integral_careful whole careful
  have removed : ((adminService backend hashing).advance store (.reservation (.removing id))
      draw).1 = store.setReservations backend (store.reservations.remove id) := by
    simp [adminService, reservationService, works]
  rw [removed] at after ⊢
  have gone : (store.setReservations backend (store.reservations.remove id)).reserved id =
      false := by
    cases backend <;>
      simp [Holdings.reserved, Holdings.setReservations, Table.find?_remove]
  have references : ¬ (store.setReservations backend (store.reservations.remove id)).Refers id :=
    fun refers => Bool.false_ne_true (gone.symm.trans (after id refers))
  refine ⟨gone, references, fun domain member same => ?_⟩
  refine Table.findOther?_eq_none_iff.mpr fun held there spelled => references (.inr ?_)
  have before : held ∈ store.domains.rows := by
    cases backend with
    | memory => exact there
    | postgres => exact List.mem_of_mem_filter there
  rw [Table.eq_of_other before member spelled] at there
  exact ⟨domain, there, same⟩

variable {Id : Type} [DecidableEq Id]

abbrev AdminState (Id : Type) := State Id Holdings AdminRequest AdminCall AdminDraw AdminReply

theorem step_integral {backend : Backend} {state next : AdminState Id}
    {action : Action Id AdminRequest AdminDraw} (whole : state.store.Integral)
    (careful : Service.Meets (Careful backend) state action)
    (stepped : (adminService backend hashing).step state action = some next) :
    next.store.Integral := by
  cases action with
  | start =>
    obtain ⟨-, rfl⟩ := Service.step_start stepped
    exact whole
  | advance =>
    obtain ⟨call, found, rfl⟩ := Service.step_advance stepped
    exact integral_careful whole (careful call found)

/-- Where the condition is met, the references are whole, the other backend gives the same answers,
and the deletion of a reservation deletes what refers to it. -/
theorem references_whole (backend : Backend) (hashing : Hashing)
    {actions : List (Action Id AdminRequest AdminDraw)} {last : AdminState Id}
    (careful : Guarded (adminService backend hashing).step (Service.Meets (Careful backend))
      { store := {} } actions)
    (ran : exec (adminService backend hashing).step { store := {} } actions = some last) :
    last.store.Integral ∧
      exec (adminService .postgres hashing).step { store := {} } actions = some last ∧
      ∀ id draw, Careful backend last.store (.reservation (.removing id)) draw →
        draw.reservation.storeFails = false → Deleted id last.store
          ((adminService backend hashing).advance last.store (.reservation (.removing id))
            draw).1 := by
  have initially : Holdings.Integral {} := by
    rintro _ (⟨_, ⟨⟩, -⟩ | ⟨_, ⟨⟩, -⟩)
  have preserved : ∀ (state : AdminState Id) action next, state.store.Integral →
      Service.Meets (Careful backend) state action →
      (adminService backend hashing).step state action = some next → next.store.Integral :=
    fun _ _ _ => step_integral
  have whole : last.store.Integral := exec_invariant preserved initially careful ran
  refine ⟨whole, ?_, fun id draw careful works => deleted_of_removing whole careful works⟩
  cases backend with
  | memory =>
    rw [← ran]
    refine (exec_congr preserved (fun state action whole met => ?_) initially careful).symm
    refine Service.step_congr ?_ (fun _ _ => advance_agrees whole) met
    rfl
  | postgres => exact ran

end Runs

/-- A reservation with a custom domain and a policy is deleted. -/
def abandonedRun : List (Action Unit AdminRequest AdminDraw) :=
  [.start () (.reservation (.create ⟨ascii "shop", ascii "tok_1"⟩)), .advance () {},
    .advance () { reservation := { id := some [1] } },
    .start () (.domain (.create ⟨ascii "shop.example.com", ascii "rs_AQ"⟩)), .advance () {},
    .advance () { domain := { id := some [1], token := some [2] } },
    .start () (.policy (.create { mode := ascii "public", reservedSubdomainID := ascii "rs_AQ" })),
    .advance () {}, .advance () { policy := { id := some [3] } },
    .start () (.reservation (.delete (ascii "rs_AQ"))), .advance () {}, .advance () {}]

theorem references_left : ∃ last, exec (adminService .memory plainHashing).step
        ({ store := {} } : AdminState Unit) abandonedRun = some last ∧
      last.store.reserved (ascii "rs_AQ") = false ∧ last.store.Refers (ascii "rs_AQ") ∧
      (last.store.domains.lookupByHostname (ascii "shop.example.com")).isSome = true :=
  ⟨_, rfl, rfl, by decide, rfl⟩

theorem references_whole_abandoned : ∃ last, exec (adminService .postgres plainHashing).step
        ({ store := {} } : AdminState Unit) abandonedRun = some last ∧ last.store.Integral :=
  have careful : Guarded (adminService .postgres plainHashing).step
      (Service.Meets (Careful .postgres)) ({ store := {} } : AdminState Unit) abandonedRun :=
    guarded_of_forall (fun | _, .start _ _ => trivial | _, .advance _ _ => fun _ _ => trivial) _ _
  ⟨_, rfl, (references_whole .postgres plainHashing careful rfl).1⟩

end Porthook.ControlPlane
