import Porthook.ControlPlane.AccessTerms

/-!
# The answers of the access service

A book keeps for each policy the terms that were set last.  It is written from what
was asked and answered alone, without a digest in it.  One call after the other, the
store of the service encodes the book, so a check answers what the book says.
-/

namespace Porthook.ControlPlane

open Protocol Transition Calls

structure PolicyBookEntry where
  reservedSubdomainID : Bytes
  terms : PolicyTerms

abbrev PolicyBook := Bytes → Option PolicyBookEntry

def PolicyBook.after (book : PolicyBook) : PolicyRequest × PolicyReply → PolicyBook
  | (.create request, .policy summary) =>
    Function.update book summary.id ((createdTerms? request).map fun terms =>
      ⟨trimSpace request.reservedSubdomainID, terms⟩)
  | (.update id request, .policy _) =>
    Function.update book (trimSpace id) ((book (trimSpace id)).bind fun entry =>
      (updatedTerms? entry.terms request).map fun terms => { entry with terms })
  | (.delete id, .deleted) => Function.update book (trimSpace id) none
  | _ => book

def policyBook (history : List (PolicyRequest × PolicyReply)) : PolicyBook :=
  history.foldl PolicyBook.after fun _ => none

structure Refines (hashing : Hashing) (store : PolicyStore) (book : PolicyBook) : Prop where
  booked : ∀ record ∈ store.rows, ∃ entry, book record.id = some entry ∧
    entry.reservedSubdomainID = record.reservedSubdomainID ∧ Encodes hashing record entry.terms
  stored : ∀ id entry, book id = some entry → ∃ record ∈ store.rows, record.id = id

variable {hashing : Hashing} {store next : PolicyStore} {book : PolicyBook}

variable {record : PolicyRecord} {state : PolicyStore × List (PolicyRequest × PolicyReply)}

theorem Refines.write (refines : Refines hashing store book) {entry : PolicyBookEntry}
    (rows : ∀ held, held ∈ next.rows ↔ held = record ∨ held ∈ store.rows ∧ held.id ≠ record.id)
    (same : entry.reservedSubdomainID = record.reservedSubdomainID)
    (encoded : Encodes hashing record entry.terms) :
    Refines hashing next (Function.update book record.id (some entry)) := by
  refine ⟨fun held member => ?_, fun id found booked => ?_⟩
  · rcases (rows held).mp member with rfl | ⟨old, different⟩
    · exact ⟨entry, Function.update_self .., same, encoded⟩
    · rw [Function.update_of_ne different]
      exact refines.booked held old
  · by_cases own : id = record.id
    · exact ⟨record, (rows record).mpr (.inl rfl), own.symm⟩
    · rw [Function.update_of_ne own] at booked
      obtain ⟨held, member, keyed⟩ := refines.stored id found booked
      exact ⟨held, (rows held).mpr (.inr ⟨member, by rwa [keyed]⟩), keyed⟩

theorem rows_of_inserted (inserted : store.insert? record = some next) (held : PolicyRecord) :
    held ∈ next.rows ↔ held = record ∨ held ∈ store.rows ∧ held.id ≠ record.id := by
  obtain ⟨free, -, rows⟩ := Table.insert?_eq_some inserted
  have different := Table.find?_eq_none_iff.mp free held
  rw [rows, and_iff_left_of_imp different]

theorem Refines.remove (refines : Refines hashing store book) (gone : Bytes) :
    Refines hashing (store.remove gone) (Function.update book gone none) := by
  refine ⟨fun held member => ?_, fun id found booked => ?_⟩
  · obtain ⟨old, different⟩ := Table.mem_remove.mp member
    rw [Function.update_of_ne different]
    exact refines.booked held old
  · by_cases own : id = gone
    · rw [own, Function.update_self] at booked
      cases booked
    · rw [Function.update_of_ne own] at booked
      obtain ⟨held, member, keyed⟩ := refines.stored id found booked
      exact ⟨held, Table.mem_remove.mpr ⟨member, by rwa [keyed]⟩, keyed⟩

theorem Refines.not_legacy (refines : Refines hashing store book) {password : Bytes}
    (member : record ∈ store.rows) : ¬ LegacyMatch hashing record password := by
  rintro ⟨mode, legacy, -⟩
  obtain ⟨entry, -, -, encoded⟩ := refines.booked record member
  have kept := encoded.mode
  rw [mode] at kept
  cases terms : entry.terms with
  | login =>
    rw [terms] at encoded
    obtain ⟨-, -, ⟨-, _, hash⟩, -⟩ := encoded
    rw [hash, isPasswordHash_append] at legacy
    cases legacy
  | everyone | bearer | addresses => rw [terms] at kept; cases kept

/-- What holds while one call runs: the book has not changed, and the call is one of
the request.  An update is about to store what the book will say. -/
def DuringPolicyCall (hashing : Hashing) (book : PolicyBook) (request : PolicyRequest)
    (store : PolicyStore) (call : PolicyCall) : Prop :=
  Refines hashing store book ∧
  match call with
  | .creating created => request = .create created
  | .updating id updated => request = .update id updated
  | .storing record => ∃ id updated entry terms, request = .update id updated ∧
      book (trimSpace id) = some entry ∧ record.id = trimSpace id ∧
      record.reservedSubdomainID = entry.reservedSubdomainID ∧
      updatedTerms? entry.terms updated = some terms ∧ Encodes hashing record terms
  | .deleting id => request = .delete id
  | .removing id => ∃ given, request = .delete given ∧ id = trimSpace given
  | .checking checked => request = .check checked
  | .upgrading _ _ => False
  | .getting id => request = .get id
  | .gettingForReservedSubdomain id => request = .getForReservedSubdomain id
  | .listing => request = .list

theorem DuringPolicyCall.enter (refines : Refines hashing store book) (request : PolicyRequest) :
    DuringPolicyCall hashing book request store request.call := by
  refine ⟨refines, ?_⟩
  cases request <;> rfl

theorem DuringPolicyCall.continues {request : PolicyRequest} {call later : PolicyCall}
    {draw : PolicyDraw} (during : DuringPolicyCall hashing book request store call)
    (advanced : (policyService hashing).advance store call draw = (next, .continues later)) :
    DuringPolicyCall hashing book request next later := by
  obtain ⟨refines, running⟩ := during
  cases call with
  | updating id updated =>
    simp only [policyService, Prod.mk.injEq] at advanced
    obtain ⟨rfl, continued⟩ := advanced
    obtain ⟨existing, _, rfl, found, made⟩ := lookupUpdatedPolicy_eq_continues continued
    obtain ⟨member, keyed⟩ := Table.find?_eq_some_iff.mp found
    obtain ⟨entry, booked, same, encoded⟩ := refines.booked existing member
    obtain ⟨sameID, sameReservation, terms, updatedTerms, after⟩ :=
      updatedPolicyRecord_eq_ok encoded made
    rw [keyed] at booked sameID
    exact ⟨refines, id, updated, entry, terms, running, booked, sameID,
      sameReservation.trans same.symm, updatedTerms, after⟩
  | deleting id =>
    simp only [policyService, Prod.mk.injEq] at advanced
    obtain ⟨rfl, continued⟩ := advanced
    rw [lookupDeletedPolicy_eq_continues continued]
    exact ⟨refines, id, running, rfl⟩
  | checking =>
    simp only [policyService, Prod.mk.injEq] at advanced
    obtain ⟨rfl, continued⟩ := advanced
    obtain ⟨_, member, -, legacy⟩ := checkPolicy_eq_continues continued
    exact absurd legacy (refines.not_legacy member)
  | creating | storing => cases advanced
  | removing =>
    simp only [policyService] at advanced
    split at advanced <;> cases advanced
  | upgrading => exact running.elim
  | getting | gettingForReservedSubdomain => cases advanced
  | listing =>
    simp only [policyService] at advanced
    split at advanced <;> cases advanced

theorem DuringPolicyCall.returns {request : PolicyRequest} {call : PolicyCall} {draw : PolicyDraw}
    {reply : PolicyReply} (during : DuringPolicyCall hashing book request store call)
    (advanced : (policyService hashing).advance store call draw = (next, .returns reply)) :
    Refines hashing next (book.after (request, reply)) := by
  obtain ⟨refines, running⟩ := during
  cases call with
  | creating created =>
    subst running
    simp only [policyService, Prod.mk.injEq, Outcome.returns.injEq] at advanced
    obtain ⟨rfl, rfl⟩ := advanced
    rcases createPolicy_cases hashing store created draw with
      ⟨err, failed⟩ | ⟨record, id, next, made, -, inserted, succeeded⟩
    · rw [failed]
      exact refines
    · rw [succeeded]
      obtain ⟨reserved, _, named, encoded⟩ := newPolicyRecord_eq_ok made
      simp only [PolicyBook.after, named, Option.map_some]
      exact refines.write (rows_of_inserted inserted) reserved.symm (encoded.congr rfl rfl rfl rfl)
  | updating =>
    subst running
    simp only [policyService, Prod.mk.injEq] at advanced
    obtain ⟨rfl, returned⟩ := advanced
    obtain ⟨_, rfl⟩ := lookupUpdatedPolicy_eq_returns returned
    exact refines
  | storing record =>
    obtain ⟨_, _, entry, terms, rfl, booked, keyed, reserved, named, encoded⟩ := running
    simp only [policyService, Prod.mk.injEq, Outcome.returns.injEq] at advanced
    obtain ⟨rfl, rfl⟩ := advanced
    rcases storePolicy_cases store record draw with ⟨_, failed⟩ | ⟨next, replaced, succeeded⟩
    · rw [failed]
      exact refines
    · rw [succeeded]
      simp only [PolicyBook.after, booked, Option.bind_some, named, Option.map_some]
      have after : Refines hashing next
          (Function.update book record.id (some { entry with terms })) :=
        refines.write (Table.replace?_eq_some replaced).2 reserved.symm encoded
      rwa [keyed] at after
  | deleting =>
    subst running
    simp only [policyService, Prod.mk.injEq] at advanced
    obtain ⟨rfl, returned⟩ := advanced
    obtain ⟨_, rfl⟩ := lookupDeletedPolicy_eq_returns returned
    exact refines
  | removing =>
    obtain ⟨_, rfl, rfl⟩ := running
    simp only [policyService] at advanced
    split at advanced
    · cases advanced
      exact refines
    · cases advanced
      exact refines.remove _
  | checking =>
    subst running
    simp only [policyService, Prod.mk.injEq] at advanced
    obtain ⟨rfl, -⟩ := advanced
    exact refines
  | upgrading => exact running.elim
  | getting | gettingForReservedSubdomain =>
    subst running
    cases advanced
    exact refines
  | listing =>
    subst running
    simp only [policyService] at advanced
    split at advanced <;> cases advanced <;> exact refines

theorem refines_serialStep {after : PolicyStore × List (PolicyRequest × PolicyReply)}
    {call : PolicyRequest × List PolicyDraw}
    (refines : Refines hashing state.1 (policyBook state.2))
    (stepped : (policyService hashing).serialStep state call = some after) :
    Refines hashing after.1 (policyBook after.2) := by
  obtain ⟨_, done, history⟩ := Service.serialStep_eq_some stepped
  have answered := Service.complete_returns (fun during => during.continues)
    (fun during => during.returns) (DuringPolicyCall.enter refines call.1) done
  rw [history, policyBook, List.foldl_append]
  exact answered

theorem refines_reached
    (reached : Reaches (policyService hashing).serialStep (Table.empty, []) state) :
    Refines hashing state.1 (policyBook state.2) := by
  have start : Refines hashing Table.empty (policyBook []) := by
    refine ⟨fun record member => ?_, fun id entry booked => ?_⟩
    · cases member
    · cases booked
  obtain ⟨calls, executed⟩ := reached
  exact exec_invariant (fun _ _ _ refines _ stepped => refines_serialStep refines stepped) start
    (guarded_true _ calls) executed

/-- `CheckPolicy` on a store that encodes the book: it fails closed, and it changes
nothing. -/
theorem checkPolicy_refines (sound : hashing.Sound) (refines : Refines hashing store book)
    (request : CheckPolicyRequest) (draw : PolicyDraw) :
    ∃ reply, checkPolicy hashing store request draw = .returns reply ∧
      (reply.allows = true ↔ draw.storeFails = false ∧ trimSpace request.reservedSubdomainID ≠ [] ∧
        ((∀ id entry, book id = some entry →
            entry.reservedSubdomainID ≠ trimSpace request.reservedSubdomainID) ∨
          ∃ id entry, book id = some entry ∧
            entry.reservedSubdomainID = trimSpace request.reservedSubdomainID ∧
            entry.terms.Admits request)) := by
  unfold checkPolicy
  dsimp only
  split
  next blank => exact ⟨_, rfl, by simp [PolicyReply.allows, blank]⟩
  next named =>
    split
    next fails => exact ⟨_, rfl, by simp [PolicyReply.allows, fails]⟩
    next works =>
      rw [Bool.not_eq_true] at works
      split
      next missing =>
        refine ⟨_, rfl, iff_of_true rfl ⟨works, named, .inl fun id entry booked same => ?_⟩⟩
        obtain ⟨record, member, keyed⟩ := refines.stored id entry booked
        obtain ⟨_, ownBooked, ownSame, -⟩ := refines.booked record member
        rw [keyed, booked] at ownBooked
        cases ownBooked
        exact Table.findOther?_eq_none_iff.mp missing record member (ownSame.symm.trans same)
      next record found =>
        obtain ⟨member, reserved⟩ := Table.findOther?_eq_some_iff.mp found
        obtain ⟨entry, booked, same, encoded⟩ := refines.booked record member
        obtain ⟨reply, checked, allows⟩ := checkRecord_encoded sound encoded request
        refine ⟨reply, checked, allows.trans ⟨fun admits => ?_, ?_⟩⟩
        · exact ⟨works, named, .inr ⟨record.id, entry, booked, same.trans reserved, admits⟩⟩
        rintro ⟨-, -, none | ⟨id, other, otherBooked, otherSame, admits⟩⟩
        · exact absurd (same.trans reserved) (none record.id entry booked)
        -- there is one policy for a reservation
        obtain ⟨held, heldMember, keyed⟩ := refines.stored id other otherBooked
        obtain ⟨_, ownBooked, ownSame, -⟩ := refines.booked held heldMember
        rw [keyed, otherBooked] at ownBooked
        cases ownBooked
        have one : held = record := Table.eq_of_other heldMember member
          (ownSame.symm.trans (otherSame.trans reserved.symm))
        rw [← keyed, one, booked] at otherBooked
        cases otherBooked
        exact admits

/-- After any sequence of calls each stored policy has exactly the secrets of its mode, and
`CheckPolicy` lets a request in exactly if its reservation has no policy, or one whose terms, as set
last, admit it. -/
theorem policies_checked_as_configured (sound : hashing.Sound)
    {state : PolicyStore × List (PolicyRequest × PolicyReply)}
    (reached : Reaches (policyService hashing).serialStep (Table.empty, []) state) :
    (∀ record ∈ state.1.rows, WellFormedPolicy hashing record) ∧
    ∀ request draw, ∃ reply, (policyService hashing).complete state.1 (.checking request) [draw] =
        (state.1, .returns reply) ∧
      (reply.allows = true ↔ draw.storeFails = false ∧ trimSpace request.reservedSubdomainID ≠ [] ∧
        ((∀ id entry, policyBook state.2 id = some entry →
            entry.reservedSubdomainID ≠ trimSpace request.reservedSubdomainID) ∨
          ∃ id entry, policyBook state.2 id = some entry ∧
            entry.reservedSubdomainID = trimSpace request.reservedSubdomainID ∧
            entry.terms.Admits request)) := by
  have refines := refines_reached reached
  refine ⟨fun record member => ?_, fun request draw => ?_⟩
  · obtain ⟨_, -, -, encoded⟩ := refines.booked record member
    exact encoded.wellFormed
  · obtain ⟨reply, checked, allows⟩ := checkPolicy_refines sound refines request draw
    refine ⟨reply, ?_, allows⟩
    simp only [Service.complete, policyService, checked]

def deskCalls : List (PolicyRequest × List PolicyDraw) :=
  [(.create { mode := ascii "basic_auth", basicUsername := ascii "ada",
              basicPassword := ascii "first", reservedSubdomainID := ascii "rs_1" },
      [{ salt := some [], id := some [1, 2, 3] }]),
    (.update (ascii "ap_AQID") { basicPassword := ascii "second" }, [{ salt := some [] }, {}])]

theorem policies_checked_as_configured_desk :
    ∃ state, exec (policyService plainHashing).serialStep (Table.empty, []) deskCalls = some state ∧
      ∃ record, state.1.rows = [record] ∧ WellFormedPolicy plainHashing record ∧
        record.mode = .modeBasicAuth :=
  ⟨_, rfl, _, rfl, (policies_checked_as_configured plainHashing_sound ⟨deskCalls, rfl⟩).1 _
    (List.mem_singleton.mpr rfl), rfl⟩

end Porthook.ControlPlane
