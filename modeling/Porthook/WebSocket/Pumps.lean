import Porthook.WebSocket.Relay

/-!
# Results of the pumps

A relay receives two results, one of each pump.  `Relay.Counted` keeps the books: a pump
that has returned has sent its result, which the relay has received or finds in the
channel.  It holds in every phase of both ends.
-/

namespace Porthook.WebSocket

open Protocol Gateway

def Reader.gone : Reader → Nat
  | .returned => 1
  | _ => 0

def Writer.gone : Writer → Nat
  | .returned => 1
  | _ => 0

def Waiter.received : Waiter → Nat
  | .first => 0
  | .second _ => 1
  | .notifying _ _ | .returned _ => 2

/-- Every pump that has returned has sent its result, and with the first one that it receives
the relay cancels its context. -/
structure Relay.Counted (relay : Relay) : Prop where
  results : relay.reader.gone + relay.writer.gone = relay.errCh.length + relay.waiter.received
  cancelled : relay.waiter.received ≠ 0 → relay.cause.isSome = true

def End.Counted (state : End) : Prop := ∀ relay, state.phase = .relaying relay → relay.Counted

section Counted

variable {relay : Relay} {state next : End}

theorem Reader.gone_le (reader : Reader) : reader.gone ≤ 1 := by
  cases reader <;> simp [Reader.gone]

theorem Writer.gone_le (writer : Writer) : writer.gone ≤ 1 := by
  cases writer <;> simp [Writer.gone]

theorem Reader.eq_returned {reader : Reader} (gone : reader.gone = 1) : reader = .returned := by
  cases reader with
  | returned => rfl
  | _ => cases gone

theorem Writer.eq_returned {writer : Writer} (gone : writer.gone = 1) : writer = .returned := by
  cases writer with
  | returned => rfl
  | _ => cases gone

theorem Relay.Counted.returned (counted : relay.Counted) (both : relay.waiter.received = 2) :
    relay.reader = .returned ∧ relay.writer = .returned := by
  have results := counted.results
  have reader := relay.reader.gone_le
  have writer := relay.writer.gone_le
  exact ⟨Reader.eq_returned (by omega), Writer.eq_returned (by omega)⟩

theorem Relay.Counted.returnReader (counted : relay.Counted) (running : relay.reader.gone = 0)
    (err : Option RelayError) : (relay.returnReader err).Counted := by
  have results := counted.results
  refine ⟨?_, counted.cancelled⟩
  simp only [Relay.returnReader, Reader.gone, List.length_append, List.length_cons, List.length_nil]
  omega

theorem Relay.Counted.returnWriter (counted : relay.Counted) (running : relay.writer.gone = 0)
    (err : Option RelayError) : (relay.returnWriter err).Counted := by
  have results := counted.results
  refine ⟨?_, counted.cancelled⟩
  simp only [Relay.returnWriter, Writer.gone, List.length_append, List.length_cons, List.length_nil]
  omega

theorem Relay.Counted.setReader (counted : relay.Counted) {reader : Reader}
    (same : reader.gone = relay.reader.gone) :
    ({ relay with reader } : Relay).Counted := by
  refine ⟨?_, counted.cancelled⟩
  simp only [same]
  exact counted.results

theorem Relay.Counted.setWriter (counted : relay.Counted) {writer : Writer}
    (same : writer.gone = relay.writer.gone) :
    ({ relay with writer } : Relay).Counted := by
  refine ⟨?_, counted.cancelled⟩
  simp only [same]
  exact counted.results

theorem counted_of_relaying (relaying : state.phase = .relaying relay) (counted : relay.Counted) :
    state.Counted := by
  intro other same
  cases relaying.symm.trans same
  exact counted

theorem counted_of_phase (other : ∀ relay, state.phase ≠ .relaying relay) : state.Counted :=
  fun relay relaying => absurd relaying (other relay)

theorem received_finish (leg : Leg) (outcome : Option RelayError) :
    (leg.finish outcome).received = 2 := by
  unfold Leg.finish
  split
  · rfl
  · split <;> rfl

theorem handleMessage_phase (state : End) (relay : Relay) (msg : Message) :
    (∃ item, itemOf msg = some item ∧
      (state.handleMessage relay msg).phase = .relaying { relay with writer := .selecting }) ∨
    (itemOf msg = none ∧ ∃ err,
      (state.handleMessage relay msg).phase = .relaying (relay.returnWriter err)) := by
  unfold End.handleMessage
  split
  next item isItem => exact .inl ⟨item, isItem, rfl⟩
  next noItem =>
    refine .inr ⟨noItem, ?_⟩
    split
    · split <;> exact ⟨_, rfl⟩
    · split <;> exact ⟨_, rfl⟩
    · exact ⟨_, rfl⟩

theorem counted_handleMessage (counted : relay.Counted) {msg : Message}
    (handling : relay.writer = .handling msg) : (state.handleMessage relay msg).Counted := by
  have running : relay.writer.gone = 0 := by rw [handling]; rfl
  rcases handleMessage_phase state relay msg with ⟨_, _, phase⟩ | ⟨_, err, phase⟩
  · exact counted_of_relaying phase (counted.setWriter running.symm)
  · exact counted_of_relaying phase (counted.returnWriter running err)

theorem counted_relayStep {leg : Leg} {event : RelayEvent} (counted : relay.Counted)
    (stepped : RelayStep leg state relay event next) : next.Counted := by
  cases stepped with
  | contextDone => exact counted_of_relaying rfl ⟨counted.results, fun _ => rfl⟩
  | read item reading =>
    have kept : ({ relay with reader := .sending item } : Relay).Counted :=
      counted.setReader (by rw [reading]; rfl)
    exact counted_of_relaying rfl kept
  | readFailed _ reading =>
    unfold Relay.readFailed
    split
    · exact counted_of_relaying rfl (counted.returnReader (by rw [reading]; rfl) _)
    · exact counted_of_relaying rfl (counted.setReader (by rw [reading]; rfl))
  | take msg _ selecting =>
    have kept : ({ relay with writer := .handling msg } : Relay).Counted :=
      counted.setWriter (by rw [selecting]; rfl)
    exact counted_of_relaying rfl kept
  | contextEnded _ selecting =>
    exact counted_of_relaying rfl (counted.returnWriter (by rw [selecting]; rfl) _)
  | handle _ handling => exact counted_handleMessage counted handling
  | legWriteFailed _ _ handling =>
    exact counted_of_relaying rfl (counted.returnWriter (by rw [handling]; rfl) _)
  | receiveFirst _ _ waiter errCh =>
    refine counted_of_relaying rfl ⟨?_, fun _ => rfl⟩
    have results := counted.results
    rw [waiter, errCh] at results
    simpa [Relay.cancel, Waiter.received] using results
  | receiveSecond first second rest waiter errCh =>
    have cancelled := counted.cancelled (by simp [waiter, Waiter.received])
    refine counted_of_relaying rfl ⟨?_, fun _ => cancelled⟩
    have results := counted.results
    rw [waiter, errCh, List.length_cons, Waiter.received, Nat.add_assoc] at results
    show _ = rest.length + (leg.finish (relayOutcome first second)).received
    rw [received_finish]
    exact results

theorem Relay.Counted.afterWrite (counted : relay.Counted) (err : Option (Option ContextCause)) :
    (relay.afterWrite err).Counted := by
  unfold Relay.afterWrite
  split
  next sending =>
    split
    · have reading : ({ relay with reader := .reading } : Relay).Counted :=
        counted.setReader (by rw [sending]; rfl)
      exact reading
    · exact counted.returnReader (by rw [sending]; rfl) _
  next notifying => exact counted.returnReader (by rw [notifying]; rfl) _
  next notifying _ _ =>
    refine ⟨?_, fun _ => counted.cancelled (by simp [notifying, Waiter.received])⟩
    have results := counted.results
    rwa [notifying] at results
  · exact counted

theorem counted_afterWrite (counted : state.Counted) (err : Option (Option ContextCause)) :
    (state.afterWrite err).Counted := by
  unfold End.afterWrite
  split
  · exact counted_of_phase (by simp)
  · exact counted_of_phase (by simp)
  · exact counted_of_phase (by simp)
  · exact counted_of_phase (by simp)
  · exact counted_of_relaying rfl ⟨rfl, by simp [Waiter.received]⟩
  · exact counted_of_phase (by simp)
  next relay relaying => exact counted_of_relaying rfl ((counted relay relaying).afterWrite _)
  · exact counted

theorem counted_endStep {side : Side} {done : Bool} {event : Event} (counted : state.Counted)
    (stepped : EndStep side done state event next) : next.Counted := by
  cases stepped with
  | answer =>
    apply counted_of_phase
    intro relay
    dsimp only
    split <;> simp
  | upgraded => exact counted_of_relaying rfl ⟨rfl, by simp [Waiter.received]⟩
  | relay relay _ _ relaying moved => exact counted_relayStep (counted relay relaying) moved
  | _ => exact counted_of_phase (by simp)

end Counted

end Porthook.WebSocket
