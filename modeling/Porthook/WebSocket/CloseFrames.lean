import Mathlib.Algebra.Ring.Int.Defs
import Porthook.WebSocket.Streams

/-!
# Close frames

A close frame on one leg becomes a `ws.close` in the tunnel, which closes the other leg.
`websocket.CloseStatus` tells the code of the frame but not its reason, and neither end
looks any further.
-/

namespace Porthook.WebSocket

open Protocol Gateway

/-- A close frame that a peer may send: without a status, which is read as 1005, or with a
code that is meant for the wire and a short reason in UTF-8. -/
def Legal (frame : Close) : Prop :=
  (frame.code = 1005 ∧ frame.reason = []) ∨
    ((1000 ≤ frame.code ∧ frame.code ≤ 1003) ∨ (1007 ≤ frame.code ∧ frame.code ≤ 1014) ∨
      (3000 ≤ frame.code ∧ frame.code ≤ 4999)) ∧
    frame.reason.length ≤ 123 ∧ receivedFrom 0 frame.reason = frame.reason

instance (frame : Close) : Decidable (Legal frame) := inferInstanceAs (Decidable (_ ∨ _))

/-- What `websocket.CloseStatus` makes of the error that a close frame is read as. -/
def closeStatus (frame : Close) : ReadError := .closeFrame frame.code

/-- What the other end of the stream closes its leg with, after a close frame on this one. -/
def relayedClose (side : Side) (cfg : StreamConfig) (frame : Close) (receiver : End)
    (relay : Relay) : Option Close :=
  let (notice, _) := closeOrCancelForReadError side.leg (closeStatus frame)
  match (cfg.text notice.typ notice.payload).read with
  | .error _ => none
  | .ok msg => (receiver.handleMessage relay msg).legClosed

theorem parseInt64?_decimal {code : Int} (low : 0 ≤ code) (high : code < 2 ^ 63) :
    parseInt64? (decimal code) = some code := by
  obtain ⟨n, rfl⟩ := Int.eq_ofNat_of_zero_le low
  have read := parseNat?_decimal n
  unfold parseInt64?
  -- a sign in front would not be read as a digit
  split
  next signed => cases signed ▸ read
  next signed => cases signed ▸ read
  next =>
    rw [read]
    exact if_pos (by omega)

theorem relayedClose_eq (side : Side) (cfg : StreamConfig) {frame : Close} (legal : Legal frame)
    (receiver : End) (relay : Relay) :
    relayedClose side cfg frame receiver relay = some ⟨frame.code, []⟩ := by
  have parsed : parseInt64? (decimal frame.code) = some frame.code := by
    rcases legal with ⟨_, -⟩ | ⟨_, -⟩
    · exact parseInt64?_decimal (by omega) (by omega)
    · exact parseInt64?_decimal (by omega) (by omega)
  have decoded : Close.decode (Close.encode ⟨frame.code, []⟩).received = some ⟨frame.code, []⟩ := by
    have read : Close.decode (Close.encode ⟨frame.code, []⟩).received =
        ((parseInt64? (decimal frame.code)).map fun code => ({ code } : Close)).bind some := rfl
    rw [read, parsed]
    rfl
  simp [relayedClose, closeStatus, closeOrCancelForReadError, Notice.typ, Notice.payload,
    StreamConfig.text, Frame.read, Envelope.received, newStream, textMessage, End.handleMessage,
    itemOf, decodePayload, decoded]

/-- The other leg is closed as this one was exactly if no reason was given. -/
theorem close_relayed_iff (side : Side) (cfg : StreamConfig) {frame : Close}
    (legal : Legal frame) (receiver : End) (relay : Relay) :
    relayedClose side cfg frame receiver relay = some frame ↔ frame.reason = [] := by
  rw [relayedClose_eq side cfg legal receiver relay]
  rcases frame with ⟨_, _⟩
  simp [eq_comm]

theorem reason_lost : Legal ⟨1000, ascii "bye"⟩ ∧ ∀ side cfg receiver relay,
    relayedClose side cfg ⟨1000, ascii "bye"⟩ receiver relay ≠ some ⟨1000, ascii "bye"⟩ := by
  have legal : Legal ⟨1000, ascii "bye"⟩ := by decide
  refine ⟨legal, fun side cfg receiver relay same => ?_⟩
  rw [relayedClose_eq side cfg legal] at same
  cases same

theorem close_relayed_iff_going_away : Legal ⟨1001, []⟩ ∧ ∀ side cfg receiver relay,
    relayedClose side cfg ⟨1001, []⟩ receiver relay = some ⟨1001, []⟩ :=
  ⟨by decide, fun side cfg receiver relay =>
    (close_relayed_iff side cfg (by decide) receiver relay).mpr rfl⟩

end Porthook.WebSocket
