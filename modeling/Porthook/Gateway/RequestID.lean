import Porthook.Protocol.Header
import Porthook.Protocol.Text

/-!
# Request ids

`server/internal/requestid`: a request has the id that it brings along in one of two headers, or
gets a new one.  The id goes into the log and back to the client.
-/

namespace Porthook.Gateway

open Protocol Base64

/-- No more than 128 bytes, none of which can break a line. -/
def PlainID (id : Bytes) : Prop := id.length ≤ 128 ∧ ∀ byte ∈ id, Graphic byte

/-- The loop over runes rejects each byte beyond ASCII. -/
def clean (value : Bytes) : Bytes :=
  let value := trimSpace value
  if value = [] ∨ 128 < value.length then []
  else if value.all fun byte => Graphic byte then value else []

def inbound (header : Header) : Bytes :=
  let id := clean (header.get (ascii "X-Request-ID"))
  if id = [] then clean (header.get (ascii "X-Correlation-ID")) else id

/-- `New`, with what `rand.Read` gives. -/
def newRequestID : Option { data : Bytes // data.length = 16 } → Bytes
  | none => []
  | some data => ascii "req_" ++ rawURLEncode data

/-- `Middleware`: the header of the response, and the id in the context of the request. -/
def requestIDMiddleware (header response : Header)
    (random : Option { data : Bytes // data.length = 16 }) : Header × Bytes :=
  let id := if inbound header = [] then newRequestID random else inbound header
  (response.put (canonicalHeaderKey (ascii "X-Request-ID")) [id], id)

def fromRequest (context : Bytes) (header : Header) : Bytes :=
  if context = [] then inbound header else context

theorem clean_plain (value : Bytes) : PlainID (clean value) := by
  unfold clean
  dsimp only
  split
  · simp [PlainID]
  next fits =>
    split
    next graphic => exact ⟨Nat.not_lt.mp fun long => fits (.inr long), by simpa using graphic⟩
    · simp [PlainID]

theorem clean_of_plain {id : Bytes} (plain : PlainID id) (given : id ≠ []) : clean id = id := by
  have fits : ¬ (id = [] ∨ 128 < id.length) := not_or.mpr ⟨given, Nat.not_lt.mpr plain.1⟩
  simp only [clean, trimSpace_graphic plain.2]
  rw [if_neg fits, if_pos (by simpa using plain.2)]

theorem plain_newRequestID (random : Option { data : Bytes // data.length = 16 }) :
    PlainID (newRequestID random) := by
  cases random with
  | none => simp [PlainID, newRequestID]
  | some data =>
    refine ⟨by simp [newRequestID, length_rawURLEncode, data.2, ascii], fun byte member => ?_⟩
    rcases List.mem_append.mp member with front | encoded
    · have checked : ∀ byte ∈ ascii "req_", Graphic byte := by decide +kernel
      exact checked byte front
    · exact graphic_rawURLEncode data byte encoded

/-- The id of a request is plain whatever the client sends.  The client and the log see the same
one, and a server that is asked with it keeps it. -/
theorem requestID_carried (header response : Header)
    (random : Option { data : Bytes // data.length = 16 }) :
    let (answer, id) := requestIDMiddleware header response random
    PlainID id ∧ answer.get (ascii "X-Request-ID") = id ∧ fromRequest id header = id ∧
      ∀ later other random, later.get (ascii "X-Request-ID") = id → id ≠ [] →
        (requestIDMiddleware later other random).2 = id := by
  dsimp only [requestIDMiddleware]
  generalize made : (if inbound header = [] then newRequestID random else inbound header) = id
  have plain : PlainID id := by
    rw [← made]
    split
    · exact plain_newRequestID random
    · unfold inbound
      dsimp only
      split <;> exact clean_plain _
  refine ⟨plain, ?_, ?_, fun later _ _ sent given => ?_⟩
  · simp [Header.get, Header.valuesOf, Header.values, Header.put]
  · unfold fromRequest
    split
    next none =>
      split at made
      next empty => rw [empty, none]
      · exact made
    · rfl
  · have kept : inbound later = id := by
      simp only [inbound, sent, clean_of_plain plain given, if_neg given]
    rw [kept, if_neg given]

end Porthook.Gateway
