import Porthook.Protocol.BinaryFrame
import Porthook.Protocol.Encode

/-!
# Messages on the agent connection

`protocol/wswire`: an envelope is one text message and a body chunk is one
binary message.  A reader turns either back into a `Message`, or fails and with
it ends the session.
-/

namespace Porthook.Protocol

/-- One WebSocket message on the connection.  A text message is kept as the
envelope it was made from. -/
inductive Frame where
  | text (envelope : Envelope)
  | binary (data : Bytes)

/-- The bytes of the message, which the peer's read limit counts. -/
def Frame.bytes : Frame → Bytes
  | .text envelope => envelope.encode.render
  | .binary data => data

def binaryBody (typ : MessageType) (streamID : StreamID) (tunnelID data : Bytes) :
    Except FrameError Frame :=
  (newBinaryBodyFrame typ streamID tunnelID data).map .binary

def Envelope.received (envelope : Envelope) : Envelope :=
  ⟨envelope.typ, receivedFrom 0 envelope.streamID, receivedFrom 0 envelope.tunnelID,
    envelope.payload.map Json.received⟩

def Frame.read : Frame → Except FrameError Message
  | .text envelope => .ok (textMessage envelope.received)
  | .binary data =>
    (decodeBinaryBodyFrame data).map fun frame =>
      binaryMessage frame.typ frame.streamID frame.tunnelID frame.data

theorem read_binaryBody {typ : MessageType} {streamID : StreamID} {tunnelID data : Bytes}
    {frame : Frame} (written : binaryBody typ streamID tunnelID data = .ok frame) :
    frame.read = .ok (binaryMessage typ streamID tunnelID data) := by
  unfold binaryBody at written
  cases built : newBinaryBodyFrame typ streamID tunnelID data with
  | error =>
    rw [built] at written
    cases written
  | ok =>
    rw [built] at written
    cases written
    simp only [Frame.read, decodeBinaryBodyFrame_newBinaryBodyFrame built]
    rfl

end Porthook.Protocol
