import Porthook.Protocol.Wire

/-!
# The size of a message

The peer's read limit counts the bytes of a message.  For a body frame that is
the data with a header and the two ids; for an envelope it is the JSON text,
whose size is computed here from its parts.
-/

namespace Porthook.Protocol

/-- `ReadLimitForChunkBytes`, in the arithmetic of `int64`. -/
def readLimitForChunkBytes (chunkBytes : Int) : Int :=
  let chunkBytes := if chunkBytes ≤ 0 then 32 * 1024 else chunkBytes
  ((chunkBytes * 2).bmod (2 ^ 64) + 16 * 1024).bmod (2 ^ 64)

/-- The ids of a stream, as short as a body frame needs them. -/
structure FrameIDs where
  streamID : StreamID
  tunnelID : Bytes
  streamID_ne : streamID ≠ []
  streamID_le : streamID.length ≤ 65535
  tunnelID_le : tunnelID.length ≤ 65535

theorem exists_binaryBody {typ : MessageType} (known : (binaryBodyFrameType typ).isSome)
    (ids : FrameIDs) (data : Bytes) :
    ∃ frame, binaryBody typ ids.streamID ids.tunnelID data = .ok frame := by
  obtain ⟨_, found⟩ := Option.isSome_iff_exists.mp known
  simp only [binaryBody, newBinaryBodyFrame, found]
  rw [if_neg ids.streamID_ne, if_neg (Nat.not_lt.mpr ids.streamID_le),
    if_neg (Nat.not_lt.mpr ids.tunnelID_le)]
  exact ⟨_, rfl⟩

def frameOverhead (streamID : StreamID) (tunnelID : Bytes) : Nat :=
  binaryBodyHeader + streamID.length + tunnelID.length

theorem binaryBody_size {typ : MessageType} {streamID : StreamID} {tunnelID data : Bytes}
    {frame : Frame} (built : binaryBody typ streamID tunnelID data = .ok frame) :
    frame.bytes.length = frameOverhead streamID tunnelID + data.length := by
  unfold binaryBody newBinaryBodyFrame at built
  repeat' split at built
  all_goals cases built
  next kind _ _ _ _ =>
    simp only [Frame.bytes, frameOverhead, binaryBodyHeader, List.length_append,
      putUint16_length, List.length_singleton]

def quotedSize (text : Bytes) : Nat := (quote text).length

/-- An array or an object whose parts have the given sizes: two brackets, and
commas in between. -/
def listSize (sizes : List Nat) : Nat := 2 + sizes.sum + (sizes.length - 1)

def memberSize (name : Bytes) (value : Nat) : Nat := quotedSize name + 1 + value

theorem renderItems_length (items : List Json) : (renderItems items).length =
      (items.map fun item => item.render.length).sum + (items.length - 1) := by
  induction items with
  | nil => rfl
  | cons _ rest ih =>
    cases rest with
    | nil => simp [renderItems]
    | cons =>
      simp only [renderItems, List.length_append, List.length_cons, ih,
        List.map_cons, List.sum_cons]
      omega

theorem renderMembers_length (members : List (Bytes × Json)) : (renderMembers members).length =
      (members.map fun member => memberSize member.1 member.2.render.length).sum +
        (members.length - 1) := by
  have single (member : Bytes × Json) : (renderMember member).length =
      memberSize member.1 member.2.render.length := by
    obtain ⟨_, _⟩ := member
    simp only [renderMember, memberSize, quotedSize, List.length_append, List.length_cons]
    omega
  induction members with
  | nil => rfl
  | cons _ rest ih =>
    cases rest with
    | nil => simp [renderMembers, single]
    | cons =>
      simp only [renderMembers, List.length_append, List.length_cons, ih,
        single, List.map_cons, List.sum_cons]
      omega

theorem render_string (value : Bytes) : (Json.string value).render.length = quotedSize value := by
  rw [Json.render, quotedSize]

theorem render_array (items : List Json) : (Json.array items).render.length =
    listSize (items.map fun item => item.render.length) := by
  rw [Json.render, List.length_append, List.length_cons, renderItems_length, listSize,
    List.length_map, List.length_singleton]
  omega

theorem render_object (members : List (Bytes × Json)) : (Json.object members).render.length =
    listSize (members.map fun member => memberSize member.1 member.2.render.length) := by
  rw [Json.render, List.length_append, List.length_cons, renderMembers_length, listSize,
    List.length_map, List.length_singleton]
  omega

def headerSize (header : Header) : Nat :=
  listSize (header.map fun entry => memberSize entry.1 (listSize (entry.2.map quotedSize)))

/-- The sizes of the members that `omitempty` may leave out. -/
def omittedSize (name : Bytes) (empty : Prop) [Decidable empty] (value : Nat) : List Nat :=
  if empty then [] else [memberSize name value]

theorem omitEmpty_size (name : Bytes) (empty : Prop) [Decidable empty] (value : Json) :
    ((omitEmpty name empty value).map fun member =>
        memberSize member.1 member.2.render.length) =
      omittedSize name empty value.render.length := by
  unfold omitEmpty omittedSize
  split <;> rfl

theorem listSize_perm {first second : List Nat} (permuted : first.Perm second) :
    listSize first = listSize second := by
  rw [listSize, listSize, permuted.sum_nat, permuted.length_eq]

theorem encodeHeader_size (header : Header) :
    (encodeHeader header).render.length = headerSize header := by
  have entries : (fun member : Bytes × Json => memberSize member.1 member.2.render.length) ∘
      (fun entry : Bytes × List Bytes => (entry.1, Json.array (entry.2.map .string))) =
      fun entry => memberSize entry.1 (listSize (entry.2.map quotedSize)) := by
    funext entry
    simp only [Function.comp_apply, render_array, List.map_map]
    congr 3
  rw [encodeHeader, render_object, List.map_map, headerSize, entries]
  exact listSize_perm ((List.mergeSort_perm _ _).map _)

def RequestStart.size (start : RequestStart) : Nat :=
  listSize ([memberSize (ascii "method") (quotedSize start.method),
      memberSize (ascii "path") (quotedSize start.path)] ++
    omittedSize (ascii "query") (start.query = []) (quotedSize start.query) ++
    omittedSize (ascii "headers") (start.header = []) (headerSize start.header) ++
    omittedSize (ascii "content_length") (start.contentLength = 0)
      (decimal start.contentLength).length)

def ResponseStart.size (start : ResponseStart) : Nat :=
  listSize ([memberSize (ascii "status") (decimal start.status).length] ++
    omittedSize (ascii "headers") (start.header = []) (headerSize start.header))

def Open.size (payload : Open) : Nat :=
  listSize ([memberSize (ascii "path") (quotedSize payload.path)] ++
    omittedSize (ascii "query") (payload.query = []) (quotedSize payload.query) ++
    omittedSize (ascii "header") (payload.header = []) (headerSize payload.header) ++
    omittedSize (ascii "subprotocols") (payload.subprotocols = [])
      (listSize (payload.subprotocols.map quotedSize)))

/-- The envelope of a stream around a payload of the given size. -/
def envelopeSize (typ : MessageType) (streamID : StreamID) (tunnelID : Bytes) (payload : Nat) :
    Nat :=
  listSize ([memberSize (ascii "type") (quotedSize typ.name)] ++
    omittedSize (ascii "stream_id") (streamID = []) (quotedSize streamID) ++
    omittedSize (ascii "tunnel_id") (tunnelID = []) (quotedSize tunnelID) ++
    [memberSize (ascii "payload") payload])

theorem render_number (literal : Bytes) : (Json.number literal).render.length = literal.length := by
  rw [Json.render]

theorem RequestStart.encode_size (start : RequestStart) :
    start.encode.render.length = start.size := by
  simp [RequestStart.encode, RequestStart.size, render_object, omitEmpty_size, render_string,
    encodeHeader_size, render_number]

theorem ResponseStart.encode_size (start : ResponseStart) :
    start.encode.render.length = start.size := by
  simp [ResponseStart.encode, ResponseStart.size, render_object, omitEmpty_size, encodeHeader_size,
    render_number]

theorem Open.encode_size (payload : Open) : payload.encode.render.length = payload.size := by
  have subprotocols : (Json.array (payload.subprotocols.map .string)).render.length =
      listSize (payload.subprotocols.map quotedSize) := by
    rw [render_array, List.map_map]
    congr 2
  simp [Open.encode, Open.size, render_object, omitEmpty_size, render_string, encodeHeader_size,
    subprotocols]

theorem newStream_size (typ : MessageType) (streamID : StreamID) (tunnelID : Bytes)
    (payload : Json) :
    (Frame.text (newStream typ streamID tunnelID (some payload))).bytes.length =
      envelopeSize typ streamID tunnelID payload.render.length := by
  have members (envelope : Envelope) : envelope.encode.render.length =
      envelopeSize envelope.typ envelope.streamID envelope.tunnelID
        (envelope.payload.getD .null).render.length := by
    simp [Envelope.encode, envelopeSize, render_object, omitEmpty_size, render_string]
  exact members _

end Porthook.Protocol
