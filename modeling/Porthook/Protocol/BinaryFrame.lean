import Porthook.Protocol.Messages

/-!
# Binary body frames

Body chunks and WebSocket messages travel as binary frames: a magic, one byte
for the kind, the lengths of the stream and tunnel ids as big-endian 16-bit
numbers, the two ids, and the data up to the end of the frame
(`protocol/messages/binary.go`).
-/

namespace Porthook.Protocol

def binaryBodyMagic : Bytes := ascii "PHB1"

def binaryBodyHeader : Nat := binaryBodyMagic.length + 1 + 2 + 2

inductive FrameError where
  | unsupportedType (typ : MessageType)
  | streamIDRequired
  | streamIDTooLong
  | tunnelIDTooLong
  | tooShort
  | invalidMagic
  | unsupportedFrameType (kind : UInt8)
  | truncatedMetadata
  deriving DecidableEq

structure BinaryBodyFrame where
  typ : MessageType
  streamID : StreamID
  tunnelID : Bytes
  data : Bytes

def binaryBodyFrameType : MessageType → Option UInt8
  | .httpRequestBody => some 1
  | .httpResponseBody => some 2
  | .wsMessageText => some 3
  | .wsMessageBinary => some 4
  | _ => none

def binaryBodyMessageType (kind : UInt8) : Option MessageType :=
  if kind = 1 then some .httpRequestBody
  else if kind = 2 then some .httpResponseBody
  else if kind = 3 then some .wsMessageText
  else if kind = 4 then some .wsMessageBinary
  else none

def putUint16 (n : Nat) : Bytes := [(n / 256).toUInt8, (n % 256).toUInt8]

def uint16 (bytes : Bytes) : Nat := 256 * (bytes.getD 0 0).toNat + (bytes.getD 1 0).toNat

def newBinaryBodyFrame (typ : MessageType) (streamID : StreamID) (tunnelID data : Bytes) :
    Except FrameError Bytes :=
  match binaryBodyFrameType typ with
  | none => .error (.unsupportedType typ)
  | some kind =>
    if streamID = [] then .error .streamIDRequired
    else if streamID.length > 65535 then .error .streamIDTooLong
    else if tunnelID.length > 65535 then .error .tunnelIDTooLong
    else
      .ok (binaryBodyMagic ++ [kind] ++ putUint16 streamID.length ++
        putUint16 tunnelID.length ++ streamID ++ tunnelID ++ data)

def decodeBinaryBodyFrame (frame : Bytes) : Except FrameError BinaryBodyFrame :=
  if frame.length < binaryBodyHeader then .error .tooShort
  else if frame.take binaryBodyMagic.length ≠ binaryBodyMagic then .error .invalidMagic
  else
    let kind := frame.getD binaryBodyMagic.length 0
    match binaryBodyMessageType kind with
    | none => .error (.unsupportedFrameType kind)
    | some typ =>
      let streamLen := uint16 (frame.drop (binaryBodyMagic.length + 1))
      let tunnelLen := uint16 (frame.drop (binaryBodyMagic.length + 3))
      if frame.length < binaryBodyHeader + streamLen + tunnelLen then .error .truncatedMetadata
      else
        let streamID := (frame.drop binaryBodyHeader).take streamLen
        let tunnelID := (frame.drop (binaryBodyHeader + streamLen)).take tunnelLen
        if streamID = [] then .error .streamIDRequired
        else .ok ⟨typ, streamID, tunnelID, frame.drop (binaryBodyHeader + streamLen + tunnelLen)⟩

@[simp]
theorem putUint16_length (n : Nat) : (putUint16 n).length = 2 := rfl

theorem uint16_putUint16 {n : Nat} (small : n ≤ 65535) (rest : Bytes) :
    uint16 (putUint16 n ++ rest) = n := by
  simp only [uint16, putUint16, List.cons_append, List.nil_append, List.getD_cons_zero,
    List.getD_cons_succ, Nat.toUInt8_eq, UInt8.toNat_ofNat']
  omega

variable {typ : MessageType} {frame bytes : Bytes} {decoded : BinaryBodyFrame}

theorem binaryBodyMessageType_of_frameType {kind : UInt8}
    (known : binaryBodyFrameType typ = some kind) : binaryBodyMessageType kind = some typ := by
  cases typ <;> cases known <;> rfl

theorem newBinaryBodyFrame_eq_ok {streamID : StreamID} {tunnelID data : Bytes}
    (built : newBinaryBodyFrame typ streamID tunnelID data = .ok frame) :
    ∃ kind, binaryBodyFrameType typ = some kind ∧ streamID ≠ [] ∧ streamID.length ≤ 65535 ∧
      tunnelID.length ≤ 65535 ∧
      frame = binaryBodyMagic ++ ([kind] ++ (putUint16 streamID.length ++
        (putUint16 tunnelID.length ++ (streamID ++ (tunnelID ++ data))))) := by
  unfold newBinaryBodyFrame at built
  repeat' split at built
  all_goals cases built
  next kind known nonempty streamShort tunnelShort =>
    exact ⟨kind, known, nonempty, by omega, by omega, by simp only [List.append_assoc]⟩

theorem decodeBinaryBodyFrame_newBinaryBodyFrame {streamID : StreamID} {tunnelID data : Bytes}
    (built : newBinaryBodyFrame typ streamID tunnelID data = .ok frame) :
    decodeBinaryBodyFrame frame = .ok ⟨typ, streamID, tunnelID, data⟩ := by
  obtain ⟨kind, known, nonempty, streamShort, tunnelShort, layout⟩ := newBinaryBodyFrame_eq_ok built
  have magic : frame.take binaryBodyMagic.length = binaryBodyMagic := by rw [layout]; rfl
  have kindByte : frame.getD binaryBodyMagic.length 0 = kind := by rw [layout]; rfl
  have lengths : frame.drop (binaryBodyMagic.length + 1) = putUint16 streamID.length ++
      (putUint16 tunnelID.length ++ (streamID ++ (tunnelID ++ data))) := by rw [layout]; rfl
  have tunnelLength : frame.drop (binaryBodyMagic.length + 3) =
      putUint16 tunnelID.length ++ (streamID ++ (tunnelID ++ data)) := by rw [layout]; rfl
  have ids : frame.drop binaryBodyHeader = streamID ++ (tunnelID ++ data) := by rw [layout]; rfl
  have long : ¬ frame.length < binaryBodyHeader + streamID.length + tunnelID.length := by
    simp only [layout, List.length_append, putUint16_length, binaryBodyHeader,
      List.length_singleton]
    omega
  unfold decodeBinaryBodyFrame
  rw [if_neg (by omega), if_neg (not_not_intro magic)]
  simp only [kindByte, binaryBodyMessageType_of_frameType known, lengths, tunnelLength,
    uint16_putUint16 streamShort, uint16_putUint16 tunnelShort, if_neg long]
  simp only [← List.drop_drop, ids, List.take_left, List.drop_left, if_neg nonempty]

theorem putUint16_uint16 (long : 2 ≤ bytes.length) : putUint16 (uint16 bytes) = bytes.take 2 := by
  match bytes, long with
  | high :: low :: rest, _ =>
    have highSmall := high.toNat_lt
    have lowSmall := low.toNat_lt
    have highByte : (256 * high.toNat + low.toNat) / 256 = high.toNat := by omega
    have lowByte : (256 * high.toNat + low.toNat) % 256 = low.toNat := by omega
    simp [putUint16, uint16, highByte, lowByte]

theorem uint16_le (bytes : Bytes) : uint16 bytes ≤ 65535 := by
  have highSmall := (bytes.getD 0 0).toNat_lt
  have lowSmall := (bytes.getD 1 0).toNat_lt
  unfold uint16
  omega

theorem binaryBodyFrameType_of_messageType {kind : UInt8}
    (known : binaryBodyMessageType kind = some typ) : binaryBodyFrameType typ = some kind := by
  unfold binaryBodyMessageType at known
  split at known
  next isKind =>
    cases known
    exact isKind ▸ rfl
  · repeat' split at known
    all_goals cases known
    next isKind => exact isKind ▸ rfl
    next isKind => exact isKind ▸ rfl
    next isKind => exact isKind ▸ rfl

theorem decodeBinaryBodyFrame_eq_ok (accepted : decodeBinaryBodyFrame frame = .ok decoded) :
    ∃ kind streamLen tunnelLen, binaryBodyMessageType kind = some decoded.typ ∧
      frame.take binaryBodyMagic.length = binaryBodyMagic ∧
      frame.getD binaryBodyMagic.length 0 = kind ∧
      uint16 (frame.drop (binaryBodyMagic.length + 1)) = streamLen ∧
      uint16 (frame.drop (binaryBodyMagic.length + 3)) = tunnelLen ∧
      binaryBodyHeader + streamLen + tunnelLen ≤ frame.length ∧
      decoded.streamID = (frame.drop binaryBodyHeader).take streamLen ∧
      decoded.tunnelID = (frame.drop (binaryBodyHeader + streamLen)).take tunnelLen ∧
      decoded.streamID ≠ [] ∧
      decoded.data = frame.drop (binaryBodyHeader + streamLen + tunnelLen) := by
  unfold decodeBinaryBodyFrame at accepted
  split at accepted
  · cases accepted
  split at accepted
  · cases accepted
  next magic =>
    dsimp only at accepted
    split at accepted
    · cases accepted
    next typ known =>
      split at accepted
      · cases accepted
      next long =>
        split at accepted
        · cases accepted
        next nonempty =>
          cases accepted
          exact ⟨_, _, _, known, not_not.mp magic, rfl, rfl, rfl, Nat.le_of_not_lt long,
            rfl, rfl, nonempty, rfl⟩

theorem frame_layout (streamLen tunnelLen : Nat) (long : binaryBodyHeader ≤ frame.length) :
    frame = frame.take binaryBodyMagic.length ++ ([frame.getD binaryBodyMagic.length 0] ++
      ((frame.drop (binaryBodyMagic.length + 1)).take 2 ++
      ((frame.drop (binaryBodyMagic.length + 3)).take 2 ++
      ((frame.drop binaryBodyHeader).take streamLen ++
      ((frame.drop (binaryBodyHeader + streamLen)).take tunnelLen ++
        frame.drop (binaryBodyHeader + streamLen + tunnelLen)))))) := by
  have step (start count : Nat) :
      (frame.drop start).take count ++ frame.drop (start + count) = frame.drop start := by
    rw [← List.drop_drop]
    exact List.take_append_drop count (frame.drop start)
  have inside : binaryBodyMagic.length < frame.length := Nat.lt_of_lt_of_le (by decide) long
  have kindByte : [frame.getD binaryBodyMagic.length 0] ++
      frame.drop (binaryBodyMagic.length + 1) = frame.drop binaryBodyMagic.length := by
    rw [List.drop_eq_getElem_cons inside, List.getD_eq_getElem?_getD,
      List.getElem?_eq_getElem inside]
    rfl
  rw [step (binaryBodyHeader + streamLen) tunnelLen, step binaryBodyHeader streamLen]
  have lengths := step (binaryBodyMagic.length + 3) 2
  have streamLength := step (binaryBodyMagic.length + 1) 2
  have header : binaryBodyMagic.length + 3 + 2 = binaryBodyHeader := rfl
  rw [header] at lengths
  rw [lengths, streamLength, kindByte, List.take_append_drop]

theorem newBinaryBodyFrame_decodeBinaryBodyFrame
    (accepted : decodeBinaryBodyFrame frame = .ok decoded) :
    newBinaryBodyFrame decoded.typ decoded.streamID decoded.tunnelID decoded.data = .ok frame := by
  obtain ⟨kind, streamLen, tunnelLen, known, magic, kindByte, streamLength, tunnelLength, long,
    streamID, tunnelID, nonempty, data⟩ := decodeBinaryBodyFrame_eq_ok accepted
  have headerLong : binaryBodyHeader ≤ frame.length := by omega
  have numeral : binaryBodyHeader = binaryBodyMagic.length + 3 + 2 := rfl
  have streamSize : decoded.streamID.length = streamLen := by
    rw [streamID, List.length_take, List.length_drop]
    omega
  have tunnelSize : decoded.tunnelID.length = tunnelLen := by
    rw [tunnelID, List.length_take, List.length_drop]
    omega
  have streamShort := uint16_le (frame.drop (binaryBodyMagic.length + 1))
  have tunnelShort := uint16_le (frame.drop (binaryBodyMagic.length + 3))
  have streamField : putUint16 streamLen = (frame.drop (binaryBodyMagic.length + 1)).take 2 := by
    rw [← streamLength]
    apply putUint16_uint16
    rw [List.length_drop]
    omega
  have tunnelField : putUint16 tunnelLen = (frame.drop (binaryBodyMagic.length + 3)).take 2 := by
    rw [← tunnelLength]
    apply putUint16_uint16
    rw [List.length_drop]
    omega
  have layout := frame_layout streamLen tunnelLen headerLong
  rw [magic, kindByte, ← streamField, ← tunnelField, ← streamID, ← tunnelID, ← data] at layout
  unfold newBinaryBodyFrame
  simp only [binaryBodyFrameType_of_messageType known, if_neg nonempty]
  rw [if_neg (by omega), if_neg (by omega), streamSize, tunnelSize]
  simp only [List.append_assoc]
  rw [← layout]

/-- The slice `bytes[low:high]`; `none` is the panic of a slice out of range. -/
def slice? (bytes : Bytes) (low high : Nat) : Option Bytes :=
  if low ≤ high ∧ high ≤ bytes.length then some ((bytes.drop low).take (high - low)) else none

/-- `binary.BigEndian.Uint16`, which panics on fewer than two bytes. -/
def uint16? (bytes : Bytes) : Option Nat :=
  if 2 ≤ bytes.length then some (uint16 bytes) else none

/-- `DecodeBinaryBodyFrame` with the bounds of every access; `none` is a panic. -/
def decodeBinaryBodyFrameChecked (frame : Bytes) : Option (Except FrameError BinaryBodyFrame) :=
  if frame.length < binaryBodyHeader then some (.error .tooShort)
  else
    (slice? frame 0 binaryBodyMagic.length).bind fun magic =>
    if magic ≠ binaryBodyMagic then some (.error .invalidMagic)
    else
      frame[binaryBodyMagic.length]?.bind fun kind =>
      match binaryBodyMessageType kind with
      | none => some (.error (.unsupportedFrameType kind))
      | some typ =>
        ((slice? frame (binaryBodyMagic.length + 1) frame.length).bind uint16?).bind
          fun streamLen =>
        ((slice? frame (binaryBodyMagic.length + 3) frame.length).bind uint16?).bind
          fun tunnelLen =>
        if frame.length < binaryBodyHeader + streamLen + tunnelLen then
          some (.error .truncatedMetadata)
        else
          let offset := binaryBodyHeader
          (slice? frame offset (offset + streamLen)).bind fun streamID =>
          let offset := offset + streamLen
          (slice? frame offset (offset + tunnelLen)).bind fun tunnelID =>
          let offset := offset + tunnelLen
          if streamID = [] then some (.error .streamIDRequired)
          else
            (slice? frame offset frame.length).map fun data =>
              .ok ⟨typ, streamID, tunnelID, data⟩

theorem slice?_eq {low count : Nat} (inside : low + count ≤ bytes.length) :
    slice? bytes low (low + count) = some ((bytes.drop low).take count) := by
  rw [slice?, if_pos ⟨Nat.le_add_right low count, inside⟩, Nat.add_sub_cancel_left]

theorem slice?_tail {low : Nat} (inside : low ≤ bytes.length) :
    slice? bytes low bytes.length = some (bytes.drop low) := by
  rw [slice?, if_pos ⟨inside, Nat.le_refl _⟩, List.take_of_length_le]
  rw [List.length_drop]

theorem uint16?_tail {low : Nat} (inside : low + 2 ≤ bytes.length) :
    (slice? bytes low bytes.length).bind uint16? = some (uint16 (bytes.drop low)) := by
  rw [slice?_tail (by omega), Option.bind_some, uint16?, if_pos]
  rw [List.length_drop]
  omega

/-- The checks come before the accesses that rely on them: no access is out of
range, whatever the bytes are. -/
theorem decodeBinaryBodyFrameChecked_eq (frame : Bytes) :
    decodeBinaryBodyFrameChecked frame = some (decodeBinaryBodyFrame frame) := by
  unfold decodeBinaryBodyFrameChecked decodeBinaryBodyFrame
  split
  · rfl
  next headerLong =>
    have magicLong : 0 + binaryBodyMagic.length ≤ frame.length := by
      have numeral : binaryBodyHeader = binaryBodyMagic.length + 3 + 2 := rfl
      omega
    have numeral : binaryBodyHeader = binaryBodyMagic.length + 3 + 2 := rfl
    have magic := slice?_eq magicLong
    rw [Nat.zero_add] at magic
    rw [magic, Option.bind_some, List.drop_zero]
    split
    · rfl
    have kindInside : binaryBodyMagic.length < frame.length := by omega
    have kindByte : frame[binaryBodyMagic.length]? =
        some (frame.getD binaryBodyMagic.length 0) := by
      rw [List.getD_eq_getElem?_getD, List.getElem?_eq_getElem kindInside]
      rfl
    rw [kindByte, Option.bind_some]
    dsimp only
    split
    · rfl
    rw [uint16?_tail (by omega), uint16?_tail (by omega), Option.bind_some, Option.bind_some]
    split
    · rfl
    next long =>
      rw [slice?_eq (by omega), slice?_eq (by omega), slice?_tail (by omega),
        Option.bind_some, Option.bind_some]
      split <;> rfl

def bodyTypes : List MessageType :=
  [.httpRequestBody, .httpResponseBody, .wsMessageText, .wsMessageBinary]

theorem binaryBodyFrameType_eq_none_iff (typ : MessageType) :
    binaryBodyFrameType typ = none ↔ typ ∉ bodyTypes := by
  cases typ <;> simp [binaryBodyFrameType, bodyTypes]

/-- The codec is a bijection between the frames it builds and the quadruples of a body type, a
stream id of 1 to 65535 bytes, a tunnel id of at most 65535 bytes and any data. -/
theorem binaryBodyFrame_bijective :
    (∀ (typ : MessageType) (streamID : StreamID) (tunnelID data : Bytes),
      if typ ∈ bodyTypes ∧ 1 ≤ streamID.length ∧ streamID.length ≤ 65535 ∧
          tunnelID.length ≤ 65535 then
        ∃ frame, newBinaryBodyFrame typ streamID tunnelID data = .ok frame ∧
          decodeBinaryBodyFrame frame = .ok ⟨typ, streamID, tunnelID, data⟩
      else ∃ err, newBinaryBodyFrame typ streamID tunnelID data = .error err) ∧
    (∀ (frame : Bytes) (decoded : BinaryBodyFrame), decodeBinaryBodyFrame frame = .ok decoded →
      newBinaryBodyFrame decoded.typ decoded.streamID decoded.tunnelID decoded.data = .ok frame) ∧
    ∀ frame : Bytes, decodeBinaryBodyFrameChecked frame = some (decodeBinaryBodyFrame frame) := by
  refine ⟨fun typ streamID tunnelID data => ?_,
    fun frame decoded => newBinaryBodyFrame_decodeBinaryBodyFrame,
    decodeBinaryBodyFrameChecked_eq⟩
  cases built : newBinaryBodyFrame typ streamID tunnelID data with
  | ok frame =>
    obtain ⟨_, known, nonempty, streamShort, tunnelShort, _⟩ := newBinaryBodyFrame_eq_ok built
    rw [if_pos]
    · exact ⟨frame, rfl, decodeBinaryBodyFrame_newBinaryBodyFrame built⟩
    refine ⟨?_, List.length_pos_iff.mpr nonempty, streamShort, tunnelShort⟩
    by_contra foreign
    rw [(binaryBodyFrameType_eq_none_iff typ).mpr foreign] at known
    cases known
  | error err =>
    rw [if_neg]
    · exact ⟨err, rfl⟩
    rintro ⟨body, nonempty, _, _⟩
    unfold newBinaryBodyFrame at built
    split at built
    next unknown => exact (binaryBodyFrameType_eq_none_iff typ).mp unknown body
    · rw [if_neg (List.length_pos_iff.mp nonempty), if_neg (by omega), if_neg (by omega)] at built
      cases built

end Porthook.Protocol
