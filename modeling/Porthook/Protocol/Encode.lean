import Porthook.Protocol.Messages

/-!
# JSON on the wire

What `json.Marshal` writes for the messages of the protocol, byte by byte.  A string that is not
valid UTF-8 does not survive: each offending byte is written as the replacement character.
-/

namespace Porthook.Protocol

/-- The second byte that `utf8.DecodeRune` accepts after a lead byte. -/
def acceptsSecond (lead second : UInt8) : Bool :=
  if lead = 0xE0 then 0xA0 ≤ second && second ≤ 0xBF
  else if lead = 0xED then 0x80 ≤ second && second ≤ 0x9F
  else if lead = 0xF0 then 0x90 ≤ second && second ≤ 0xBF
  else if lead = 0xF4 then 0x80 ≤ second && second ≤ 0x8F
  else 0x80 ≤ second && second ≤ 0xBF

def isContinuation (byte : UInt8) : Bool := 0x80 ≤ byte && byte ≤ 0xBF

/-- The length of the rune at the front, `none` where `utf8.DecodeRune` finds
an encoding error. -/
def runeLength? : Bytes → Option Nat
  | [] => none
  | lead :: rest =>
    if lead < 0x80 then some 1
    else if 0xC2 ≤ lead && lead ≤ 0xDF then
      match rest with
      | second :: _ => if acceptsSecond lead second then some 2 else none
      | [] => none
    else if 0xE0 ≤ lead && lead ≤ 0xEF then
      match rest with
      | second :: third :: _ =>
        if acceptsSecond lead second && isContinuation third then some 3 else none
      | _ => none
    else if 0xF0 ≤ lead && lead ≤ 0xF4 then
      match rest with
      | second :: third :: fourth :: _ =>
        if acceptsSecond lead second && isContinuation third && isContinuation fourth then
          some 4
        else none
      | _ => none
    else none

def hexDigit (n : Nat) : UInt8 := if n < 10 then (48 + n).toUInt8 else (87 + n).toUInt8

def escapeByte (byte : UInt8) : Bytes :=
  if byte = 34 ∨ byte = 92 then [92, byte]
  else if byte = 8 then [92, 98]
  else if byte = 9 then [92, 116]
  else if byte = 10 then [92, 110]
  else if byte = 12 then [92, 102]
  else if byte = 13 then [92, 114]
  else if byte < 32 ∨ byte = 38 ∨ byte = 60 ∨ byte = 62 then
    [92, 117, 48, 48, hexDigit (byte.toNat / 16), hexDigit (byte.toNat % 16)]
  else [byte]

def escapeRune : Bytes → Bytes × Nat
  | [] => ([], 0)
  | byte :: rest =>
    if byte < 0x80 then (escapeByte byte, 1)
    else
      match runeLength? (byte :: rest) with
      | none => (92 :: ascii "ufffd", 1)
      | some n =>
        let rune := (byte :: rest).take n
        if rune = [0xE2, 0x80, 0xA8] then (92 :: ascii "u2028", n)
        else if rune = [0xE2, 0x80, 0xA9] then (92 :: ascii "u2029", n)
        else (rune, n)

/-- Escape a string; the counter skips the bytes of a rune already written. -/
def escapeFrom : Nat → Bytes → Bytes
  | _, [] => []
  | skip + 1, _ :: rest => escapeFrom skip rest
  | 0, byte :: rest =>
    (escapeRune (byte :: rest)).1 ++ escapeFrom ((escapeRune (byte :: rest)).2 - 1) rest

def quote (text : Bytes) : Bytes := 34 :: escapeFrom 0 text ++ [34]

example : quote (ascii "a<\n") = ascii "\"a\\u003c\\n\"" := by decide

def receivedFrom : Nat → Bytes → Bytes
  | _, [] => []
  | skip + 1, byte :: rest => byte :: receivedFrom skip rest
  | 0, byte :: rest =>
    match runeLength? (byte :: rest) with
    | none => [0xEF, 0xBF, 0xBD] ++ receivedFrom 0 rest
    | some n => byte :: receivedFrom (n - 1) rest

theorem receivedFrom_ascii {text : Bytes} (isASCII : ∀ byte ∈ text, byte < 0x80) :
    receivedFrom 0 text = text := by
  induction text with
  | nil => rfl
  | cons byte rest ih =>
    have length : runeLength? (byte :: rest) = some 1 := by
      simp [runeLength?, isASCII byte List.mem_cons_self]
    simp only [receivedFrom, length]
    rw [ih fun other member => isASCII other (List.mem_cons_of_mem _ member)]

theorem mem_receivedFrom {skip : Nat} {text : Bytes} {byte : UInt8}
    (member : byte ∈ receivedFrom skip text) : byte ∈ text ∨ byte ∈ [0xEF, 0xBF, 0xBD] := by
  induction text generalizing skip with
  | nil =>
    rw [receivedFrom] at member
    cases member
  | cons first rest ih =>
    have kept {skip : Nat} (member : byte ∈ first :: receivedFrom skip rest) :
        byte ∈ first :: rest ∨ byte ∈ [0xEF, 0xBF, 0xBD] := by
      rcases List.mem_cons.mp member with rfl | later
      · exact .inl List.mem_cons_self
      · exact (ih later).imp_left (List.mem_cons_of_mem first)
    cases skip with
    | succ => exact kept member
    | zero =>
      unfold receivedFrom at member
      split at member
      · rcases List.mem_append.mp member with replaced | later
        · exact .inr replaced
        · exact (ih later).imp_left (List.mem_cons_of_mem first)
      · exact kept member

mutual

def Json.render : Json → Bytes
  | .null => ascii "null"
  | .bool true => ascii "true"
  | .bool false => ascii "false"
  | .number literal => literal
  | .string value => quote value
  | .array items => 91 :: renderItems items ++ [93]
  | .object members => 123 :: renderMembers members ++ [125]

def renderItems : List Json → Bytes
  | [] => []
  | [item] => item.render
  | item :: rest => item.render ++ 44 :: renderItems rest

def renderMember : Bytes × Json → Bytes
  | (name, value) => quote name ++ 58 :: value.render

def renderMembers : List (Bytes × Json) → Bytes
  | [] => []
  | [member] => renderMember member
  | member :: rest => renderMember member ++ 44 :: renderMembers rest

end

mutual

/-- The value that the reader of the rendered text gets. -/
def Json.received : Json → Json
  | .string value => .string (receivedFrom 0 value)
  | .array items => .array (receivedItems items)
  | .object members => .object (receivedMembers members)
  | .null => .null
  | .bool value => .bool value
  | .number literal => .number literal

def receivedItems : List Json → List Json
  | [] => []
  | item :: rest => item.received :: receivedItems rest

def receivedMember : Bytes × Json → Bytes × Json
  | (name, value) => (receivedFrom 0 name, value.received)

def receivedMembers : List (Bytes × Json) → List (Bytes × Json)
  | [] => []
  | member :: rest => receivedMember member :: receivedMembers rest

end

def decimal (n : Int) : Bytes := ascii (toString n)

theorem foldlM_toDigits (n : Nat) : ((Nat.toDigits 10 n).map fun char => char.toNat.toUInt8).foldlM
      (fun value byte => (digit? byte).map fun digit => 10 * value + digit) 0 = some n := by
  have last : ∀ digit : Fin 10, digit? (Nat.digitChar digit).toNat.toUInt8 = some digit.val := by
    decide
  induction n using Nat.strongRecOn with
  | ind n ih =>
    rw [Nat.toDigits_eq_if (by decide)]
    split
    next small => simp [last ⟨n, small⟩]
    next large =>
      have whole : 10 * (n / 10) + n % 10 = n := Nat.div_add_mod n 10
      rw [List.map_append, List.foldlM_append, ih (n / 10) (by omega)]
      simp [last ⟨n % 10, Nat.mod_lt _ (by decide)⟩, whole]

theorem parseNat?_decimal (n : Nat) : parseNat? (decimal n) = some n := by
  have digits : decimal n = (Nat.toDigits 10 n).map fun char => char.toNat.toUInt8 := by
    show ascii n.repr = _
    rw [Nat.repr_eq_ofList_toDigits, ascii, String.toList_ofList]
  have nonempty : decimal n ≠ [] := by simp [digits, Nat.toDigits_ne_nil]
  unfold parseNat?
  split
  next empty => exact absurd empty nonempty
  next => rw [digits, foldlM_toDigits]

def omitEmpty (name : Bytes) (empty : Prop) [Decidable empty] (value : Json) :
    List (Bytes × Json) :=
  if empty then [] else [(name, value)]

def base64Char (n : Nat) : UInt8 :=
  if n < 26 then (65 + n).toUInt8
  else if n < 52 then (71 + n).toUInt8
  else if n < 62 then (n - 4).toUInt8
  else if n = 62 then 43
  else 47

/-- `base64.StdEncoding`, which is how a `[]byte` is written. -/
def base64Encode : Bytes → Bytes
  | [] => []
  | [a] => [base64Char (a.toNat / 4), base64Char (a.toNat % 4 * 16), 61, 61]
  | [a, b] => [base64Char (a.toNat / 4), base64Char (a.toNat % 4 * 16 + b.toNat / 16),
      base64Char (b.toNat % 16 * 4), 61]
  | a :: b :: c :: rest => [base64Char (a.toNat / 4), base64Char (a.toNat % 4 * 16 + b.toNat / 16),
      base64Char (b.toNat % 16 * 4 + c.toNat / 64), base64Char (c.toNat % 64)] ++ base64Encode rest

example : base64Decode? (base64Encode (ascii "port")) = some (ascii "port") := by decide

def bytesLe : Bytes → Bytes → Bool
  | [], _ => true
  | _ :: _, [] => false
  | a :: as, b :: bs => a < b || (a = b && bytesLe as bs)

def encodeHeader (header : Header) : Json :=
  .object ((header.mergeSort fun first second => bytesLe first.1 second.1).map fun entry =>
    (entry.1, .array (entry.2.map .string)))

def RequestStart.encode (start : RequestStart) : Json :=
  .object ([(ascii "method", .string start.method), (ascii "path", .string start.path)] ++
    omitEmpty (ascii "query") (start.query = []) (.string start.query) ++
    omitEmpty (ascii "headers") (start.header = []) (encodeHeader start.header) ++
    omitEmpty (ascii "content_length") (start.contentLength = 0)
      (.number (decimal start.contentLength)))

def ResponseStart.encode (start : ResponseStart) : Json :=
  .object ([(ascii "status", .number (decimal start.status))] ++
    omitEmpty (ascii "headers") (start.header = []) (encodeHeader start.header))

def Response.encode (response : Response) : Json :=
  .object ([(ascii "status", .number (decimal response.status))] ++
    omitEmpty (ascii "headers") (response.header = []) (encodeHeader response.header) ++
    omitEmpty (ascii "body") (response.body = []) (.string (base64Encode response.body)))

def ErrorPayload.encode (payload : ErrorPayload) : Json :=
  .object [(ascii "code", .string payload.code), (ascii "message", .string payload.message)]

def StreamCancel.encode (payload : StreamCancel) : Json :=
  .object [(ascii "reason", .string payload.reason)]

def Open.encode (payload : Open) : Json :=
  .object ([(ascii "path", .string payload.path)] ++
    omitEmpty (ascii "query") (payload.query = []) (.string payload.query) ++
    omitEmpty (ascii "header") (payload.header = []) (encodeHeader payload.header) ++
    omitEmpty (ascii "subprotocols") (payload.subprotocols = [])
      (.array (payload.subprotocols.map .string)))

def Accept.encode (payload : Accept) : Json :=
  .object (omitEmpty (ascii "subprotocol") (payload.subprotocol = []) (.string payload.subprotocol))

def Close.encode (payload : Close) : Json :=
  .object ([(ascii "code", .number (decimal payload.code))] ++
    omitEmpty (ascii "reason") (payload.reason = []) (.string payload.reason))

/-- An envelope as `WriteEnvelope` marshals it; an absent raw message is `null`. -/
def Envelope.encode (envelope : Envelope) : Json :=
  .object ([(ascii "type", .string envelope.typ.name)] ++
    omitEmpty (ascii "stream_id") (envelope.streamID = []) (.string envelope.streamID) ++
    omitEmpty (ascii "tunnel_id") (envelope.tunnelID = []) (.string envelope.tunnelID) ++
    [(ascii "payload", envelope.payload.getD .null)])

end Porthook.Protocol
