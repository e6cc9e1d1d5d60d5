import Porthook.Protocol.Json

/-!
# Protocol messages

The envelope of `protocol/messages`, the payloads that the HTTP streams carry
(`protocol/httpwire`, `protocol/messages`, `protocol/wsproxy`), and the message
that `wswire.Read` hands to a read loop.
-/

namespace Porthook.Protocol

/-- `messages.Type`.  A peer may send any string; `other` is one that this
build does not know. -/
inductive MessageType where
  | authRequest | authOK | authError
  | tunnelRegister | tunnelRegistered | tunnelError
  | ping | pong
  | httpRequest | httpRequestStart | httpRequestBody | httpRequestEnd
  | httpResponse | httpResponseStart | httpResponseBody | httpResponseEnd
  | httpStreamError | httpStreamCancel
  | wsOpen | wsAccept | wsError | wsClose | wsCancel
  | wsMessageText | wsMessageBinary
  | other (name : Bytes)
  deriving DecidableEq

def MessageType.name : MessageType → Bytes
  | .authRequest => ascii "auth.request"
  | .authOK => ascii "auth.ok"
  | .authError => ascii "auth.error"
  | .tunnelRegister => ascii "tunnel.register"
  | .tunnelRegistered => ascii "tunnel.registered"
  | .tunnelError => ascii "tunnel.error"
  | .ping => ascii "ping"
  | .pong => ascii "pong"
  | .httpRequest => ascii "http.request"
  | .httpRequestStart => ascii "http.request.start"
  | .httpRequestBody => ascii "http.request.body"
  | .httpRequestEnd => ascii "http.request.end"
  | .httpResponse => ascii "http.response"
  | .httpResponseStart => ascii "http.response.start"
  | .httpResponseBody => ascii "http.response.body"
  | .httpResponseEnd => ascii "http.response.end"
  | .httpStreamError => ascii "http.stream.error"
  | .httpStreamCancel => ascii "http.stream.cancel"
  | .wsOpen => ascii "ws.open"
  | .wsAccept => ascii "ws.accept"
  | .wsError => ascii "ws.error"
  | .wsClose => ascii "ws.close"
  | .wsCancel => ascii "ws.cancel"
  | .wsMessageText => ascii "ws.message.text"
  | .wsMessageBinary => ascii "ws.message.binary"
  | .other name => name

/-- A stream identifier, chosen by the gateway and carried by every message. -/
abbrev StreamID := Bytes

/-- `messages.Envelope`.  A payload that the sender left out is `none`. -/
structure Envelope where
  typ : MessageType
  streamID : StreamID
  tunnelID : Bytes
  payload : Option Json

structure Message where
  envelope : Envelope
  body : Bytes
  binaryBody : Bool

/-- `messages.NewStream`; every type used here is non-empty, and an absent
payload is the empty object. -/
def newStream (typ : MessageType) (streamID tunnelID : Bytes) (payload : Option Json) :
    Envelope :=
  ⟨typ, streamID, tunnelID, some (payload.getD (.object []))⟩

def binaryMessage (typ : MessageType) (streamID tunnelID data : Bytes) : Message :=
  ⟨newStream typ streamID tunnelID none, data, true⟩

def textMessage (envelope : Envelope) : Message := ⟨envelope, [], false⟩

inductive PayloadError where
  | required
  | malformed (typ : MessageType)
  deriving DecidableEq

def decodePayload {Payload : Type} (decode : Json → Option Payload) (envelope : Envelope) :
    Except PayloadError Payload :=
  match envelope.payload with
  | none => .error .required
  | some value =>
    match decode value with
    | none => .error (.malformed envelope.typ)
    | some payload => .ok payload

structure Request where
  method : Bytes := []
  path : Bytes := []
  query : Bytes := []
  header : Header := []
  body : Bytes := []

structure RequestStart where
  method : Bytes := []
  path : Bytes := []
  query : Bytes := []
  header : Header := []
  contentLength : Int := 0

structure Response where
  status : Int := 0
  header : Header := []
  body : Bytes := []

structure ResponseStart where
  status : Int := 0
  header : Header := []
  deriving DecidableEq

structure BodyChunk where
  data : Bytes := []

structure ErrorPayload where
  code : Bytes := []
  message : Bytes := []

/-- `messages.StreamCancel`, also the payload of `ws.cancel`. -/
structure StreamCancel where
  reason : Bytes := []

structure Open where
  path : Bytes := []
  query : Bytes := []
  header : Header := []
  subprotocols : List Bytes := []

structure Accept where
  subprotocol : Bytes := []

structure Close where
  code : Int := 0
  reason : Bytes := []

def Request.decode : Json → Option Request :=
  decodeStruct [ ⟨ascii "method", fun value json => (decodeString value.method json).map
      fun method => { value with method }⟩,
    ⟨ascii "path", fun value json => (decodeString value.path json).map
      fun path => { value with path }⟩,
    ⟨ascii "query", fun value json => (decodeString value.query json).map
      fun query => { value with query }⟩,
    ⟨ascii "headers", fun value json => (decodeHeader value.header json).map
      fun header => { value with header }⟩,
    ⟨ascii "body", fun value json => (decodeBytes json).map fun body => { value with body }⟩] {}

def RequestStart.decode : Json → Option RequestStart :=
  decodeStruct [ ⟨ascii "method", fun value json => (decodeString value.method json).map
      fun method => { value with method }⟩,
    ⟨ascii "path", fun value json => (decodeString value.path json).map
      fun path => { value with path }⟩,
    ⟨ascii "query", fun value json => (decodeString value.query json).map
      fun query => { value with query }⟩,
    ⟨ascii "headers", fun value json => (decodeHeader value.header json).map
      fun header => { value with header }⟩,
    ⟨ascii "content_length", fun value json => (decodeInt value.contentLength json).map
      fun contentLength => { value with contentLength }⟩] {}

def Response.decode : Json → Option Response :=
  decodeStruct [ ⟨ascii "status", fun value json => (decodeInt value.status json).map
      fun status => { value with status }⟩,
    ⟨ascii "headers", fun value json => (decodeHeader value.header json).map
      fun header => { value with header }⟩,
    ⟨ascii "body", fun value json => (decodeBytes json).map fun body => { value with body }⟩] {}

def ResponseStart.decode : Json → Option ResponseStart :=
  decodeStruct [ ⟨ascii "status", fun value json => (decodeInt value.status json).map
      fun status => { value with status }⟩,
    ⟨ascii "headers", fun value json => (decodeHeader value.header json).map
      fun header => { value with header }⟩] {}

def BodyChunk.decode : Json → Option BodyChunk :=
  decodeStruct [⟨ascii "data", fun _ json => (decodeBytes json).map BodyChunk.mk⟩] {}

def ErrorPayload.decode : Json → Option ErrorPayload :=
  decodeStruct [ ⟨ascii "code", fun value json => (decodeString value.code json).map
      fun code => { value with code }⟩,
    ⟨ascii "message", fun value json => (decodeString value.message json).map
      fun message => { value with message }⟩] {}

def StreamCancel.decode : Json → Option StreamCancel :=
  decodeStruct [⟨ascii "reason", fun value json => (decodeString value.reason json).map
    StreamCancel.mk⟩] {}

def Open.decode : Json → Option Open :=
  decodeStruct [ ⟨ascii "path", fun value json => (decodeString value.path json).map
      fun path => { value with path }⟩,
    ⟨ascii "query", fun value json => (decodeString value.query json).map
      fun query => { value with query }⟩,
    ⟨ascii "header", fun value json => (decodeHeader value.header json).map
      fun header => { value with header }⟩,
    ⟨ascii "subprotocols", fun value json => (decodeStrings json).map
      fun subprotocols => { value with subprotocols }⟩] {}

def Accept.decode : Json → Option Accept :=
  decodeStruct [⟨ascii "subprotocol", fun value json =>
    (decodeString value.subprotocol json).map Accept.mk⟩] {}

def Close.decode : Json → Option Close :=
  decodeStruct [ ⟨ascii "code", fun value json => (decodeInt value.code json).map
      fun code => { value with code }⟩,
    ⟨ascii "reason", fun value json => (decodeString value.reason json).map
      fun reason => { value with reason }⟩] {}

end Porthook.Protocol
