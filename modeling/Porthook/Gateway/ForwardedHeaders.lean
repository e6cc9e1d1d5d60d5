import Porthook.Gateway.ClientIP
import Porthook.Protocol.Messages

/-!
# The headers a public request reaches the agent with

The gateway is to set `X-Forwarded-For`, `X-Forwarded-Host`, `X-Forwarded-Proto` and
`X-Porthook-Tunnel-ID` itself, so two requests of an untrusted client that differ in nothing but
these should reach the agent alike.
-/

namespace Porthook.Gateway

open Protocol ClientIP Netip

structure HTTPRequest where
  method : Bytes := ascii "GET"
  path : Bytes := ascii "/"
  query : Bytes := []
  host : Bytes
  remoteAddr : Bytes
  tls : Bool := false
  header : Header
  contentLength : Int := 0

structure AccessPolicyEvaluation where
  allowed : Bool
  mode : Bytes

def requestProto (request : HTTPRequest) : Bytes :=
  if request.tls then ascii "https"
  else
    let proto := trimSpace (request.header.get (ascii "X-Forwarded-Proto"))
    if proto ≠ [] then proto else ascii "http"

def accessConsumesAuthorization (result : AccessPolicyEvaluation) : Bool :=
  result.allowed && (result.mode == ascii "basic_auth" || result.mode == ascii "bearer_token")

def tunnelRequest (clientIPs : Resolver) (tunnelID : Bytes) (access : AccessPolicyEvaluation)
    (request : HTTPRequest) : RequestStart :=
  let header := stripHopByHopHeaders request.header
  let header := if accessConsumesAuthorization access then header.del (ascii "Authorization")
    else header
  { method := request.method
    path := request.path
    query := request.query
    header := addForwardedHeaders header tunnelID request.host (requestProto request)
      (clientIPs.resolveString request.remoteAddr request.header)
    contentLength := if request.contentLength < 0 then 0 else request.contentLength }

def webSocketHandshakeHeaders : List Bytes :=
  [ascii "Sec-WebSocket-Key", ascii "Sec-WebSocket-Version", ascii "Sec-WebSocket-Extensions",
    ascii "Sec-WebSocket-Accept", ascii "Sec-WebSocket-Protocol"]

def requestedWebSocketSubprotocols (request : HTTPRequest) : List Bytes :=
  let raw := request.header.get (ascii "Sec-WebSocket-Protocol")
  if trimSpace raw = [] then []
  else ((splitByte 44 raw).map trimSpace).filter fun part => part ≠ []

def buildWSOpen (request : HTTPRequest) (stripAuthorization : Bool) : Open :=
  let header := webSocketHandshakeHeaders.foldl Header.del (stripHopByHopHeaders request.header)
  { path := request.path
    query := request.query
    header := if stripAuthorization then header.del (ascii "Authorization") else header
    subprotocols := requestedWebSocketSubprotocols request }

def forwardedNames : List Bytes :=
  [ascii "X-Forwarded-For", ascii "X-Forwarded-Host", ascii "X-Forwarded-Proto",
    ascii "X-Porthook-Tunnel-Id"]

structure OnlyForwardedDiffer (first second : HTTPRequest) : Prop where
  others : { second with header := first.header } = first
  entries : ∀ name ∉ forwardedNames, first.header.field? name = second.header.field? name

def SameHeaders (first second : Header) : Prop := ∀ name, first.field? name = second.field? name

/-- The policy lets the request in, routing refuses an empty host, and the registry holds no tunnel
without an id. -/
structure Admitted (tunnelID : Bytes) (access : AccessPolicyEvaluation) (request : HTTPRequest) :
    Prop where
  allowed : access.allowed = true
  routed : request.host ≠ []
  registered : tunnelID ≠ []

theorem requestProto_ne_nil (request : HTTPRequest) : requestProto request ≠ [] := by
  unfold requestProto
  split
  · decide
  dsimp only
  split
  next known => exact known
  · decide

theorem field?_addForwardedHeaders {header : Header} {tunnelID host proto remote : Bytes}
    (tunnel : tunnelID ≠ []) (hosted : host ≠ []) (known : proto ≠ []) (client : remote ≠ [])
    (name : Bytes) :
    (addForwardedHeaders header tunnelID host proto remote).field? name =
      if name = ascii "X-Porthook-Tunnel-Id" then some [tunnelID]
      else if name = ascii "X-Forwarded-Proto" then some [proto]
      else if name = ascii "X-Forwarded-Host" then some [host]
      else if name = ascii "X-Forwarded-For" then some [remote]
      else header.field? name := by
  have tunnelKey : canonicalHeaderKey (ascii "X-Porthook-Tunnel-ID") =
    ascii "X-Porthook-Tunnel-Id" := by decide
  have protoKey : canonicalHeaderKey (ascii "X-Forwarded-Proto") =
    ascii "X-Forwarded-Proto" := by decide
  have hostKey : canonicalHeaderKey (ascii "X-Forwarded-Host") =
    ascii "X-Forwarded-Host" := by decide
  have clientKey : canonicalHeaderKey (ascii "X-Forwarded-For") =
    ascii "X-Forwarded-For" := by decide
  simp [addForwardedHeaders, tunnel, hosted, known, client, Header.field?_set, tunnelKey, protoKey,
    hostKey, clientKey]

theorem field?_addForwardedHeaders_other {name : Bytes} (other : name ∉ forwardedNames)
    (header : Header) (tunnelID host proto remote : Bytes) :
    (addForwardedHeaders header tunnelID host proto remote).field? name = header.field? name := by
  have unchanged (header : Header) (label value : Bytes)
      (forwarded : canonicalHeaderKey label ∈ forwardedNames) :
      (if value ≠ [] then header.set label value else header).field? name =
        header.field? name := by
    have different : name ≠ canonicalHeaderKey label := fun same => other (same ▸ forwarded)
    split
    · rw [Header.field?_set, if_neg different]
    · rfl
  simp only [addForwardedHeaders]
  rw [unchanged _ _ _ (by decide), unchanged _ _ _ (by decide), unchanged _ _ _ (by decide),
    unchanged _ _ _ (by decide)]

section Requests

variable {first second : HTTPRequest}

theorem OnlyForwardedDiffer.strippedNames (differ : OnlyForwardedDiffer first second) :
    strippedNames first.header = strippedNames second.header := by
  have key : canonicalHeaderKey (ascii "Connection") ∉ forwardedNames := by decide
  simp only [Protocol.strippedNames, connectionTokens, Header.valuesOf, Header.values_eq,
    differ.entries _ key]

theorem OnlyForwardedDiffer.stripped (differ : OnlyForwardedDiffer first second) {name : Bytes}
    (other : name ∉ forwardedNames) :
    (stripHopByHopHeaders first.header).field? name =
      (stripHopByHopHeaders second.header).field? name := by
  rw [field?_stripHopByHopHeaders, field?_stripHopByHopHeaders, differ.strippedNames,
    differ.entries name other]

theorem OnlyForwardedDiffer.host (differ : OnlyForwardedDiffer first second) :
    first.host = second.host :=
  (congrArg HTTPRequest.host differ.others).symm

theorem OnlyForwardedDiffer.remoteAddr (differ : OnlyForwardedDiffer first second) :
    first.remoteAddr = second.remoteAddr :=
  (congrArg HTTPRequest.remoteAddr differ.others).symm

variable {clientIPs : Resolver} {tunnelID : Bytes} {access : AccessPolicyEvaluation} {peer : Addr}

theorem field?_tunnelRequest {request : HTTPRequest}
    (connected : parseRemoteAddr request.remoteAddr = some peer)
    (untrusted : clientIPs.isTrusted peer = false) (admitted : Admitted tunnelID access request)
    (name : Bytes) :
    (tunnelRequest clientIPs tunnelID access request).header.field? name =
      if name = ascii "X-Porthook-Tunnel-Id" then some [tunnelID]
      else if name = ascii "X-Forwarded-Proto" then some [requestProto request]
      else if name = ascii "X-Forwarded-Host" then some [request.host]
      else if name = ascii "X-Forwarded-For" then some [peer.string]
      else if accessConsumesAuthorization access = true ∧ name = ascii "Authorization" then none
      else (stripHopByHopHeaders request.header).field? name := by
  have client : clientIPs.resolveString request.remoteAddr request.header = peer.string := by
    rw [Resolver.resolveString, resolve_of_untrusted connected untrusted]
  have authorization : canonicalHeaderKey (ascii "Authorization") = ascii "Authorization" := by
    decide
  unfold tunnelRequest
  dsimp only
  rw [client, field?_addForwardedHeaders admitted.registered admitted.routed
    (requestProto_ne_nil request) peer.string_ne_nil]
  cases consumed : accessConsumesAuthorization access with
  | false => simp
  | true => simp [Header.field?_del, authorization]

theorem field?_buildWSOpen (request : HTTPRequest) (stripAuthorization : Bool) (name : Bytes) :
    (buildWSOpen request stripAuthorization).header.field? name =
      if (stripAuthorization = true ∧ name = ascii "Authorization") ∨
          name ∈ webSocketHandshakeHeaders.map canonicalHeaderKey then none
      else (stripHopByHopHeaders request.header).field? name := by
  have authorization : canonicalHeaderKey (ascii "Authorization") = ascii "Authorization" := by
    decide
  unfold buildWSOpen
  cases stripAuthorization with
  | false => simp [Header.field?_foldl_del]
  | true =>
    simp only [if_true, Header.field?_del, Header.field?_foldl_del, authorization, true_and]
    by_cases mine : name = ascii "Authorization" <;> simp [mine]

theorem sameHeaders_tunnelRequest_iff (differ : OnlyForwardedDiffer first second)
    (connected : parseRemoteAddr first.remoteAddr = some peer)
    (untrusted : clientIPs.isTrusted peer = false) (admitted : Admitted tunnelID access first) :
    SameHeaders (tunnelRequest clientIPs tunnelID access first).header
        (tunnelRequest clientIPs tunnelID access second).header ↔
      requestProto first = requestProto second := by
  have connectedSecond := connected
  rw [differ.remoteAddr] at connectedSecond
  have admittedSecond : Admitted tunnelID access second :=
    ⟨admitted.allowed, differ.host ▸ admitted.routed, admitted.registered⟩
  unfold SameHeaders
  simp only [field?_tunnelRequest connected untrusted admitted,
    field?_tunnelRequest connectedSecond untrusted admittedSecond]
  constructor
  · intro same
    have proto := same (ascii "X-Forwarded-Proto")
    have other : ascii "X-Forwarded-Proto" ≠ ascii "X-Porthook-Tunnel-Id" := by decide
    simpa [other] using proto
  · intro proto name
    rw [proto, differ.host]
    by_cases forwarded : name ∈ forwardedNames
    · simp only [forwardedNames, List.mem_cons, List.not_mem_nil, or_false] at forwarded
      rcases forwarded with rfl | rfl | rfl | rfl <;> simp
    · rw [differ.stripped forwarded]

theorem sameHeaders_buildWSOpen_iff (differ : OnlyForwardedDiffer first second)
    (stripAuthorization : Bool) :
    SameHeaders (buildWSOpen first stripAuthorization).header
        (buildWSOpen second stripAuthorization).header ↔
      ∀ name ∈ forwardedNames, name ∈ strippedNames first.header ∨
        first.header.field? name = second.header.field? name := by
  unfold SameHeaders
  simp only [field?_buildWSOpen]
  constructor
  · intro same name forwarded
    have foreign : name ≠ ascii "Authorization" ∧
        name ∉ webSocketHandshakeHeaders.map canonicalHeaderKey := by
      revert name
      decide
    have entry := same name
    simp only [foreign.1, foreign.2, and_false, or_false, if_false,
      field?_stripHopByHopHeaders, ← differ.strippedNames] at entry
    by_cases listed : name ∈ strippedNames first.header
    · exact .inl listed
    · exact .inr (by simpa [listed] using entry)
  · intro agree name
    split
    · rfl
    by_cases forwarded : name ∈ forwardedNames
    · rw [field?_stripHopByHopHeaders, field?_stripHopByHopHeaders, ← differ.strippedNames]
      rcases agree name forwarded with listed | same
      · rw [if_pos listed, if_pos listed]
      · rw [same]
    · exact differ.stripped forwarded

end Requests

theorem authorization_removed {clientIPs : Resolver} {tunnelID : Bytes}
    {access : AccessPolicyEvaluation} (request : HTTPRequest)
    (consumed : accessConsumesAuthorization access) :
    (tunnelRequest clientIPs tunnelID access request).header.field? (ascii "Authorization") = none ∧
      (buildWSOpen request (accessConsumesAuthorization access)).header.field?
        (ascii "Authorization") = none := by
  have other : ascii "Authorization" ∉ forwardedNames := by decide
  have key : ascii "Authorization" = canonicalHeaderKey (ascii "Authorization") := by decide
  constructor
  · unfold tunnelRequest
    dsimp only
    rw [field?_addForwardedHeaders_other other, if_pos consumed, Header.field?_del, if_pos key]
  · rw [field?_buildWSOpen, if_pos (.inl ⟨consumed, rfl⟩)]

/-- Two requests of an untrusted client that differ in the forwarding headers only give the same
`http.request.start` exactly when they give the same scheme, and the same `ws.open` exactly when
they agree on those headers that `Connection` does not list. -/
theorem forwardedHeaders_iff (clientIPs : Resolver) (tunnelID : Bytes)
    (access : AccessPolicyEvaluation) (first : HTTPRequest)
    (admitted : Admitted tunnelID access first) :
    (∀ (second : HTTPRequest) (peer : Addr), parseRemoteAddr first.remoteAddr = some peer →
      clientIPs.isTrusted peer = false → OnlyForwardedDiffer first second →
      (SameHeaders (tunnelRequest clientIPs tunnelID access first).header
          (tunnelRequest clientIPs tunnelID access second).header ↔
        requestProto first = requestProto second) ∧
      (SameHeaders (buildWSOpen first (accessConsumesAuthorization access)).header
          (buildWSOpen second (accessConsumesAuthorization access)).header ↔
        ∀ name ∈ forwardedNames, name ∈ strippedNames first.header ∨
          first.header.field? name = second.header.field? name)) ∧
    (access.mode = ascii "basic_auth" ∨ access.mode = ascii "bearer_token" →
      (tunnelRequest clientIPs tunnelID access first).header.field? (ascii "Authorization") = none ∧
      (buildWSOpen first (accessConsumesAuthorization access)).header.field?
        (ascii "Authorization") = none) := by
  constructor
  · intro second peer connected untrusted differ
    exact ⟨sameHeaders_tunnelRequest_iff differ connected untrusted admitted,
      sameHeaders_buildWSOpen_iff differ _⟩
  · intro mode
    apply authorization_removed
    simpa [accessConsumesAuthorization, admitted.allowed] using mode

def directRequest (header : Header) : HTTPRequest :=
  { host := ascii "demo.example", remoteAddr := ascii "203.0.113.7:5000", header }

theorem directRequest_differ {first second : Header}
    (entries : ∀ name ∉ forwardedNames, first.field? name = second.field? name) :
    OnlyForwardedDiffer (directRequest first) (directRequest second) :=
  ⟨rfl, entries⟩

theorem field?_forged {forged : Bytes} (name : Bytes) (value : List Bytes)
    (member : forged ∈ forwardedNames) (other : name ∉ forwardedNames) :
    Header.field? [] name = Header.field? [(forged, value)] name := by
  have different : forged ≠ name := fun same => other (same ▸ member)
  simp [Header.field?, different]

/-- A forged client address does not reach the agent in `http.request.start`,
and neither do the credentials. -/
theorem forwardedHeaders_forged :
    let forged := directRequest [(ascii "X-Forwarded-For", [ascii "10.0.0.1"])]
    let access : AccessPolicyEvaluation := ⟨true, ascii "basic_auth"⟩
    SameHeaders (tunnelRequest (new []) (ascii "tun_1") access (directRequest [])).header
        (tunnelRequest (new []) (ascii "tun_1") access forged).header ∧
      (buildWSOpen (directRequest []) (accessConsumesAuthorization access)).header.field?
        (ascii "Authorization") = none :=
  have both := forwardedHeaders_iff (new []) (ascii "tun_1") ⟨true, ascii "basic_auth"⟩
    (directRequest []) ⟨rfl, by decide, by decide⟩
  have alike := both.1 (directRequest [(ascii "X-Forwarded-For", [ascii "10.0.0.1"])])
    (.v4 0xcb007107) (by decide +kernel) (by decide)
    (directRequest_differ fun name other => field?_forged name _ (by decide) other)
  ⟨alike.1.mpr (by decide), (both.2 (.inl rfl)).2⟩

/-- A client decides about the scheme that `http.request.start` reports, and
about every forwarding header of `ws.open`. -/
theorem forwardedHeaders_chosen_by_client :
    let secure := directRequest [(ascii "X-Forwarded-Proto", [ascii "https"])]
    let forged := directRequest [(ascii "X-Forwarded-For", [ascii "10.0.0.1"])]
    let access : AccessPolicyEvaluation := ⟨true, ascii "public"⟩
    (parseRemoteAddr (directRequest []).remoteAddr = some (.v4 0xcb007107) ∧
      (new []).isTrusted (.v4 0xcb007107) = false ∧
      Admitted (ascii "tun_1") access (directRequest []) ∧
      OnlyForwardedDiffer (directRequest []) secure ∧
      OnlyForwardedDiffer (directRequest []) forged) ∧
    ¬ SameHeaders (tunnelRequest (new []) (ascii "tun_1") access (directRequest [])).header
        (tunnelRequest (new []) (ascii "tun_1") access secure).header ∧
    ¬ SameHeaders (buildWSOpen (directRequest []) (accessConsumesAuthorization access)).header
        (buildWSOpen forged (accessConsumesAuthorization access)).header := by
  refine ⟨⟨by decide +kernel, by decide, ⟨rfl, by decide, by decide⟩,
    directRequest_differ fun name other => field?_forged name _ (by decide) other,
    directRequest_differ fun name other => field?_forged name _ (by decide) other⟩, ?_, ?_⟩
  · intro same
    exact absurd (same (ascii "X-Forwarded-Proto")) (by decide +kernel)
  · intro same
    exact absurd (same (ascii "X-Forwarded-For")) (by decide +kernel)

end Porthook.Gateway
