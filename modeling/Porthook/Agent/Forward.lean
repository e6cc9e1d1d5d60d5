import Porthook.Agent.Runner
import Porthook.Tunnel.RequestTarget

/-!
# One public request, one local exchange

`ForwardHTTPRequest` and `ForwardHTTPStream` turn a message into a request for the local target,
hand it to the `http.Client` of the runner and relay what comes back.  The client follows
redirects itself, and its transport undoes a gzip encoding that it has asked for.
-/

namespace Porthook.Agent

open Protocol Url Tunnel

/-- The body of a request: the reader of a whole body, which can be read again, the
pipe of a stream with the length that was set, or none. -/
inductive LocalBody where
  | whole (data : Bytes)
  | piped (contentLength : Int)
  | empty
  deriving DecidableEq

structure LocalRequest (User : Type) where
  method : Bytes
  url : URL User
  header : Header
  body : LocalBody
  deriving DecidableEq

structure BodyReads where
  reads : List Bytes
  failed : Option Bytes := none

structure Reply where
  status : Int
  header : Header
  contentLength : Int := -1
  body : BodyReads

/-- Everything that answers: the reply to a request, by what was sent before. -/
abbrev Service (User : Type) := List (LocalRequest User) → LocalRequest User → Except Bytes Reply

/-- What is left open about `net/http`: which requests the transport refuses to send, the request
that a redirect leads to, and how gzip is undone. -/
structure HTTPClient (User : Type) where
  refuses : LocalRequest User → Option Bytes
  redirect : LocalRequest User → LocalRequest User → Bytes → Bool → Bytes →
    Except Bytes (LocalRequest User)
  gunzip : BodyReads → BodyReads

section Model

variable {User : Type}

def LocalBody.outgoingLength : LocalBody → Int
  | .whole data => data.length
  | .piped contentLength => if contentLength ≠ 0 then contentLength else -1
  | .empty => 0

/-- Whether `GetBody` is set. -/
def LocalBody.canReplay : LocalBody → Bool
  | .whole _ => true
  | _ => false

def redirectBehavior (method : Bytes) (reply : Reply) (first : LocalRequest User) :
    Option (Bytes × Bool) :=
  if reply.status = 301 ∨ reply.status = 302 ∨ reply.status = 303 then
    some (if method ≠ ascii "GET" ∧ method ≠ ascii "HEAD" then ascii "GET" else method, false)
  else if reply.status = 307 ∨ reply.status = 308 then
    if first.body.canReplay = false ∧ first.body.outgoingLength ≠ 0 then none
    else some (method, true)
  else none

def asksForGzip (request : LocalRequest User) : Bool :=
  request.header.get (ascii "Accept-Encoding") = [] &&
    request.header.get (ascii "Range") = [] && request.method ≠ ascii "HEAD"

def isUndone (request : LocalRequest User) (reply : Reply) : Bool :=
  asksForGzip request && reply.contentLength ≠ 0 &&
    lower (reply.header.get (ascii "Content-Encoding")) = ascii "gzip"

def undo (client : HTTPClient User) (request : LocalRequest User) (reply : Reply) : Reply :=
  if isUndone request reply then
    { status := reply.status
      header := (reply.header.del (ascii "Content-Encoding")).del (ascii "Content-Length")
      body := client.gunzip reply.body }
  else reply

def maxRequests : Nat := 10

/-- The loop of `Client.do` from a request on that may still be sent; `first` is the
request that the caller has made and `includeBody` the variable of this name. -/
def follow (client : HTTPClient User) (service : Service User) (first : LocalRequest User) :
    Nat → Bool → List (LocalRequest User) → LocalRequest User →
      List (LocalRequest User) × Except Bytes Reply
  | 0, _, sent, _ => (sent, .error (ascii "stopped after 10 redirects"))
  | fuel + 1, includeBody, sent, request =>
    match client.refuses request with
    | some text => (sent, .error text)
    | none =>
      let next := sent ++ [request]
      match service sent request with
      | .error text => (next, .error text)
      | .ok reply =>
        let resp := undo client request reply
        match redirectBehavior request.method resp first with
        | none => (next, .ok resp)
        | some (method, includeBodyOnHop) =>
          let location := resp.header.get (ascii "Location")
          if location = [] then (next, .ok resp)
          else
            match client.redirect first request method
                (includeBody && includeBodyOnHop) location with
            | .error text => (next, .error text)
            | .ok hop =>
              follow client service first fuel (includeBody && includeBodyOnHop) next hop

def HTTPClient.call (client : HTTPClient User) (service : Service User)
    (request : LocalRequest User) : List (LocalRequest User) × Except Bytes Reply :=
  follow client service request maxRequests true [] request

inductive ForwardMessage where
  | whole (req : Request)
  | start (req : RequestStart)

inductive ForwardError where
  | target
  | build
  | call (text : Bytes)
  | read (text : Bytes)
  | write (text : Bytes)
  deriving DecidableEq

structure Relayed where
  start : Option ResponseStart := none
  chunks : List Bytes := []
  result : Except ForwardError Unit

structure Exchange (User : Type) where
  sent : List (LocalRequest User) := []
  response : Option Reply := none
  relayed : Relayed

def removeEmptyPort (host : Bytes) : Bytes := trimSuffix host (ascii ":")

def newRequest (codec : AuthorityCodec User) (method text : Bytes) (body : LocalBody) :
    Option (LocalRequest User) :=
  let method := if method = [] then ascii "GET" else method
  if method.all validHeaderFieldByte then
    (URL.parse codec text).map fun url =>
      { method, url := { url with host := removeEmptyPort url.host }, header := [], body }
  else none

def buildRequest (codec : AuthorityCodec User) (localTarget method path query : Bytes)
    (header : Header) (body : LocalBody) : Except ForwardError (LocalRequest User) :=
  match buildLocalURL codec localTarget path query with
  | none => .error .target
  | some text =>
    match newRequest codec method text body with
    | none => .error .build
    | some request => .ok { request with header := stripHopByHopHeaders header }

def localHTTPRequest (codec : AuthorityCodec User) (localTarget : Bytes) :
    ForwardMessage → Except ForwardError (LocalRequest User)
  | .whole req =>
    buildRequest codec localTarget req.method req.path req.query req.header (.whole req.body)
  | .start req =>
    buildRequest codec localTarget req.method req.path req.query req.header
      (.piped (if req.contentLength > 0 then req.contentLength else 0))

def tooLargeText (limit : Int) : Bytes :=
  ascii "local response body exceeds " ++ decimal limit ++ ascii " bytes"

def readLimitedResponseBody (limit : Int) (body : BodyReads) : Except Bytes Bytes :=
  let data := body.reads.flatten
  if (data.length : Int) > limit then .error (tooLargeText limit)
  else
    match body.failed with
    | some text => .error text
    | none => .ok data

/-- `streamLimitedResponseBody` with what it has relayed so far; `write` tells which
chunks cannot be written, and why. -/
def streamLimitedResponseBody (limit : Int) (write : Nat → Option Bytes) (failed : Option Bytes) :
    List Bytes → List Bytes → List Bytes × Except Bytes Unit
  | chunks, [] =>
    match failed with
    | some text => (chunks, .error text)
    | none => (chunks, .ok ())
  | chunks, data :: rest =>
    if data = [] then streamLimitedResponseBody limit write failed chunks rest
    else if ((chunks.flatten.length + data.length : Nat) : Int) > limit then
      (chunks, .error (tooLargeText limit))
    else
      match write chunks.length with
      | some text => (chunks, .error text)
      | none => streamLimitedResponseBody limit write failed (chunks ++ [data]) rest

/-- What the agent makes of a response; `write` tells which messages cannot be written,
the start first. -/
def relayResponse (cfg : RunnerConfig) (write : Nat → Option Bytes) :
    ForwardMessage → Reply → Relayed
  | .whole _, resp =>
    match readLimitedResponseBody cfg.responseLimit resp.body with
    | .error text => { result := .error (.read text) }
    | .ok data =>
      { start := some ⟨resp.status, stripHopByHopHeaders resp.header⟩
        chunks := [data]
        result := .ok () }
  | .start _, resp =>
    -- the callback of `handleHTTPStream` clamps the status
    let start : ResponseStart := ⟨clampStatus resp.status, stripHopByHopHeaders resp.header⟩
    match write 0 with
    | some text => { start := some start, result := .error (.write text) }
    | none =>
      match streamLimitedResponseBody cfg.responseLimit
          (fun index => write (index + 1)) resp.body.failed [] resp.body.reads with
      | (chunks, .error text) =>
        { start := some start, chunks, result := .error (.read text) }
      | (chunks, .ok _) => { start := some start, chunks, result := .ok () }

def exchangeOf (cfg : RunnerConfig) (write : Nat → Option Bytes) (message : ForwardMessage)
    (call : List (LocalRequest User) × Except Bytes Reply) : Exchange User :=
  match call.2 with
  | .error text => { sent := call.1, relayed := { result := .error (.call text) } }
  | .ok resp =>
    { sent := call.1
      response := some resp
      relayed := relayResponse cfg write message resp }

def forward (codec : AuthorityCodec User) (client : HTTPClient User) (service : Service User)
    (localTarget : Bytes) (cfg : RunnerConfig) (write : Nat → Option Bytes)
    (message : ForwardMessage) : Exchange User :=
  match localHTTPRequest codec localTarget message with
  | .error err => { relayed := { result := .error err } }
  | .ok request => exchangeOf cfg write message (client.call service request)

/-- The status of the reply, its headers without the hop-by-hop ones, its body as far as it goes,
and all of it unless the body breaks off, is too large or cannot be passed on. -/
structure Relays (cfg : RunnerConfig) (write : Nat → Option Bytes) (reply : Reply)
    (relayed : Relayed) : Prop where
  start : ∀ start, relayed.start = some start →
    start = ⟨reply.status, stripHopByHopHeaders reply.header⟩
  body : relayed.chunks.flatten <+: reply.body.reads.flatten
  finished : relayed.result = .ok () →
    relayed.start.isSome = true ∧ relayed.chunks.flatten = reply.body.reads.flatten ∧
      reply.body.failed = none
  complete : reply.body.failed = none →
    (reply.body.reads.flatten.length : Int) ≤ cfg.responseLimit →
    (∀ index, write index = none) → relayed.result = .ok ()

/-- There is one request, it goes to the local target, and the response that is relayed
is the reply to it. -/
def OneExchange (codec : AuthorityCodec User) (service : Service User) (localTarget : Bytes)
    (cfg : RunnerConfig) (write : Nat → Option Bytes) (exchange : Exchange User) : Prop :=
  ∃ base request, URL.parse codec localTarget = some base ∧ exchange.sent = [request] ∧
    request.url.scheme = base.scheme ∧ request.url.host = removeEmptyPort base.host ∧
    ∀ reply, service [] request = .ok reply →
      exchange.response = some reply ∧ Relays cfg write reply exchange.relayed

/-- The client follows the reply elsewhere: it is a redirect with a location, and a body
that has to be sent again can be. -/
def Redirects (request : LocalRequest User) (reply : Reply) : Prop :=
  reply.header.get (ascii "Location") ≠ [] ∧
    (reply.status = 301 ∨ reply.status = 302 ∨ reply.status = 303 ∨
      (reply.status = 307 ∨ reply.status = 308) ∧
        (request.body.canReplay = true ∨ request.body.outgoingLength = 0))

instance (request : LocalRequest User) (reply : Reply) : Decidable (Redirects request reply) :=
  inferInstanceAs (Decidable (_ ∧ _))

/-- The message can be sent as a request, and the reply is neither a redirect that the client
follows, nor encoded in a way that the transport undoes, nor without a status. -/
def PlainExchange (codec : AuthorityCodec User) (client : HTTPClient User)
    (service : Service User) (localTarget : Bytes) (message : ForwardMessage) : Prop :=
  ∃ request, localHTTPRequest codec localTarget message = .ok request ∧
    client.refuses request = none ∧ ∀ reply, service [] request = .ok reply →
      ¬ Redirects request reply ∧ isUndone request reply = false ∧
        ((∃ req, message = .start req) → 0 < reply.status)

end Model

section Client

variable {User : Type} {client : HTTPClient User} {service : Service User}
  {request : LocalRequest User} {reply : Reply}

theorem follow_sends (first : LocalRequest User) (fuel : Nat) (includeBody : Bool)
    (sent : List (LocalRequest User)) (request : LocalRequest User)
    (sends : client.refuses request = none) :
    sent ++ [request] <+: (follow client service first (fuel + 1) includeBody sent request).1 := by
  induction fuel generalizing includeBody sent request with
  | zero =>
    unfold follow
    simp only [sends]
    repeat' split
    all_goals exact List.prefix_refl _
  | succ _ ih =>
    unfold follow
    simp only [sends]
    split
    · exact List.prefix_refl _
    split
    · exact List.prefix_refl _
    split
    · exact List.prefix_refl _
    split
    · exact List.prefix_refl _
    next hop _ =>
      cases refused : client.refuses hop with
      | some => simp only [follow, refused, List.prefix_refl]
      | none =>
        exact (List.prefix_append _ [hop]).trans (ih _ _ hop refused)

theorem redirectBehavior_isSome_iff :
    (redirectBehavior request.method reply request).isSome = true ∧
        reply.header.get (ascii "Location") ≠ [] ↔ Redirects request reply := by
  unfold redirectBehavior Redirects
  split
  next found =>
    have followed : reply.status = 301 ∨ reply.status = 302 ∨ reply.status = 303 ∨
        (reply.status = 307 ∨ reply.status = 308) ∧
          (request.body.canReplay = true ∨ request.body.outgoingLength = 0) :=
      found.imp_right fun rest => rest.imp_right .inl
    simp [followed]
  next other =>
    have others := not_or.mp other
    have last := not_or.mp others.2
    split
    next again =>
      cases replays : request.body.canReplay with
      | true => simp [others.1, last.1, last.2, again]
      | false =>
        by_cases length : request.body.outgoingLength = 0
        · simp [others.1, last.1, last.2, again, length]
        · simp [others.1, last.1, last.2, length]
    next neither => simp [others.1, last.1, last.2, neither]

theorem location_undo : (undo client request reply).header.get (ascii "Location") =
      reply.header.get (ascii "Location") := by
  unfold undo
  split
  · have other : canonicalHeaderKey (ascii "Location") ≠
        canonicalHeaderKey (ascii "Content-Length") ∧ canonicalHeaderKey (ascii "Location") ≠
          canonicalHeaderKey (ascii "Content-Encoding") := by decide +kernel
    simp only [Header.get, Header.valuesOf, Header.values_eq, Header.field?_del, if_neg other.1,
      if_neg other.2]
  · rfl

theorem status_undo : (undo client request reply).status = reply.status := by
  unfold undo
  split <;> rfl

theorem redirects_undo :
    Redirects request (undo client request reply) ↔ Redirects request reply := by
  unfold Redirects
  rw [location_undo, status_undo]

theorem undo_eq_iff : undo client request reply = reply ↔ isUndone request reply = false := by
  unfold undo
  cases undone : isUndone request reply with
  | false => simp
  | true =>
    refine iff_of_false (fun same => ?_) (by decide)
    rw [if_pos rfl] at same
    have encoding : lower (reply.header.get (ascii "Content-Encoding")) = ascii "gzip" := by
      simp only [isUndone, Bool.and_eq_true, decide_eq_true_eq] at undone
      exact undone.2
    have gone : reply.header.get (ascii "Content-Encoding") = [] := by
      rw [← same]
      have other : canonicalHeaderKey (ascii "Content-Encoding") ≠
          canonicalHeaderKey (ascii "Content-Length") := by decide +kernel
      simp [Header.get, Header.valuesOf, Header.values_eq, Header.field?_del, other]
    rw [gone] at encoding
    cases encoding

theorem call_of_not_redirects (sends : client.refuses request = none)
    (answered : service [] request = .ok reply) (plain : ¬ Redirects request reply) :
    client.call service request = ([request], .ok (undo client request reply)) := by
  have stays : ¬ Redirects request (undo client request reply) := mt redirects_undo.mp plain
  rw [← redirectBehavior_isSome_iff, not_and, not_not] at stays
  simp only [HTTPClient.call, maxRequests, follow, sends, answered, List.nil_append]
  cases behavior : redirectBehavior request.method (undo client request reply) request with
  | none => rfl
  | some =>
    have nowhere := stays (by rw [behavior]; rfl)
    simp [nowhere]

/-- A reply that is followed is not: another request is sent, or the call fails. -/
theorem call_of_redirects (sends : client.refuses request = none)
    (answered : service [] request = .ok reply) (followed : Redirects request reply) :
    (client.call service request).1 ≠ [request] ∨
      ∃ text, (client.call service request).2 = .error text := by
  have moves : Redirects request (undo client request reply) := redirects_undo.mpr followed
  rw [← redirectBehavior_isSome_iff] at moves
  obtain ⟨next, behavior⟩ := Option.isSome_iff_exists.mp moves.1
  simp only [HTTPClient.call, maxRequests]
  unfold follow
  simp only [sends, answered, behavior, List.nil_append, if_neg moves.2]
  cases client.redirect request request next.1 (true && next.2)
      ((undo client request reply).header.get (ascii "Location")) with
  | error text => exact .inr ⟨text, rfl⟩
  | ok hop =>
    -- the next request is refused, or there are two of them
    cases refused : client.refuses hop with
    | some text =>
      refine .inr ⟨text, ?_⟩
      simp only [follow, refused]
    | none =>
      refine .inl fun single => ?_
      have grown := @follow_sends User client service request 8 (true && next.2) [request] hop
        refused
      have length := (single ▸ grown).length_le
      simp at length

end Client

theorem streamLimitedResponseBody_relays (limit : Int) (write : Nat → Option Bytes)
    (failed : Option Bytes) (chunks reads : List Bytes) :
    let run := streamLimitedResponseBody limit write failed chunks reads
    run.1.flatten <+: chunks.flatten ++ reads.flatten ∧
      (run.2 = .ok () → run.1.flatten = chunks.flatten ++ reads.flatten ∧ failed = none) ∧
      (failed = none → ((chunks.flatten ++ reads.flatten).length : Int) ≤ limit →
        (∀ index, write index = none) → run.2 = .ok ()) := by
  induction reads generalizing chunks with
  | nil =>
    cases failed with
    | none | some => simp [streamLimitedResponseBody]
  | cons data rest ih =>
    dsimp only at ih ⊢
    unfold streamLimitedResponseBody
    split
    next empty =>
      subst empty
      exact ih chunks
    · have behind : chunks.flatten ++ (data :: rest).flatten =
          (chunks ++ [data]).flatten ++ rest.flatten := by simp
      split
      next large =>
        refine ⟨List.prefix_append _ _, nofun, fun _ small _ => ?_⟩
        simp only [List.flatten_cons, List.length_append] at small
        omega
      · split
        next text broken =>
          refine ⟨List.prefix_append _ _, nofun, fun _ _ writes => ?_⟩
          rw [writes] at broken
          cases broken
        · rw [behind]
          exact ih (chunks ++ [data])

section Relay

variable {cfg : RunnerConfig} {write : Nat → Option Bytes} {reply : Reply}

theorem relays_whole (req : Request) :
    Relays cfg write reply (relayResponse cfg write (.whole req) reply) := by
  unfold relayResponse readLimitedResponseBody
  by_cases large : (reply.body.reads.flatten.length : Int) > cfg.responseLimit
  · simp only [if_pos large]
    exact ⟨nofun, List.nil_prefix, nofun, fun _ small _ => absurd small (Int.not_le.mpr large)⟩
  · simp only [if_neg large]
    cases failed : reply.body.failed with
    | some =>
      refine ⟨nofun, List.nil_prefix, nofun, fun whole _ _ => ?_⟩
      rw [failed] at whole
      cases whole
    | none =>
      refine ⟨fun start same => (Option.some.inj same).symm, ?_, fun _ => ⟨rfl, ?_, failed⟩,
        fun _ _ _ => rfl⟩
      · simp
      · simp

theorem relays_start (req : RequestStart) :
    Relays cfg write reply (relayResponse cfg write (.start req) reply) ↔ 0 < reply.status := by
  have clamped : clampStatus reply.status = reply.status ↔ 0 < reply.status := by
    unfold clampStatus
    split
    next missing => omega
    · omega
  constructor
  · intro relays
    have started : (relayResponse cfg write (.start req) reply).start =
        some ⟨clampStatus reply.status, stripHopByHopHeaders reply.header⟩ := by
      unfold relayResponse
      dsimp only
      split
      · rfl
      · split <;> rfl
    have same := congrArg ResponseStart.status (relays.start _ started)
    exact clamped.mp same
  · intro positive
    obtain ⟨sofar, whole, ends⟩ := streamLimitedResponseBody_relays cfg.responseLimit
      (fun index => write (index + 1)) reply.body.failed [] reply.body.reads
    simp only [relayResponse, clamped.mpr positive]
    cases first : write 0 with
    | some =>
      refine ⟨fun start same => (Option.some.inj same).symm, List.nil_prefix, nofun,
        fun _ _ writes => ?_⟩
      rw [writes] at first
      cases first
    | none =>
      generalize streamLimitedResponseBody cfg.responseLimit (fun index => write (index + 1))
        reply.body.failed [] reply.body.reads = run at sofar whole ends
      rcases run with ⟨_, result⟩
      cases result with
      | error =>
        refine ⟨fun start same => (Option.some.inj same).symm, sofar, nofun,
          fun unbroken small writes => ?_⟩
        cases ends unbroken small fun index => writes (index + 1)
      | ok =>
        exact ⟨fun start same => (Option.some.inj same).symm, sofar,
          fun _ => ⟨rfl, whole rfl⟩, fun _ _ _ => rfl⟩

theorem relays_iff (message : ForwardMessage) :
    Relays cfg write reply (relayResponse cfg write message reply) ↔
      ((∃ req, message = .start req) → 0 < reply.status) := by
  cases message with
  | whole req => exact iff_of_true (relays_whole req) (fun ⟨_, same⟩ => by cases same)
  | start req =>
    rw [relays_start]
    exact ⟨fun positive _ => positive, fun positive => positive ⟨req, rfl⟩⟩

end Relay

section Target

variable {User : Type} {codec : AuthorityCodec User} {localTarget : Bytes}

theorem buildRequest_authority (lawful : codec.Lawful) {method path query : Bytes}
    {header : Header} {body : LocalBody} {request : LocalRequest User}
    (made : buildRequest codec localTarget method path query header body = .ok request) :
    ∃ base, URL.parse codec localTarget = some base ∧ request.url.scheme = base.scheme ∧
      request.url.host = removeEmptyPort base.host := by
  unfold buildRequest at made
  split at made
  · cases made
  next text built =>
    split at made
    · cases made
    next bare created =>
      cases made
      obtain ⟨base, parsed, complete⟩ := Option.bind_eq_some_iff.mp built
      split at complete
      · cases complete
      next named =>
        cases complete
        obtain ⟨scheme, host⟩ := not_or.mp named
        obtain ⟨anchored, opaqueText, authority⟩ := URL.parse_host parsed host
        simp only [newRequest, Option.ite_none_right_eq_some] at created
        obtain ⟨url, reparsed, rfl⟩ := Option.map_eq_some_iff.mp created.2
        have schemeText : SchemeText base.scheme := URL.parse_scheme parsed scheme
        have kept := @URL.parse_string_authority _ _ (localURL base path query) lawful url
          schemeText opaqueText host authority (localURL_rooted anchored path query) rfl reparsed
        exact ⟨base, parsed, kept.1, congrArg removeEmptyPort kept.2⟩

theorem localHTTPRequest_authority (lawful : codec.Lawful) {message : ForwardMessage}
    {request : LocalRequest User}
    (made : localHTTPRequest codec localTarget message = .ok request) :
    ∃ base, URL.parse codec localTarget = some base ∧ request.url.scheme = base.scheme ∧
      request.url.host = removeEmptyPort base.host := by
  cases message with
  | whole | start => exact buildRequest_authority lawful made

end Target

theorem exchangeOf_sent {User : Type} (cfg : RunnerConfig) (write : Nat → Option Bytes)
    (message : ForwardMessage) (call : List (LocalRequest User) × Except Bytes Reply) :
    (exchangeOf cfg write message call).sent = call.1 := by
  unfold exchangeOf
  split <;> rfl

def plainClient : HTTPClient Empty where
  refuses _ := none
  redirect first _ method includeBody location :=
    match URL.parse hostCodec location with
    | none => .error (ascii "failed to parse Location header")
    | some url =>
      .ok { method, url, header := first.header
            body := if includeBody then first.body else .empty }
  gunzip := id

/-- The local service redirects to a host of the internal network, which answers. -/
def redirectingService : Service Empty := fun _ request =>
  if request.url.host = ascii "localhost:3000" then
    .ok { status := 302
          header := [(ascii "Location", [ascii "http://10.0.0.7/admin"])]
          body := ⟨[], none⟩ }
  else .ok { status := 200, header := [], body := ⟨[ascii "internal"], none⟩ }

def forwardGet (service : Service Empty) : Exchange Empty :=
  forward hostCodec plainClient service (ascii "http://localhost:3000") ⟨32, 1024, ascii "tun_1"⟩
    (fun _ => none) (.start { method := ascii "GET", path := ascii "/login" })

def answeringService : Service Empty := fun _ _ =>
  .ok { status := 404, header := [], body := ⟨[ascii "none"], none⟩ }

def loginRequest : LocalRequest Empty where
  method := ascii "GET"
  url := { scheme := ascii "http", host := ascii "localhost:3000", path := ascii "/login" }
  header := []
  body := .piped 0

end Porthook.Agent
