import Porthook.Foundations.Url
import Porthook.Gateway.ForwardedHeaders
import Porthook.Protocol.Encode
import Porthook.Protocol.Text

/-!
# What the local service is asked for

The gateway sends the decoded path of a public request and its raw query to the agent as JSON
strings.  The agent joins the path to that of its local target, prints the URL, and the HTTP client
parses that again; for a WebSocket it is printed and parsed twice more.
-/

namespace Porthook.Tunnel

open Protocol Gateway Url

section Model

variable {User : Type} (codec : AuthorityCodec User)

def joinURLPath (basePath requestPath : Bytes) : Bytes :=
  if basePath = [] ∨ basePath = ascii "/" then requestPath
  else if (ascii "/").isSuffixOf basePath ∧ (ascii "/").isPrefixOf requestPath then
    basePath ++ trimPrefix requestPath (ascii "/")
  else if ¬ (ascii "/").isSuffixOf basePath ∧ ¬ (ascii "/").isPrefixOf requestPath then
    basePath ++ ascii "/" ++ requestPath
  else basePath ++ requestPath

def slashed (requestPath : Bytes) : Bytes :=
  let requestPath := if requestPath = [] then ascii "/" else requestPath
  if (ascii "/").isPrefixOf requestPath then requestPath else ascii "/" ++ requestPath

/-- The URL of `buildLocalURL`; what the local target says of its own encoding stays. -/
def localURL (base : URL User) (requestPath rawQuery : Bytes) : URL User :=
  { base with path := joinURLPath base.path (slashed requestPath), rawQuery, fragment := [] }

def buildLocalURL (localTarget requestPath rawQuery : Bytes) : Option Bytes :=
  (URL.parse codec localTarget).bind fun base =>
    if base.scheme = [] ∨ base.host = [] then none
    else some ((localURL base requestPath rawQuery).string codec)

def webSocketScheme (scheme : Bytes) : Bytes :=
  if scheme = ascii "http" then ascii "ws"
  else if scheme = ascii "https" then ascii "wss"
  else scheme

def buildLocalWSURL (localTarget requestPath rawQuery : Bytes) : Option Bytes :=
  (buildLocalURL codec localTarget requestPath rawQuery).bind fun text =>
    (URL.parse codec text).map fun parsed =>
      { parsed with scheme := webSocketScheme parsed.scheme }.string codec

def sendRequest (text : Bytes) : Option (Bytes × Bytes) :=
  (URL.parse codec text).bind fun url =>
    if url.scheme = ascii "http" ∨ url.scheme = ascii "https" then
      some (url.requestPath, url.rawQuery)
    else none

def handshakeScheme (scheme : Bytes) : Bytes :=
  if scheme = ascii "ws" then ascii "http"
  else if scheme = ascii "wss" then ascii "https"
  else scheme

def dial (text : Bytes) : Option (Bytes × Bytes) :=
  (URL.parse codec text).bind fun url =>
    sendRequest codec ({ url with scheme := handshakeScheme url.scheme }.string codec)

/-- What the agent asks its local service for, by a request or an upgrade. -/
def localRequest (upgrade : Bool) (localTarget requestPath rawQuery : Bytes) :
    Option (Bytes × Bytes) :=
  if upgrade then (buildLocalWSURL codec localTarget requestPath rawQuery).bind (dial codec)
  else (buildLocalURL codec localTarget requestPath rawQuery).bind (sendRequest codec)

/-- The path and the query as the agent reads them from `http.request.start` or `ws.open`. -/
def relayedTarget (upgrade : Bool) (clientIPs : ClientIP.Resolver) (tunnelID : Bytes)
    (access : AccessPolicyEvaluation) (request : HTTPRequest) : Bytes × Bytes :=
  if upgrade then
    let message := buildWSOpen request (accessConsumesAuthorization access)
    (receivedFrom 0 message.path, receivedFrom 0 message.query)
  else
    let message := tunnelRequest clientIPs tunnelID access request
    (receivedFrom 0 message.path, receivedFrom 0 message.query)

/-- What the local service is asked for when the gateway forwards a public request. -/
def forwardedTarget (upgrade : Bool) (localTarget : Bytes) (clientIPs : ClientIP.Resolver)
    (tunnelID : Bytes) (access : AccessPolicyEvaluation) (request : HTTPRequest) :
    Option (Bytes × Bytes) :=
  let (path, query) := relayedTarget upgrade clientIPs tunnelID access request
  localRequest codec upgrade localTarget path query

def joinEscaped (basePath requestPath : Bytes) : Bytes :=
  trimSuffix basePath (ascii "/") ++ ascii "/" ++ trimPrefix requestPath (ascii "/")

/-- The request was written in the default encoding and in UTF-8, so was the local target unless its
root is asked for, and no number sign is in the query. -/
structure KeepsTarget (base client : URL User) : Prop where
  encoding : client.escapedPath = escape keepsPath client.path
  path : receivedFrom 0 client.path = client.path
  target : base.escapedPath = escape keepsPath base.path ∨
    (client.path = [] ∨ client.path = ascii "/") ∧ base.escapedPath.getLast? = some 47
  query : receivedFrom 0 client.rawQuery = client.rawQuery
  fragment : 35 ∉ client.rawQuery

end Model

theorem isSuffixOf_slash (text : Bytes) :
    (ascii "/").isSuffixOf text = true ↔ text.getLast? = some 47 := by
  rw [List.isSuffixOf_iff_suffix, show ascii "/" = [47] by decide, List.getLast?_eq_some_iff]
  constructor
  · rintro ⟨front, rfl⟩
    exact ⟨front, rfl⟩
  · rintro ⟨front, rfl⟩
    exact ⟨front, rfl⟩

theorem isPrefixOf_slash (text : Bytes) :
    (ascii "/").isPrefixOf text = true ↔ text.head? = some 47 := by
  rw [List.isPrefixOf_iff_prefix, show ascii "/" = [47] by decide, List.head?_eq_some_iff]
  constructor
  · rintro ⟨rest, rfl⟩
    exact ⟨rest, rfl⟩
  · rintro ⟨rest, rfl⟩
    exact ⟨rest, rfl⟩

theorem trimSuffix_concat (front : Bytes) : trimSuffix (front ++ [47]) (ascii "/") = front := by
  have ends : (ascii "/").isSuffixOf (front ++ [47]) = true := (isSuffixOf_slash _).mpr (by simp)
  simp [trimSuffix, ends, show (ascii "/").length = 1 by decide]

variable {text : Bytes}

theorem trimSuffix_of_last (other : text.getLast? ≠ some 47) : trimSuffix text (ascii "/") = text :=
  if_neg (mt (isSuffixOf_slash text).mp other)

theorem trimPrefix_cons (rest : Bytes) : trimPrefix (47 :: rest) (ascii "/") = rest := by
  have starts : (ascii "/").isPrefixOf (47 :: rest) = true := (isPrefixOf_slash _).mpr rfl
  simp [trimPrefix, cutPrefix?, starts, show (ascii "/").length = 1 by decide]

theorem trimPrefix_of_head (other : text.head? ≠ some 47) : trimPrefix text (ascii "/") = text := by
  have starts := mt (isPrefixOf_slash text).mp other
  simp [trimPrefix, cutPrefix?, starts]

theorem last_slash_cases (text : Bytes) :
    (∃ front, text = front ++ [47]) ∨ text.getLast? ≠ some 47 := by
  by_cases last : text.getLast? = some 47
  · exact .inl (List.getLast?_eq_some_iff.mp last)
  · exact .inr last

theorem joinURLPath_cons (base rest : Bytes) :
    joinURLPath base (47 :: rest) = trimSuffix base (ascii "/") ++ 47 :: rest := by
  have starts : (ascii "/").isPrefixOf (47 :: rest) = true := (isPrefixOf_slash _).mpr rfl
  unfold joinURLPath
  rcases last_slash_cases base with ⟨front, rfl⟩ | other
  · have ends : (ascii "/").isSuffixOf (front ++ [47]) = true :=
      (isSuffixOf_slash _).mpr (by simp)
    rw [trimSuffix_concat]
    split
    next root =>
      rcases root with empty | single
      · simp at empty
      have empty : front = [] := by
        cases front with
        | nil => rfl
        | cons =>
          have length := congrArg List.length single
          rw [show ascii "/" = [47] by decide] at length
          simp at length
      rw [empty]
      rfl
    · rw [if_pos ⟨ends, starts⟩, trimPrefix_cons]
      simp
  · have open' : ¬ (ascii "/").isSuffixOf base = true := mt (isSuffixOf_slash base).mp other
    rw [trimSuffix_of_last other]
    split
    next root =>
      rcases root with rfl | rfl
      · rfl
      · exact absurd (by decide) other
    · rw [if_neg (fun both => open' both.1), if_neg (fun neither => neither.2 starts)]

theorem slashed_eq (path : Bytes) : slashed path = 47 :: trimPrefix path (ascii "/") := by
  unfold slashed
  cases path with
  | nil => rfl
  | cons first rest =>
    dsimp only
    rw [if_neg (List.cons_ne_nil first rest)]
    by_cases slash : first = 47
    · subst slash
      rw [if_pos ((isPrefixOf_slash _).mpr rfl), trimPrefix_cons]
    · have other : (first :: rest).head? ≠ some 47 := by simpa using slash
      rw [if_neg (mt (isPrefixOf_slash _).mp other), trimPrefix_of_head other]
      rfl

theorem joinURLPath_slashed (base path : Bytes) :
    joinURLPath base (slashed path) = joinEscaped base path := by
  rw [slashed_eq, joinURLPath_cons, joinEscaped, List.append_assoc]
  rfl

theorem head?_joinEscaped {base : Bytes} (start : base = [] ∨ base.head? = some 47)
    (path : Bytes) : (joinEscaped base path).head? = some 47 := by
  unfold joinEscaped
  rcases last_slash_cases base with ⟨front, rfl⟩ | other
  · rw [trimSuffix_concat]
    cases front with
    | nil => rfl
    | cons =>
      have slash := start.resolve_left (by simp)
      exact slash
  · rw [trimSuffix_of_last other]
    rcases start with rfl | slash
    · rfl
    · obtain ⟨_, rfl⟩ := List.head?_eq_some_iff.mp slash
      rfl

theorem escape_slash (rest : Bytes) : escape keepsPath (47 :: rest) = 47 :: escape keepsPath rest :=
  escape_cons_kept URL.keepsPath_slash rest

theorem escape_concat_slash (front : Bytes) :
    escape keepsPath (front ++ [47]) = escape keepsPath front ++ [47] := by
  rw [escape_append, escape_slash]
  rfl

theorem escape_eq_split {before after : Bytes}
    (encoded : escape keepsPath text = before ++ 47 :: after) :
    ∃ first second, text = first ++ 47 :: second ∧ before = escape keepsPath first ∧
      after = escape keepsPath second := by
  refine escape_eq_append_cons URL.keepsPath_percent URL.keepsPath_slash ?_ encoded
  intro n small same
  have checked : ∀ m : Fin 16, upperHex m ≠ 47 := by decide
  exact checked ⟨n, small⟩ same

theorem escape_eq_nil (encoded : escape keepsPath text = []) : text = [] :=
  escape_injective URL.keepsPath_percent (encoded.trans escape_nil.symm)

theorem getLast?_escape : (escape keepsPath text).getLast? = some 47 ↔ text.getLast? = some 47 := by
  constructor
  · intro last
    obtain ⟨_, encoded⟩ := List.getLast?_eq_some_iff.mp last
    obtain ⟨_, _, rfl, -, rest⟩ := escape_eq_split encoded
    rw [escape_eq_nil rest.symm]
    simp
  · intro last
    obtain ⟨_, rfl⟩ := List.getLast?_eq_some_iff.mp last
    rw [escape_concat_slash]
    simp

theorem trimSuffix_escape (text : Bytes) : trimSuffix (escape keepsPath text) (ascii "/") =
      escape keepsPath (trimSuffix text (ascii "/")) := by
  rcases last_slash_cases text with ⟨_, rfl⟩ | other
  · rw [escape_concat_slash, trimSuffix_concat, trimSuffix_concat]
  · rw [trimSuffix_of_last other, trimSuffix_of_last (mt getLast?_escape.mp other)]

theorem joinEscaped_escape {base path : Bytes} (start : path = [] ∨ path.head? = some 47) :
    joinEscaped (escape keepsPath base) (escape keepsPath path) =
      escape keepsPath (joinEscaped base path) := by
  have slash : escape keepsPath (ascii "/") = ascii "/" := by decide
  have behind : trimPrefix (escape keepsPath path) (ascii "/") =
      escape keepsPath (trimPrefix path (ascii "/")) := by
    rcases start with rfl | rooted
    · rfl
    · obtain ⟨_, rfl⟩ := List.head?_eq_some_iff.mp rooted
      rw [escape_slash, trimPrefix_cons, trimPrefix_cons]
  simp only [joinEscaped, escape_append, trimSuffix_escape, slash, behind]

theorem receivedFrom_slash (rest : Bytes) :
    receivedFrom 0 (47 :: rest) = 47 :: receivedFrom 0 rest := by
  have length : runeLength? (47 :: rest) = some 1 := by simp [runeLength?]
  simp only [receivedFrom, length]

theorem receivedFrom_eq_nil {skip : Nat} (empty : receivedFrom skip text = []) : text = [] := by
  cases text with
  | nil => rfl
  | cons =>
    cases skip with
    | succ => cases empty
    | zero =>
      unfold receivedFrom at empty
      split at empty <;> cases empty

theorem receivedFrom_eq_slash (single : receivedFrom 0 text = [47]) : text = [47] := by
  cases text with
  | nil => cases single
  | cons =>
    unfold receivedFrom at single
    split at single
    · cases single
    · obtain ⟨rfl, later⟩ := List.cons.inj single
      rw [receivedFrom_eq_nil later]

section Sent

variable {User : Type} {codec : AuthorityCodec User} {base client : URL User}

theorem schemeText_http {scheme : Bytes}
    (web : scheme = ascii "http" ∨ scheme = ascii "https" ∨ scheme = ascii "ws" ∨
      scheme = ascii "wss") : SchemeText scheme := by
  rcases web with rfl | rfl | rfl | rfl
  · exact ⟨by decide +kernel, by decide +kernel, by decide +kernel⟩
  · exact ⟨by decide +kernel, by decide +kernel, by decide +kernel⟩
  · exact ⟨by decide +kernel, by decide +kernel, by decide +kernel⟩
  · exact ⟨by decide +kernel, by decide +kernel, by decide +kernel⟩

variable {url : URL User} {path : Bytes}

theorem sendRequest_string (lawful : codec.Lawful) (requestable : url.Requestable codec)
    (web : url.scheme = ascii "http" ∨ url.scheme = ascii "https") :
    sendRequest codec (url.string codec) = some (url.escapedPath, url.rawQuery) := by
  obtain ⟨next, parsed, again, scheme, -, path, query⟩ := requestable.parse_string lawful
  have present : next.escapedPath ≠ [] := by
    intro empty
    have slash := again.rooted.head?_escapedPath
    rw [empty] at slash
    cases slash
  have sent : next.requestPath = url.escapedPath := by
    rw [URL.requestPath, if_pos again.opaqueText, if_neg present, path]
  simp [sendRequest, parsed, scheme, if_pos web, sent, query]

theorem requestable_scheme (requestable : url.Requestable codec) {scheme : Bytes}
    (valid : SchemeText scheme) : ({ url with scheme } : URL User).Requestable codec :=
  ⟨valid, requestable.opaqueText, requestable.host, requestable.authority,
    ⟨requestable.rooted.path, requestable.rooted.rawPath⟩, requestable.query,
    requestable.fragment⟩

theorem dial_string (lawful : codec.Lawful) (requestable : url.Requestable codec)
    (web : url.scheme = ascii "http" ∨ url.scheme = ascii "https") :
    ((URL.parse codec (url.string codec)).map fun parsed =>
        { parsed with scheme := webSocketScheme parsed.scheme }.string codec).bind (dial codec) =
      some (url.escapedPath, url.rawQuery) := by
  obtain ⟨next, parsed, again, scheme, -, path, query⟩ := requestable.parse_string lawful
  have switched : webSocketScheme next.scheme = ascii "ws" ∨
      webSocketScheme next.scheme = ascii "wss" := by
    rw [scheme]
    rcases web with http | https
    · exact .inl (by rw [http]; decide)
    · exact .inr (by rw [https]; decide)
  have open' := requestable_scheme again (schemeText_http (.inr (.inr switched)))
  obtain ⟨last, reparsed, final, lastScheme, -, lastPath, lastQuery⟩ := open'.parse_string lawful
  have back : handshakeScheme last.scheme = ascii "http" ∨
      handshakeScheme last.scheme = ascii "https" := by
    have returned : handshakeScheme (ascii "ws") = ascii "http" ∧
        handshakeScheme (ascii "wss") = ascii "https" := by decide
    rw [lastScheme]
    rcases switched with ws | wss
    · exact .inl (by rw [ws]; exact returned.1)
    · exact .inr (by rw [wss]; exact returned.2)
  have sent := sendRequest_string lawful
    (requestable_scheme final (schemeText_http (back.imp_right .inl))) back
  simp only [parsed, Option.map_some, Option.bind_some, dial, reparsed]
  rw [sent]
  have samePath : ({ last with scheme := handshakeScheme last.scheme } : URL User).escapedPath =
      url.escapedPath := lastPath.trans path
  rw [samePath, lastQuery, query]

theorem localURL_rooted (anchored : base.Anchored) (path query : Bytes) :
    (localURL base path query).Rooted := by
  refine ⟨?_, ?_⟩
  · simp only [localURL, joinURLPath_slashed]
    exact head?_joinEscaped (anchored.shape.imp And.left URL.Rooted.path) path
  · rcases anchored.shape with ⟨-, plain⟩ | rooted
    · exact .inl plain
    · exact rooted.rawPath

theorem localRequest_eq (lawful : codec.Lawful) {localTarget query : Bytes}
    (target : URL.parse codec localTarget = some base) (host : base.host ≠ [])
    (web : base.scheme = ascii "http" ∨ base.scheme = ascii "https")
    (clean : ∀ byte ∈ query, isControl byte = false ∧ byte ≠ 35) (upgrade : Bool) :
    localRequest codec upgrade localTarget path query =
      some ((localURL base path query).escapedPath, query) := by
  obtain ⟨anchored, opaqueText, authority⟩ := URL.parse_host target host
  have scheme : SchemeText base.scheme := schemeText_http (web.imp_right .inl)
  have rooted : (localURL base path query).Rooted := localURL_rooted anchored path query
  have requestable : (localURL base path query).Requestable codec :=
    ⟨scheme, opaqueText, host, authority, rooted, clean, rfl⟩
  have built : buildLocalURL codec localTarget path query =
      some ((localURL base path query).string codec) := by
    have complete : ¬ (base.scheme = [] ∨ base.host = []) := not_or.mpr ⟨scheme.ne_nil, host⟩
    simp [buildLocalURL, target, if_neg complete]
  cases upgrade with
  | false =>
    simp only [localRequest, Bool.false_eq_true, if_false, built, Option.bind_some]
    exact sendRequest_string lawful requestable web
  | true =>
    simp only [localRequest, if_true, buildLocalWSURL, built, Option.bind_some]
    exact dial_string lawful requestable web

theorem localRequest_query {localTarget query : Bytes} {upgrade : Bool} {sent : Bytes × Bytes}
    (requested : localRequest codec upgrade localTarget path query = some sent) :
    35 ∉ sent.2 := by
  have sends (text : Bytes) (request : sendRequest codec text = some sent) : 35 ∉ sent.2 := by
    obtain ⟨_, parsed, done⟩ := Option.bind_eq_some_iff.mp request
    split at done
    · cases done
      exact URL.notMem_rawQuery_of_parse parsed
    · cases done
  unfold localRequest at requested
  split at requested
  · obtain ⟨_, -, dialed⟩ := Option.bind_eq_some_iff.mp requested
    obtain ⟨_, -, request⟩ := Option.bind_eq_some_iff.mp dialed
    exact sends _ request
  · obtain ⟨text, -, request⟩ := Option.bind_eq_some_iff.mp requested
    exact sends text request

theorem escapedPath_localURL (anchored : base.Anchored) (path query : Bytes) :
    (localURL base path query).escapedPath =
      if joinEscaped base.path path = base.path then base.escapedPath
      else escape keepsPath (joinEscaped base.path path) := by
  have joined : (localURL base path query).path = joinEscaped base.path path :=
    joinURLPath_slashed base.path path
  have raw : (localURL base path query).rawPath = base.rawPath := rfl
  have slash := head?_joinEscaped (anchored.shape.imp And.left URL.Rooted.path) path
  split
  next same =>
    simp only [URL.escapedPath, joined, raw, same]
  next different =>
    have unhinted : ¬ (base.rawPath ≠ [] ∧ validEncoded keepsPath base.rawPath = true ∧
        unescape? base.rawPath = some (joinEscaped base.path path)) := by
      rintro ⟨hinted, -, decoded⟩
      rw [anchored.hint hinted] at decoded
      exact different (Option.some.inj decoded).symm
    have notStar : joinEscaped base.path path ≠ [42] := by
      intro star
      rw [star] at slash
      cases slash
    simp only [URL.escapedPath, joined, raw, if_neg unhinted, if_neg notStar]

theorem joinEscaped_eq_self {base : Bytes} (same : joinEscaped base path = base) :
    (∃ front, base = front ++ [47]) ∧ (path = [] ∨ path = [47]) := by
  unfold joinEscaped at same
  rcases last_slash_cases base with ⟨front, rfl⟩ | other
  · refine ⟨⟨front, rfl⟩, ?_⟩
    rw [trimSuffix_concat, List.append_assoc] at same
    have rest : trimPrefix path (ascii "/") = [] := by
      have behind := List.append_cancel_left same
      exact (List.cons.inj behind).2
    cases path with
    | nil => exact .inl rfl
    | cons first =>
      by_cases slash : first = 47
      · subst slash
        rw [trimPrefix_cons] at rest
        exact .inr (by rw [rest])
      · rw [trimPrefix_of_head (by simpa using slash)] at rest
        cases rest
  · rw [trimSuffix_of_last other] at same
    have length := congrArg List.length same
    simp only [List.length_append, show (ascii "/").length = 1 by decide] at length
    omega

theorem escapedPath_root (anchored : client.Anchored)
    (root : client.path = [] ∨ client.path = [47]) : client.escapedPath = client.path := by
  have decoded := client.unescape?_escapedPath
  rcases anchored.shape with ⟨empty, raw⟩ | rooted
  · rw [URL.escapedPath_of_rawPath_nil raw (by rw [empty]; decide), empty]
    rfl
  · obtain ⟨_, written⟩ := List.head?_eq_some_iff.mp rooted.head?_escapedPath
    have single : client.path = [47] := by
      rcases root with empty | single
      · have slash := rooted.path
        rw [empty] at slash
        cases slash
      · exact single
    rw [written, unescape?_cons_kept (by decide), single] at decoded
    obtain ⟨out, inner, same⟩ := Option.map_eq_some_iff.mp decoded
    have nothing : out = [] := (List.cons.inj same).2
    rw [nothing] at inner
    rw [written, URL.unescape?_eq_nil inner, single]

/-- Where the encoded join is the join of the encodings, the base is in its default
encoding. -/
theorem escapedPath_base {first : Bytes}
    (encoded : trimSuffix base.escapedPath (ascii "/") = escape keepsPath first) :
    base.escapedPath = escape keepsPath base.path ∧ trimSuffix base.path (ascii "/") = first := by
  have decoded := base.unescape?_escapedPath
  rcases last_slash_cases base.escapedPath with ⟨_, written⟩ | other
  · rw [written, trimSuffix_concat] at encoded
    rw [encoded, ← escape_concat_slash] at written
    rw [written, unescape?_escape URL.keepsPath_percent] at decoded
    rw [written, ← Option.some.inj decoded]
    exact ⟨rfl, trimSuffix_concat first⟩
  · rw [trimSuffix_of_last other] at encoded
    rw [encoded, unescape?_escape URL.keepsPath_percent] at decoded
    rw [encoded] at other
    rw [encoded, ← Option.some.inj decoded]
    exact ⟨rfl, trimSuffix_of_last (mt getLast?_escape.mpr other)⟩

theorem escapedPath_client (anchored : client = { path := [42] } ∨ client.Anchored) {second : Bytes}
    (encoded : trimPrefix client.escapedPath (ascii "/") = escape keepsPath second)
    (relayed : trimPrefix (receivedFrom 0 client.path) (ascii "/") = second) :
    client.escapedPath = escape keepsPath client.path ∧
      receivedFrom 0 client.path = client.path := by
  rcases anchored with rfl | anchored
  · -- the asterisk is not kept
    have written : trimPrefix ({ path := [42] } : URL User).escapedPath (ascii "/") = [42] := by
      rfl
    rw [written] at encoded
    have decoded := congrArg unescape? encoded
    rw [unescape?_escape URL.keepsPath_percent] at decoded
    have star : [42] = second := Option.some.inj decoded
    rw [← star] at encoded
    cases encoded
  · rcases anchored.shape with ⟨empty, _⟩ | rooted
    · have written := escapedPath_root anchored (.inl empty)
      rw [written, empty]
      exact ⟨rfl, rfl⟩
    · obtain ⟨_, written⟩ := List.head?_eq_some_iff.mp rooted.head?_escapedPath
      obtain ⟨_, _⟩ := List.head?_eq_some_iff.mp rooted.path
      have decoded := client.unescape?_escapedPath
      rw [written, trimPrefix_cons] at encoded
      rw [encoded, ← escape_slash] at written
      rw [written, unescape?_escape URL.keepsPath_percent] at decoded
      have whole : client.path = 47 :: second := (Option.some.inj decoded).symm
      rw [whole, receivedFrom_slash, trimPrefix_cons] at relayed
      rw [written, whole, receivedFrom_slash, relayed]
      exact ⟨rfl, rfl⟩

theorem escapedPath_localURL_iff (target : base.Anchored)
    (anchored : client = { path := [42] } ∨ client.Anchored) (query : Bytes) :
    (localURL base (receivedFrom 0 client.path) query).escapedPath =
        joinEscaped base.escapedPath client.escapedPath ↔
      client.escapedPath = escape keepsPath client.path ∧ receivedFrom 0 client.path = client.path ∧
        (base.escapedPath = escape keepsPath base.path ∨
          (client.path = [] ∨ client.path = ascii "/") ∧ base.escapedPath.getLast? = some 47) := by
  rw [escapedPath_localURL target]
  split
  next same =>
    -- nothing is added, so the request is for the root and the hint of the target stays
    obtain ⟨⟨front, ends⟩, root⟩ := joinEscaped_eq_self same
    have received : client.path = [] ∨ client.path = [47] :=
      root.imp receivedFrom_eq_nil receivedFrom_eq_slash
    have anchored : client.Anchored := by
      refine anchored.resolve_left ?_
      rintro rfl
      rcases received with empty | single
      · cases empty
      · cases single
    have written := escapedPath_root anchored received
    have trimmed : trimPrefix client.escapedPath (ascii "/") = [] := by
      rw [written]
      rcases received with empty | single
      · rw [empty]
        rfl
      · rw [single]
        rfl
    have plain : client.escapedPath = escape keepsPath client.path ∧
        receivedFrom 0 client.path = client.path := by
      rw [written]
      rcases received with empty | single
      · rw [empty]
        exact ⟨rfl, rfl⟩
      · rw [single]
        exact ⟨by decide, by decide⟩
    have last : base.escapedPath = joinEscaped base.escapedPath client.escapedPath ↔
        base.escapedPath.getLast? = some 47 := by
      unfold joinEscaped
      rw [trimmed, List.append_nil]
      rcases last_slash_cases base.escapedPath with ⟨_, written⟩ | other
      · rw [written, trimSuffix_concat]
        simp [show ascii "/" = [47] by decide]
      · rw [trimSuffix_of_last other]
        refine ⟨fun grown => ?_, fun slash => absurd slash other⟩
        have length := congrArg List.length grown
        simp only [List.length_append, show (ascii "/").length = 1 by decide] at length
        omega
    rw [last]
    refine ⟨fun slash => ⟨plain.1, plain.2, .inr ⟨received, slash⟩⟩, ?_⟩
    rintro ⟨-, -, default | ⟨-, slash⟩⟩
    · rw [default, getLast?_escape, ends]
      simp
    · exact slash
  next different =>
    constructor
    · intro kept
      have split : escape keepsPath (joinEscaped base.path (receivedFrom 0 client.path)) =
          trimSuffix base.escapedPath (ascii "/") ++
            47 :: trimPrefix client.escapedPath (ascii "/") := by
        rw [kept, joinEscaped, List.append_assoc]
        rfl
      obtain ⟨_, _, joined, front, back⟩ := escape_eq_split split
      obtain ⟨default, trimmed⟩ := escapedPath_base front
      rw [joinEscaped, trimmed, List.append_assoc] at joined
      have relayed := (List.cons.inj (List.append_cancel_left joined)).2
      obtain ⟨written, read⟩ := escapedPath_client anchored back relayed
      exact ⟨written, read, .inl default⟩
    · rintro ⟨written, read, default | ⟨root, slash⟩⟩
      · have start : client.path = [] ∨ client.path.head? = some 47 := by
          rcases anchored with rfl | anchored
          · cases written
          · exact anchored.shape.imp And.left URL.Rooted.path
        rw [written, default, joinEscaped_escape start, read]
      · refine absurd ?_ different
        obtain ⟨_, ends⟩ := List.getLast?_eq_some_iff.mp slash
        have decoded := base.unescape?_escapedPath
        rw [ends] at decoded
        obtain ⟨_, path⟩ := URL.unescape?_concat (by decide) (by decide) decoded
        have nothing : trimPrefix client.path (ascii "/") = [] := by
          rcases root with empty | single
          · rw [empty]
            rfl
          · rw [single]
            rfl
        rw [read, joinEscaped, path, trimSuffix_concat, nothing, List.append_nil]
        rfl

end Sent

def hostCodec : AuthorityCodec Empty where
  parse text := if text.all fun byte => isPlain byte && byte != 47 then some (none, text) else none
  userText := nofun
  hostText := id

theorem hostCodec_text (host : Bytes) : hostCodec.text none host = host := by
  by_cases empty : host = []
  · simp [AuthorityCodec.text, empty]
  · simp [AuthorityCodec.text, empty, hostCodec]

theorem hostCodec_parse {text : Bytes} {user : Option Empty} {host : Bytes}
    (parsed : hostCodec.parse text = some (user, host)) :
    user = none ∧ host = text ∧ ∀ byte ∈ text, isPlain byte = true ∧ byte ≠ 47 := by
  simp only [hostCodec] at parsed
  split at parsed
  next plain =>
    cases parsed
    refine ⟨rfl, rfl, fun byte member => ?_⟩
    simpa using List.all_eq_true.mp plain byte member
  · cases parsed

theorem hostCodec_lawful : hostCodec.Lawful where
  round text user host parsed := by
    obtain ⟨rfl, rfl, -⟩ := hostCodec_parse parsed
    rw [hostCodec_text]
    exact parsed
  clean text user host parsed := by
    obtain ⟨rfl, rfl, plain⟩ := hostCodec_parse parsed
    rw [hostCodec_text]
    exact plain

def askedOf (upgrade : Bool) (localTarget : Bytes) (client : URL Empty) : Option (Bytes × Bytes) :=
  forwardedTarget hostCodec upgrade localTarget ⟨[]⟩ (ascii "tun_1") ⟨true, ascii "public"⟩
    { host := ascii "demo.tunnels.example", remoteAddr := ascii "198.51.100.7:4000", header := []
      path := client.path, query := client.rawQuery }

end Porthook.Tunnel
