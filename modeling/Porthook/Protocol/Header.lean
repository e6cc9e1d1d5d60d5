import Porthook.Protocol.Json

/-!
# HTTP headers

The part of `net/http`'s `Header` that the gateway and the agent use, and
`httpwire.StripHopByHopHeaders`.  A header map is the list of its entries; Go
iterates over them in an unspecified order, which here is the order of the list.
-/

namespace Porthook.Protocol

/-- The bytes that `textproto` accepts in a header field name. -/
def validHeaderFieldByte (byte : UInt8) : Bool :=
  (48 ≤ byte && byte ≤ 57) || (65 ≤ byte && byte ≤ 90) || (97 ≤ byte && byte ≤ 122) ||
    (ascii "!#$%&'*+-.^_|~").contains byte || byte == 96

def canonicalBytes : Bool → Bytes → Bytes
  | _, [] => []
  | upper, byte :: rest =>
    let mapped :=
      if upper ∧ 97 ≤ byte ∧ byte ≤ 122 then byte - 32
      else if ¬ upper ∧ 65 ≤ byte ∧ byte ≤ 90 then byte + 32
      else byte
    mapped :: canonicalBytes (byte == 45) rest

def canonicalHeaderKey (name : Bytes) : Bytes :=
  if name.all validHeaderFieldByte then canonicalBytes true name else name

namespace Header

def valuesOf (header : Header) (name : Bytes) : List Bytes :=
  header.values (canonicalHeaderKey name)

def get (header : Header) (name : Bytes) : Bytes := (header.valuesOf name).headD []

def add (header : Header) (name value : Bytes) : Header :=
  let key := canonicalHeaderKey name
  header.put key (header.values key ++ [value])

def del (header : Header) (name : Bytes) : Header :=
  header.filter fun entry => entry.1 ≠ canonicalHeaderKey name

def set (header : Header) (name value : Bytes) : Header :=
  header.put (canonicalHeaderKey name) [value]

/-- Add every value of every entry, as the response callback does. -/
def addAll (header extra : Header) : Header :=
  extra.foldl (fun header entry =>
    entry.2.foldl (fun header value => header.add entry.1 value) header) header

end Header

/-- Drop one leading `unicode.IsSpace` rune. -/
def dropSpace? : Bytes → Option Bytes
  | 0xC2 :: 0x85 :: rest => some rest
  | 0xC2 :: 0xA0 :: rest => some rest
  | 0xE1 :: 0x9A :: 0x80 :: rest => some rest
  | 0xE2 :: 0x80 :: byte :: rest =>
    if (0x80 ≤ byte ∧ byte ≤ 0x8A) ∨ byte = 0xA8 ∨ byte = 0xA9 ∨ byte = 0xAF then some rest
    else none
  | 0xE2 :: 0x81 :: 0x9F :: rest => some rest
  | 0xE3 :: 0x80 :: 0x80 :: rest => some rest
  | byte :: rest => if byte = 32 ∨ (9 ≤ byte ∧ byte ≤ 13) then some rest else none
  | [] => none

/-- Drop one trailing `unicode.IsSpace` rune of a reversed string. -/
def dropSpaceReversed? : Bytes → Option Bytes
  | 0x85 :: 0xC2 :: rest => some rest
  | 0xA0 :: 0xC2 :: rest => some rest
  | 0x80 :: 0x9A :: 0xE1 :: rest => some rest
  | 0x9F :: 0x81 :: 0xE2 :: rest => some rest
  | 0x80 :: 0x80 :: 0xE3 :: rest => some rest
  | byte :: 0x80 :: 0xE2 :: rest =>
    if (0x80 ≤ byte ∧ byte ≤ 0x8A) ∨ byte = 0xA8 ∨ byte = 0xA9 ∨ byte = 0xAF then some rest
    else if byte = 32 ∨ (9 ≤ byte ∧ byte ≤ 13) then some (0x80 :: 0xE2 :: rest)
    else none
  | byte :: rest => if byte = 32 ∨ (9 ≤ byte ∧ byte ≤ 13) then some rest else none
  | [] => none

/-- Apply a dropping function as often as it succeeds, at most `fuel` times. -/
def dropWhileSome (drop? : Bytes → Option Bytes) : Nat → Bytes → Bytes
  | 0, text => text
  | fuel + 1, text =>
    match drop? text with
    | some rest => dropWhileSome drop? fuel rest
    | none => text

/-- `strings.TrimSpace`; a string has at most as many spaces as bytes. -/
def trimSpace (text : Bytes) : Bytes :=
  let front := dropWhileSome dropSpace? text.length text
  (dropWhileSome dropSpaceReversed? front.length front.reverse).reverse

/-- `strings.Split` with a one-byte separator. -/
def splitByte (separator : UInt8) (text : Bytes) : List Bytes := text.splitOn separator

def hopByHopHeaders : List Bytes :=
  [ascii "Connection", ascii "Keep-Alive", ascii "Proxy-Authenticate",
    ascii "Proxy-Authorization", ascii "TE", ascii "Trailer", ascii "Transfer-Encoding",
    ascii "Upgrade"]

def connectionTokens (header : Header) : List Bytes :=
  (((header.valuesOf (ascii "Connection")).flatMap (splitByte 44)).map trimSpace).filter
    fun token => token ≠ []

def stripHopByHopHeaders (header : Header) : Header :=
  (connectionTokens header ++ hopByHopHeaders).foldl Header.del header

example : stripHopByHopHeaders [(ascii "Connection", [ascii "close, x-a"]),
    (ascii "X-A", [ascii "1"]), (ascii "Te", [ascii "gzip"]), (ascii "X-B", [ascii "2"])] =
    [(ascii "X-B", [ascii "2"])] := by decide

/-- `httpwire.AddForwardedHeaders`; a value that is not known leaves the header
as it is. -/
def addForwardedHeaders (header : Header) (tunnelID originalHost proto remoteAddr : Bytes) :
    Header :=
  let put (header : Header) (name : String) (value : Bytes) : Header :=
    if value ≠ [] then header.set (ascii name) value else header
  let header := put header "X-Forwarded-For" remoteAddr
  let header := put header "X-Forwarded-Host" originalHost
  let header := put header "X-Forwarded-Proto" proto
  put header "X-Porthook-Tunnel-ID" tunnelID

namespace Header

/-- The values that the map holds for a name, if it has an entry for it. -/
def field? (header : Header) (name : Bytes) : Option (List Bytes) :=
  (header.find? fun entry => entry.1 = name).map Prod.snd

theorem values_eq (header : Header) (name : Bytes) :
    header.values name = (header.field? name).getD [] := rfl

theorem field?_filter_ne (header : Header) (removed name : Bytes) :
    Header.field? (header.filter fun entry => entry.1 ≠ removed) name =
      if name = removed then none else header.field? name := by
  simp only [field?, List.find?_filter]
  split
  next same =>
    subst same
    simp
  next different =>
    congr 2
    funext entry
    by_cases mine : entry.1 = name
    · simp [mine, different]
    · simp [mine]

theorem field?_del (header : Header) (removed name : Bytes) : (header.del removed).field? name =
      if name = canonicalHeaderKey removed then none else header.field? name :=
  field?_filter_ne header _ name

theorem field?_set (header : Header) (changed value name : Bytes) :
    (header.set changed value).field? name =
      if name = canonicalHeaderKey changed then some [value] else header.field? name := by
  by_cases same : name = canonicalHeaderKey changed
  · subst same
    simp [set, put, field?]
  · have rest := field?_filter_ne header (canonicalHeaderKey changed) name
    rw [if_neg same] at rest ⊢
    rw [← rest]
    simp [set, put, field?, Ne.symm same]

theorem field?_foldl_del (removed : List Bytes) (header : Header) (name : Bytes) :
    (removed.foldl Header.del header).field? name =
      if name ∈ removed.map canonicalHeaderKey then none else header.field? name := by
  induction removed generalizing header with
  | nil => simp
  | cons first _ ih =>
    rw [List.foldl_cons, ih, field?_del]
    by_cases same : name = canonicalHeaderKey first <;> simp [same]

end Header

def strippedNames (header : Header) : List Bytes :=
  (connectionTokens header ++ hopByHopHeaders).map canonicalHeaderKey

theorem field?_stripHopByHopHeaders (header : Header) (name : Bytes) :
    (stripHopByHopHeaders header).field? name =
      if name ∈ strippedNames header then none else header.field? name :=
  Header.field?_foldl_del _ header name

end Porthook.Protocol
