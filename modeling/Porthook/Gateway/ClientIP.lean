import Porthook.Foundations.Netip
import Porthook.Protocol.Header

/-!
# The address of a public client

`server/internal/clientip`: each proxy appends the address of its own peer to `X-Forwarded-For`,
so the resolver reads the list from the right and stops at the first address that is not a trusted
proxy.  If one element does not parse, it discards the list and answers with the proxy.
-/

namespace Porthook.ClientIP

open Protocol Netip

structure Resolver where
  trusted : List Prefix

def new (trusted : List Prefix) : Resolver := ⟨trusted.map Prefix.masked⟩

def Resolver.isTrusted (resolver : Resolver) (addr : Addr) : Bool :=
  resolver.trusted.any fun net => net.contains addr

def trimBrackets (text : Bytes) : Bytes :=
  let bracket : UInt8 → Bool := fun byte => byte = 91 ∨ byte = 93
  ((text.dropWhile bracket).reverse.dropWhile bracket).reverse

def parseRemoteAddr (value : Bytes) : Option Addr :=
  match parseAddrPort? value with
  | some addr => some addr.unmap
  | none =>
    let value := (splitHost? value).getD value
    (parseAddr? (trimBrackets value)).map Addr.unmap

def elements (lines : List Bytes) : List Bytes := (lines.flatMap (splitByte 44)).map trimSpace

/-- `forwardedChain`; `none` is a chain with an element that does not parse. -/
def forwardedChain (header : Header) : Option (List Addr) :=
  let lines := header.valuesOf (ascii "X-Forwarded-For")
  if lines = [] then
    let value := trimSpace (header.get (ascii "X-Real-IP"))
    if value = [] then some []
    else (parseAddr? value).map fun addr => [addr.unmap]
  else (elements lines).mapM fun element => (parseAddr? element).map Addr.unmap

/-- The scan from the right; a chain of trusted proxies only ends at its first
element. -/
def Resolver.scan (resolver : Resolver) (first : Addr) (chain : List Addr) : Addr :=
  (chain.reverse.find? fun addr => !resolver.isTrusted addr).getD first

/-- `Resolve`; `none` is the invalid address. -/
def Resolver.resolve (resolver : Resolver) (remoteAddr : Bytes) (header : Header) : Option Addr :=
  match parseRemoteAddr remoteAddr with
  | none => none
  | some peer =>
    if !resolver.isTrusted peer then some peer
    else
      match forwardedChain header with
      | none | some [] => some peer
      | some (first :: rest) => some (resolver.scan first (first :: rest))

def Resolver.resolveString (resolver : Resolver) (remoteAddr : Bytes) (header : Header) : Bytes :=
  match resolver.resolve remoteAddr header with
  | none => []
  | some addr => addr.string

/-- The lines that a proxy forwards after it has appended an address, in
whichever way it splits the list over the lines. -/
def Appends (received forwarded : List Bytes) (addr : Bytes) : Prop :=
  elements forwarded = elements received ++ [addr]

theorem elements_singleton {line : Bytes} (single : 44 ∉ line) :
    elements [line] = [trimSpace line] := by
  simp only [elements, splitByte, List.flatMap_singleton]
  rw [List.splitOn_eq_singleton single]
  rfl

theorem appends_line (received : List Bytes) {line : Bytes} (single : 44 ∉ line) :
    Appends received (received ++ [line]) (trimSpace line) := by
  unfold Appends
  rw [← elements_singleton single]
  simp [elements]

theorem appends_joined (received : List Bytes) (last : Bytes) {addr : Bytes} (single : 44 ∉ addr) :
    Appends (received ++ [last]) (received ++ [last ++ 44 :: addr]) (trimSpace addr) := by
  unfold Appends
  rw [← elements_singleton single]
  simp [elements, splitByte, List.splitOn_append_cons_self]

theorem Appends.ne_nil {received forwarded : List Bytes} {addr : Bytes}
    (appended : Appends received forwarded addr) : forwarded ≠ [] := by
  intro empty
  subst empty
  exact absurd appended.symm (by simp [elements])

variable {resolver : Resolver}

theorem resolve_of_untrusted {remoteAddr : Bytes} {peer : Addr}
    (connected : parseRemoteAddr remoteAddr = some peer)
    (untrusted : resolver.isTrusted peer = false) (header : Header) :
    resolver.resolve remoteAddr header = some peer := by
  simp [Resolver.resolve, connected, untrusted]

theorem scan_of_last {first last : Addr} (before : List Addr)
    (untrusted : resolver.isTrusted last = false) :
    resolver.scan first (before ++ [last]) = last := by
  simp [Resolver.scan, untrusted]

theorem forwardedChain_of_appends {header : Header} {received : List Bytes} {text : Bytes}
    {client : Addr} (appended : Appends received (header.valuesOf (ascii "X-Forwarded-For")) text)
    (written : parseAddr? text = some client) :
    forwardedChain header =
      ((elements received).mapM fun element => (parseAddr? element).map Addr.unmap).map
        (· ++ [client.unmap]) := by
  unfold forwardedChain
  dsimp only
  rw [if_neg appended.ne_nil, appended, List.mapM_append]
  simp only [List.mapM_cons, List.mapM_nil, written, Option.map_some]
  cases (elements received).mapM fun element => (parseAddr? element).map Addr.unmap <;> rfl

theorem isSome_mapM_parse (texts : List Bytes) :
    (texts.mapM fun text => (parseAddr? text).map Addr.unmap).isSome =
      texts.all fun text => (parseAddr? text).isSome := by
  induction texts with
  | nil => rfl
  | cons text rest ih =>
    rw [List.mapM_cons, List.all_cons, ← ih]
    cases parseAddr? text with
    | none => rfl
    | some =>
      cases rest.mapM fun text => (parseAddr? text).map Addr.unmap <;> rfl

/-- Whatever a client sends in `X-Forwarded-For` and `X-Real-IP`, the resolver names the client if
all of it parses and the trusted proxy in front of it if not, and an untrusted peer itself. -/
theorem resolve_client (resolver : Resolver) (remoteAddr : Bytes) (peer : Addr)
    (header : Header) (connected : parseRemoteAddr remoteAddr = some peer) :
    (resolver.isTrusted peer = false → resolver.resolve remoteAddr header = some peer) ∧
    (resolver.isTrusted peer = true → ∀ (received : List Bytes) (text : Bytes) (client : Addr),
        parseAddr? text = some client → resolver.isTrusted client.unmap = false →
        Appends received (header.valuesOf (ascii "X-Forwarded-For")) text →
        resolver.resolve remoteAddr header =
          some (if (elements received).all fun element => (parseAddr? element).isSome
            then client.unmap else peer)) := by
  refine ⟨fun untrusted => resolve_of_untrusted connected untrusted header, ?_⟩
  intro trusted received text client written untrusted appended
  have chain := forwardedChain_of_appends appended written
  rw [← isSome_mapM_parse]
  simp only [Resolver.resolve, connected, trusted, Bool.not_true, Bool.false_eq_true, if_false,
    chain]
  cases (elements received).mapM fun element => (parseAddr? element).map Addr.unmap with
  | none => rfl
  | some addrs =>
    -- the head of the chain matters only where no element is untrusted
    cases addrs with
    | nil => exact congrArg some (scan_of_last [] untrusted)
    | cons first rest => exact congrArg some (scan_of_last (first :: rest) untrusted)

/-- A forged chain in front of the client's own address changes nothing. -/
theorem resolve_client_forged : (new [⟨.v4 0x0a000000, 8⟩]).resolve (ascii "10.0.0.4:443")
        [(ascii "X-Forwarded-For", [ascii "10.0.0.1, 192.0.2.1", ascii "203.0.113.7"]),
          (ascii "X-Real-Ip", [ascii "10.0.0.9"])] = some (.v4 0xcb007107) :=
  (resolve_client (new [⟨.v4 0x0a000000, 8⟩]) (ascii "10.0.0.4:443") (.v4 0x0a000004) _
      (by decide +kernel)).2 (by decide +kernel) [ascii "10.0.0.1, 192.0.2.1"]
    (ascii "203.0.113.7") (.v4 0xcb007107) (by decide +kernel) (by decide +kernel)
    (appends_line _ (by decide))

/-- A client that sends an element which is no address is taken for its proxy. -/
theorem resolve_malformed :
    ∃ (resolver : Resolver) (remoteAddr : Bytes) (peer : Addr) (received : List Bytes)
      (header : Header) (text : Bytes) (client : Addr),
      (parseRemoteAddr remoteAddr = some peer ∧ resolver.isTrusted peer = true ∧
        parseAddr? text = some client ∧ client.unmap = client ∧
        resolver.isTrusted client = false) ∧
      Appends received (header.valuesOf (ascii "X-Forwarded-For")) text ∧
      resolver.resolve remoteAddr header = some peer ∧ peer ≠ client := by
  refine ⟨new [⟨.v4 0x0a000000, 8⟩], ascii "10.0.0.4:443", .v4 0x0a000004, [ascii "unknown"],
    [(ascii "X-Forwarded-For", [ascii "unknown, 203.0.113.7"])], ascii "203.0.113.7",
    .v4 0xcb007107, by decide +kernel, ?_, by decide +kernel⟩
  exact appends_joined [] (ascii "unknown") (by decide : 44 ∉ ascii " 203.0.113.7")

end Porthook.ClientIP
