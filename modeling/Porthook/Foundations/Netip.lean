import Mathlib.Data.List.Basic

/-!
# Internet addresses

The part of Go's `net/netip` that reads addresses and matches them against
prefixes: `ParseAddr`, `ParseAddrPort`, `Unmap`, `Prefix.Contains`, and
`net.SplitHostPort`.  Text is a list of bytes, and a parser returns `none` where
the Go function returns an error.
-/

namespace Netip

/-- An address; the zone of an IPv6 address is empty if there is none. -/
inductive Addr where
  | v4 (bits : BitVec 32)
  | v6 (bits : BitVec 128) (zone : List UInt8)
  deriving DecidableEq

namespace Addr

def bitLen : Addr → Nat
  | .v4 _ => 32
  | .v6 _ _ => 128

def hasZone : Addr → Bool
  | .v4 _ => false
  | .v6 _ zone => !zone.isEmpty

/-- `Unmap`: an IPv4-mapped IPv6 address becomes the IPv4 address. -/
def unmap : Addr → Addr
  | .v4 bits => .v4 bits
  | .v6 bits zone => if bits >>> 32 = 0xffff#128 then .v4 (bits.setWidth 32) else .v6 bits zone

end Addr

/-- `netip.Prefix`; it is valid if it has no more bits than its address. -/
structure Prefix where
  addr : Addr
  bits : Nat
  deriving DecidableEq

namespace Prefix

/-- `Masked`: clear the bits behind the prefix and the zone. -/
def masked (net : Prefix) : Prefix :=
  match net.addr with
  | .v4 bits => ⟨.v4 (bits >>> (32 - net.bits) <<< (32 - net.bits)), net.bits⟩
  | .v6 bits _ => ⟨.v6 (bits >>> (128 - net.bits) <<< (128 - net.bits)) [], net.bits⟩

/-- `Contains`: an address with a zone is in no prefix, and neither is one of
the other family. -/
def contains (net : Prefix) (addr : Addr) : Bool :=
  if net.addr.bitLen < net.bits || addr.hasZone then false
  else
    match net.addr, addr with
    | .v4 start, .v4 bits => (bits ^^^ start) >>> (32 - net.bits) == 0
    | .v6 start _, .v6 bits _ => (bits ^^^ start) >>> (128 - net.bits) == 0
    | _, _ => false

end Prefix

def decimalDigit? (byte : UInt8) : Option Nat :=
  if 48 ≤ byte ∧ byte ≤ 57 then some (byte.toNat - 48) else none

def hexDigit? (byte : UInt8) : Option Nat :=
  if 48 ≤ byte ∧ byte ≤ 57 then some (byte.toNat - 48)
  else if 97 ≤ byte ∧ byte ≤ 102 then some (byte.toNat - 87)
  else if 65 ≤ byte ∧ byte ≤ 70 then some (byte.toNat - 55)
  else none

def parseDecimal? (text : List UInt8) : Option Nat :=
  if text = [] then none
  else text.foldlM (fun value byte => (decimalDigit? byte).map (10 * value + ·)) 0

/-- One field of a dotted address: at most 255 and without a leading zero. -/
def parseOctet? (text : List UInt8) : Option Nat :=
  if 1 < text.length ∧ text.head? = some 48 then none
  else (parseDecimal? text).filter (· ≤ 255)

def parseIPv4Fields? (text : List UInt8) : Option Nat :=
  let fields := text.splitOn 46
  if fields.length = 4 then
    (fields.mapM parseOctet?).map fun octets => octets.foldl (256 * · + ·) 0
  else none

/-- The hex digits at the front and the number they stand for; more than four of
them are an error. -/
def hexGroup? : Nat → Nat → List UInt8 → Option (Nat × Nat × List UInt8)
  | digits, value, [] => some (digits, value, [])
  | digits, value, byte :: rest =>
    match hexDigit? byte with
    | none => some (digits, value, byte :: rest)
    | some digit =>
      if 3 < digits then none else hexGroup? (digits + 1) (16 * value + digit) rest

/-- The groups of an IPv6 address and the place of the ellipsis among them; the
first argument is the number of groups that there is room for. -/
def ipv6Groups? : Nat → List Nat → Option Nat → List UInt8 → Option (List Nat × Option Nat)
  | 0, groups, ellipsis, text => if text = [] then some (groups, ellipsis) else none
  | room + 1, groups, ellipsis, text =>
    match hexGroup? 0 0 text with
    | none => none
    | some (digits, value, rest) =>
      if digits = 0 then none
      else if rest.head? = some 46 then
        -- an embedded IPv4 address takes the place of the last two groups
        if ellipsis = none ∧ groups.length ≠ 6 then none
        else if 8 < groups.length + 2 then none
        else (parseIPv4Fields? text).map fun bits =>
          (groups ++ [bits / 65536, bits % 65536], ellipsis)
      else
        let groups := groups ++ [value]
        match rest with
        | [] => some (groups, ellipsis)
        | [_] => none
        | 58 :: 58 :: rest =>
          if ellipsis ≠ none then none
          else if rest = [] then some (groups, some groups.length)
          else ipv6Groups? room groups (some groups.length) rest
        | 58 :: rest => ipv6Groups? room groups ellipsis rest
        | _ => none

/-- Fill the ellipsis up to eight groups; it stands for at least one. -/
def expandGroups? (groups : List Nat) (ellipsis : Option Nat) : Option (List Nat) :=
  if groups.length < 8 then
    ellipsis.map fun place =>
      groups.take place ++ List.replicate (8 - groups.length) 0 ++ groups.drop place
  else if ellipsis = none then some groups
  else none

def parseIPv6? (text : List UInt8) : Option Addr :=
  let host := text.takeWhile (· ≠ 37)
  let zone := (text.drop host.length).drop 1
  if host.length < text.length ∧ zone = [] then none
  else
    let parsed :=
      match host with
      | [58, 58] => some ([], some 0)
      | 58 :: 58 :: rest => ipv6Groups? 8 [] (some 0) rest
      | _ => ipv6Groups? 8 [] none host
    (parsed.bind fun found => expandGroups? found.1 found.2).map fun groups =>
      .v6 (BitVec.ofNat 128 (groups.foldl (65536 * · + ·) 0)) zone

/-- `ParseAddr`: the first dot, colon or percent sign decides the family. -/
def parseAddr? (text : List UInt8) : Option Addr :=
  match text.find? fun byte => byte = 46 ∨ byte = 58 ∨ byte = 37 with
  | some 46 => (parseIPv4Fields? text).map fun bits => .v4 (BitVec.ofNat 32 bits)
  | some 58 => parseIPv6? text
  | _ => none

def cutLast? (byte : UInt8) (text : List UInt8) : Option (List UInt8 × List UInt8) :=
  if byte ∈ text then
    let behind := (text.reverse.takeWhile (· ≠ byte)).reverse
    some (text.take (text.length - behind.length - 1), behind)
  else none

/-- `ParseAddrPort`, of which only the address is kept. -/
def parseAddrPort? (text : List UInt8) : Option Addr :=
  (cutLast? 58 text).bind fun (host, port) =>
    if host = [] ∨ port = [] then none
    else
      let bracketed := host.head? = some 91
      if bracketed ∧ (host.length < 2 ∨ host.getLast? ≠ some 93) then none
      else
        let host := if bracketed then host.tail.dropLast else host
        match (parseDecimal? port).filter (· ≤ 65535), parseAddr? host with
        | some _, some (.v4 bits) => if bracketed then none else some (.v4 bits)
        | some _, some (.v6 bits zone) => if bracketed then some (.v6 bits zone) else none
        | _, _ => none

def splitHost? (text : List UInt8) : Option (List UInt8) :=
  (cutLast? 58 text).bind fun (before, behind) =>
    if text.head? = some 91 then
      let host := (text.takeWhile (· ≠ 93)).tail
      -- the first closing bracket must stand right before the last colon
      if 93 ∈ text ∧ host.length + 2 = before.length ∧ 91 ∉ text.tail ∧ 93 ∉ behind then some host
      else none
    else if 58 ∈ before ∨ 91 ∈ text ∨ 93 ∈ text then none
    else some before

theorem cutLast?_append {byte : UInt8} (front : List UInt8) {behind : List UInt8}
    (absent : byte ∉ behind) : cutLast? byte (front ++ byte :: behind) = some (front, behind) := by
  have tail : (front ++ byte :: behind).reverse.takeWhile (· ≠ byte) = behind.reverse := by
    have kept : ∀ held ∈ behind.reverse, decide (held ≠ byte) = true := by
      intro held member
      rw [decide_eq_true_eq]
      rintro rfl
      exact absent (List.mem_reverse.mp member)
    rw [List.reverse_append, List.reverse_cons, List.append_assoc,
      List.takeWhile_append_of_pos kept]
    simp
  simp only [cutLast?, tail, List.reverse_reverse, List.length_append, List.length_cons]
  rw [if_pos (by simp), List.take_left' (by omega)]

theorem splitHost?_of_not_mem {text : List UInt8} (portless : 58 ∉ text) :
    splitHost? text = none := by
  simp [splitHost?, cutLast?, portless]

theorem splitHost?_append {host port : List UInt8} (plain : ∀ byte ∈ ([58, 91, 93] : List UInt8),
    byte ∉ host ∧ byte ∉ port) : splitHost? (host ++ 58 :: port) = some host := by
  have colon := plain 58 (by simp)
  have start := plain 91 (by simp)
  have stop := plain 93 (by simp)
  have unbracketed : (host ++ 58 :: port).head? ≠ some 91 := by
    cases host with
    | nil => simp
    | cons =>
      rintro same
      cases same
      exact start.1 (by simp)
  have among (byte : UInt8) (other : byte ≠ 58) (absent : byte ∉ host ∧ byte ∉ port) :
      byte ∉ host ++ 58 :: port := by
    simp [other, absent.1, absent.2]
  simp only [splitHost?, cutLast?_append host colon.2, Option.bind_some, if_neg unbracketed]
  refine if_neg ?_
  rintro (inside | bracket | bracket)
  · exact colon.1 inside
  · exact among 91 (by decide) start bracket
  · exact among 93 (by decide) stop bracket

def digitsText (base n : Nat) : List UInt8 :=
  (Nat.toDigits base n).map fun char => char.toNat.toUInt8

def dottedText (bits : BitVec 32) : List UInt8 :=
  let octet (shift : Nat) : List UInt8 := digitsText 10 ((bits >>> shift).setWidth 8).toNat
  octet 24 ++ 46 :: octet 16 ++ 46 :: octet 8 ++ 46 :: octet 0

def groupsOf (bits : BitVec 128) : List Nat :=
  (List.range 8).map fun index => ((bits >>> (16 * (7 - index))).setWidth 16).toNat

/-- The first of the longest runs of at least two zero groups, as its start and
its length. -/
def zeroRun? (groups : List Nat) : Option (Nat × Nat) :=
  let runs := (List.range groups.length).map fun start =>
    (start, ((groups.drop start).takeWhile (· = 0)).length)
  runs.foldl (fun best run =>
    if 2 ≤ run.2 ∧ (best.map Prod.snd).getD 0 < run.2 then some run else best) none

def groupsText (groups : List Nat) : List UInt8 :=
  List.intercalate [58] (groups.map (digitsText 16))

def Addr.string : Addr → List UInt8
  | .v4 bits => dottedText bits
  | .v6 bits zone =>
    let host :=
      if bits >>> 32 = 0xffff#128 then
        [58, 58, 102, 102, 102, 102, 58] ++ dottedText (bits.setWidth 32)
      else
        match zeroRun? (groupsOf bits) with
        | none => groupsText (groupsOf bits)
        | some (start, count) => groupsText ((groupsOf bits).take start) ++ [58, 58] ++
            groupsText ((groupsOf bits).drop (start + count))
    if zone = [] then host else host ++ 37 :: zone

theorem groupsText_ne_nil (first second : Nat) (rest : List Nat) :
    groupsText (first :: second :: rest) ≠ [] := by
  simp [groupsText]

theorem Addr.string_ne_nil (addr : Addr) : addr.string ≠ [] := by
  cases addr with
  | v4 => simp [string, dottedText]
  | v6 bits =>
    have groups : groupsText (groupsOf bits) ≠ [] := groupsText_ne_nil _ _ _
    simp only [string]
    split
    · split
      · simp
      · split
        · exact groups
        · simp
    · simp

end Netip
