import Porthook.Gateway.Configuration
import Porthook.Tunnel.CustomDomains

/-!
# The hosts that the gateway announces

`publicURLForSubdomain` puts a subdomain in front of the root domain as it is configured and takes
the port over from the public URL.  `subdomainFromHost` trims and lowers both the host and the root
domain before it compares them.
-/

namespace Porthook.Protocol

open Base64

theorem graphic_lowerByte (byte : UInt8) :
    (Graphic (lowerByte byte) ↔ Graphic byte) ∧ (¬ Graphic byte → lowerByte byte = byte) ∧
      lowerByte (lowerByte byte) = lowerByte byte := by
  have checked : ∀ value : Fin 256, (Graphic (lowerByte ⟨⟨value⟩⟩) ↔ Graphic ⟨⟨value⟩⟩) ∧
        (¬ Graphic ⟨⟨value⟩⟩ → lowerByte ⟨⟨value⟩⟩ = ⟨⟨value⟩⟩) ∧
        lowerByte (lowerByte ⟨⟨value⟩⟩) = lowerByte ⟨⟨value⟩⟩ := by
    decide +kernel
  exact checked byte.toFin

theorem eq_of_lowerByte {byte plain : UInt8} (blank : ¬ Graphic plain)
    (same : lowerByte byte = plain) : byte = plain := by
  obtain ⟨graphic, fixed, -⟩ := graphic_lowerByte byte
  rw [← same, graphic] at blank
  rw [← same, fixed blank]

theorem map_lowerByte_blank {text : Bytes} (blank : ∀ byte ∈ text, ¬ Graphic byte) :
    text.map lowerByte = text := by
  rw [List.map_congr_left fun byte member => (graphic_lowerByte byte).2.1 (blank byte member),
    List.map_id']

variable {drop? : Bytes → Option Bytes} {mark : UInt8}

theorem drop?_map_lowerByte (drops : Drops drop?) (text : Bytes) :
    drop? (text.map lowerByte) = (drop? text).map (·.map lowerByte) := by
  cases found : drop? text with
  | some =>
    obtain ⟨_, -, rfl, blank, again⟩ := drops _ _ found
    rw [List.map_append, map_lowerByte_blank blank, again]
    rfl
  | none =>
    cases lowered : drop? (text.map lowerByte) with
    | none => rfl
    | some =>
      obtain ⟨_, -, split, blank, again⟩ := drops _ _ lowered
      obtain ⟨front, _, rfl, rfl, -⟩ := List.map_eq_append_iff.mp split
      have plain : ∀ byte ∈ front, ¬ Graphic byte := fun byte member =>
        (graphic_lowerByte byte).1.not.mp (blank _ (List.mem_map_of_mem member))
      rw [map_lowerByte_blank plain] at again
      rw [again] at found
      cases found

theorem dropWhileSome_map_lowerByte (drops : Drops drop?) (fuel : Nat) (text : Bytes) :
    dropWhileSome drop? fuel (text.map lowerByte) =
      (dropWhileSome drop? fuel text).map lowerByte := by
  induction fuel generalizing text with
  | zero => rfl
  | succ _ ih =>
    rw [dropWhileSome, dropWhileSome, drop?_map_lowerByte drops]
    cases drop? text with
    | none => rfl
    | some rest => exact ih rest

theorem trimSpace_map_lowerByte (text : Bytes) :
    trimSpace (text.map lowerByte) = (trimSpace text).map lowerByte := by
  simp [trimSpace, dropWhileSome_map_lowerByte dropSpace?_drops, ← List.map_reverse,
    dropWhileSome_map_lowerByte dropSpaceReversed?_drops]

theorem toLower_map_lowerByte (text : Bytes) : toLower (text.map lowerByte) = toLower text := by
  induction text using toLower.induct with
  | case1 _ ih =>
    exact congrArg (107 :: ·) ih
  | case2 _ ih =>
    exact congrArg (105 :: ·) ih
  | case3 byte rest kelvin dotted ih =>
    rw [List.map_cons, toLower.eq_3 byte rest kelvin dotted, toLower.eq_3, ih]
    · exact congrArg (· :: _) (graphic_lowerByte byte).2.2
    · intro others first second
      obtain ⟨_, _, rfl, same, behind⟩ := List.map_eq_cons_iff.mp second
      obtain ⟨_, _, rfl, last, -⟩ := List.map_eq_cons_iff.mp behind
      exact kelvin _ (eq_of_lowerByte (by decide) first) (by
        rw [eq_of_lowerByte (by decide) same, eq_of_lowerByte (by decide) last])
    · intro others first second
      obtain ⟨_, _, rfl, same, -⟩ := List.map_eq_cons_iff.mp second
      exact dotted _ (eq_of_lowerByte (by decide) first) (by rw [eq_of_lowerByte (by decide) same])
  | case4 => rfl

theorem SameName.lowered {first second : Bytes} (same : SameName first second) :
    toLower (trimSpace first) = toLower (trimSpace second) := by
  rw [← toLower_map_lowerByte, ← trimSpace_map_lowerByte, same, trimSpace_map_lowerByte,
    toLower_map_lowerByte]

theorem toLower_append (isASCII : mark < 0x80) (front rest : Bytes) :
    toLower (front ++ mark :: rest) = toLower front ++ toLower (mark :: rest) := by
  have high {byte : UInt8} (beyond : 0x80 ≤ byte) : mark ≠ byte := by
    rintro rfl
    exact absurd isASCII (UInt8.not_lt.mpr beyond)
  induction front using toLower.induct with
  | case1 _ ih =>
    exact congrArg (107 :: ·) ih
  | case2 _ ih =>
    exact congrArg (105 :: ·) ih
  | case3 byte front kelvin dotted ih =>
    -- the mark completes none of the longer letters
    rw [List.cons_append, toLower.eq_3 byte front kelvin dotted, toLower.eq_3, ih]
    · rfl
    · intro others first same
      rcases front with _ | ⟨_, _ | ⟨_, _⟩⟩
      · exact high (by decide) (List.cons.inj same).1
      · exact high (by decide) (List.cons.inj (List.cons.inj same).2).1
      · cases same
        exact kelvin _ first rfl
    · intro others first same
      rcases front with _ | ⟨_, _⟩
      · exact high (by decide) (List.cons.inj same).1
      · cases same
        exact dotted _ first rfl
  | case4 => rfl

theorem count_toLower (special : mark ∈ ([46, 58, 91, 93] : Bytes)) (text : Bytes) :
    (toLower text).count mark = text.count mark := by
  have letters : (∀ byte ∈ ([107, 105, 0xE2, 0x84, 0xAA, 0xC4, 0xB0] : Bytes), byte ≠ mark) ∧
      ∀ value : Fin 256, lowerByte ⟨⟨value⟩⟩ = mark ↔ ⟨⟨value⟩⟩ = mark := by
    revert mark
    decide +kernel
  obtain ⟨other, lowered⟩ := letters
  induction text using toLower.induct with
  | case1 _ ih | case2 _ ih =>
    simp [toLower, other, ih]
  | case3 byte rest kelvin dotted ih =>
    rw [toLower.eq_3 byte rest kelvin dotted, List.count_cons, List.count_cons, ih]
    have same : lowerByte byte = mark ↔ byte = mark := lowered byte.toFin
    rw [lowerByte] at same
    simp [same]
  | case4 => rfl

theorem mem_toLower (special : mark ∈ ([46, 58, 91, 93] : Bytes)) {text : Bytes} :
    mark ∈ toLower text ↔ mark ∈ text := by
  rw [← List.count_pos_iff, count_toLower special, List.count_pos_iff]

end Porthook.Protocol

namespace Porthook.Gateway

open Protocol Netip Url

def joinHostPort (host port : Bytes) : Bytes :=
  if 58 ∈ host then 91 :: host ++ 93 :: 58 :: port else host ++ 58 :: port

variable {User : Type} (codec : AuthorityCodec User) (cfg : Config)

def publicURLForSubdomain (subdomain : Bytes) : Bytes :=
  let name := subdomain ++ 46 :: cfg.rootDomain
  match URL.parse codec cfg.publicURL with
  | none => ascii "http://" ++ name
  | some parsed =>
    if parsed.scheme = [] then ascii "http://" ++ name
    else
      let host := match splitHostPort? parsed.host with
        | some (_, port) => if port ≠ [] then joinHostPort name port else name
        | none => name
      URL.string codec { parsed with host, path := [], rawQuery := [], fragment := [] }

def announcedPort : Option Bytes :=
  (URL.parse codec cfg.publicURL).bind fun parsed =>
    if parsed.scheme = [] then none
    else (splitHostPort? parsed.host).bind fun (_, port) => if port = [] then none else some port

/-- The port of a host is a number, as `net/url` checks when it parses one. -/
def NumericPorts : Prop :=
  ∀ text user host, codec.parse text = some (user, host) →
    ∀ name port, splitHostPort? host = some (name, port) → ∀ byte ∈ port, 48 ≤ byte ∧ byte ≤ 57

variable {codec cfg}

theorem announcedPort_digits (numeric : NumericPorts codec) {port : Bytes}
    (announced : announcedPort codec cfg = some port) : ∀ byte ∈ port, 48 ≤ byte ∧ byte ≤ 57 := by
  obtain ⟨parsed, found, taken⟩ := Option.bind_eq_some_iff.mp announced
  split at taken
  · cases taken
  obtain ⟨⟨name, _⟩, split, kept⟩ := Option.bind_eq_some_iff.mp taken
  dsimp only at kept
  split at kept
  · cases kept
  cases kept
  have host : parsed.host ≠ [] := by
    intro empty
    rw [empty] at split
    cases split
  obtain ⟨-, -, authority, read⟩ := URL.parse_host found host
  exact numeric authority _ _ read name port split

end Porthook.Gateway

namespace Porthook.Tunnel

open Protocol Gateway ControlPlane Netip Url

variable {User : Type} {codec : AuthorityCodec User} {cfg : Config}

/-- The host of a subdomain as it is announced, with a dot behind the name if asked for. -/
def announced (codec : AuthorityCodec User) (cfg : Config) (subdomain : Bytes) (dotted : Bool) :
    HostSpelling where
  name := subdomain ++ 46 :: cfg.rootDomain
  dotted := dotted
  port := announcedPort codec cfg

theorem publicURLForSubdomain_host {subdomain : Bytes}
    (plain : 58 ∉ subdomain ++ 46 :: cfg.rootDomain) :
    publicURLForSubdomain codec cfg subdomain =
        ascii "http://" ++ (announced codec cfg subdomain false).text ∨
      ∃ url : URL User, url.host = (announced codec cfg subdomain false).text ∧
        publicURLForSubdomain codec cfg subdomain = URL.string codec url := by
  have joined (port : Bytes) : joinHostPort (subdomain ++ 46 :: cfg.rootDomain) port =
      subdomain ++ 46 :: cfg.rootDomain ++ 58 :: port := if_neg plain
  unfold publicURLForSubdomain HostSpelling.text HostSpelling.dot HostSpelling.portText announced
    announcedPort
  cases URL.parse codec cfg.publicURL with
  | none => exact .inl (by simp)
  | some parsed =>
    by_cases schemeless : parsed.scheme = []
    · exact .inl (by simp [schemeless])
    · refine .inr ⟨_, ?_, if_neg schemeless⟩
      simp only [Option.bind_some, if_neg schemeless]
      cases splitHostPort? parsed.host with
      | none => simp
      | some parts =>
        obtain ⟨_, port⟩ := parts
        by_cases portless : port = []
        · simp [portless]
        · simp [portless, joined]

/-- What stands behind the subdomain, up to the port, is read as the root domain. -/
def Reads (tail rootDomain : Bytes) : Option Bytes → Prop
  | none => toLower (trimSpaceRight tail) = toLower (trimSpace rootDomain)
  | some _ => toLower tail = toLower (trimSpace rootDomain) ∧ 91 ∉ tail ∧ 93 ∉ tail

/-- The bytes of subdomains and ports. -/
def Letters (text : Bytes) : Prop :=
  ∀ byte ∈ text, (97 ≤ byte ∧ byte ≤ 122) ∨ (48 ≤ byte ∧ byte ≤ 57) ∨ byte = 45

theorem Letters.plain {text : Bytes} (letters : Letters text) : ∀ byte ∈ text,
    Base64.Graphic byte ∧ byte ∉ ([46, 58, 91, 93] : Bytes) := by
  have checked : ∀ value : Fin 256, (97 ≤ (⟨⟨value⟩⟩ : UInt8) ∧ (⟨⟨value⟩⟩ : UInt8) ≤ 122) ∨
        (48 ≤ (⟨⟨value⟩⟩ : UInt8) ∧ (⟨⟨value⟩⟩ : UInt8) ≤ 57) ∨ (⟨⟨value⟩⟩ : UInt8) = 45 →
      Base64.Graphic ⟨⟨value⟩⟩ ∧ ⟨⟨value⟩⟩ ∉ ([46, 58, 91, 93] : Bytes) := by
    decide +kernel
  exact fun byte member => checked byte.toFin (letters byte member)

theorem Letters.special {text : Bytes} (letters : Letters text) {mark : UInt8}
    (special : mark ∈ ([46, 58, 91, 93] : Bytes)) : mark ∉ text :=
  fun member => (letters.plain mark member).2 special

theorem trimSpaceRight_port {port : Bytes} (letters : Letters port) (front : Bytes) :
    trimSpaceRight (front ++ 58 :: port) = front ++ 58 :: port := by
  have trimmed : trimSpace ([] ++ 58 :: port) = [] ++ 58 :: port :=
    trimSpace_graphic (List.forall_mem_cons.mpr
      ⟨by decide, fun byte member => (letters.plain byte member).1⟩)
  rw [trimSpaceRight_mark (by decide), trimSpaceRight_of_trimmed (by decide) trimmed]

section Reading

variable {subdomain tail rootDomain : Bytes} (valid : validateSubdomain subdomain)
include valid

theorem lowered_host (rest : Bytes) : toLower (trimSpace (subdomain ++ 46 :: rest)) =
    subdomain ++ 46 :: toLower (trimSpaceRight rest) := by
  have plain := Letters.plain (subdomain_letters valid)
  rw [trimSpace_mark (by decide) fun byte member => (plain byte member).1,
    toLower_append (by decide), toLower_subdomain valid]
  rfl

theorem hostOnly_ported {port : Bytes} (letters : Letters port) (colonless : 58 ∉ tail)
    (start : 91 ∉ tail) (stop : 93 ∉ tail) :
    hostOnly (subdomain ++ 46 :: toLower tail ++ 58 :: port) = subdomain ++ 46 :: toLower tail := by
  unfold hostOnly
  rw [splitHost?_append, Option.getD_some]
  intro byte special
  have listed : byte ∈ ([46, 58, 91, 93] : Bytes) := List.mem_cons_of_mem _ special
  refine ⟨fun member => ?_, letters.special listed⟩
  simp only [List.mem_append, List.mem_cons, mem_toLower listed] at member
  rcases member with inside | rfl | inside
  · exact Letters.special (subdomain_letters valid) listed inside
  · revert special
    decide
  · simp only [List.mem_cons, List.not_mem_nil, or_false] at special
    rcases special with rfl | rfl | rfl
    · exact colonless inside
    · exact start inside
    · exact stop inside

theorem hostOnly_bracketed {port : Bytes} (letters : Letters port)
    (bracket : 91 ∈ tail ∨ 93 ∈ tail) :
    hostOnly (subdomain ++ 46 :: toLower tail ++ 58 :: port) =
      subdomain ++ 46 :: toLower tail ++ 58 :: port := by
  have bracketless : 91 ∉ subdomain := Letters.special (subdomain_letters valid) (by decide)
  have start : (subdomain ++ 46 :: toLower tail ++ 58 :: port).head? ≠ some 91 := by
    cases subdomain with
    | nil => simp
    | cons first => simpa using fun same : first = 91 => bracketless (by simp [same])
  have inside : 91 ∈ subdomain ++ 46 :: toLower tail ++ 58 :: port ∨
      93 ∈ subdomain ++ 46 :: toLower tail ++ 58 :: port := by
    rcases bracket with member | member
    · exact .inl (by simp [(mem_toLower (by decide)).mpr member])
    · exact .inr (by simp [(mem_toLower (by decide)).mpr member])
  unfold hostOnly splitHost?
  rw [cutLast?_append _ (letters.special (by decide)), Option.bind_some]
  dsimp only
  rw [if_neg start, if_pos (.inr inside), Option.getD_none]

theorem subdomainFromHost_reads (colonless : 58 ∉ tail) (rooted : 58 ∉ rootDomain)
    {spelling : HostSpelling} (named : spelling.name ++ spelling.dot = subdomain ++ 46 :: tail)
    (ported : ∀ port, spelling.port = some port → Letters port) :
    subdomainFromHost rootDomain spelling.text = some subdomain ↔
      Reads tail rootDomain spelling.port := by
  have dotless : 46 ∉ subdomain := Letters.special (subdomain_letters valid) (by decide)
  have unnamed : 58 ∉ subdomain := Letters.special (subdomain_letters valid) (by decide)
  rw [subdomainFromHost_eq_some_iff, HostSpelling.text, named, HostSpelling.portText]
  simp only [dotless, valid, not_false_iff, and_true]
  cases written : spelling.port with
  | none =>
    have plain : 58 ∉ toLower (trimSpace (subdomain ++ 46 :: tail)) := by
      rw [mem_toLower (by decide), mem_trimSpace (by decide)]
      simp [unnamed, colonless]
    rw [Option.elim_none, List.append_nil, hostOnly, splitHost?_of_not_mem plain,
      Option.getD_none, lowered_host valid, List.append_cancel_left_eq, List.cons.injEq]
    exact and_iff_right rfl
  | some port =>
    have letters := ported port written
    have lowered : toLower (trimSpace (subdomain ++ 46 :: tail ++ 58 :: port)) =
        subdomain ++ 46 :: toLower tail ++ 58 :: port := by
      rw [List.append_assoc, List.cons_append, lowered_host valid, trimSpaceRight_port letters,
        toLower_append (by decide)]
      simp [toLower, toLower_of_letters letters]
    rw [Option.elim_some, lowered, Reads]
    by_cases bracket : 91 ∈ tail ∨ 93 ∈ tail
    · rw [hostOnly_bracketed valid letters bracket]
      refine iff_of_false (fun same => ?_) fun reads => ?_
      · have colon : 58 ∈ subdomain ++ 46 :: toLower (trimSpace rootDomain) := by
          rw [← same]
          simp
        rw [List.mem_append, List.mem_cons, mem_toLower (by decide),
          mem_trimSpace (by decide)] at colon
        rcases colon with inside | differs | inside
        · exact unnamed inside
        · cases differs
        · exact rooted inside
      · exact bracket.elim reads.2.1 reads.2.2
    · obtain ⟨start, stop⟩ := not_or.mp bracket
      rw [hostOnly_ported valid letters colonless start stop, List.append_cancel_left_eq,
        List.cons.injEq]
      simp [start, stop]

end Reading

theorem not_reads_dotted (rootDomain : Bytes) (port : Option Bytes) :
    ¬ Reads (rootDomain ++ [46]) rootDomain port := by
  have counted : (toLower (rootDomain ++ [46])).count 46 ≠
      (toLower (trimSpace rootDomain)).count 46 := by
    obtain ⟨_, _, split, -⟩ := exists_trimSpace rootDomain
    have whole := congrArg (List.count 46) split
    rw [count_toLower (by decide), count_toLower (by decide), List.count_append]
    simp only [List.count_append, List.count_singleton_self] at whole ⊢
    omega
  intro reads
  cases port with
  | none =>
    rw [Reads, trimSpaceRight_mark (by decide)] at reads
    exact counted (congrArg (List.count 46) reads)
  | some => exact counted (congrArg (List.count 46) reads.1)

theorem reads_of_trimmed {rootDomain : Bytes} (trimmed : trimSpace rootDomain = rootDomain)
    (start : 91 ∉ rootDomain) (stop : 93 ∉ rootDomain) (port : Option Bytes) :
    Reads rootDomain rootDomain port := by
  cases port with
  | none => rw [Reads, trimSpaceRight_of_trimSpace trimmed, trimmed]
  | some => exact ⟨by rw [trimmed], start, stop⟩

/-- What a valid configuration announces is read back, in any case, exactly if there is no dot
behind the name and the root domain needs no trimming. -/
theorem announced_hosts_read_iff (numeric : NumericPorts codec) {production : Bool}
    (validated : validateConfig codec cfg production = []) :
    let cfg := normalizeConfig cfg
    (∀ subdomain, validateSubdomain subdomain = true → (publicURLForSubdomain codec cfg subdomain =
          ascii "http://" ++ (announced codec cfg subdomain false).text ∨
        ∃ url : URL User, url.host = (announced codec cfg subdomain false).text ∧
          publicURLForSubdomain codec cfg subdomain = URL.string codec url) ∧
      ∀ dotted host, SameName host (announced codec cfg subdomain dotted).text →
        (subdomainFromHost cfg.rootDomain host = some subdomain ↔
          dotted = false ∧ Reads cfg.rootDomain cfg.rootDomain (announcedPort codec cfg))) ∧
    (trimSpace cfg.rootDomain = cfg.rootDomain → 91 ∉ cfg.rootDomain → 93 ∉ cfg.rootDomain →
      Reads cfg.rootDomain cfg.rootDomain (announcedPort codec cfg)) ∧
    ∀ host subdomain, subdomainFromHost cfg.rootDomain host = some subdomain →
      validateSubdomain subdomain = true ∧ hostOnly (toLower (trimSpace host)) =
          subdomain ++ 46 :: toLower (trimSpace cfg.rootDomain) := by
  have root := (checks_of_validated validated).2.1
  generalize normalizeConfig cfg = cfg at root
  have rooted : 58 ∉ cfg.rootDomain := by
    intro colon
    unfold validateRootDomain at root
    dsimp only at root
    split at root
    · cases root
    split at root
    · cases root
    next plain => exact plain (.inr ((mem_trimSpace (by decide)).mpr colon))
  dsimp only
  refine ⟨fun subdomain valid => ⟨?_, fun dotted host same => ?_⟩, fun trimmed start stop =>
    reads_of_trimmed trimmed start stop _, fun host subdomain found => ?_⟩
  · apply publicURLForSubdomain_host
    simp [Letters.special (subdomain_letters valid), rooted]
  · rw [subdomainFromHost_eq_some_iff, same.lowered, ← subdomainFromHost_eq_some_iff]
    have ported : ∀ port, announcedPort codec cfg = some port → Letters port :=
      fun port written byte member => .inr (.inl (announcedPort_digits numeric written byte member))
    cases dotted with
    | false =>
      rw [subdomainFromHost_reads valid rooted rooted (List.append_nil _) ported]
      simp [announced]
    | true =>
      have dotted : 58 ∉ cfg.rootDomain ++ [46] := by simp [rooted]
      rw [subdomainFromHost_reads valid dotted rooted (List.append_assoc ..) ported]
      simp [not_reads_dotted]
  · obtain ⟨split, -, valid⟩ := subdomainFromHost_eq_some_iff.mp found
    exact ⟨valid, split⟩

theorem numericPorts_plainCodec : NumericPorts plainCodec := by
  intro text user host parsed name port split
  dsimp only [plainCodec] at parsed
  split at parsed
  next checked =>
    cases parsed
    rw [split] at checked
    simpa using checked
  · cases parsed

theorem announced_hosts_read_iff_plain :
    validateConfig plainCodec (controlled (ascii "https://cp.example")) false = [] ∧
      subdomainFromHost (ascii "localhost") (ascii "Demo.LocalHost:8080") =
        some (ascii "demo") := by
  have validated : validateConfig plainCodec (controlled (ascii "https://cp.example")) false =
      [] := by decide +kernel
  obtain ⟨announcing, trimmed, -⟩ := announced_hosts_read_iff numericPorts_plainCodec validated
  refine ⟨validated, ((announcing (ascii "demo") (by decide)).2 false _ (by decide +kernel)).mpr
    ⟨rfl, trimmed (by decide) (by decide) (by decide)⟩⟩

/-- The host with a dot behind it is not found. -/
theorem trailing_dot_unread :
    validateConfig plainCodec (controlled (ascii "https://cp.example")) false = [] ∧
      validateSubdomain (ascii "demo") = true ∧
      publicURLForSubdomain plainCodec
          (normalizeConfig (controlled (ascii "https://cp.example"))) (ascii "demo") =
        ascii "http://demo.localhost:8080" ∧
      subdomainFromHost (normalizeConfig (controlled (ascii "https://cp.example"))).rootDomain
        (ascii "demo.localhost.:8080") = none := by
  decide +kernel

end Porthook.Tunnel
