import Porthook.ControlPlane.AccessTerms
import Porthook.Gateway.ClientIP

/-!
# Allowlists and the addresses of clients

The gateway writes the address of a client without the mapping into IPv6, and the control plane
compares it with the entries of an allowlist as they were given.  So an entry that names an IPv4
address or network through its mapping admits nobody.
-/

namespace Porthook.ControlPlane

open Protocol Netip Base64

/-- The addresses that `clientip.Resolver` can produce. -/
def Produced (addr : Addr) : Prop :=
  ∃ (resolver : ClientIP.Resolver) (remoteAddr : Bytes) (header : Header),
    resolver.resolve remoteAddr header = some addr

theorem unmap_unmap (addr : Addr) : addr.unmap.unmap = addr.unmap := by
  cases addr with
  | v4 => rfl
  | v6 bits =>
    by_cases mapped : bits >>> 32 = 0xffff#128
    · simp only [Addr.unmap, if_pos mapped]
    · simp only [Addr.unmap, if_neg mapped]

theorem mapM_unmapped {texts : List Bytes} {addrs : List Addr}
    (read : texts.mapM (fun text => (parseAddr? text).map Addr.unmap) = some addrs) :
    ∀ addr ∈ addrs, addr.unmap = addr := by
  induction texts generalizing addrs with
  | nil =>
    cases read
    simp
  | cons _ _ ih =>
    simp only [List.mapM_cons, Option.bind_eq_bind, Option.bind_eq_some_iff, Option.map_eq_some_iff,
      Option.pure_def, Option.some.injEq] at read
    obtain ⟨-, ⟨addr, -, rfl⟩, _, later, rfl⟩ := read
    exact List.forall_mem_cons.mpr ⟨unmap_unmap addr, ih later⟩

theorem forwardedChain_unmapped {header : Header} {chain : List Addr}
    (read : ClientIP.forwardedChain header = some chain) : ∀ addr ∈ chain, addr.unmap = addr := by
  unfold ClientIP.forwardedChain at read
  dsimp only at read
  split at read
  · split at read
    · cases read
      simp
    · obtain ⟨found, -, rfl⟩ := Option.map_eq_some_iff.mp read
      simpa using unmap_unmap found
  · exact mapM_unmapped read

theorem resolve_unmapped {resolver : ClientIP.Resolver} {remoteAddr : Bytes} {header : Header}
    {addr : Addr} (resolved : resolver.resolve remoteAddr header = some addr) :
    addr.unmap = addr := by
  unfold ClientIP.Resolver.resolve at resolved
  split at resolved
  · cases resolved
  next peer parsed =>
    have unmapped : peer.unmap = peer := by
      unfold ClientIP.parseRemoteAddr at parsed
      split at parsed
      · cases parsed
        exact unmap_unmap _
      · obtain ⟨found, -, rfl⟩ := Option.map_eq_some_iff.mp parsed
        exact unmap_unmap found
    split at resolved
    · cases resolved
      exact unmapped
    · split at resolved
      · cases resolved
        exact unmapped
      · cases resolved
        exact unmapped
      next first rest read =>
        cases resolved
        have chain := forwardedChain_unmapped read
        unfold ClientIP.Resolver.scan
        cases found : (first :: rest).reverse.find? fun addr => !resolver.isTrusted addr with
        | none => exact chain first (by simp)
        | some addr => exact chain addr (List.mem_reverse.mp (List.mem_of_find?_eq_some found))

def remoteAddrOf (addr : Addr) : Bytes :=
  match addr with
  | .v4 bits => dottedText bits ++ 58 :: ascii "80"
  | .v6 bits zone => 91 :: (Addr.v6 bits zone).string ++ 93 :: 58 :: ascii "80"

theorem produced_iff {addr : Addr} : Produced addr ↔ addr.unmap = addr := by
  constructor
  · rintro ⟨_, _, _, resolved⟩
    exact resolve_unmapped resolved
  · intro unmapped
    have port : parseDecimal? (ascii "80") = some 80 := by decide
    have colon : 58 ∉ ascii "80" := by decide
    have parsed : parseAddrPort? (remoteAddrOf addr) = some addr := by
      cases addr with
      | v4 bits =>
        have start : (dottedText bits).head? ≠ some 91 := fun first =>
          dottedText_all (p := (· ≠ 91)) (by decide) bits 91 (List.mem_of_head? first) rfl
        have present : dottedText bits ≠ [] := (Addr.v4 bits).string_ne_nil
        simp only [parseAddrPort?, remoteAddrOf, cutLast?_append _ colon, Option.bind_some, start,
          false_and, if_false, port, parseAddr?_dottedText, present, false_or]
        rfl
      | v6 bits zone =>
        have text : remoteAddrOf (.v6 bits zone) =
            (91 :: (Addr.v6 bits zone).string ++ [93]) ++ 58 :: ascii "80" := by
          simp [remoteAddrOf]
        have stop : (91 :: (Addr.v6 bits zone).string ++ [93]).getLast? = some 93 :=
          List.getLast?_concat
        have inner : (91 :: (Addr.v6 bits zone).string ++ [93]).tail.dropLast =
            (Addr.v6 bits zone).string := List.dropLast_concat
        rw [parseAddrPort?, text, cutLast?_append _ colon, Option.bind_some]
        simp only [stop, inner, port]
        have start : (91 :: (Addr.v6 bits zone).string ++ [93]).head? = some 91 := rfl
        rw [if_neg (by simp; decide), if_neg (by simp), if_pos start, parseAddr?_string]
        rfl
    refine ⟨⟨[]⟩, remoteAddrOf addr, [], ClientIP.resolve_of_untrusted ?_ rfl _⟩
    simp [ClientIP.parseRemoteAddr, parsed, unmapped]

/-- The entry with an IPv4-mapped address or prefix read as the IPv4 one. -/
def AllowlistEntry.unmap : AllowlistEntry → AllowlistEntry
  | .address own => .address own.unmap
  | .network ⟨.v6 bits zone, length⟩ =>
    if bits >>> 32 = 0xffff#128 ∧ 96 ≤ length then
      .network ⟨.v4 (bits.setWidth 32), length - 96⟩
    else .network ⟨.v6 bits zone, length⟩
  | .network net => .network net

def Covered (entries : List AllowlistEntry) (addr : Addr) : Prop :=
  ∃ entry ∈ entries, entry.unmap.has addr = true

/-- An entry through the mapping names no other IPv4 address than the entries as they
stand do, and no entry has a zone. -/
structure PlainList (entries : List AllowlistEntry) : Prop where
  v4 : ∀ bits, Covered entries (.v4 bits) → ∃ entry ∈ entries, entry.has (.v4 bits) = true
  zoneless : ∀ own, .address own ∈ entries → own.unmap.hasZone = false

namespace AllowlistEntry

theorem has_unmap_v4 {entry : AllowlistEntry} {bits : BitVec 32}
    (has : entry.has (.v4 bits)) : entry.unmap.has (.v4 bits) = true := by
  cases entry with
  | address own =>
    have same : own = .v4 bits := by simpa [AllowlistEntry.has] using has
    rw [same]
    simp [unmap, AllowlistEntry.has, Addr.unmap]
  | network net =>
    obtain ⟨start, _⟩ := net
    cases start with
    | v4 => exact has
    | v6 => simp [AllowlistEntry.has, Prefix.contains] at has

theorem mapped_of_contains {start bits : BitVec 128} {shift : Nat} (short : shift ≤ 32)
    (inside : (bits ^^^ start) >>> shift = 0) : bits >>> 32 = start >>> 32 := by
  have upper : (bits ^^^ start) >>> 32 = 0 := by
    rw [← Nat.add_sub_of_le short, BitVec.shiftRight_add, inside]
    exact BitVec.zero_ushiftRight
  rw [BitVec.ushiftRight_xor_distrib] at upper
  exact BitVec.xor_eq_zero_iff.mp upper

theorem unmap_has_v6 (entry : AllowlistEntry) {bits : BitVec 128} {zone : Bytes}
    (unmapped : (Addr.v6 bits zone).unmap = .v6 bits zone) :
    entry.unmap.has (.v6 bits zone) = entry.has (.v6 bits zone) := by
  have high : bits >>> 32 ≠ 0xffff#128 := by
    intro mapped
    simp [Addr.unmap, mapped] at unmapped
  cases entry with
  | address own =>
    simp only [unmap, AllowlistEntry.has, decide_eq_decide]
    cases own with
    | v4 => rfl
    | v6 start =>
      by_cases mapped : start >>> 32 = 0xffff#128
      · simp only [Addr.unmap, if_pos mapped, reduceCtorEq, false_iff, Addr.v6.injEq]
        rintro ⟨rfl, -⟩
        exact high mapped
      · simp only [Addr.unmap, if_neg mapped]
  | network net =>
    obtain ⟨start, length⟩ := net
    cases start with
    | v4 => rfl
    | v6 start =>
      by_cases mapped : start >>> 32 = 0xffff#128 ∧ 96 ≤ length
      · have outside : ((bits ^^^ start) >>> (128 - length) == 0) = false := by
          refine beq_false_of_ne fun inside => high ?_
          rw [mapped_of_contains (by omega) inside]
          exact mapped.1
        simp only [unmap, if_pos mapped, AllowlistEntry.has, Prefix.contains, outside, ite_self]
      · simp only [unmap, if_neg mapped]

end AllowlistEntry

variable {zone : Bytes}

theorem not_has_zoned {entry : AllowlistEntry} {bits : BitVec 128} (zoned : zone ≠ [])
    (has : entry.has (.v6 bits zone)) :
    entry = .address (.v6 bits zone) := by
  cases entry with
  | address => simpa [AllowlistEntry.has] using has
  | network => simp [AllowlistEntry.has, Prefix.contains, Addr.hasZone, zoned] at has

theorem trimSpace_string {addr : Addr} (zoneless : addr.hasZone = false) :
    trimSpace addr.string = addr.string :=
  trimSpace_graphic (Addr.string_all (by decide) zoneless)

theorem trimSpace_zoned (bits : BitVec 128) (zoned : zone ≠ []) :
    trimSpace (Addr.v6 bits zone).string = hostText bits ++ 37 :: trimSpaceRight zone := by
  rw [string_v6, if_neg zoned]
  exact trimSpace_mark (by decide) (hostText_all (by decide) bits) zone

theorem trimmed_zone {values : List Bytes} {entries : List AllowlistEntry}
    (read : allowlistEntries? values = some entries) {bits : BitVec 128}
    (member : .address (.v6 bits zone) ∈ entries) : trimSpaceRight zone = zone := by
  induction values generalizing entries with
  | nil =>
    cases read
    cases member
  | cons value _ ih =>
    unfold allowlistEntries? at read
    split at read
    · exact ih read member
    · obtain ⟨_, parsed, read⟩ := Option.bind_eq_some_iff.mp read
      obtain ⟨_, later, rfl⟩ := Option.map_eq_some_iff.mp read
      rcases List.mem_cons.mp member with rfl | old
      · by_cases plain : zone = []
        · rw [plain]
          rfl
        unfold AllowlistEntry.parse? at parsed
        split at parsed
        · cases parsed
        obtain ⟨_, found, same⟩ := Option.map_eq_some_iff.mp parsed
        cases same
        obtain ⟨_, text⟩ := parseAddr?_zone found plain
        have trimmed := trimSpace_trimSpace value
        rw [text] at trimmed
        exact trimSpaceRight_of_trimmed (by decide) trimmed
      · exact ih later old

section Compared

variable {allowlist : List Bytes} {entries : List AllowlistEntry}

theorem ipAllowed_string_iff (denotes : Denotes allowlist entries) {addr : Addr}
    (zoneless : addr.hasZone = false) :
    ipAllowed addr.string allowlist = true ↔ ∃ entry ∈ entries, entry.has addr = true := by
  rw [ipAllowed_iff, trimSpace_string zoneless, parseAddr?_string]
  simp only [Option.some.injEq, exists_eq_left']
  exact denotes.same addr

theorem ipAllowed_zoned_iff (denotes : Denotes allowlist entries) (bits : BitVec 128)
    {zone : Bytes} (zoned : zone ≠ []) :
    ipAllowed (Addr.v6 bits zone).string allowlist = true ↔ trimSpaceRight zone ≠ [] ∧
        .address (.v6 bits (trimSpaceRight zone)) ∈ entries := by
  rw [ipAllowed_iff, trimSpace_zoned bits zoned, parseAddr?_zoned]
  split
  next blank => simp [blank]
  next present =>
    simp only [Option.some.injEq, exists_eq_left', denotes.same]
    constructor
    · rintro ⟨_, member, has⟩
      rw [not_has_zoned present has] at member
      exact ⟨present, member⟩
    · rintro ⟨-, member⟩
      exact ⟨_, member, by simp [AllowlistEntry.has]⟩

/-- The list admits the addresses it covers exactly if it is plain. -/
theorem covered_iff (denotes : Denotes allowlist entries)
    (trimmed : ∀ bits zone, .address (.v6 bits zone) ∈ entries → trimSpaceRight zone = zone) :
    (∀ addr : Addr, addr.unmap = addr →
      (ipAllowed addr.string allowlist = true ↔ Covered entries addr)) ↔ PlainList entries := by
  constructor
  · intro agrees
    refine ⟨fun bits covered => ?_, fun own member => ?_⟩
    · exact (ipAllowed_string_iff denotes rfl).mp ((agrees (.v4 bits) rfl).mpr covered)
    cases own with
    | v4 => rfl
    | v6 bits zone =>
      by_cases mapped : bits >>> 32 = 0xffff#128
      · simp only [Addr.unmap, if_pos mapped, Addr.hasZone]
      have unmapped (zone : Bytes) : (Addr.v6 bits zone).unmap = .v6 bits zone := if_neg mapped
      rw [unmapped]
      by_contra zoned
      have present : zone ≠ [] := by simpa [Addr.hasZone] using zoned
      -- a client of the same zone with a space behind it is let in as well
      have same : trimSpaceRight (zone ++ [32]) = zone :=
        (trimSpaceRight_space zone).trans (trimmed bits zone member)
      have allowed := (ipAllowed_zoned_iff denotes bits (List.concat_ne_nil 32 zone)).mpr
        (by rw [same]; exact ⟨present, member⟩)
      obtain ⟨_, other, has⟩ := (agrees _ (unmapped _)).mp allowed
      rw [AllowlistEntry.unmap_has_v6 _ (unmapped _)] at has
      rw [not_has_zoned (List.concat_ne_nil 32 zone) has] at other
      have longer := congrArg List.length ((trimmed _ _ other).symm.trans same)
      simp at longer
  · intro plain addr unmapped
    cases addr with
    | v4 bits =>
      rw [ipAllowed_string_iff denotes rfl]
      constructor
      · rintro ⟨entry, member, has⟩
        exact ⟨entry, member, AllowlistEntry.has_unmap_v4 has⟩
      · exact plain.v4 bits
    | v6 bits zone =>
      simp only [Covered, AllowlistEntry.unmap_has_v6 _ unmapped]
      by_cases zoned : zone = []
      · exact ipAllowed_string_iff denotes (by simp [Addr.hasZone, zoned])
      have absent (zone : Bytes) (present : zone ≠ []) : .address (.v6 bits zone) ∉ entries := by
        intro member
        have zoneless := plain.zoneless _ member
        have other : (Addr.v6 bits zone).unmap = .v6 bits zone := by
          refine if_neg fun mapped => ?_
          simp [Addr.unmap, mapped] at unmapped
        rw [other] at zoneless
        exact absurd zoneless (by simp [Addr.hasZone, present])
      rw [ipAllowed_zoned_iff denotes bits zoned]
      constructor
      · rintro ⟨present, member⟩
        exact absurd member (absent _ present)
      · rintro ⟨_, member, has⟩
        rw [not_has_zoned zoned has] at member
        exact absurd member (absent _ zoned)

end Compared

/-- A value that normalisation leaves alone. -/
structure Normal (value : Bytes) : Prop where
  present : value ≠ []
  trimmed : trimSpace value = value
  same : normalizeIPAllowlistValue value = .ok value

theorem normal_of_ok {value normalized : Bytes}
    (accepted : normalizeIPAllowlistValue (trimSpace value) = .ok normalized) :
    Normal normalized := by
  unfold normalizeIPAllowlistValue at accepted
  split at accepted
  next net parsed =>
    cases accepted
    have valid := Prefix.masked_valid (parsePrefix?_eq_some parsed).1
    refine ⟨by simp [Prefix.string],
      trimSpace_graphic (Prefix.string_all (by decide) valid.1 (by decide)), ?_⟩
    simp only [normalizeIPAllowlistValue, parsePrefix?_string valid, Prefix.masked_masked]
  next =>
    split at accepted
    · cases accepted
    next addr parsed =>
      cases accepted
      refine ⟨addr.string_ne_nil, ?_, ?_⟩
      · cases zoned : addr.hasZone with
        | false => exact trimSpace_string zoned
        | true =>
          cases addr with
          | v4 => cases zoned
          | v6 bits zone =>
            have present : zone ≠ [] := by simpa [Addr.hasZone] using zoned
            obtain ⟨_, text⟩ := parseAddr?_zone parsed present
            have trimmed := trimSpace_trimSpace value
            rw [text] at trimmed
            rw [trimSpace_zoned bits present, trimSpaceRight_of_trimmed (by decide) trimmed,
              string_v6, if_neg present]
      · simp only [normalizeIPAllowlistValue, parsePrefix?_addr_string, parseAddr?_string]

variable {values : List Bytes}

theorem normal_foldlM {out result : List Bytes} (normal : ∀ value ∈ out, Normal value)
    (distinct : out.Nodup) (folded : values.foldlM addAllowlistValue out = .ok result) :
    (∀ value ∈ result, Normal value) ∧ result.Nodup := by
  induction values generalizing out with
  | nil =>
    cases folded
    exact ⟨normal, distinct⟩
  | cons value _ ih =>
    simp only [List.foldlM_cons, addAllowlistValue] at folded
    by_cases blank : trimSpace value = []
    · simp only [blank, if_true] at folded
      exact ih normal distinct folded
    · cases accepted : normalizeIPAllowlistValue (trimSpace value) with
      | error =>
        simp only [blank, if_false, accepted] at folded
        cases folded
      | ok =>
        simp only [blank, if_false, accepted, Except.map] at folded
        refine ih ?_ ?_ folded
        · split
          · exact normal
          · rw [List.forall_mem_append, List.forall_mem_singleton]
            exact ⟨normal, normal_of_ok accepted⟩
        · split
          · exact distinct
          next fresh => exact List.concat_eq_append ▸ distinct.concat fresh

theorem foldlM_normal (out : List Bytes) (normal : ∀ value ∈ values, Normal value)
    (distinct : (out ++ values).Nodup) :
    values.foldlM addAllowlistValue out = .ok (out ++ values) := by
  induction values generalizing out with
  | nil => simp [pure, Except.pure]
  | cons value rest ih =>
    obtain ⟨first, later⟩ := List.forall_mem_cons.mp normal
    have fresh : value ∉ out := fun member =>
      (List.nodup_append.mp distinct).2.2 value member value (by simp) rfl
    have added : addAllowlistValue out value = .ok (out ++ [value]) := by
      simp [addAllowlistValue, first.trimmed, first.present, first.same, Except.map, fresh]
    rw [List.foldlM_cons, added]
    change rest.foldlM addAllowlistValue (out ++ [value]) = _
    rw [ih (out ++ [value]) later (by simpa using distinct), List.append_assoc]
    rfl

theorem normalizeIPAllowlist_normalized {allowlist : List Bytes}
    (accepted : normalizeIPAllowlist values = .ok allowlist) :
    normalizeIPAllowlist allowlist = .ok allowlist ∧ allowlist.Nodup := by
  obtain ⟨folded, present⟩ := foldlM_of_accepted accepted
  obtain ⟨normal, distinct⟩ := normal_foldlM (by simp) List.nodup_nil folded
  refine ⟨?_, distinct⟩
  have again := foldlM_normal [] normal (by simpa using distinct)
  rw [normalizeIPAllowlist, again]
  exact if_neg present

/-- The policy of a reservation is an allowlist. -/
def Lists (store : PolicyStore) (reservedSubdomainID : Bytes) (allowlist : List Bytes) : Prop :=
  trimSpace reservedSubdomainID ≠ [] ∧
    ∃ record, store.lookupByReservedSubdomainID (trimSpace reservedSubdomainID) = some record ∧
      record.mode = .modeIPAllowlist ∧ record.ipAllowlist = allowlist

def allowedByList : Calls.Outcome PolicyCall PolicyReply :=
  .returns (.checked { allowed := true, mode := .modeIPAllowlist })

theorem checkPolicy_lists_iff (hashing : Hashing) {store : PolicyStore} {id : Bytes}
    {allowlist : List Bytes} (lists : Lists store id allowlist) {draw : PolicyDraw}
    (works : draw.storeFails = false) (remoteIP : Bytes) :
    checkPolicy hashing store { reservedSubdomainID := id, remoteIP } draw = allowedByList ↔
      ipAllowed remoteIP allowlist = true := by
  obtain ⟨named, _, found, mode, rfl⟩ := lists
  simp only [checkPolicy, named, if_false, works, Bool.false_eq_true, found, checkRecord, mode]
  split
  next allowed => simp [allowed, allowedByList]
  next denied => simp [denied, allowedByList]

/-- Normalisation is idempotent and leaves no duplicates.  `CheckPolicy` lets in the
clients that an accepted list names exactly if the list is plain. -/
theorem allowlist_exact_iff (hashing : Hashing) {values allowlist : List Bytes}
    (accepted : normalizeIPAllowlist values = .ok allowlist) {store : PolicyStore} {id : Bytes}
    (lists : Lists store id allowlist) {draw : PolicyDraw} (works : draw.storeFails = false) :
    normalizeIPAllowlist allowlist = .ok allowlist ∧ allowlist.Nodup ∧
    ∃ entries, allowlistEntries? values = some entries ∧ ((∀ addr, Produced addr →
        (checkPolicy hashing store { reservedSubdomainID := id, remoteIP := addr.string } draw =
          allowedByList ↔ Covered entries addr)) ↔ PlainList entries) := by
  obtain ⟨again, distinct⟩ := normalizeIPAllowlist_normalized accepted
  obtain ⟨-, entries, read, denotes⟩ := normalizeIPAllowlist_eq_ok accepted
  refine ⟨again, distinct, entries, read, ?_⟩
  simp only [produced_iff, checkPolicy_lists_iff hashing lists works]
  exact covered_iff denotes fun bits zone member => trimmed_zone read member

def listed (ipAllowlist : List Bytes) : PolicyStore :=
  (Table.empty.insert?
    { id := ascii "ap_1", reservedSubdomainID := ascii "rs_1", mode := .modeIPAllowlist,
      basicUsername := [], secretHash := [], ipAllowlist, createdAt := 0,
      updatedAt := 0 }).getD Table.empty

theorem lists_listed (allowlist : List Bytes) : Lists (listed allowlist) (ascii "rs_1") allowlist :=
  ⟨by decide, _, rfl, rfl, rfl⟩

theorem allowlist_exact_iff_network : ∃ entries,
    allowlistEntries? [ascii " 192.0.2.7/24"] = some entries ∧ ((∀ addr, Produced addr →
        (checkPolicy plainHashing (listed [ascii "192.0.2.0/24"])
          { reservedSubdomainID := ascii "rs_1", remoteIP := addr.string } {} = allowedByList ↔
            Covered entries addr)) ↔ PlainList entries) :=
  (allowlist_exact_iff plainHashing (by decide +kernel) (lists_listed _) rfl).2.2

/-- The one address of the list is denied. -/
theorem mapped_address_denied :
    normalizeIPAllowlist [ascii "::ffff:192.0.2.1"] = .ok [ascii "::ffff:192.0.2.1"] ∧
    allowlistEntries? [ascii "::ffff:192.0.2.1"] = some [.address (.v6 0xffffc0000201 [])] ∧
    Covered [.address (.v6 0xffffc0000201 [])] (.v4 0xc0000201) ∧
    (ClientIP.new []).resolveString (ascii "192.0.2.1:443") [] = ascii "192.0.2.1" ∧
    checkPolicy plainHashing (listed [ascii "::ffff:192.0.2.1"])
        { reservedSubdomainID := ascii "rs_1", remoteIP := ascii "192.0.2.1" } {} =
      .returns (.checked
        { allowed := false, mode := .modeIPAllowlist, reason := ascii "ip_not_allowed" }) := by
  refine ⟨by decide +kernel, by decide +kernel, ⟨_, List.mem_singleton.mpr rfl, ?_⟩,
    by decide +kernel, rfl⟩
  decide +kernel

end Porthook.ControlPlane
