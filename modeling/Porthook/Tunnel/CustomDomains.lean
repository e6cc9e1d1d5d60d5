import Porthook.ControlPlane.DomainRuns
import Porthook.Protocol.HopByHop
import Porthook.Tunnel.Exposure

/-!
# Custom domains on their way to a tunnel

A hostname is read by the control plane when a domain is created, and by the gateway from the
`Host` of a request.  But the gateway first takes a host for a name under its root domain, of
which the control plane knows nothing: a domain that was created right there is never looked up.
-/

namespace Porthook.ControlPlane

open Protocol Gateway

def HostByte (byte : UInt8) : Prop :=
  (97 ≤ byte ∧ byte ≤ 122) ∨ (48 ≤ byte ∧ byte ≤ 57) ∨ byte = 45 ∨ byte = 46

instance (byte : UInt8) : Decidable (HostByte byte) := by
  unfold HostByte
  infer_instance

/-- A byte of a hostname is no capital letter.  In either case it stands for no space, no
port and no wildcard. -/
theorem hostByte_facts (byte : UInt8) : (HostByte byte → lowerByte byte = byte) ∧
      (HostByte (lowerByte byte) →
        Base64.Graphic byte ∧ byte ∉ ([42, 47, 58, 91, 93, 95] : Bytes)) := by
  have checked : ∀ value : Fin 256, (HostByte ⟨⟨value⟩⟩ → lowerByte ⟨⟨value⟩⟩ = ⟨⟨value⟩⟩) ∧
        (HostByte (lowerByte ⟨⟨value⟩⟩) →
          Base64.Graphic ⟨⟨value⟩⟩ ∧ ⟨⟨value⟩⟩ ∉ ([42, 47, 58, 91, 93, 95] : Bytes)) := by
    decide +kernel
  exact checked byte.toFin

structure IsHostname (hostname : Bytes) : Prop where
  dotted : 46 ∈ hostname
  labels : ∀ label ∈ splitByte 46 hostname, validateSubdomain label = true
  short : hostname.length ≤ 253

theorem hostnameLabelError?_eq_none_iff (label : Bytes) :
    hostnameLabelError? label = none ↔ validateSubdomain label = true := by
  rw [← subdomainError?_eq_none_iff]
  unfold hostnameLabelError? subdomainError?
  by_cases empty : label = []
  · simp [empty]
  by_cases long : 63 < label.length
  · simp [empty, long]
  by_cases hyphen : label.head? = some 45 ∨ label.getLast? = some 45
  · simp [empty, long, hyphen]
  · rw [if_neg empty, if_neg empty, if_neg long, if_neg long, if_neg hyphen, if_neg hyphen]
    split <;> simp

variable {text : Bytes}

theorem isHostname_of_normalizeHostname {hostname : Bytes}
    (normalized : normalizeHostname text = .ok hostname) : IsHostname hostname := by
  unfold normalizeHostname at normalized
  dsimp only at normalized
  split at normalized
  · cases normalized
  split at normalized
  · cases normalized
  split at normalized
  · cases normalized
  next short =>
    split at normalized
    · cases normalized
    next dotted =>
      split at normalized
      · cases normalized
      next noError =>
        cases normalized
        refine ⟨not_not.mp dotted, fun label member => ?_, Nat.le_of_not_lt short⟩
        exact (hostnameLabelError?_eq_none_iff label).mp
          (List.findSome?_eq_none_iff.mp noError label member)

theorem mem_splitByte (separator : UInt8) {byte : UInt8} (member : byte ∈ text) :
    byte = separator ∨ ∃ piece ∈ splitByte separator text, byte ∈ piece := by
  have joined {pieces : List Bytes} (member : byte ∈ [separator].intercalate pieces) :
      byte = separator ∨ ∃ piece ∈ pieces, byte ∈ piece := by
    induction pieces with
    | nil => cases member
    | cons first rest ih =>
      cases rest with
      | nil => exact .inr ⟨first, by simp, by simpa using member⟩
      | cons =>
        rw [List.intercalate_cons_cons, List.mem_append, List.mem_append] at member
        rcases member with (here | same) | later
        · exact .inr ⟨first, by simp, here⟩
        · exact .inl (List.mem_singleton.mp same)
        · rcases ih later with same | ⟨piece, among, within⟩
          · exact .inl same
          · exact .inr ⟨piece, List.mem_cons_of_mem _ among, within⟩
  apply joined
  unfold splitByte
  rw [List.intercalate_splitOn]
  exact member

theorem lower_trimmed (graphic : ∀ byte ∈ text, Base64.Graphic byte) :
    toLower (trimSpace text) = text.map lowerByte := by
  rw [trimSpace_graphic graphic]
  apply toLower_ascii
  intro byte member
  exact UInt8.lt_of_le_of_lt (graphic byte member).2 (by decide)

namespace IsHostname

variable {hostname : Bytes}

theorem hostByte (valid : IsHostname hostname) : ∀ byte ∈ hostname, HostByte byte := by
  intro byte member
  rcases mem_splitByte 46 member with dot | ⟨label, among, within⟩
  · exact .inr (.inr (.inr dot))
  rcases subdomain_letters (valid.labels label among) byte within with letter | digit | hyphen
  · exact .inl letter
  · exact .inr (.inl digit)
  · exact .inr (.inr (.inl hyphen))

theorem first_label (valid : IsHostname hostname) :
    ∃ label rest, hostname = label ++ 46 :: rest ∧ 46 ∉ label ∧ validateSubdomain label = true := by
  obtain ⟨label, rest, split, dotless⟩ := List.eq_append_cons_of_mem valid.dotted
  refine ⟨label, rest, split, dotless, valid.labels label ?_⟩
  rw [split, splitByte, List.splitOn_append_cons_self, List.splitOn_eq_singleton dotless]
  simp

theorem not_trailing_dot (valid : IsHostname hostname) : ¬ [46] <:+ hostname := by
  rintro ⟨_, split⟩
  have last : [] ∈ splitByte 46 hostname := by
    rw [← split, splitByte, List.splitOn_append_cons_self]
    simp
  exact subdomain_ne_nil (valid.labels [] last) rfl

theorem trimSuffix_dot (valid : IsHostname hostname) :
    trimSuffix hostname (ascii ".") = hostname := by
  refine if_neg fun trailing => valid.not_trailing_dot ?_
  exact List.isSuffixOf_iff_suffix.mp trailing

theorem map_lowerByte (valid : IsHostname hostname) : hostname.map lowerByte = hostname := by
  have same : ∀ byte ∈ hostname, lowerByte byte = id byte := fun byte member =>
    (hostByte_facts byte).1 (valid.hostByte byte member)
  rw [List.map_congr_left same, List.map_id]

theorem spelled (valid : IsHostname hostname) {name : Bytes} (same : SameName name hostname) :
    name.map lowerByte = hostname ∧ ∀ byte ∈ name,
      Base64.Graphic byte ∧ byte ∉ ([42, 47, 58, 91, 93, 95] : Bytes) := by
  have lowered : name.map lowerByte = hostname := Eq.trans same valid.map_lowerByte
  refine ⟨lowered, fun byte member => (hostByte_facts byte).2 (valid.hostByte _ ?_)⟩
  rw [← lowered]
  exact List.mem_map_of_mem member

theorem not_mem (valid : IsHostname hostname) {byte : UInt8}
    (special : byte ∈ ([42, 47, 58, 91, 93, 95] : Bytes)) : byte ∉ hostname :=
  fun member => ((valid.spelled (.refl hostname)).2 byte member).2 special

theorem ne_nil (valid : IsHostname hostname) : hostname ≠ [] := List.ne_nil_of_mem valid.dotted

theorem normalizeHostname_eq (valid : IsHostname hostname) :
    normalizeHostname hostname = .ok hostname := by
  obtain ⟨lowered, graphic⟩ := valid.spelled (.refl hostname)
  have read : trimSuffix (toLower (trimSpace hostname)) (ascii ".") = hostname := by
    rw [lower_trimmed fun byte member => (graphic byte member).1, lowered, valid.trimSuffix_dot]
  have noError : (splitByte 46 hostname).findSome? hostnameLabelError? = none := by
    rw [List.findSome?_eq_none_iff]
    intro label member
    exact (hostnameLabelError?_eq_none_iff label).mpr (valid.labels label member)
  have plain : ¬ (58 ∈ hostname ∨ 42 ∈ hostname) := by
    rintro (colon | star)
    · exact valid.not_mem (by decide) colon
    · exact valid.not_mem (by decide) star
  simp only [normalizeHostname, read, if_neg valid.ne_nil, if_neg plain,
    if_neg (Nat.not_lt.mpr valid.short), if_neg (not_not.mpr valid.dotted), noError]

end IsHostname

/-- What `CreateDomain` makes sure of, and no later step changes. -/
structure Mappable (record : DomainRecord) : Prop where
  hostname : IsHostname record.hostname
  trimmed : trimSpace record.reservedSubdomainID = record.reservedSubdomainID
  mapped : record.reservedSubdomainID ≠ []

theorem mappable_of_newDomain {request : CreateDomainRequest} {draw : DomainDraw}
    {record : DomainRecord} (made : newDomain request draw = .ok record) : Mappable record := by
  simp only [newDomain, Except.bind] at made
  split at made
  · cases made
  next hostname normalized =>
    split at made
    · cases made
    next mapped =>
      split at made
      · cases made
        exact ⟨isHostname_of_normalizeHostname normalized, trimSpace_trimSpace _, mapped⟩
      · cases made

variable {Id : Type}

def AllMappable (store : DomainStore) : Prop := ∀ record ∈ store.rows, Mappable record

def MappableRead (_ : DomainStore) (_ : List (DomainEvent Id)) (_ : Id) : DomainCall → Prop
  | .resolving read _ => Mappable read
  | .updating read _ _ _ => Mappable read
  | _ => True

theorem MappableRead.concat {store next : DomainStore} {trace other : List (DomainEvent Id)}
    {id : Id} {call : DomainCall} (holds : MappableRead store trace id call) :
    MappableRead next other id call := by
  cases call <;> exact holds

theorem mappable_rely : domainService.Rely (fun _ _ _ => True)
      (fun store (_ : List (DomainEvent Id)) => AllMappable store) MappableRead where
  start id request stored := by
    refine ⟨stored, ?_⟩
    cases request <;> trivial
  start_other request other _ holding := holding.concat
  advance := by
    intro store trace id call draw stored holding _
    cases call with
    | creating request =>
      refine ⟨?_, by rintro _ ⟨⟩⟩
      simp only [domainService]
      rcases createDomain_cases store request draw with
        ⟨err, failed⟩ | ⟨made, next, built, inserted, succeeded⟩
      · rw [failed]
        exact stored
      · rw [succeeded]
        intro record member
        rcases ((Table.insert?_eq_some inserted).2.2 record).mp member with rfl | old
        · exact mappable_of_newDomain built
        · exact stored record old
    | verifying =>
      refine ⟨stored, fun next continued => ?_⟩
      obtain ⟨record, rfl, there, -⟩ := lookupDomain_eq_continues continued
      exact stored record there
    | resolving read =>
      refine ⟨stored, fun next continued => ?_⟩
      cases continued
      rcases resolveDomain_eq read draw with ⟨_, -, -, resolved⟩ | resolved
      · rw [resolved]
        exact holding
      · rw [resolved]
        exact holding
    | updating read status verifiedAt now =>
      refine ⟨?_, by rintro _ ⟨⟩⟩
      simp only [domainService]
      rcases storeVerification_cases store { read with status, verifiedAt, updatedAt := now }
        draw with ⟨err, failed⟩ | ⟨next, replaced, succeeded⟩
      · rw [failed]
        exact stored
      · rw [succeeded]
        intro record member
        rcases ((Table.replace?_eq_some replaced).2 record).mp member with rfl | ⟨old, -⟩
        · exact ⟨holding.hostname, holding.trimmed, holding.mapped⟩
        · exact stored record old
    | deleting =>
      refine ⟨stored, fun next continued => ?_⟩
      rw [lookupDeletedDomain_eq_continues continued]
      trivial
    | removing =>
      simp only [domainService]
      split
      · exact ⟨stored, by rintro _ ⟨⟩⟩
      · refine ⟨fun record member => ?_, by rintro _ ⟨⟩⟩
        exact stored record (Table.mem_remove.mp member).1
    | getting | gettingByHostname => exact ⟨stored, by rintro _ ⟨⟩⟩
    | listing =>
      simp only [domainService]
      split <;> exact ⟨stored, by rintro _ ⟨⟩⟩
  advance_other _ _ _ _ holding := holding.concat

end Porthook.ControlPlane

namespace Porthook.Gateway

open Protocol

theorem subdomainFromHost_eq_some_iff {rootDomain hostport subdomain : Bytes} :
    subdomainFromHost rootDomain hostport = some subdomain ↔
      hostOnly (toLower (trimSpace hostport)) = subdomain ++ 46 :: toLower (trimSpace rootDomain) ∧
        46 ∉ subdomain ∧ validateSubdomain subdomain = true := by
  generalize written : toLower (trimSpace hostport) = host
  generalize rooted : toLower (trimSpace rootDomain) = root
  have cut (name : Bytes) : trimSuffix (name ++ 46 :: root) (46 :: root) = name := by
    rw [trimSuffix, if_pos (List.isSuffixOf_iff_suffix.mpr ⟨name, rfl⟩)]
    rw [List.length_append, Nat.add_sub_cancel, List.take_left]
  unfold subdomainFromHost
  simp only [written, rooted]
  constructor
  · intro found
    repeat' split at found
    all_goals cases found
    next under single valid =>
      simp only [Bool.not_eq_true', Bool.not_eq_false] at under
      obtain ⟨_, split⟩ := List.isSuffixOf_iff_suffix.mp under
      rw [← split, cut] at single valid ⊢
      exact ⟨rfl, fun dot => single (.inr dot), valid⟩
  · rintro ⟨split, dotless, valid⟩
    have nonempty : host ≠ [] := by
      rintro rfl
      have empty : hostOnly [] = [] := rfl
      rw [empty] at split
      simp at split
    have under : (46 :: root).isSuffixOf (hostOnly host) = true :=
      List.isSuffixOf_iff_suffix.mpr ⟨subdomain, split.symm⟩
    have single : ¬ (subdomain = [] ∨ 46 ∈ subdomain) := by
      rintro (rfl | dot)
      · cases valid
      · exact dotless dot
    rw [if_neg nonempty, under, split, cut]
    simp [if_neg single, valid]

end Porthook.Gateway

namespace Porthook.Tunnel

open Protocol Transition Gateway ControlPlane

/-- A way to write a hostname in the `Host` of a request. -/
structure HostSpelling where
  name : Bytes
  dotted : Bool := false
  port : Option Bytes := none

namespace HostSpelling

variable (spelling : HostSpelling)

def dot : Bytes := if spelling.dotted then [46] else []

def portText : Bytes := spelling.port.elim [] (58 :: ·)

def text : Bytes := spelling.name ++ spelling.dot ++ spelling.portText

/-- The hostname in any case, and the digits of a port. -/
structure Spells (hostname : Bytes) : Prop where
  name : SameName spelling.name hostname
  port : ∀ port, spelling.port = some port → ∀ byte ∈ port, 48 ≤ byte ∧ byte ≤ 57

end HostSpelling

namespace HostSpelling.Spells

variable {spelling : HostSpelling} {hostname : Bytes}

theorem rest_bytes (spells : spelling.Spells hostname) : ∀ byte ∈ spelling.dot ++ spelling.portText,
      byte = 46 ∨ byte = 58 ∨ (48 ≤ byte ∧ byte ≤ 57) := by
  intro byte member
  rcases List.mem_append.mp member with dot | port
  · unfold HostSpelling.dot at dot
    split at dot
    · exact .inl (List.mem_singleton.mp dot)
    · cases dot
  · unfold HostSpelling.portText at port
    cases written : spelling.port with
    | none =>
      rw [written] at port
      cases port
    | some digits =>
      rw [written] at port
      rcases List.mem_cons.mp port with colon | digit
      · exact .inr (.inl colon)
      · exact .inr (.inr (spells.port digits written byte digit))

theorem lowered (spells : spelling.Spells hostname) (valid : IsHostname hostname) :
    toLower (trimSpace spelling.text) = hostname ++ spelling.dot ++ spelling.portText := by
  obtain ⟨same, graphic⟩ := valid.spelled spells.name
  have rest : ∀ byte ∈ spelling.dot ++ spelling.portText,
      Base64.Graphic byte ∧ lowerByte byte = id byte := by
    intro byte member
    rcases spells.rest_bytes byte member with rfl | rfl | ⟨low, high⟩
    · exact ⟨by decide, rfl⟩
    · exact ⟨by decide, rfl⟩
    · exact ⟨⟨UInt8.le_trans (by decide) low, UInt8.le_trans high (by decide)⟩,
        (hostByte_facts byte).1 (.inr (.inl ⟨low, high⟩))⟩
  have whole : ∀ byte ∈ spelling.text, Base64.Graphic byte := by
    intro byte member
    rw [HostSpelling.text, List.append_assoc, List.mem_append] at member
    rcases member with named | behind
    · exact (graphic byte named).1
    · exact (rest byte behind).1
  rw [lower_trimmed whole, HostSpelling.text, List.append_assoc, List.map_append, same,
    List.map_congr_left fun byte member => (rest byte member).2, List.map_id, List.append_assoc]

theorem special_not_mem (valid : IsHostname hostname) {byte : UInt8}
    (special : byte ∈ ([42, 47, 58, 91, 93, 95] : Bytes)) : byte ∉ hostname ++ spelling.dot := by
  intro member
  rcases List.mem_append.mp member with named | dot
  · exact valid.not_mem special named
  unfold HostSpelling.dot at dot
  split at dot
  · rw [List.mem_singleton.mp dot] at special
    revert special
    decide
  · cases dot

theorem split (spells : spelling.Spells hostname) (valid : IsHostname hostname) :
    hostOnly (hostname ++ spelling.dot ++ spelling.portText) = hostname ++ spelling.dot ∧
      ¬ ((Netip.splitHost? (hostname ++ spelling.dot ++ spelling.portText)).isNone = true ∧
        58 ∈ hostname ++ spelling.dot ++ spelling.portText) := by
  have colonless : 58 ∉ hostname ++ spelling.dot := special_not_mem valid (by decide)
  unfold HostSpelling.portText hostOnly
  cases written : spelling.port with
  | none =>
    simp only [Option.elim_none, List.append_nil, Netip.splitHost?_of_not_mem colonless,
      Option.getD_none, colonless, and_false, not_false_iff, and_self]
  | some digits =>
    have taken : Netip.splitHost? (hostname ++ spelling.dot ++ 58 :: digits) =
        some (hostname ++ spelling.dot) := by
      apply Netip.splitHost?_append
      intro byte special
      have listed : byte ∈ ([42, 47, 58, 91, 93, 95] : Bytes) := by
        simp only [List.mem_cons, List.not_mem_nil, or_false] at special ⊢
        tauto
      refine ⟨special_not_mem valid listed, fun member => ?_⟩
      obtain ⟨_, high⟩ := spells.port digits written byte member
      rcases List.mem_cons.mp special with rfl | special
      · exact absurd high (by decide)
      rcases List.mem_cons.mp special with rfl | special
      · exact absurd high (by decide)
      · rw [List.mem_singleton.mp special] at high
        exact absurd high (by decide)
    simp only [Option.elim_some, taken, Option.getD_some, Option.isNone_some,
      Bool.false_eq_true, false_and, not_false_iff, and_self]

theorem customDomainLookupHostname_eq (spells : spelling.Spells hostname)
    (valid : IsHostname hostname) : customDomainLookupHostname spelling.text = some hostname := by
  obtain ⟨only, ported⟩ := spells.split valid
  have undotted : trimSuffix (hostname ++ spelling.dot) (ascii ".") = hostname := by
    unfold HostSpelling.dot
    split
    · have trailing : (ascii ".").isSuffixOf (hostname ++ [46]) = true :=
        List.isSuffixOf_iff_suffix.mpr ⟨hostname, rfl⟩
      rw [trimSuffix, if_pos trailing, List.length_append]
      exact List.take_left' rfl
    · rw [List.append_nil, valid.trimSuffix_dot]
  have nonempty : hostname ++ spelling.dot ++ spelling.portText ≠ [] := by
    simp [valid.ne_nil]
  have plain : ¬ (42 ∈ hostname ∨ 47 ∈ hostname ∨ 95 ∈ hostname) := by
    rintro (star | slash | underscore)
    · exact valid.not_mem (by decide) star
    · exact valid.not_mem (by decide) slash
    · exact valid.not_mem (by decide) underscore
  have labels : (splitByte 46 hostname).all validateSubdomain = true :=
    List.all_eq_true.mpr valid.labels
  simp only [customDomainLookupHostname, spells.lowered valid, if_neg nonempty, if_neg ported,
    only, undotted, if_neg (not_not.mpr valid.dotted), if_neg plain, labels, if_true]

/-- The host is under the root domain if one label of it stands before the root domain. -/
theorem subdomainFromHost_iff (spells : spelling.Spells hostname) (valid : IsHostname hostname)
    {rootDomain label : Bytes} :
    subdomainFromHost rootDomain spelling.text = some label ↔
      46 ∉ label ∧ hostname ++ spelling.dot = label ++ 46 :: toLower (trimSpace rootDomain) := by
  rw [subdomainFromHost_eq_some_iff, spells.lowered valid, (spells.split valid).1]
  constructor
  · rintro ⟨under, dotless, -⟩
    exact ⟨dotless, under⟩
  · rintro ⟨dotless, under⟩
    refine ⟨under, dotless, ?_⟩
    -- the label before the first dot is one of the hostname
    obtain ⟨first, rest, named, firstDotless, firstValid⟩ := valid.first_label
    have same : first ++ 46 :: (rest ++ spelling.dot) =
        label ++ 46 :: toLower (trimSpace rootDomain) := by
      rw [← under, named]
      simp
    have labels : splitByte 46 (first ++ 46 :: (rest ++ spelling.dot)) =
        splitByte 46 (label ++ 46 :: toLower (trimSpace rootDomain)) := by rw [same]
    simp only [splitByte, List.splitOn_append_cons_self, List.splitOn_eq_singleton firstDotless,
      List.splitOn_eq_singleton dotless, List.singleton_append] at labels
    rw [← (List.cons.inj labels).1]
    exact firstValid

end HostSpelling.Spells

/-- The gateway reads names of any length, of which the control plane takes none that is
longer than 253 bytes. -/
theorem normalizeHostname_lookup_iff {hostport hostname : Bytes}
    (accepted : customDomainLookupHostname hostport = some hostname) :
    normalizeHostname hostname = .ok hostname ↔
      (trimSuffix (hostOnly (toLower (trimSpace hostport))) (ascii ".")).length ≤ 253 := by
  unfold customDomainLookupHostname at accepted
  dsimp only at accepted
  repeat' split at accepted
  all_goals cases accepted
  next dotted _ labels =>
    refine ⟨fun agreed => (isHostname_of_normalizeHostname agreed).short, fun short => ?_⟩
    have valid : IsHostname (trimSuffix (hostOnly (toLower (trimSpace hostport))) (ascii ".")) :=
      ⟨not_not.mp dotted, List.all_eq_true.mp labels, short⟩
    exact valid.normalizeHostname_eq

/-- The two readings agree on each hostname of at most 253 bytes that the gateway accepts, and it
accepts each one that the control plane does. -/
theorem hostnames_agree (hostport : Bytes) :
    (∀ hostname, customDomainLookupHostname hostport = some hostname →
      (normalizeHostname hostname = .ok hostname ↔
        (trimSuffix (hostOnly (toLower (trimSpace hostport))) (ascii ".")).length ≤ 253)) ∧
    ∀ text hostname, normalizeHostname text = .ok hostname →
      ∀ spelling : HostSpelling, spelling.Spells hostname →
        customDomainLookupHostname spelling.text = some hostname := by
  refine ⟨fun hostname accepted => normalizeHostname_lookup_iff accepted, ?_⟩
  intro text hostname normalized spelling spells
  exact spells.customDomainLookupHostname_eq (isHostname_of_normalizeHostname normalized)

def longHost : Bytes := [46].intercalate (List.replicate 4 (List.replicate 63 97))

theorem hostnames_disagree :
    customDomainLookupHostname longHost = some longHost ∧ normalizeHostname longHost =
      .error (.invalidHostname longHost (ascii "hostname must be at most 253 characters")) := by
  decide +kernel

section Runs

variable {Conn Query Id : Type} [DecidableEq Conn] [DecidableEq Query] [DecidableEq Id]
  {cfg : ExposureConfig} {state next : Exposure Conn Query Id}

/-- Every custom domain that is stored, or that a verification holds on to, can be
looked up. -/
def DomainsMappable (state : Exposure Conn Query Id) : Prop :=
  Calls.Holds (fun store (_ : List (DomainEvent Id)) => AllMappable store) MappableRead
    state.domains

omit [DecidableEq Conn] [DecidableEq Query] [DecidableEq Id] in
theorem domainsMappable_initial :
    DomainsMappable (Exposure.initial cfg : Exposure Conn Query Id) := by
  refine ⟨fun record member => ?_, fun id call called => ?_⟩
  · cases member
  · cases called

omit [DecidableEq Conn] [DecidableEq Query] [DecidableEq Id] in
theorem domainsMappable_cascade (mappable : DomainsMappable state) (reservation : Bytes) :
    DomainsMappable (state.cascade cfg reservation) := by
  unfold Exposure.cascade
  split
  · exact mappable
  · exact ⟨fun record member => mappable.1 record (List.mem_filter.mp member).1,
      fun id call called => (mappable.2 id call called).concat⟩

theorem DomainsMappable.step (mappable : DomainsMappable state)
    {action : ExposureAction Conn Query Id} (stepped : state.step cfg action = some next) :
    DomainsMappable next := by
  cases action with
  | gateway =>
    obtain ⟨_, -, rfl⟩ := Option.map_eq_some_iff.mp stepped
    exact mappable
  | request request draw =>
    cases stepped
    unfold DomainsMappable
    rw [(handlePublicRequest_frame cfg state request draw).2.2]
    exact mappable
  | reservations =>
    obtain ⟨_, -, same⟩ := Option.map_eq_some_iff.mp stepped
    split at same
    · cases same
      exact mappable
    next reservation _ =>
      cases same
      refine domainsMappable_cascade ?_ reservation
      exact mappable
  | policies =>
    obtain ⟨_, -, rfl⟩ := Option.map_eq_some_iff.mp stepped
    exact mappable
  | domains own =>
    obtain ⟨_, moved, rfl⟩ := Option.map_eq_some_iff.mp stepped
    refine mappable_rely.step mappable ?_ moved
    cases own with
    | start => trivial
    | advance => exact fun _ _ => trivial

omit [DecidableEq Conn] [DecidableEq Query] [DecidableEq Id] in
theorem lookup_active {record : DomainRecord} {reservation : ReservationRecord}
    {draw : DomainDraw} {reservationDraw : ReservationDraw}
    (stored : record ∈ state.domains.store.rows) (mappable : Mappable record)
    (active : record.status = .active) (reserved : reservation ∈ state.reservations.store.rows)
    (mapped : reservation.id = record.reservedSubdomainID)
    (works : draw.storeFails = false ∧ reservationDraw.storeFails = false) :
    ∃ response, state.lookup (some (draw, reservationDraw)) record.hostname =
        some (received response) ∧ response.found = true ∧ response.status = ascii "active" ∧
      response.subdomain = reservation.name := by
  have sent : receivedFrom 0 record.hostname = record.hostname := by
    apply receivedFrom_ascii
    intro byte member
    have graphic := ((mappable.hostname.spelled (.refl _)).2 byte member).1
    exact UInt8.lt_of_le_of_lt graphic.2 (by decide)
  have found : state.domains.store.lookupByHostname record.hostname = some record :=
    Table.findOther?_eq_some_iff.mpr ⟨stored, rfl⟩
  have held : state.reservations.store.lookupByID record.reservedSubdomainID =
      some reservation := Table.find?_eq_some_iff.mpr ⟨reserved, mapped⟩
  have domain : getDomainByHostname state.domains.store record.hostname draw =
      .found (some record.summary) := by
    simp [getDomainByHostname, mappable.hostname.normalizeHostname_eq, works.1, found]
  have owner : getReservation state.reservations.store record.reservedSubdomainID
      reservationDraw = .found (some reservation) := by
    simp [getReservation, mappable.trimmed, if_neg mappable.mapped, works.2, held]
  refine ⟨{ record.summary.missed [] with found := true, subdomain := reservation.name }, ?_, rfl,
    ?_, rfl⟩
  · simp [Exposure.lookup, sent, lookupCustomDomain, domain, DomainRecord.summary, active, owner]
  · simp only [DomainSummary.missed, DomainRecord.summary, active, DomainStatus.text]

theorem routeForResolution_active (hostname : Bytes) {response : LookupCustomDomainResponse}
    (found : response.found) (active : response.status = ascii "active")
    (valid : validateSubdomain response.subdomain) :
    ∃ route, routeForResolution hostname (received response) = .routed route ∧
      route.subdomain = response.subdomain := by
  have status : (received response).status = ascii "active" := by
    have sent : receivedFrom 0 (ascii "active") = ascii "active" := by decide
    simp only [received, active, sent]
  have name : (received response).subdomain = response.subdomain := receivedFrom_subdomain valid
  have sound : (received response).found = true := found
  have routed : routeForResolution hostname (received response) = .routed
      { subdomain := response.subdomain
        customDomain := if trimSpace (received response).hostname = [] then hostname
          else trimSpace (received response).hostname } := by
    simp [routeForResolution, sound, status, name, trimSpace_subdomain valid,
      toLower_subdomain valid, if_neg (subdomain_ne_nil valid), valid]
  exact ⟨_, routed, rfl⟩

/-- Nothing under the root domain stands in the way of a hostname: it is not the root
domain, and it is no other name right under it. -/
structure FreeOfRoot (rootDomain hostname dot name : Bytes) : Prop where
  notRoot : hostname ≠ trimSuffix (toLower (trimSpace rootDomain)) (ascii ".")
  notOther : ∀ label, 46 ∉ label →
    hostname ++ dot = label ++ 46 :: toLower (trimSpace rootDomain) → label = name

def RoutesTo (rootDomain : Bytes) (resolver : CustomDomainCache) (host : Bytes) (now : Nat)
    (next : Bytes → Option CustomDomainResolution) (name : Bytes) : Prop :=
  ∃ after route, routeForHost rootDomain resolver host now next = (after, .routed route) ∧
    route.subdomain = name

variable {rootDomain : Bytes}

theorem routesTo_under {host label name : Bytes} {resolver : CustomDomainCache} {now : Nat}
    {next : Bytes → Option CustomDomainResolution}
    (under : subdomainFromHost rootDomain host = some label) :
    RoutesTo rootDomain resolver host now next name ↔ label = name := by
  unfold RoutesTo routeForHost
  rw [under]
  constructor
  · rintro ⟨_, _, routed, rfl⟩
    cases routed
    rfl
  · rintro rfl
    exact ⟨_, _, rfl, rfl⟩

theorem sameHostname_iff {hostname : Bytes} (valid : IsHostname hostname) :
    sameHostname hostname rootDomain = true ↔
      hostname = trimSuffix (toLower (trimSpace rootDomain)) (ascii ".") := by
  obtain ⟨lowered, graphic⟩ := valid.spelled (.refl hostname)
  simp only [sameHostname, lower_trimmed fun byte member => (graphic byte member).1, lowered,
    valid.trimSuffix_dot]
  simp [valid.ne_nil]

theorem not_root_of_under {hostname label : Bytes} {spelling : HostSpelling} (nonempty : label ≠ [])
    (under : hostname ++ spelling.dot = label ++ 46 :: toLower (trimSpace rootDomain)) :
    hostname ≠ trimSuffix (toLower (trimSpace rootDomain)) (ascii ".") := by
  intro same
  have lengths := congrArg List.length under
  have trimmed : hostname.length ≤ (toLower (trimSpace rootDomain)).length := by
    rw [same, trimSuffix]
    split
    · rw [List.length_take]
      omega
    · exact Nat.le_refl _
  have dot : spelling.dot.length ≤ 1 := by
    unfold HostSpelling.dot
    split
    · exact Nat.le_refl 1
    · exact Nat.zero_le 1
  have long := List.length_pos_iff.mpr nonempty
  simp only [List.length_append, List.length_cons] at lengths
  omega

/-- An active domain whose reservation exists is routed to it, however the host is spelled, exactly
if the hostname is neither the root domain nor a name right under it. -/
theorem active_domain_routed_iff (reached : Reaches (Exposure.step cfg) (.initial cfg) state)
    {record : DomainRecord} {reservation : ReservationRecord} {spelling : HostSpelling}
    {resolver : CustomDomainCache} {now : Nat} {draw : DomainDraw}
    {reservationDraw : ReservationDraw} (stored : record ∈ state.domains.store.rows)
    (active : record.status = .active) (reserved : reservation ∈ state.reservations.store.rows)
    (mapped : reservation.id = record.reservedSubdomainID)
    (spells : spelling.Spells record.hostname)
    (bypassed : resolver.kept? record.hostname now = none)
    (works : draw.storeFails = false ∧ reservationDraw.storeFails = false) :
    RoutesTo cfg.rootDomain resolver spelling.text now
        (state.lookup (some (draw, reservationDraw))) reservation.name ↔
      FreeOfRoot cfg.rootDomain record.hostname spelling.dot reservation.name := by
  have mappable : Mappable record :=
    (reaches_invariant (fun _ _ _ kept stepped => DomainsMappable.step kept stepped)
      domainsMappable_initial reached).1 record stored
  have named : validateSubdomain reservation.name = true :=
    (reaches_invariant (fun _ _ _ inv stepped => inv.step stepped) exposureInv_initial
      reached).names reservation reserved
  have valid := mappable.hostname
  cases found : subdomainFromHost cfg.rootDomain spelling.text with
  | some label =>
    rw [routesTo_under found]
    obtain ⟨dotless, under⟩ := (spells.subdomainFromHost_iff valid).mp found
    constructor
    · rintro rfl
      refine ⟨not_root_of_under (subdomain_ne_nil named) under, fun other single again => ?_⟩
      have same := (spells.subdomainFromHost_iff valid).mpr ⟨single, again⟩
      rw [found] at same
      exact (Option.some.inj same).symm
    · intro free
      exact free.notOther label dotless under
  | none =>
    have asked : customDomainOf cfg.rootDomain spelling.text =
        if sameHostname record.hostname cfg.rootDomain then none else some record.hostname := by
      simp only [customDomainOf, found, Option.isSome_none, Bool.false_eq_true, if_false,
        spells.customDomainLookupHostname_eq valid, Option.filter_some]
      cases sameHostname record.hostname cfg.rootDomain <;> rfl
    cases isRoot : sameHostname record.hostname cfg.rootDomain with
    | true =>
      rw [isRoot, if_pos rfl] at asked
      constructor
      · rintro ⟨_, _, routed, -⟩
        simp only [routeForHost, found, asked] at routed
        cases routed
      · intro free
        exact absurd ((sameHostname_iff valid).mp isRoot) free.notRoot
    | false =>
      rw [isRoot, if_neg Bool.false_ne_true] at asked
      obtain ⟨response, looked, hit, status, subdomain⟩ :=
        lookup_active stored mappable active reserved mapped works
      rw [← subdomain] at named
      obtain ⟨route, resolved, routedTo⟩ :=
        routeForResolution_active record.hostname hit status named
      constructor
      · intro _
        refine ⟨fun same => ?_, fun label dotless under => ?_⟩
        · rw [(sameHostname_iff valid).mpr same] at isRoot
          cases isRoot
        · rw [(spells.subdomainFromHost_iff valid).mpr ⟨dotless, under⟩] at found
          cases found
      · intro _
        refine ⟨resolver.keep record.hostname now (received response), route, ?_,
          routedTo.trans subdomain⟩
        simp only [routeForHost, found, asked, CustomDomainCache.resolveCustomDomain, bypassed,
          looked, resolved]

end Runs

/-- The name `demo` is reserved, and a custom domain for it is created and verified. -/
def domainRun (hostname : Bytes) : List (ExposureAction Unit Unit Bool) :=
  [.reservations (.start true (.create ⟨ascii "demo", ascii "tok_1"⟩)),
    .reservations (.advance true { id := some [1] }),
    .domains (.start true (.create { hostname, reservedSubdomainID := ascii "rs_AQ" })),
    .domains (.advance true { now := 1, id := some [1, 2, 3], token := some [4, 5, 6] }),
    .domains (.start true (.verify (ascii "cd_AQID"))), .domains (.advance true {}),
    .domains (.advance true { now := 2, txt := some [ascii "phdv_BAUG"] }),
    .domains (.advance true {})]

/-- The domain `shop.tunnels.example` is active for `demo`, and requests for it go to
whoever has the name `shop`. -/
theorem active_domain_shadowed : ∃ state record reservation,
      Reaches (Exposure.step exampleConfig) (.initial exampleConfig : Exposure Unit Unit Bool)
        state ∧
      record ∈ state.domains.store.rows ∧ record.hostname = ascii "shop.tunnels.example" ∧
      record.status = .active ∧ reservation ∈ state.reservations.store.rows ∧
      reservation.id = record.reservedSubdomainID ∧ reservation.name = ascii "demo" ∧
      RoutesTo exampleConfig.rootDomain (newCachedCustomDomainResolver 0 0)
        (ascii "shop.tunnels.example") 0 (state.lookup (some ({}, {}))) (ascii "shop") ∧
      ¬ RoutesTo exampleConfig.rootDomain (newCachedCustomDomainResolver 0 0)
        (ascii "shop.tunnels.example") 0 (state.lookup (some ({}, {}))) (ascii "demo") := by
  have under : subdomainFromHost exampleConfig.rootDomain (ascii "shop.tunnels.example") =
      some (ascii "shop") := by decide +kernel
  refine ⟨_, _, _, ⟨domainRun (ascii "shop.tunnels.example"), rfl⟩, List.mem_singleton.mpr rfl,
    rfl, rfl, List.mem_singleton.mpr rfl, rfl, rfl, ?_, ?_⟩
  · exact (routesTo_under under).mpr rfl
  intro routed
  have same := (routesTo_under under).mp routed
  revert same
  decide

/-- A domain elsewhere is found in any spelling. -/
theorem active_domain_routed_iff_shop : ∃ state,
      Reaches (Exposure.step exampleConfig) (.initial exampleConfig : Exposure Unit Unit Bool)
        state ∧
      RoutesTo exampleConfig.rootDomain (newCachedCustomDomainResolver 0 0)
        (ascii "SHOP.Test.:443") 0 (state.lookup (some ({}, {}))) (ascii "demo") := by
  have reached : ∃ state record reservation,
      Reaches (Exposure.step exampleConfig) (.initial exampleConfig : Exposure Unit Unit Bool)
        state ∧
      record ∈ state.domains.store.rows ∧ record.hostname = ascii "shop.test" ∧
      record.status = .active ∧ reservation ∈ state.reservations.store.rows ∧
      reservation.id = record.reservedSubdomainID ∧ reservation.name = ascii "demo" :=
    ⟨_, _, _, ⟨domainRun (ascii "Shop.test"), rfl⟩, List.mem_singleton.mpr rfl, rfl, rfl,
      List.mem_singleton.mpr rfl, rfl, rfl⟩
  obtain ⟨state, record, reservation, reached, stored, hostname, active, reserved, mapped, name⟩ :=
    reached
  let spelling : HostSpelling :=
    { name := ascii "SHOP.Test", dotted := true, port := some (ascii "443") }
  have spells : spelling.Spells record.hostname := by
    rw [hostname]
    refine ⟨by decide +kernel, fun port written byte member => ?_⟩
    cases written
    revert byte
    decide +kernel
  have free : FreeOfRoot exampleConfig.rootDomain record.hostname spelling.dot
      reservation.name := by
    rw [hostname]
    refine ⟨by decide +kernel, fun label _ under => ?_⟩
    have lengths := congrArg List.length under
    have short : (ascii "shop.test" ++ spelling.dot).length = 10 := by decide +kernel
    have root : (46 :: toLower (trimSpace exampleConfig.rootDomain)).length = 16 := by
      decide +kernel
    rw [short, List.length_append, root] at lengths
    omega
  have bypassed : (newCachedCustomDomainResolver 0 0).kept? record.hostname 0 = none := by
    unfold CustomDomainCache.kept?
    split <;> rfl
  have works : ({} : DomainDraw).storeFails = false ∧
      ({} : ReservationDraw).storeFails = false := ⟨rfl, rfl⟩
  have routed := (active_domain_routed_iff reached stored active reserved mapped spells bypassed
    works).mpr free
  rw [name] at routed
  exact ⟨state, reached, routed⟩

end Porthook.Tunnel
