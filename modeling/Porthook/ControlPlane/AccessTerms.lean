import Porthook.ControlPlane.Access

/-!
# Whom a policy admits

The purpose of the access service in plain terms: an administrator names a login, a token or a list
of networks, and a request is let in if it shows the one that was named last.  The stored records,
digests and texts, encode the plain terms after any sequence of calls.
-/

namespace Porthook.ControlPlane

open Protocol Transition Calls

inductive AllowlistEntry where
  | network (net : Netip.Prefix)
  | address (addr : Netip.Addr)
  deriving DecidableEq

namespace AllowlistEntry

def parse? (value : Bytes) : Option AllowlistEntry :=
  match Netip.parsePrefix? value with
  | some net => some (.network net)
  | none => (Netip.parseAddr? value).map .address

def has : AllowlistEntry → Netip.Addr → Bool
  | .network net, addr => net.contains addr
  | .address own, addr => own = addr

end AllowlistEntry

theorem normalizeIPAllowlistValue_eq_ok {value normalized : Bytes}
    (accepted : normalizeIPAllowlistValue value = .ok normalized) :
    ∃ entry stored, AllowlistEntry.parse? value = some entry ∧
      AllowlistEntry.parse? normalized = some stored ∧
        ∀ addr, stored.has addr = entry.has addr := by
  unfold normalizeIPAllowlistValue at accepted
  split at accepted
  next net parsed =>
    cases accepted
    have valid := (Netip.parsePrefix?_eq_some parsed).1
    refine ⟨.network net, .network net.masked, ?_, ?_, net.contains_masked⟩
    · simp only [AllowlistEntry.parse?, parsed]
    · simp only [AllowlistEntry.parse?, Netip.parsePrefix?_string (Netip.Prefix.masked_valid valid)]
  next unparsed =>
    split at accepted
    · cases accepted
    next addr parsed =>
      cases accepted
      refine ⟨.address addr, .address addr, ?_, ?_, fun _ => rfl⟩
      · simp [AllowlistEntry.parse?, unparsed, parsed]
      · simp [AllowlistEntry.parse?, Netip.parsePrefix?_addr_string, Netip.parseAddr?_string]

/-- The stored texts can be read, and they stand for the same addresses as the entries. -/
structure Denotes (allowlist : List Bytes) (entries : List AllowlistEntry) : Prop where
  readable : ∀ value ∈ allowlist, ∃ entry, AllowlistEntry.parse? value = some entry
  same : ∀ addr, (∃ value ∈ allowlist, ∃ entry, AllowlistEntry.parse? value = some entry ∧
    entry.has addr = true) ↔ ∃ entry ∈ entries, entry.has addr = true

def allowlistEntries? : List Bytes → Option (List AllowlistEntry)
  | [] => some []
  | value :: rest =>
    if trimSpace value = [] then allowlistEntries? rest
    else (AllowlistEntry.parse? (trimSpace value)).bind fun entry =>
      (allowlistEntries? rest).map (entry :: ·)

variable {entries : List AllowlistEntry}

theorem Denotes.insert {out : List Bytes} (denotes : Denotes out entries) {normalized : Bytes}
    {stored entry : AllowlistEntry} (parsed : AllowlistEntry.parse? normalized = some stored)
    (equal : ∀ addr, stored.has addr = entry.has addr) :
    Denotes (if normalized ∈ out then out else out ++ [normalized]) (entries ++ [entry]) := by
  have member : ∀ value, value ∈ (if normalized ∈ out then out else out ++ [normalized]) ↔
      value ∈ out ∨ value = normalized := by
    intro value
    split
    next known =>
      constructor
      · exact .inl
      · rintro (old | rfl)
        · exact old
        · exact known
    · simp
  refine ⟨fun value there => ?_, fun addr => ?_⟩
  · rcases (member value).mp there with old | rfl
    · exact denotes.readable value old
    · exact ⟨stored, parsed⟩
  · constructor
    · rintro ⟨value, there, found, readable, inside⟩
      rcases (member value).mp there with old | rfl
      · obtain ⟨held, among, has⟩ := (denotes.same addr).mp ⟨value, old, found, readable, inside⟩
        exact ⟨held, List.mem_append_left _ among, has⟩
      · rw [parsed] at readable
        cases readable
        exact ⟨entry, by simp, (equal addr).symm.trans inside⟩
    · rintro ⟨held, among, has⟩
      rcases List.mem_append.mp among with old | last
      · obtain ⟨value, there, found⟩ := (denotes.same addr).mpr ⟨held, old, has⟩
        exact ⟨value, (member value).mpr (.inl there), found⟩
      · rw [List.mem_singleton.mp last] at has
        exact ⟨normalized, (member normalized).mpr (.inr rfl), stored, parsed,
          (equal addr).trans has⟩

theorem denotes_foldlM {values out result : List Bytes} (denotes : Denotes out entries)
    (folded : values.foldlM addAllowlistValue out = .ok result) :
    ∃ more, allowlistEntries? values = some more ∧ Denotes result (entries ++ more) := by
  induction values generalizing out entries with
  | nil =>
    cases folded
    exact ⟨[], rfl, by rwa [List.append_nil]⟩
  | cons value _ ih =>
    simp only [List.foldlM_cons, addAllowlistValue] at folded
    by_cases blank : trimSpace value = []
    · simp only [blank, if_true] at folded
      simp only [allowlistEntries?, blank, if_true]
      exact ih denotes folded
    · cases normal : normalizeIPAllowlistValue (trimSpace value) with
      | error =>
        simp only [blank, if_false, normal] at folded
        cases folded
      | ok =>
        simp only [blank, if_false, normal, Except.map] at folded
        obtain ⟨entry, _, parsed, storedParsed, equal⟩ := normalizeIPAllowlistValue_eq_ok normal
        obtain ⟨more, read, result⟩ := ih (denotes.insert storedParsed equal) folded
        refine ⟨entry :: more, ?_, by simpa using result⟩
        simp [allowlistEntries?, blank, parsed, read]

theorem foldlM_of_accepted {values allowlist : List Bytes}
    (accepted : normalizeIPAllowlist values = .ok allowlist) :
    values.foldlM addAllowlistValue [] = .ok allowlist ∧ allowlist ≠ [] := by
  unfold normalizeIPAllowlist at accepted
  cases folded : values.foldlM addAllowlistValue [] with
  | error =>
    rw [folded] at accepted
    cases accepted
  | ok =>
    rw [folded] at accepted
    simp only [Except.bind] at accepted
    split at accepted
    · cases accepted
    next present =>
      cases accepted
      exact ⟨rfl, present⟩

theorem normalizeIPAllowlist_eq_ok {values allowlist : List Bytes}
    (accepted : normalizeIPAllowlist values = .ok allowlist) :
    allowlist ≠ [] ∧ ∃ entries, allowlistEntries? values = some entries ∧
      Denotes allowlist entries := by
  have empty : Denotes [] [] := ⟨by simp, by simp⟩
  obtain ⟨folded, present⟩ := foldlM_of_accepted accepted
  exact ⟨present, denotes_foldlM empty folded⟩

theorem ipAllowed_iff {remoteIP : Bytes} {allowlist : List Bytes} :
    ipAllowed remoteIP allowlist = true ↔
      ∃ addr, Netip.parseAddr? (trimSpace remoteIP) = some addr ∧
        ∃ value ∈ allowlist, ∃ entry, AllowlistEntry.parse? value = some entry ∧
          entry.has addr = true := by
  have entry (value : Bytes) (addr : Netip.Addr) :
      (match Netip.parsePrefix? value with
        | some net => net.contains addr
        | none => decide (Netip.parseAddr? value = some addr)) = true ↔
      ∃ entry, AllowlistEntry.parse? value = some entry ∧ entry.has addr = true := by
    unfold AllowlistEntry.parse?
    split
    next net _ => simp [AllowlistEntry.has]
    · simp [AllowlistEntry.has]
  unfold ipAllowed
  dsimp only
  split
  next blank =>
    rw [blank]
    constructor
    · rintro ⟨⟩
    · rintro ⟨_, parsed, -⟩
      cases parsed
  · cases parsed : Netip.parseAddr? (trimSpace remoteIP) with
    | none => simp
    | some addr =>
      rw [List.any_eq_true]
      constructor
      · rintro ⟨value, member, allowed⟩
        exact ⟨addr, rfl, value, member, (entry value addr).mp allowed⟩
      · rintro ⟨_, ⟨⟩, value, member, allowed⟩
        exact ⟨value, member, (entry value addr).mpr allowed⟩

/-- Whom a policy admits, in the administrator's words. -/
inductive PolicyTerms where
  | everyone
  | login (username password : Bytes)
  | bearer (token : Bytes)
  | addresses (entries : List AllowlistEntry)

namespace PolicyTerms

def Admits (request : CheckPolicyRequest) : PolicyTerms → Prop
  | .everyone => True
  | .login username password =>
    trimSpace request.basicUsername = username ∧ trimSpace request.basicPassword = password
  | .bearer token => trimSpace request.bearerToken = token
  | .addresses entries => ∃ addr, Netip.parseAddr? (trimSpace request.remoteIP) = some addr ∧
      ∃ entry ∈ entries, entry.has addr = true

def mode : PolicyTerms → PolicyMode
  | .everyone => .modePublic
  | .login _ _ => .modeBasicAuth
  | .bearer _ => .modeBearerToken
  | .addresses _ => .modeIPAllowlist

def username? : PolicyTerms → Option Bytes
  | .login username _ => some username
  | _ => none

def password? : PolicyTerms → Option Bytes
  | .login _ password => some password
  | _ => none

def token? : PolicyTerms → Option Bytes
  | .bearer token => some token
  | _ => none

def entries? : PolicyTerms → Option (List AllowlistEntry)
  | .addresses entries => some entries
  | _ => none

end PolicyTerms

def given? (text : Bytes) (before : Option Bytes) : Option Bytes :=
  if trimSpace text = [] then before else some (trimSpace text)

theorem given?_of_ne_nil {text : Bytes} (present : trimSpace text ≠ []) (before : Option Bytes) :
    given? text before = some (trimSpace text) :=
  if_neg present

theorem given?_of_blank {text : Bytes} (blank : trimSpace text = []) (before : Option Bytes) :
    given? text before = before :=
  if_pos blank

/-- The terms that a request sets in place of those before. -/
def configured? (before : Option PolicyTerms) (request : UpdatePolicyRequest) :
    PolicyMode → Option PolicyTerms
  | .modePublic => some .everyone
  | .modeBasicAuth =>
    (given? request.basicUsername (before.bind PolicyTerms.username?)).bind fun username =>
      (given? request.basicPassword (before.bind PolicyTerms.password?)).map (.login username)
  | .modeBearerToken =>
    (given? request.bearerToken (before.bind PolicyTerms.token?)).map .bearer
  | .modeIPAllowlist =>
    (if request.ipAllowlist = [] then before.bind PolicyTerms.entries?
      else allowlistEntries? request.ipAllowlist).map .addresses
  | .unsupported _ => none

def createdTerms? (request : CreatePolicyRequest) : Option PolicyTerms :=
  (normalizeMode request.mode).toOption.bind (configured? none request.toUpdatePolicyRequest)

/-- The terms of a policy after an update; without a mode it keeps the one it has. -/
def updatedTerms? (before : PolicyTerms) (request : UpdatePolicyRequest) : Option PolicyTerms :=
  (if trimSpace request.mode = [] then some before.mode
    else (normalizeMode (trimSpace request.mode)).toOption).bind
    (configured? (some before) request)

section Encoding

variable (hashing : Hashing)

def Encodes (record : PolicyRecord) : PolicyTerms → Prop
  | .everyone => record.mode = .modePublic ∧ record.basicUsername = [] ∧ record.secretHash = [] ∧
      record.ipAllowlist = []
  | .login username password => record.mode = .modeBasicAuth ∧
      (record.basicUsername = username ∧ username ≠ []) ∧
      (password ≠ [] ∧ ∃ salt, record.secretHash =
        argon2idPrefix ++ hashing.derived salt password) ∧ record.ipAllowlist = []
  | .bearer token => record.mode = .modeBearerToken ∧ record.basicUsername = [] ∧
      (token ≠ [] ∧ record.secretHash = hashSecret hashing.sha256 token) ∧ record.ipAllowlist = []
  | .addresses entries => record.mode = .modeIPAllowlist ∧ record.basicUsername = [] ∧
      record.secretHash = [] ∧ (record.ipAllowlist ≠ [] ∧ Denotes record.ipAllowlist entries)

/-- A supported mode, with exactly the secrets that it needs. -/
def WellFormedPolicy (record : PolicyRecord) : Prop :=
  match record.mode with
  | .modePublic => record.basicUsername = [] ∧ record.secretHash = [] ∧ record.ipAllowlist = []
  | .modeBasicAuth => record.basicUsername ≠ [] ∧ (∃ password salt, password ≠ [] ∧
        hashPassword hashing password (some salt) = some record.secretHash) ∧
      record.ipAllowlist = []
  | .modeBearerToken => record.basicUsername = [] ∧
      (∃ token, token ≠ [] ∧ record.secretHash = hashSecret hashing.sha256 token) ∧
      record.ipAllowlist = []
  | .modeIPAllowlist => record.basicUsername = [] ∧ record.secretHash = [] ∧
      record.ipAllowlist ≠ [] ∧ ∀ value ∈ record.ipAllowlist,
        (Netip.parsePrefix? value).isSome = true ∨ (Netip.parseAddr? value).isSome = true
  | .unsupported _ => False

end Encoding

variable {hashing : Hashing} {record existing : PolicyRecord} {terms : PolicyTerms}

theorem Encodes.mode (encoded : Encodes hashing record terms) : record.mode = terms.mode := by
  cases terms with
  | everyone | login | bearer | addresses => exact encoded.1

theorem Encodes.wellFormed (encoded : Encodes hashing record terms) :
    WellFormedPolicy hashing record := by
  unfold WellFormedPolicy
  cases terms with
  | everyone =>
    rw [encoded.1]
    exact encoded.2
  | login _ password =>
    obtain ⟨mode, ⟨name, _⟩, ⟨present, salt, hash⟩, unlisted⟩ := encoded
    rw [mode]
    refine ⟨by rwa [name], ⟨password, salt, present, ?_⟩, unlisted⟩
    rw [hash]
    rfl
  | bearer token =>
    obtain ⟨mode, unnamed, hashed, unlisted⟩ := encoded
    rw [mode]
    exact ⟨unnamed, ⟨token, hashed⟩, unlisted⟩
  | addresses =>
    obtain ⟨mode, unnamed, unhashed, present, denotes⟩ := encoded
    rw [mode]
    refine ⟨unnamed, unhashed, present, fun value member => ?_⟩
    obtain ⟨_, parsed⟩ := denotes.readable value member
    unfold AllowlistEntry.parse? at parsed
    split at parsed
    next net found => exact .inl (by rw [found]; rfl)
    · obtain ⟨_, found, -⟩ := Option.map_eq_some_iff.mp parsed
      exact .inr (by rw [found]; rfl)

theorem Encodes.congr (encoded : Encodes hashing existing terms)
    (mode : record.mode = existing.mode)
    (username : record.basicUsername = existing.basicUsername)
    (secretHash : record.secretHash = existing.secretHash)
    (ipAllowlist : record.ipAllowlist = existing.ipAllowlist) : Encodes hashing record terms := by
  cases terms <;> simp only [Encodes, mode, username, secretHash, ipAllowlist] <;> exact encoded

theorem newPolicyRecord_eq_ok {request : CreatePolicyRequest} {draw : PolicyDraw}
    (made : newPolicyRecord hashing request draw = .ok record) :
    record.reservedSubdomainID = trimSpace request.reservedSubdomainID ∧
      ∃ terms, createdTerms? request = some terms ∧ Encodes hashing record terms := by
  unfold newPolicyRecord at made
  dsimp only at made
  split at made
  · cases made
  cases chosen : normalizeMode request.mode with
  | error => rw [chosen] at made; cases made
  | ok mode =>
    simp only [chosen, Except.bind] at made
    simp only [createdTerms?, chosen, Except.toOption, Option.bind_some]
    cases mode with
    | modePublic =>
      cases made
      exact ⟨rfl, .everyone, rfl, rfl, rfl, rfl, rfl⟩
    | modeBasicAuth =>
      dsimp only at made
      split at made
      · cases made
      next named =>
        split at made
        · cases made
        next present =>
          split at made
          · cases made
          next hash hashed =>
            cases made
            refine ⟨rfl, .login (trimSpace request.basicUsername)
              (trimSpace request.basicPassword), ?_, rfl, ⟨rfl, named⟩,
              ⟨present, hashPassword_eq_some hashed⟩, rfl⟩
            simp [configured?, given?_of_ne_nil named, given?_of_ne_nil present]
    | modeBearerToken =>
      dsimp only at made
      split at made
      · cases made
      next present =>
        cases made
        refine ⟨rfl, .bearer (trimSpace request.bearerToken), ?_, rfl, rfl, ⟨present, rfl⟩,
          rfl⟩
        simp [configured?, given?_of_ne_nil present]
    | modeIPAllowlist =>
      cases listed : normalizeIPAllowlist request.ipAllowlist with
      | error => rw [listed] at made; cases made
      | ok =>
        rw [listed] at made
        cases made
        obtain ⟨nonempty, entries, read, denotes⟩ := normalizeIPAllowlist_eq_ok listed
        have given : request.ipAllowlist ≠ [] := by
          intro none
          rw [none] at listed
          cases listed
        refine ⟨rfl, .addresses entries, ?_, rfl, rfl, rfl, nonempty, denotes⟩
        simp [configured?, if_neg given, read]
    | unsupported => cases made

variable {request : UpdatePolicyRequest}

theorem given_username (encoded : Encodes hashing existing terms)
    (present : updatedUsername existing request ≠ []) :
    given? request.basicUsername terms.username? = some (updatedUsername existing request) := by
  simp only [updatedUsername] at present ⊢
  unfold given?
  by_cases blank : trimSpace request.basicUsername = []
  · rw [if_pos blank]
    by_cases kept : existing.mode = .modeBasicAuth
    · rw [if_pos ⟨blank, kept⟩]
      have mode := encoded.mode
      cases terms with
      | login => rw [encoded.2.1.1]; rfl
      | everyone | bearer | addresses => rw [kept] at mode; cases mode
    · rw [if_neg fun both => kept both.2] at present
      exact absurd blank present
  · rw [if_neg blank, if_neg fun both => blank both.1]

/-- The record of an updated policy encodes the terms that the request names, with
what it leaves open taken from the terms before. -/
theorem updatedPolicyRecord_eq_ok {draw : PolicyDraw} (encoded : Encodes hashing existing terms)
    (made : updatedPolicyRecord hashing existing request draw = .ok record) :
    record.id = existing.id ∧ record.reservedSubdomainID = existing.reservedSubdomainID ∧
      ∃ after, updatedTerms? terms request = some after ∧ Encodes hashing record after := by
  have kept := encoded.mode
  -- the mode is the one that the terms go on with
  have choice : ∃ mode, normalizeMode (if trimSpace request.mode = [] then existing.mode.text
        else trimSpace request.mode) = .ok mode ∧
      updatedTerms? terms request = configured? (some terms) request mode := by
    unfold updatedTerms?
    by_cases blank : trimSpace request.mode = []
    · have supported : terms.mode ∈ supportedModes := by
        cases terms <;> simp [PolicyTerms.mode, supportedModes]
      refine ⟨terms.mode, ?_, ?_⟩
      · rw [if_pos blank, kept]
        exact normalizeMode_text supported
      · rw [if_pos blank]
        rfl
    · cases chosen : normalizeMode (trimSpace request.mode) with
      | error =>
        simp only [updatedPolicyRecord, blank, if_false, chosen] at made
        cases made
      | ok mode =>
        refine ⟨mode, by rw [if_neg blank, chosen], ?_⟩
        rw [if_neg blank]
        rfl
  obtain ⟨mode, chosen, after⟩ := choice
  rw [after]
  simp only [updatedPolicyRecord, chosen, Except.bind] at made
  cases mode with
  | modePublic =>
    cases made
    exact ⟨rfl, rfl, .everyone, rfl, rfl, rfl, rfl, rfl⟩
  | modeBasicAuth =>
    dsimp only at made
    split at made
    · cases made
    next named =>
      have username := given_username encoded named
      split at made
      next present =>
        split at made
        · cases made
        next hash hashed =>
          cases made
          refine ⟨rfl, rfl, .login _ (trimSpace request.basicPassword), ?_, rfl, ⟨rfl, named⟩,
            ⟨present, hashPassword_eq_some hashed⟩, rfl⟩
          simp [configured?, username, given?_of_ne_nil present]
      next blank =>
        split at made
        next inherited =>
          cases made
          rw [inherited.1] at kept
          cases terms with
          | login _ password =>
            obtain ⟨-, -, secret, -⟩ := encoded
            refine ⟨rfl, rfl, .login _ password, ?_, rfl, ⟨rfl, named⟩, secret, rfl⟩
            simp [configured?, username, given?_of_blank (not_not.mp blank), PolicyTerms.password?]
          | everyone | bearer | addresses => cases kept
        · cases made
  | modeBearerToken =>
    dsimp only at made
    split at made
    next present =>
      cases made
      refine ⟨rfl, rfl, .bearer (trimSpace request.bearerToken), ?_, rfl, rfl, ⟨present, rfl⟩,
        rfl⟩
      simp [configured?, given?_of_ne_nil present]
    next blank =>
      split at made
      next inherited =>
        cases made
        rw [inherited.1] at kept
        cases terms with
        | bearer token =>
          obtain ⟨-, -, secret, -⟩ := encoded
          refine ⟨rfl, rfl, .bearer token, ?_, rfl, rfl, secret, rfl⟩
          simp [configured?, given?_of_blank (not_not.mp blank), PolicyTerms.token?]
        | everyone | login | addresses => cases kept
      · cases made
  | modeIPAllowlist =>
    dsimp only at made
    split at made
    next inherited =>
      cases made
      rw [inherited.2.1] at kept
      cases terms with
      | addresses entries =>
        obtain ⟨-, -, -, listed⟩ := encoded
        refine ⟨rfl, rfl, .addresses entries, ?_, rfl, rfl, rfl, listed⟩
        simp [configured?, if_pos inherited.1, PolicyTerms.entries?]
      | everyone | login | bearer => cases kept
    · cases listed : normalizeIPAllowlist request.ipAllowlist with
      | error => rw [listed] at made; cases made
      | ok =>
        rw [listed] at made
        cases made
        obtain ⟨nonempty, entries, read, denotes⟩ := normalizeIPAllowlist_eq_ok listed
        have given : request.ipAllowlist ≠ [] := by
          intro none
          rw [none] at listed
          cases listed
        refine ⟨rfl, rfl, .addresses entries, ?_, rfl, rfl, rfl, nonempty, denotes⟩
        simp [configured?, if_neg given, read]
  | unsupported => cases made

def PolicyReply.allows : PolicyReply → Bool
  | .checked result => result.allowed
  | _ => false

theorem basicAuthMatches_encoded (sound : hashing.Sound) {username password givenName given : Bytes}
    (encoded : Encodes hashing record (.login username password)) :
    basicAuthMatches hashing record givenName given =
      (decide (trimSpace givenName = username ∧ trimSpace given = password), false) := by
  obtain ⟨-, ⟨name, named⟩, ⟨present, salt, hash⟩, -⟩ := encoded
  have hashed : isPasswordHash record.secretHash = true := by
    rw [hash]
    exact isPasswordHash_append _
  have stored : record.secretHash ≠ [] := by
    rw [hash]
    simp [argon2idPrefix, ascii]
  simp only [basicAuthMatches, hashed, if_true]
  split
  next missing =>
    have mismatch : ¬ (trimSpace givenName = username ∧ trimSpace given = password) := by
      rintro ⟨sameName, samePassword⟩
      rcases missing with blank | blank | blank | blank
      · exact named (sameName.symm.trans blank)
      · exact present (samePassword.symm.trans blank)
      · exact named (name.symm.trans blank)
      · exact stored blank
    rw [decide_eq_false mismatch]
  · split
    next unequal =>
      have mismatch : ¬ (trimSpace givenName = username ∧ trimSpace given = password) := by
        rintro ⟨sameName, -⟩
        rw [Bool.not_eq_true', ← Bool.not_eq_true, secretEqual_iff sound.injective, name] at unequal
        exact unequal ⟨by rwa [sameName], sameName⟩
      rw [decide_eq_false mismatch]
    next equal =>
      rw [Bool.not_eq_true', Bool.not_eq_false, secretEqual_iff sound.injective, name] at equal
      have verified := sound.verify_iff salt password (trimSpace given)
      rw [Prod.mk.injEq, hash, Bool.eq_iff_iff, verified, decide_eq_true_eq]
      exact ⟨⟨fun same => ⟨equal.2, same.symm⟩, fun both => both.2.symm⟩, rfl⟩

theorem checkRecord_encoded (sound : hashing.Sound) (encoded : Encodes hashing record terms)
    (request : CheckPolicyRequest) :
    ∃ reply, checkRecord hashing record request = .returns reply ∧
      (reply.allows = true ↔ terms.Admits request) := by
  unfold checkRecord
  dsimp only
  rw [encoded.mode]
  cases terms with
  | everyone => exact ⟨_, rfl, by simp [PolicyReply.allows, PolicyTerms.Admits]⟩
  | login username password =>
    simp only [PolicyTerms.mode, basicAuthMatches_encoded sound encoded]
    by_cases both : trimSpace request.basicUsername = username ∧
        trimSpace request.basicPassword = password
    · rw [decide_eq_true both]
      refine ⟨_, rfl, ?_⟩
      simp [PolicyReply.allows, PolicyTerms.Admits, both]
    · rw [decide_eq_false both]
      refine ⟨_, rfl, ?_⟩
      simp [PolicyReply.allows, PolicyTerms.Admits, both]
  | bearer token =>
    have digest : hashSecret hashing.sha256 token ≠ [] := by
      intro empty
      have same : hexEncode (hashing.sha256 token) = hexEncode [] := empty
      exact sound.nonempty token (hexEncode_injective same)
    have equal : secretHashEqual (hashSecret hashing.sha256 (trimSpace request.bearerToken))
        record.secretHash = true ↔ trimSpace request.bearerToken = token := by
      rw [encoded.2.2.1.2]
      simp only [secretHashEqual, Bool.and_eq_true, decide_eq_true_eq, beq_iff_eq]
      constructor
      · exact fun same => sha256Hex_injective sound.injective same.2
      · rintro rfl
        exact ⟨⟨digest, digest⟩, rfl⟩
    simp only [PolicyTerms.mode]
    split
    next same =>
      refine ⟨_, rfl, ?_⟩
      simp only [PolicyReply.allows, PolicyTerms.Admits, equal.mp same]
    next different =>
      refine ⟨_, rfl, ?_⟩
      simp only [PolicyReply.allows, PolicyTerms.Admits, ← equal, different]
  | addresses entries =>
    have allowed : ipAllowed request.remoteIP record.ipAllowlist = true ↔
        (PolicyTerms.addresses entries).Admits request := by
      rw [ipAllowed_iff]
      simp only [PolicyTerms.Admits, encoded.2.2.2.2.same]
    simp only [PolicyTerms.mode]
    split
    next inside =>
      refine ⟨_, rfl, ?_⟩
      simp only [PolicyReply.allows, ← allowed, inside]
    next outside =>
      refine ⟨_, rfl, ?_⟩
      simp only [PolicyReply.allows, ← allowed, outside]

end Porthook.ControlPlane
