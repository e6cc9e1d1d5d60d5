import Porthook.Protocol.Header
import Porthook.Protocol.Text

/-!
# What becomes of hop-by-hop headers

A header map that was decoded from a message has the spelling that the peer chose.
`StripHopByHopHeaders` finds its entries by their canonical names, so a hop-by-hop header goes
through when it is spelled in another way.
-/

namespace Porthook.Protocol

def lowerByte (byte : UInt8) : UInt8 := if 65 ≤ byte ∧ byte ≤ 90 then byte + 32 else byte

theorem toLower_ascii {text : Bytes} (small : ∀ byte ∈ text, byte < 128) :
    toLower text = text.map lowerByte := by
  induction text with
  | nil => rfl
  | cons byte _ ih =>
    have kept := ih fun later member => small later (by simp [member])
    have first := small byte (by simp)
    unfold toLower
    -- the longer letters start with a byte beyond ASCII
    split
    next same => cases same; exact absurd first (by decide)
    next same => cases same; exact absurd first (by decide)
    next same =>
      cases same
      rw [kept]
      rfl
    next same => cases same

/-- Two field names that differ in nothing but the case of their letters. -/
def SameName (first second : Bytes) : Prop := first.map lowerByte = second.map lowerByte

instance (first second : Bytes) : Decidable (SameName first second) :=
  inferInstanceAs (Decidable (first.map lowerByte = second.map lowerByte))

theorem SameName.refl (name : Bytes) : SameName name name := rfl

variable {first second name : Bytes} {entry : Bytes × List Bytes}

theorem SameName.symm (same : SameName first second) :
    SameName second first := Eq.symm same

theorem SameName.trans {third : Bytes} (same : SameName first second)
    (next : SameName second third) : SameName first third := Eq.trans same next

def canonicalByte (upper : Bool) (byte : UInt8) : UInt8 :=
  if upper ∧ 97 ≤ byte ∧ byte ≤ 122 then byte - 32
  else if ¬ upper ∧ 65 ≤ byte ∧ byte ≤ 90 then byte + 32
  else byte

theorem canonicalBytes_cons (upper : Bool) (byte : UInt8) (rest : Bytes) :
    canonicalBytes upper (byte :: rest) =
      canonicalByte upper byte :: canonicalBytes (byte == 45) rest := rfl

/-- The case of a letter changes nothing that the canonical form looks at, and the
canonical form changes nothing but the case. -/
theorem lowerByte_facts (byte : UInt8) : (lowerByte byte == 45) = (byte == 45) ∧
      validHeaderFieldByte (lowerByte byte) = validHeaderFieldByte byte ∧
      ∀ upper, canonicalByte upper (lowerByte byte) = canonicalByte upper byte ∧
        lowerByte (canonicalByte upper byte) = lowerByte byte := by
  have checked : ∀ value : Fin 256, (lowerByte ⟨⟨value⟩⟩ == 45) = ((⟨⟨value⟩⟩ : UInt8) == 45) ∧
        validHeaderFieldByte (lowerByte ⟨⟨value⟩⟩) = validHeaderFieldByte ⟨⟨value⟩⟩ ∧
        ∀ upper, canonicalByte upper (lowerByte ⟨⟨value⟩⟩) = canonicalByte upper ⟨⟨value⟩⟩ ∧
          lowerByte (canonicalByte upper ⟨⟨value⟩⟩) = lowerByte ⟨⟨value⟩⟩ := by
    decide +kernel
  exact checked byte.toFin

theorem canonicalBytes_map_lowerByte (upper : Bool) (name : Bytes) :
    canonicalBytes upper (name.map lowerByte) = canonicalBytes upper name := by
  induction name generalizing upper with
  | nil => rfl
  | cons byte _ ih =>
    obtain ⟨dash, _, mapped⟩ := lowerByte_facts byte
    rw [List.map_cons, canonicalBytes_cons, canonicalBytes_cons, (mapped upper).1, dash, ih]

theorem map_lowerByte_canonicalBytes (upper : Bool) (name : Bytes) :
    (canonicalBytes upper name).map lowerByte = name.map lowerByte := by
  induction name generalizing upper with
  | nil => rfl
  | cons byte _ ih =>
    obtain ⟨_, _, mapped⟩ := lowerByte_facts byte
    rw [canonicalBytes_cons, List.map_cons, List.map_cons, (mapped upper).2, ih]

theorem all_valid_map_lowerByte (name : Bytes) :
    (name.map lowerByte).all validHeaderFieldByte = name.all validHeaderFieldByte := by
  induction name with
  | nil => rfl
  | cons byte _ ih =>
    rw [List.map_cons, List.all_cons, List.all_cons, (lowerByte_facts byte).2.1, ih]

theorem SameName.valid (same : SameName first second) :
    first.all validHeaderFieldByte = second.all validHeaderFieldByte := by
  rw [← all_valid_map_lowerByte first, ← all_valid_map_lowerByte second, same]

theorem sameName_canonicalHeaderKey (name : Bytes) : SameName (canonicalHeaderKey name) name := by
  unfold canonicalHeaderKey
  split
  · exact map_lowerByte_canonicalBytes true name
  · exact .refl name

theorem canonicalHeaderKey_of_not_valid
    (invalid : name.all validHeaderFieldByte = false) : canonicalHeaderKey name = name := by
  simp [canonicalHeaderKey, invalid]

theorem SameName.canonicalHeaderKey_eq (same : SameName first second)
    (valid : first.all validHeaderFieldByte) :
    canonicalHeaderKey first = canonicalHeaderKey second := by
  have other : second.all validHeaderFieldByte = true := same.valid ▸ valid
  rw [canonicalHeaderKey, if_pos valid, canonicalHeaderKey, if_pos other,
    ← canonicalBytes_map_lowerByte true first, ← canonicalBytes_map_lowerByte true second, same]

theorem canonicalHeaderKey_idem (name : Bytes) :
    canonicalHeaderKey (canonicalHeaderKey name) = canonicalHeaderKey name := by
  cases valid : name.all validHeaderFieldByte with
  | true =>
    have same := (sameName_canonicalHeaderKey name).symm
    exact (same.canonicalHeaderKey_eq valid).symm
  | false => rw [canonicalHeaderKey_of_not_valid valid, canonicalHeaderKey_of_not_valid valid]

def listedTokens (value : Bytes) : List Bytes :=
  ((splitByte 44 value).map trimSpace).filter fun token => token ≠ []

theorem connectionTokens_eq (header : Header) :
    connectionTokens header = (header.values (ascii "Connection")).flatMap listedTokens := by
  have key : canonicalHeaderKey (ascii "Connection") = ascii "Connection" := by decide +kernel
  simp only [connectionTokens, Header.valuesOf, key]
  induction header.values (ascii "Connection") with
  | nil => rfl
  | cons _ _ ih =>
    simp only [List.flatMap_cons, List.map_append, List.filter_append, ih, listedTokens]

/-- A header that concerns one connection only: it is one of the fixed ones, or a
value of `Connection` lists it. -/
def IsHopByHop (header : Header) (name : Bytes) : Prop :=
  (∃ hop ∈ hopByHopHeaders, SameName name hop) ∨
    ∃ entry ∈ header, SameName entry.1 (ascii "Connection") ∧
      ∃ value ∈ entry.2, ∃ token ∈ listedTokens value, SameName name token

theorem IsHopByHop.congr {header : Header} (hopByHop : IsHopByHop header first)
    (same : SameName first second) :
    IsHopByHop header second := by
  rcases hopByHop with ⟨hop, fixed, isHop⟩ | ⟨entry, member, connection, value, inValue, token,
    listed, isToken⟩
  · exact .inl ⟨hop, fixed, same.symm.trans isHop⟩
  · exact .inr ⟨entry, member, connection, value, inValue, token, listed, same.symm.trans isToken⟩

theorem stripHopByHopHeaders_eq_filter (header : Header) :
    stripHopByHopHeaders header = header.filter fun entry => entry.1 ∉ strippedNames header := by
  have dels (removed : List Bytes) (start : Header) : removed.foldl Header.del start =
        start.filter fun entry => entry.1 ∉ removed.map canonicalHeaderKey := by
    induction removed generalizing start with
    | nil => simp
    | cons first _ ih =>
      rw [List.foldl_cons, ih, Header.del, List.filter_filter]
      apply List.filter_congr
      intro entry _
      by_cases same : entry.1 = canonicalHeaderKey first <;> simp [same]
  exact dels _ header

theorem mem_stripHopByHopHeaders {header : Header} :
    entry ∈ stripHopByHopHeaders header ↔ entry ∈ header ∧ entry.1 ∉ strippedNames header := by
  rw [stripHopByHopHeaders_eq_filter, List.mem_filter, decide_eq_true_iff]

theorem mem_of_mem_values {header : Header} {value : Bytes} (member : value ∈ header.values name) :
    ∃ entry ∈ header, entry.1 = name ∧ value ∈ entry.2 := by
  unfold Header.values at member
  cases found : header.find? fun entry => entry.1 = name with
  | none => simp [found] at member
  | some entry =>
    have named := List.find?_some found
    refine ⟨entry, List.mem_of_find?_eq_some found, by simpa using named, ?_⟩
    simpa [found] using member

theorem mem_values_of_mem {header : Header} (distinct : (header.map Prod.fst).Nodup)
    (member : entry ∈ header) {value : Bytes}
    (inEntry : value ∈ entry.2) : value ∈ header.values entry.1 := by
  induction header with
  | nil => cases member
  | cons first _ ih =>
    rw [List.map_cons, List.nodup_cons] at distinct
    rcases List.mem_cons.mp member with rfl | later
    · simpa [Header.values] using inEntry
    have different : first.1 ≠ entry.1 := by
      intro same
      exact distinct.1 (same ▸ List.mem_map_of_mem later)
    simpa [Header.values, different] using ih distinct.2 later

theorem isHopByHop_of_stripped {header : Header}
    (stripped : name ∈ strippedNames header) : IsHopByHop header name := by
  obtain ⟨token, member, rfl⟩ := List.mem_map.mp stripped
  have same := sameName_canonicalHeaderKey token
  rcases List.mem_append.mp member with listed | fixed
  · rw [connectionTokens_eq] at listed
    obtain ⟨value, inValues, inValue⟩ := List.mem_flatMap.mp listed
    obtain ⟨entry, inHeader, named, inEntry⟩ := mem_of_mem_values inValues
    exact .inr ⟨entry, inHeader, named ▸ .refl _, value, inEntry, token, inValue, same⟩
  · exact .inl ⟨token, fixed, same⟩

theorem strippedNames_stripHopByHopHeaders (header : Header) :
    strippedNames (stripHopByHopHeaders header) = hopByHopHeaders.map canonicalHeaderKey := by
  have gone : (stripHopByHopHeaders header).values (ascii "Connection") = [] := by
    have stripped : ascii "Connection" ∈ strippedNames header :=
      List.mem_map.mpr ⟨ascii "Connection", List.mem_append_right _ (by decide +kernel),
        by decide +kernel⟩
    rw [Header.values_eq, field?_stripHopByHopHeaders, if_pos stripped]
    rfl
  simp [strippedNames, connectionTokens_eq, gone]

theorem stripHopByHopHeaders_idem (header : Header) :
    stripHopByHopHeaders (stripHopByHopHeaders header) = stripHopByHopHeaders header := by
  rw [stripHopByHopHeaders_eq_filter (stripHopByHopHeaders header),
    strippedNames_stripHopByHopHeaders]
  apply List.filter_eq_self.mpr
  intro entry member
  obtain ⟨_, kept⟩ := mem_stripHopByHopHeaders.mp member
  rw [decide_eq_true_iff]
  intro stripped
  obtain ⟨hop, fixed, named⟩ := List.mem_map.mp stripped
  exact kept (List.mem_map.mpr ⟨hop, List.mem_append_right _ fixed, named⟩)

namespace Header

theorem values_put (header : Header) (name other : Bytes) (values : List Bytes) :
    (header.put name values).values other =
      if other = name then values else header.values other := by
  by_cases same : other = name
  · simp [put, Header.values, same]
  have rest := field?_filter_ne header name other
  rw [if_neg same] at rest ⊢
  rw [values_eq header other, ← rest]
  simp [put, Header.values, field?, Ne.symm same]

theorem values_add (header : Header) (name value key : Bytes) : (header.add name value).values key =
      header.values key ++ if canonicalHeaderKey name = key then [value] else [] := by
  simp only [add, values_put]
  by_cases same : key = canonicalHeaderKey name
  · simp [same]
  · simp [same, Ne.symm same]

theorem values_foldl_add (header : Header) (name key : Bytes) (values : List Bytes) :
    (values.foldl (fun header value => header.add name value) header).values key =
      header.values key ++ if canonicalHeaderKey name = key then values else [] := by
  induction values generalizing header with
  | nil => simp
  | cons _ _ ih =>
    rw [List.foldl_cons, ih, values_add]
    split <;> simp

/-- What the response header has under a name: the values of all entries that have
this canonical name, in the order in which they were met. -/
theorem values_addAll (header extra : Header) (key : Bytes) : (header.addAll extra).values key =
      header.values key ++
        (extra.filter fun entry => canonicalHeaderKey entry.1 = key).flatMap Prod.snd := by
  induction extra generalizing header with
  | nil => simp [addAll]
  | cons entry rest ih =>
    have step : header.addAll (entry :: rest) =
        (entry.2.foldl (fun header value => header.add entry.1 value) header).addAll rest := rfl
    rw [step, ih, values_foldl_add]
    by_cases same : canonicalHeaderKey entry.1 = key <;> simp [same]

variable {entry : Bytes × List Bytes}

theorem names_foldl_add (header : Header) (name : Bytes) (values : List Bytes)
    (member : entry ∈ values.foldl (fun header value => header.add name value) header) :
    entry.1 = canonicalHeaderKey name ∨ ∃ other ∈ header, entry.1 = other.1 := by
  induction values generalizing header with
  | nil => exact .inr ⟨entry, member, rfl⟩
  | cons value _ ih =>
    rcases ih (header.add name value) member with named | ⟨other, before, same⟩
    · exact .inl named
    · rcases List.mem_cons.mp before with rfl | kept
      · exact .inl same
      · exact .inr ⟨other, List.mem_of_mem_filter kept, same⟩

theorem names_addAll (header extra : Header) (member : entry ∈ header.addAll extra) :
    (∃ other ∈ extra, entry.1 = canonicalHeaderKey other.1) ∨
      ∃ other ∈ header, entry.1 = other.1 := by
  induction extra generalizing header with
  | nil => exact .inr ⟨entry, member, rfl⟩
  | cons first _ ih =>
    rcases ih _ member with ⟨other, later, named⟩ | ⟨other, before, same⟩
    · exact .inl ⟨other, List.mem_cons_of_mem _ later, named⟩
    · rcases names_foldl_add header first.1 first.2 before with named | ⟨kept, inHeader, equal⟩
      · exact .inl ⟨first, List.mem_cons_self, same.trans named⟩
      · exact .inr ⟨kept, inHeader, same.trans equal⟩

end Header

def localHeader (header : Header) : Header := stripHopByHopHeaders header

def publicHeader (header : Header) : Header := Header.addAll [] (stripHopByHopHeaders header)

/-- No hop-by-hop header reaches the next hop, every other one keeps its values in
their order, and nothing is left to strip. -/
structure StripsExactly (header : Header) : Prop where
  localGone : ∀ entry ∈ localHeader header, ¬ IsHopByHop header entry.1
  localKept : ∀ name, ¬ IsHopByHop header name →
    (localHeader header).field? name = header.field? name
  publicGone : ∀ entry ∈ publicHeader header, ¬ IsHopByHop header entry.1
  publicKept : ∀ name, ¬ IsHopByHop header name → (publicHeader header).valuesOf name =
    (header.filter fun entry =>
      canonicalHeaderKey entry.1 = canonicalHeaderKey name).flatMap Prod.snd
  idempotent : stripHopByHopHeaders (stripHopByHopHeaders header) = stripHopByHopHeaders header

/-- The hop-by-hop headers of the map have canonical names.  A name that HTTP does not
allow has no other form; it is listed by `Connection` as it is. -/
def CanonicallySpelled (header : Header) : Prop :=
  ∀ entry ∈ header, IsHopByHop header entry.1 → canonicalHeaderKey entry.1 = entry.1 ∧
    (entry.1.all validHeaderFieldByte = false →
      ∃ value ∈ header.values (ascii "Connection"), entry.1 ∈ listedTokens value)

section Spelling

variable {header : Header}

variable {name : Bytes}

theorem spelled_of_stripped (stripped : name ∈ strippedNames header) :
    canonicalHeaderKey name = name ∧ (name.all validHeaderFieldByte = false →
        ∃ value ∈ header.values (ascii "Connection"), name ∈ listedTokens value) := by
  obtain ⟨token, member, rfl⟩ := List.mem_map.mp stripped
  refine ⟨canonicalHeaderKey_idem token, fun invalid => ?_⟩
  rw [(sameName_canonicalHeaderKey token).valid] at invalid
  rw [canonicalHeaderKey_of_not_valid invalid]
  rcases List.mem_append.mp member with listed | fixed
  · rw [connectionTokens_eq] at listed
    exact List.mem_flatMap.mp listed
  · have allowed : ∀ hop ∈ hopByHopHeaders, hop.all validHeaderFieldByte = true := by
      decide +kernel
    rw [allowed token fixed] at invalid
    cases invalid

theorem stripped_of_spelled (distinct : (header.map Prod.fst).Nodup)
    (spelled : CanonicallySpelled header) {entry : Bytes × List Bytes} (member : entry ∈ header)
    (hopByHop : IsHopByHop header entry.1) : entry.1 ∈ strippedNames header := by
  obtain ⟨canonical, invalidListed⟩ := spelled entry member hopByHop
  cases valid : entry.1.all validHeaderFieldByte with
  | false =>
    obtain ⟨value, inValues, listed⟩ := invalidListed valid
    refine List.mem_map.mpr ⟨entry.1, List.mem_append_left _ ?_, canonical⟩
    rw [connectionTokens_eq]
    exact List.mem_flatMap.mpr ⟨value, inValues, listed⟩
  | true =>
    rcases hopByHop with ⟨hop, fixed, isHop⟩ | ⟨other, inHeader, connection, value, inValue,
      token, listed, isToken⟩
    · exact List.mem_map.mpr ⟨hop, List.mem_append_right _ fixed,
        (isHop.canonicalHeaderKey_eq valid).symm.trans canonical⟩
    · -- the entry that lists the token is a hop-by-hop header itself
      have fixed : ascii "Connection" ∈ hopByHopHeaders := by decide +kernel
      have key : canonicalHeaderKey (ascii "Connection") = ascii "Connection" := by
        decide +kernel
      have allowed : other.1.all validHeaderFieldByte = true :=
        connection.valid.trans (by decide +kernel)
      have named : other.1 = ascii "Connection" := by
        rw [← (spelled other inHeader (.inl ⟨_, fixed, connection⟩)).1,
          connection.canonicalHeaderKey_eq allowed, key]
      have inValues := mem_values_of_mem distinct inHeader inValue
      rw [named] at inValues
      refine List.mem_map.mpr ⟨token, List.mem_append_left _ ?_,
        (isToken.canonicalHeaderKey_eq valid).symm.trans canonical⟩
      rw [connectionTokens_eq]
      exact List.mem_flatMap.mpr ⟨value, inValues, listed⟩

theorem field?_localHeader (other : ¬ IsHopByHop header name) :
    (localHeader header).field? name = header.field? name := by
  rw [localHeader, field?_stripHopByHopHeaders,
    if_neg fun stripped => other (isHopByHop_of_stripped stripped)]

theorem valuesOf_publicHeader (other : ¬ IsHopByHop header name) :
    (publicHeader header).valuesOf name =
      (header.filter fun entry =>
        canonicalHeaderKey entry.1 = canonicalHeaderKey name).flatMap Prod.snd := by
  rw [Header.valuesOf, publicHeader, Header.values_addAll, stripHopByHopHeaders_eq_filter,
    List.filter_filter]
  have kept : ∀ entry ∈ header, (decide (canonicalHeaderKey entry.1 = canonicalHeaderKey name) &&
      decide (entry.1 ∉ strippedNames header)) =
        decide (canonicalHeaderKey entry.1 = canonicalHeaderKey name) := by
    intro entry _
    by_cases same : canonicalHeaderKey entry.1 = canonicalHeaderKey name
    · have sameName : SameName entry.1 name :=
        (sameName_canonicalHeaderKey entry.1).symm.trans (same ▸ sameName_canonicalHeaderKey name)
      have unstripped : entry.1 ∉ strippedNames header := fun stripped =>
        other ((isHopByHop_of_stripped stripped).congr sameName)
      simp [same, unstripped]
    · simp [same]
  rw [List.filter_congr kept]
  rfl

end Spelling

/-- Every hop-by-hop header is removed and nothing else is, exactly when the
hop-by-hop headers of the map have canonical names. -/
theorem stripHopByHopHeaders_exact_iff (header : Header) (distinct : (header.map Prod.fst).Nodup) :
    StripsExactly header ↔ CanonicallySpelled header := by
  constructor
  · intro exact entry member hopByHop
    apply spelled_of_stripped
    by_contra kept
    exact exact.localGone entry (mem_stripHopByHopHeaders.mpr ⟨member, kept⟩) hopByHop
  · intro spelled
    have gone : ∀ entry ∈ stripHopByHopHeaders header, ¬ IsHopByHop header entry.1 := by
      intro entry member hopByHop
      obtain ⟨inHeader, kept⟩ := mem_stripHopByHopHeaders.mp member
      exact kept (stripped_of_spelled distinct spelled inHeader hopByHop)
    refine ⟨gone, fun name => field?_localHeader, ?_, fun name => valuesOf_publicHeader,
      stripHopByHopHeaders_idem header⟩
    intro entry member hopByHop
    rcases Header.names_addAll [] _ member with ⟨other, kept, named⟩ | ⟨_, none, _⟩
    · have same : SameName entry.1 other.1 := named ▸ sameName_canonicalHeaderKey other.1
      exact gone other kept (hopByHop.congr same)
    · cases none

/-- A map with lower-case names, as the messages of the tunnel have them. -/
def lowerCaseHeader : Header :=
  [(ascii "connection", [ascii "x-secret"]), (ascii "x-secret", [ascii "1"]),
    (ascii "upgrade", [ascii "h2c"])]

theorem stripHopByHopHeaders_keeps_lower_case : localHeader lowerCaseHeader = lowerCaseHeader ∧
      (publicHeader lowerCaseHeader).valuesOf (ascii "Connection") = [ascii "x-secret"] ∧
      IsHopByHop lowerCaseHeader (ascii "x-secret") ∧ ¬ StripsExactly lowerCaseHeader := by
  have kept : localHeader lowerCaseHeader = lowerCaseHeader := by decide +kernel
  have listed : IsHopByHop lowerCaseHeader (ascii "x-secret") := by
    refine .inr ⟨(ascii "connection", [ascii "x-secret"]), by decide +kernel, by decide +kernel,
      ascii "x-secret", by decide +kernel, ascii "x-secret", by decide +kernel, .refl _⟩
  refine ⟨kept, by decide +kernel, listed, fun exact => ?_⟩
  exact exact.localGone (ascii "x-secret", [ascii "1"]) (by decide +kernel) listed

/-- The same map with the names that `net/http` gives them. -/
theorem stripHopByHopHeaders_exact_canonical :
    StripsExactly [(ascii "Connection", [ascii "x-secret"]), (ascii "X-Secret", [ascii "1"])] ∧
      localHeader [(ascii "Connection", [ascii "x-secret"]), (ascii "X-Secret", [ascii "1"])] =
        [] := by
  refine ⟨(stripHopByHopHeaders_exact_iff _ (by decide +kernel)).mpr ?_, by decide +kernel⟩
  intro entry member _
  have plain : ∀ entry ∈ [(ascii "Connection", [ascii "x-secret"]),
      (ascii "X-Secret", [ascii "1"])], canonicalHeaderKey entry.1 = entry.1 ∧
        entry.1.all validHeaderFieldByte = true := by decide +kernel
  obtain ⟨canonical, valid⟩ := plain entry member
  exact ⟨canonical, fun invalid => absurd (valid.symm.trans invalid) (by decide)⟩

end Porthook.Protocol
