import Mathlib.Data.List.Basic
import Mathlib.Data.List.TakeWhile

/-!
# URLs as `net/url` parses and prints them

A URL keeps the decoded path next to a hint of how it was written: `rawPath` is empty where the
default encoding of the path is the text that was parsed.  Printing uses the hint only as long as
it still decodes to the path.  How userinfo and hosts are written is a parameter.
-/

namespace Url

abbrev Text := List UInt8

def upperHex (n : Nat) : UInt8 := if n < 10 then n.toUInt8 + 48 else n.toUInt8 + 55

def unhex? (byte : UInt8) : Option Nat :=
  if 48 ≤ byte ∧ byte ≤ 57 then some (byte.toNat - 48)
  else if 97 ≤ byte ∧ byte ≤ 102 then some (byte.toNat - 87)
  else if 65 ≤ byte ∧ byte ≤ 70 then some (byte.toNat - 55)
  else none

def escapeByte (keep : UInt8 → Bool) (byte : UInt8) : Text :=
  if keep byte then [byte] else [37, upperHex (byte.toNat / 16), upperHex (byte.toNat % 16)]

def escape (keep : UInt8 → Bool) (text : Text) : Text := text.flatMap (escapeByte keep)

def unescape? : Text → Option Text
  | [] => some []
  | byte :: rest =>
    if byte = 37 then
      match rest with
      | high :: low :: rest =>
        match unhex? high, unhex? low with
        | some high, some low =>
          (unescape? rest).map fun out => (16 * high + low).toUInt8 :: out
        | _, _ => none
      | _ => none
    else (unescape? rest).map fun out => byte :: out

def isUnreserved (byte : UInt8) : Bool :=
  (97 ≤ byte && byte ≤ 122) || (65 ≤ byte && byte ≤ 90) || (48 ≤ byte && byte ≤ 57) ||
    [45, 95, 46, 126].contains byte

/-- The bytes that a path keeps: all reserved ones but the question mark. -/
def keepsPath (byte : UInt8) : Bool :=
  isUnreserved byte || [36, 38, 43, 44, 47, 58, 59, 61, 64].contains byte

def keepsFragment (byte : UInt8) : Bool := keepsPath byte || [63, 33, 40, 41, 42].contains byte

def validEncoded (keep : UInt8 → Bool) (text : Text) : Bool :=
  text.all fun byte =>
    [33, 36, 38, 39, 40, 41, 42, 43, 44, 59, 61, 58, 64, 91, 93, 37].contains byte || keep byte

section Escape

variable {keep : UInt8 → Bool}

@[simp]
theorem escape_nil : escape keep [] = [] := rfl

theorem escape_cons (byte : UInt8) (rest : Text) :
    escape keep (byte :: rest) = escapeByte keep byte ++ escape keep rest := rfl

theorem escape_append (first second : Text) :
    escape keep (first ++ second) = escape keep first ++ escape keep second :=
  List.flatMap_append

theorem escape_cons_kept {byte : UInt8} (kept : keep byte) (rest : Text) :
    escape keep (byte :: rest) = byte :: escape keep rest := by
  rw [escape_cons, escapeByte, if_pos kept]
  rfl

theorem unhex?_upperHex {n : Nat} (small : n < 16) : unhex? (upperHex n) = some n := by
  have checked : ∀ m : Fin 16, unhex? (upperHex m) = some m.val := by decide
  exact checked ⟨n, small⟩

theorem unescape?_cons_kept {byte : UInt8} (kept : byte ≠ 37) (rest : Text) :
    unescape? (byte :: rest) = (unescape? rest).map fun out => byte :: out := by
  match rest with
  | [] | [high] => simp only [unescape?, if_neg kept]
  | high :: low :: more => rw [unescape?, if_neg kept]

theorem unescape?_escapeByte (encodesPercent : keep 37 = false) (byte : UInt8) (rest : Text) :
    unescape? (escapeByte keep byte ++ rest) = (unescape? rest).map fun out => byte :: out := by
  unfold escapeByte
  split
  next kept =>
    refine unescape?_cons_kept ?_ rest
    rintro rfl
    rw [encodesPercent] at kept
    cases kept
  · have bound := byte.toNat_lt
    have high := unhex?_upperHex (show byte.toNat / 16 < 16 by omega)
    have low := unhex?_upperHex (show byte.toNat % 16 < 16 by omega)
    have whole : (16 * (byte.toNat / 16) + byte.toNat % 16).toUInt8 = byte := by
      rw [Nat.div_add_mod]
      exact UInt8.ofNat_toNat
    simp [unescape?, high, low, whole]

theorem unescape?_escape (encodesPercent : keep 37 = false) (text : Text) :
    unescape? (escape keep text) = some text := by
  induction text with
  | nil => rfl
  | cons _ _ ih =>
    rw [escape_cons, unescape?_escapeByte encodesPercent, ih]
    rfl

theorem escape_injective (encodesPercent : keep 37 = false) : Function.Injective (escape keep) := by
  intro first second same
  have decoded := congrArg unescape? same
  rwa [unescape?_escape encodesPercent, unescape?_escape encodesPercent,
    Option.some.injEq] at decoded

/-- A byte that is kept splits an encoded text where it splits the text. -/
theorem escape_eq_append_cons {separator : UInt8} (encodesPercent : keep 37 = false)
    (kept : keep separator) (notHex : ∀ n < 16, upperHex n ≠ separator)
    {text before after : Text} (encoded : escape keep text = before ++ separator :: after) :
    ∃ first second, text = first ++ separator :: second ∧ before = escape keep first ∧
      after = escape keep second := by
  induction text generalizing before with
  | nil => simp at encoded
  | cons byte rest ih =>
    have percent : separator ≠ 37 := by
      rintro rfl
      rw [encodesPercent] at kept
      cases kept
    rw [escape_cons] at encoded
    unfold escapeByte at encoded
    split at encoded
    next keptByte =>
      cases before with
      | nil =>
        cases encoded
        exact ⟨[], rest, rfl, rfl, rfl⟩
      | cons =>
        simp only [List.cons_append, List.nil_append, List.cons.injEq] at encoded
        obtain ⟨rfl, encoded⟩ := encoded
        obtain ⟨front, back, rfl, rfl, rfl⟩ := ih encoded
        exact ⟨byte :: front, back, rfl, (escape_cons_kept keptByte front).symm, rfl⟩
    next dropped =>
      have bound := byte.toNat_lt
      have high := notHex (byte.toNat / 16) (by omega)
      have low := notHex (byte.toNat % 16) (by omega)
      match before, encoded with
      | [], encoded =>
        exact absurd (List.cons.inj encoded).1.symm percent
      | [_], encoded =>
        exact absurd (List.cons.inj (List.cons.inj encoded).2).1 high
      | [_, _], encoded =>
        exact absurd (List.cons.inj (List.cons.inj (List.cons.inj encoded).2).2).1 low
      | _ :: _ :: _ :: more, encoded =>
        simp only [List.cons_append, List.nil_append, List.cons.injEq] at encoded
        obtain ⟨rfl, rfl, rfl, encoded⟩ := encoded
        obtain ⟨front, back, rfl, rfl, rfl⟩ := ih encoded
        refine ⟨byte :: front, back, rfl, ?_, rfl⟩
        rw [escape_cons, escapeByte, if_neg dropped]
        rfl

end Escape

structure URL (User : Type) where
  scheme : Text := []
  opaqueText : Text := []
  user : Option User := none
  host : Text := []
  path : Text := []
  rawPath : Text := []
  omitHost : Bool := false
  forceQuery : Bool := false
  rawQuery : Text := []
  fragment : Text := []
  rawFragment : Text := []
  deriving DecidableEq

/-- How `net/url` reads and writes userinfo and hosts. -/
structure AuthorityCodec (User : Type) where
  parse : Text → Option (Option User × Text)
  userText : User → Text
  hostText : Text → Text

variable {User : Type} (codec : AuthorityCodec User)

def AuthorityCodec.text (user : Option User) (host : Text) : Text :=
  (match user with
    | none => []
    | some user => codec.userText user ++ [64]) ++
  if host = [] then [] else codec.hostText host

def cut (separator : UInt8) (text : Text) : Text × Option Text :=
  (text.takeWhile (· ≠ separator), (text.dropWhile (· ≠ separator)).tail?)

def isLetter (byte : UInt8) : Bool := (97 ≤ byte && byte ≤ 122) || (65 ≤ byte && byte ≤ 90)

def isSchemeByte (byte : UInt8) : Bool :=
  isLetter byte || (48 ≤ byte && byte ≤ 57) || [43, 45, 46].contains byte

/-- `getScheme`; `none` is the error of a colon at the front. -/
def getScheme? (text : Text) : Option (Text × Text) :=
  let scheme := text.takeWhile isSchemeByte
  match text.dropWhile isSchemeByte with
  | 58 :: rest =>
    if scheme = [] then none
    else if (scheme.head?.map isLetter).getD false then some (scheme, rest)
    else some ([], text)
  | _ => some ([], text)

def lower (text : Text) : Text :=
  text.map fun byte => if 65 ≤ byte ∧ byte ≤ 90 then byte + 32 else byte

def isControl (byte : UInt8) : Bool := byte < 32 || byte == 127

namespace URL

def escapedPath (url : URL User) : Text :=
  if url.rawPath ≠ [] ∧ validEncoded keepsPath url.rawPath ∧ unescape? url.rawPath = some url.path
  then url.rawPath
  else if url.path = [42] then [42]
  else escape keepsPath url.path

def escapedFragment (url : URL User) : Text :=
  if url.rawFragment ≠ [] ∧ validEncoded keepsFragment url.rawFragment ∧
      unescape? url.rawFragment = some url.fragment
  then url.rawFragment
  else escape keepsFragment url.fragment

def setPath (url : URL User) (text : Text) : Option (URL User) :=
  (unescape? text).map fun path =>
    { url with path, rawPath := if text = escape keepsPath path then [] else text }

def setFragment (url : URL User) (text : Text) : Option (URL User) :=
  (unescape? text).map fun fragment =>
    { url with fragment, rawFragment := if text = escape keepsFragment fragment then [] else text }

def parseHierarchy (viaRequest : Bool) (url : URL User) (rest : Text) : Option (URL User) :=
  if rest.head? ≠ some 47 ∧ url.scheme ≠ [] then some { url with opaqueText := rest }
  else if rest.head? ≠ some 47 ∧ viaRequest then none
  else if rest.head? ≠ some 47 ∧ 58 ∈ (cut 47 rest).1 then none
  else if (url.scheme ≠ [] ∨ !viaRequest ∧ ¬ [47, 47, 47].isPrefixOf rest) ∧
      [47, 47].isPrefixOf rest then
    let authority := (rest.drop 2).takeWhile (· ≠ 47)
    (codec.parse authority).bind fun (user, host) =>
      { url with user, host }.setPath ((rest.drop 2).dropWhile (· ≠ 47))
  else if url.scheme ≠ [] ∧ rest.head? = some 47 then { url with omitHost := true }.setPath rest
  else url.setPath rest

def parseText (viaRequest : Bool) (text : Text) : Option (URL User) :=
  if text.any isControl then none
  else if text = [] ∧ viaRequest then none
  else if text = [42] then some { path := [42] }
  else (getScheme? text).bind fun (scheme, rest) =>
    let (rest, query) := cut 63 rest
    parseHierarchy codec viaRequest
      { scheme := lower scheme, rawQuery := query.getD [], forceQuery := query = some [] } rest

def parse (text : Text) : Option (URL User) :=
  let (front, fragment) := cut 35 text
  (parseText codec false front).bind fun url =>
    match fragment with
    | none | some [] => some url
    | some fragment => url.setFragment fragment

/-- `ParseRequestURI`: there is no fragment in a request. -/
def parseRequestURI (text : Text) : Option (URL User) := parseText codec true text

def prologue (url : URL User) : Text :=
  (if url.scheme = [] then [] else url.scheme ++ [58]) ++
  if url.scheme = [] ∧ url.host = [] ∧ url.user.isNone then []
  else if url.omitHost ∧ url.host = [] ∧ url.user.isNone then []
  else (if url.host ≠ [] ∨ url.path ≠ [] ∨ url.user.isSome then [47, 47] else []) ++
    codec.text url.user url.host

def queryText (url : URL User) : Text :=
  if url.forceQuery ∨ url.rawQuery ≠ [] then 63 :: url.rawQuery else []

def string (url : URL User) : Text :=
  (if url.opaqueText ≠ [] then
    (if url.scheme = [] then [] else url.scheme ++ [58]) ++ url.opaqueText
  else
    let path := url.escapedPath
    let front := prologue codec url ++
      if path ≠ [] ∧ path.head? ≠ some 47 ∧ url.host ≠ [] then [47] else []
    front ++ (if front = [] ∧ 58 ∈ (cut 47 path).1 then [46, 47] else []) ++ path) ++
  url.queryText ++
  if url.fragment ≠ [] then 35 :: url.escapedFragment else []

def requestPath (url : URL User) : Text :=
  if url.opaqueText = [] then
    if url.escapedPath = [] then [47] else url.escapedPath
  else if [47, 47].isPrefixOf url.opaqueText then url.scheme ++ 58 :: url.opaqueText
  else url.opaqueText

end URL

/-- The byte neither ends a path or a query nor is refused. -/
def isPlain (byte : UInt8) : Bool := !isControl byte && byte != 35 && byte != 63

variable {byte : UInt8}

theorem isPlain_of_valid
    (valid : ([33, 36, 38, 39, 40, 41, 42, 43, 44, 59, 61, 58, 64, 91, 93, 37].contains byte ||
      keepsPath byte)) : isPlain byte = true := by
  have checked : ∀ value : Fin 256,
      ([33, 36, 38, 39, 40, 41, 42, 43, 44, 59, 61, 58, 64, 91, 93, 37].contains
        (UInt8.ofFin value) || keepsPath (UInt8.ofFin value)) = true →
      isPlain (UInt8.ofFin value) = true := by decide +kernel
  exact checked byte.toFin valid

theorem isPlain_of_schemeByte (valid : isSchemeByte byte) : isPlain byte = true := by
  have checked : ∀ value : Fin 256, isSchemeByte (UInt8.ofFin value) = true →
      isPlain (UInt8.ofFin value) = true := by decide +kernel
  exact checked byte.toFin valid

theorem keepsPath_upperHex {n : Nat} (small : n < 16) : keepsPath (upperHex n) = true := by
  have checked : ∀ m : Fin 16, keepsPath (upperHex m) = true := by decide
  exact checked ⟨n, small⟩

theorem validEncoded_append {keep : UInt8 → Bool} (first second : Text) :
    validEncoded keep (first ++ second) = (validEncoded keep first && validEncoded keep second) :=
  List.all_append

theorem validEncoded_escape (text : Text) :
    validEncoded keepsPath (escape keepsPath text) = true := by
  induction text with
  | nil => rfl
  | cons byte _ ih =>
    rw [escape_cons, validEncoded_append, ih, Bool.and_true]
    unfold escapeByte
    split
    next kept => simp [validEncoded, kept]
    · have bound := byte.toNat_lt
      have high := keepsPath_upperHex (show byte.toNat / 16 < 16 by omega)
      have low := keepsPath_upperHex (show byte.toNat % 16 < 16 by omega)
      simp [validEncoded, high, low]

theorem isPlain_of_validEncoded {text : Text} (valid : validEncoded keepsPath text)
    (member : byte ∈ text) : isPlain byte = true :=
  isPlain_of_valid (List.all_eq_true.mp valid byte member)

theorem cut_append_cons {separator : UInt8} {before : Text} (alone : separator ∉ before)
    (after : Text) : cut separator (before ++ separator :: after) = (before, some after) := by
  have passed : ∀ byte ∈ before, decide (byte ≠ separator) = true := by
    intro byte member
    rw [decide_eq_true_eq]
    rintro rfl
    exact alone member
  unfold cut
  rw [List.takeWhile_append_of_pos passed, List.dropWhile_append_of_pos passed]
  simp

theorem cut_of_notMem {separator : UInt8} {text : Text} (alone : separator ∉ text) :
    cut separator text = (text, none) := by
  have passed : ∀ byte ∈ text, decide (byte ≠ separator) = true := by
    intro byte member
    rw [decide_eq_true_eq]
    rintro rfl
    exact alone member
  unfold cut
  rw [List.takeWhile_eq_self_iff.mpr passed, List.dropWhile_eq_nil_iff.mpr passed]
  rfl

theorem notMem_cut (separator : UInt8) (text : Text) : separator ∉ (cut separator text).1 := by
  intro member
  have passed := List.mem_takeWhile_imp member
  simp at passed

theorem dropWhile_ne (separator : UInt8) (text : Text) : text.dropWhile (· ≠ separator) = [] ∨
      (text.dropWhile (· ≠ separator)).head? = some separator := by
  induction text with
  | nil => exact .inl rfl
  | cons byte _ ih =>
    by_cases same : byte = separator
    · exact .inr (by simp [same])
    · simpa [same] using ih

namespace URL

variable {url : URL User}

theorem keepsPath_percent : keepsPath 37 = false := by decide

theorem keepsPath_slash : keepsPath 47 = true := by decide

theorem unescape?_escapedPath (url : URL User) : unescape? url.escapedPath = some url.path := by
  unfold escapedPath
  split
  next hinted => exact hinted.2.2
  · split
    next star =>
      rw [star]
      decide
    · exact unescape?_escape keepsPath_percent url.path

theorem validEncoded_escapedPath (url : URL User) :
    validEncoded keepsPath url.escapedPath = true := by
  unfold escapedPath
  split
  next hinted => exact hinted.2.1
  · split
    · decide
    · exact validEncoded_escape url.path

theorem escapedPath_of_rawPath_nil (unhinted : url.rawPath = []) (notStar : url.path ≠ [42]) :
    url.escapedPath = escape keepsPath url.path := by
  unfold escapedPath
  rw [if_neg (fun hinted => hinted.1 unhinted), if_neg notStar]

theorem escapedPath_of_rawPath (present : url.rawPath ≠ [])
    (valid : validEncoded keepsPath url.rawPath)
    (decoded : unescape? url.rawPath = some url.path) : url.escapedPath = url.rawPath := by
  unfold escapedPath
  rw [if_pos ⟨present, valid, decoded⟩]

/-- A path that starts with a slash, however it is written. -/
structure Rooted (url : URL User) : Prop where
  path : url.path.head? = some 47
  rawPath : url.rawPath = [] ∨ url.rawPath.head? = some 47

theorem Rooted.ne_star (rooted : url.Rooted) : url.path ≠ [42] := by
  intro star
  have slash := rooted.path
  rw [star] at slash
  cases slash

theorem head?_escape {path : Text} (slash : path.head? = some 47) :
    (escape keepsPath path).head? = some 47 := by
  obtain ⟨_, rfl⟩ := List.head?_eq_some_iff.mp slash
  rw [escape_cons_kept keepsPath_slash]
  rfl

theorem Rooted.head?_escapedPath (rooted : url.Rooted) : url.escapedPath.head? = some 47 := by
  unfold escapedPath
  split
  next hinted => exact rooted.rawPath.resolve_left hinted.1
  · rw [if_neg rooted.ne_star]
    exact head?_escape rooted.path

theorem setPath_escapedPath (rooted : url.Rooted) (other : URL User) :
    ∃ rawPath, other.setPath url.escapedPath = some { other with path := url.path, rawPath } ∧
      ({ other with path := url.path, rawPath } : URL User).Rooted ∧
      ({ other with path := url.path, rawPath } : URL User).escapedPath = url.escapedPath := by
  have decoded := unescape?_escapedPath url
  refine ⟨if url.escapedPath = escape keepsPath url.path then [] else url.escapedPath, ?_, ?_, ?_⟩
  · simp [setPath, decoded]
  · refine ⟨rooted.path, ?_⟩
    dsimp only
    split
    · exact .inl rfl
    · exact .inr rooted.head?_escapedPath
  · by_cases default : url.escapedPath = escape keepsPath url.path
    · have plain : ({ other with path := url.path, rawPath := [] } : URL User).escapedPath =
          escape keepsPath url.path := escapedPath_of_rawPath_nil rfl rooted.ne_star
      rw [if_pos default]
      exact plain.trans default.symm
    · have present : url.escapedPath ≠ [] := by
        intro empty
        have slash := rooted.head?_escapedPath
        rw [empty] at slash
        cases slash
      rw [if_neg default]
      exact escapedPath_of_rawPath present (validEncoded_escapedPath url) decoded

end URL

/-- What parses an authority parses again what is printed of it, and nothing in that ends
it early. -/
structure AuthorityCodec.Lawful (codec : AuthorityCodec User) : Prop where
  round : ∀ text user host, codec.parse text = some (user, host) →
    codec.parse (codec.text user host) = some (user, host)
  clean : ∀ text user host, codec.parse text = some (user, host) →
    ∀ byte ∈ codec.text user host, isPlain byte = true ∧ byte ≠ 47

structure SchemeText (scheme : Text) : Prop where
  letter : (scheme.head?.map isLetter).getD false = true
  bytes : ∀ byte ∈ scheme, isSchemeByte byte = true
  lowered : lower scheme = scheme

theorem SchemeText.ne_nil {scheme : Text} (valid : SchemeText scheme) : scheme ≠ [] := by
  rintro rfl
  have letter := valid.letter
  cases letter

theorem getScheme?_append {scheme : Text} (valid : SchemeText scheme) (rest : Text) :
    getScheme? (scheme ++ 58 :: rest) = some (scheme, rest) := by
  have colon : isSchemeByte 58 = false := by decide
  have passed : ∀ byte ∈ scheme, isSchemeByte byte = true := valid.bytes
  unfold getScheme?
  rw [List.takeWhile_append_of_pos passed, List.dropWhile_append_of_pos passed,
    List.takeWhile_cons_of_neg (by simp [colon]), List.dropWhile_cons_of_neg (by simp [colon])]
  simp [if_neg valid.ne_nil, valid.letter]

namespace URL

variable {codec} {url : URL User}

/-- A URL that can be requested: it has a scheme, a host and a rooted path. -/
structure Requestable (codec : AuthorityCodec User) (url : URL User) : Prop where
  scheme : SchemeText url.scheme
  opaqueText : url.opaqueText = []
  host : url.host ≠ []
  authority : ∃ text, codec.parse text = some (url.user, url.host)
  rooted : url.Rooted
  query : ∀ byte ∈ url.rawQuery, isControl byte = false ∧ byte ≠ 35
  fragment : url.fragment = []

theorem string_of_rooted (scheme : SchemeText url.scheme) (opaqueText : url.opaqueText = [])
    (host : url.host ≠ []) (rooted : url.Rooted) (fragment : url.fragment = []) :
    url.string codec = url.scheme ++ 58 :: 47 :: 47 ::
      (codec.text url.user url.host ++ (url.escapedPath ++ url.queryText)) := by
  have slash := rooted.head?_escapedPath
  have front : prologue codec url = url.scheme ++ 58 :: 47 :: 47 ::
      codec.text url.user url.host := by
    simp [prologue, scheme.ne_nil, host]
  simp [string, opaqueText, slash, fragment, front]

theorem Requestable.string_eq (requestable : url.Requestable codec) :
    url.string codec = url.scheme ++ 58 :: 47 :: 47 ::
      (codec.text url.user url.host ++ (url.escapedPath ++ url.queryText)) :=
  string_of_rooted requestable.scheme requestable.opaqueText requestable.host requestable.rooted
    requestable.fragment

variable {byte : UInt8} {text scheme : Text} {viaRequest : Bool}

theorem isControl_of_isPlain (plain : isPlain byte) : isControl byte = false := by
  simp only [isPlain, Bool.and_eq_true, Bool.not_eq_true'] at plain
  exact plain.1.1

theorem ne_of_isPlain (plain : isPlain byte) : byte ≠ 35 ∧ byte ≠ 63 := by
  simp only [isPlain, Bool.and_eq_true, bne_iff_ne] at plain
  exact ⟨plain.1.2, plain.2⟩

theorem queryText_bytes (requestable : url.Requestable codec) :
    ∀ byte ∈ url.queryText, isControl byte = false ∧ byte ≠ 35 := by
  intro byte member
  unfold queryText at member
  split at member
  · rcases List.mem_cons.mp member with rfl | inside
    · decide
    · exact requestable.query byte inside
  · cases member

theorem Requestable.string_bytes (lawful : codec.Lawful) (requestable : url.Requestable codec) :
    ∀ byte ∈ url.string codec, isControl byte = false ∧ byte ≠ 35 := by
  obtain ⟨text, parsed⟩ := requestable.authority
  intro byte member
  rw [requestable.string_eq] at member
  simp only [List.mem_append, List.mem_cons] at member
  have ofPlain (plain : isPlain byte) : isControl byte = false ∧ byte ≠ 35 :=
    ⟨isControl_of_isPlain plain, (ne_of_isPlain plain).1⟩
  rcases member with inScheme | rfl | rfl | rfl | inAuthority | inPath | inQuery
  · exact ofPlain (isPlain_of_schemeByte (requestable.scheme.bytes byte inScheme))
  · decide
  · decide
  · decide
  · exact ofPlain (lawful.clean text _ _ parsed byte inAuthority).1
  · exact ofPlain (isPlain_of_validEncoded (validEncoded_escapedPath url) inPath)
  · exact queryText_bytes requestable byte inQuery

theorem cut_queryText {front : Text} (alone : 63 ∉ front) (url : URL User) :
    cut 63 (front ++ url.queryText) =
      (front, if url.forceQuery ∨ url.rawQuery ≠ [] then some url.rawQuery else none) := by
  unfold queryText
  split
  · exact cut_append_cons alone url.rawQuery
  · rw [List.append_nil]
    exact cut_of_notMem alone

def front (url : URL User) : URL User where
  scheme := url.scheme
  user := url.user
  host := url.host
  forceQuery := url.forceQuery && url.rawQuery = []
  rawQuery := url.rawQuery

theorem front_query (url : URL User) :
    (if url.forceQuery ∨ url.rawQuery ≠ [] then some url.rawQuery else none).getD [] =
        url.rawQuery ∧
      decide ((if url.forceQuery ∨ url.rawQuery ≠ [] then some url.rawQuery else none) =
        some []) = url.front.forceQuery := by
  unfold front
  by_cases empty : url.rawQuery = []
  · cases forced : url.forceQuery with
    | true | false => simp [empty]
  · simp [empty]

theorem Requestable.parseText_string (lawful : codec.Lawful) (requestable : url.Requestable codec) :
    parseText codec false (url.string codec) = url.front.setPath url.escapedPath := by
  obtain ⟨text, parsed⟩ := requestable.authority
  have clean := lawful.clean text _ _ parsed
  have printable : (url.string codec).any isControl = false := by
    rw [List.any_eq_false]
    intro byte member
    simp [(requestable.string_bytes lawful byte member).1]
  have notStar : url.string codec ≠ [42] := by
    intro star
    have length := congrArg List.length star
    rw [requestable.string_eq] at length
    simp only [List.length_append, List.length_cons, List.length_nil] at length
    omega
  have queryAlone : (63 : UInt8) ∉
      47 :: 47 :: (codec.text url.user url.host ++ url.escapedPath) := by
    intro member
    simp only [List.mem_cons, List.mem_append] at member
    rcases member with same | same | inAuthority | inPath
    · cases same
    · cases same
    · exact (ne_of_isPlain (clean 63 inAuthority).1).2 rfl
    · exact (ne_of_isPlain (isPlain_of_validEncoded (validEncoded_escapedPath url) inPath)).2 rfl
  have shape : url.string codec = url.scheme ++ 58 :: (47 :: 47 ::
      (codec.text url.user url.host ++ url.escapedPath) ++ url.queryText) := by
    rw [requestable.string_eq]
    simp
  obtain ⟨_, slash⟩ := List.head?_eq_some_iff.mp requestable.rooted.head?_escapedPath
  have passed : ∀ byte ∈ codec.text url.user url.host, decide (byte ≠ 47) = true := by
    intro byte member
    rw [decide_eq_true_eq]
    exact (clean byte member).2
  have authority : (codec.text url.user url.host ++ url.escapedPath).takeWhile (· ≠ 47) =
      codec.text url.user url.host := by
    rw [List.takeWhile_append_of_pos passed, slash]
    simp
  have behind : (codec.text url.user url.host ++ url.escapedPath).dropWhile (· ≠ 47) =
      url.escapedPath := by
    rw [List.dropWhile_append_of_pos passed, slash]
    simp
  simp only [parseText, printable, Bool.false_eq_true, if_false, and_false, if_neg notStar]
  rw [shape, getScheme?_append requestable.scheme]
  simp only [Option.bind_some, cut_queryText queryAlone, requestable.scheme.lowered]
  rw [(front_query url).1, (front_query url).2]
  have scheme := requestable.scheme.ne_nil
  simp only [parseHierarchy, List.head?_cons, List.drop_succ_cons, List.drop_zero, authority,
    behind, lawful.round text _ _ parsed, Option.bind_some]
  simp [scheme, front]

theorem Requestable.parse_string (lawful : codec.Lawful) (requestable : url.Requestable codec) :
    ∃ next, parse codec (url.string codec) = some next ∧ next.Requestable codec ∧
      next.scheme = url.scheme ∧ next.path = url.path ∧ next.escapedPath = url.escapedPath ∧
      next.rawQuery = url.rawQuery := by
  have whole : cut 35 (url.string codec) = (url.string codec, none) :=
    cut_of_notMem fun member => (requestable.string_bytes lawful 35 member).2 rfl
  obtain ⟨rawPath, set, rooted, same⟩ := setPath_escapedPath requestable.rooted url.front
  refine ⟨{ url.front with path := url.path, rawPath }, ?_, ⟨requestable.scheme, rfl,
    requestable.host, requestable.authority, rooted, requestable.query, rfl⟩, rfl, rfl, same, rfl⟩
  simp [parse, whole, requestable.parseText_string lawful, set]

theorem unescape?_eq_nil (decoded : unescape? text = some []) : text = [] := by
  cases text with
  | nil => rfl
  | cons byte rest =>
    by_cases percent : byte = 37
    · subst percent
      match rest, decoded with
      | [], decoded | [_], decoded => cases decoded
      | high :: low :: more, decoded =>
        simp only [unescape?, if_true] at decoded
        split at decoded
        · obtain ⟨_, -, same⟩ := Option.map_eq_some_iff.mp decoded
          cases same
        · cases decoded
    · rw [unescape?_cons_kept percent] at decoded
      obtain ⟨_, -, same⟩ := Option.map_eq_some_iff.mp decoded
      cases same

theorem unescape?_concat {last : UInt8} (notPercent : last ≠ 37) (notHex : unhex? last = none) :
    ∀ {front path : Text}, unescape? (front ++ [last]) = some path → ∃ inner, path = inner ++ [last]
  | [], path, decoded => by
    rw [List.nil_append, unescape?_cons_kept notPercent] at decoded
    cases decoded
    exact ⟨[], rfl⟩
  | [first], path, decoded => by
    by_cases percent : first = 37
    · subst percent
      cases decoded
    · rw [List.cons_append, unescape?_cons_kept percent] at decoded
      obtain ⟨_, found, rfl⟩ := Option.map_eq_some_iff.mp decoded
      rw [List.nil_append, unescape?_cons_kept notPercent] at found
      cases found
      exact ⟨[first], rfl⟩
  | first :: high :: rest, path, decoded => by
    by_cases percent : first = 37
    · subst percent
      cases rest with
      | nil =>
        simp only [List.cons_append, List.nil_append, unescape?, if_true, notHex] at decoded
        split at decoded
        next same => cases same
        · cases decoded
      | cons =>
        simp only [List.cons_append, unescape?, if_true] at decoded
        split at decoded
        · obtain ⟨_, found, rfl⟩ := Option.map_eq_some_iff.mp decoded
          obtain ⟨inner, rfl⟩ := unescape?_concat notPercent notHex found
          exact ⟨_ :: inner, rfl⟩
        · cases decoded
    · rw [List.cons_append, unescape?_cons_kept percent] at decoded
      obtain ⟨_, found, rfl⟩ := Option.map_eq_some_iff.mp decoded
      obtain ⟨inner, rfl⟩ := unescape?_concat notPercent notHex found
      exact ⟨first :: inner, rfl⟩

/-- The path is empty or rooted, and the hint is one for it. -/
structure Anchored (url : URL User) : Prop where
  shape : url.path = [] ∧ url.rawPath = [] ∨ url.Rooted
  hint : url.rawPath ≠ [] → unescape? url.rawPath = some url.path

theorem setPath_anchored {other : URL User} (start : text = [] ∨ text.head? = some 47)
    (set : other.setPath text = some url) :
    url.Anchored ∧ url = { other with path := url.path, rawPath := url.rawPath } := by
  obtain ⟨_, decoded, rfl⟩ := Option.map_eq_some_iff.mp set
  refine ⟨⟨?_, fun hinted => ?_⟩, rfl⟩
  · rcases start with rfl | slash
    · cases decoded
      exact .inl ⟨rfl, rfl⟩
    · refine .inr ⟨?_, ?_⟩
      · obtain ⟨_, rfl⟩ := List.head?_eq_some_iff.mp slash
        rw [unescape?_cons_kept (by decide)] at decoded
        obtain ⟨_, -, rfl⟩ := Option.map_eq_some_iff.mp decoded
        rfl
      · dsimp only
        split
        · exact .inl rfl
        · exact .inr slash
  · dsimp only at hinted ⊢
    split at hinted
    · exact absurd rfl hinted
    next other => rw [if_neg other]; exact decoded

theorem parseHierarchy_cases {other : URL User} {rest : Text}
    (parsed : parseHierarchy codec viaRequest other rest = some url) :
    url = { other with opaqueText := rest } ∨
      (∃ text user host path, codec.parse text = some (user, host) ∧
        (path = [] ∨ path.head? = some 47) ∧ { other with user, host }.setPath path = some url) ∨
      ∃ omitHost, (viaRequest = true → rest.head? = some 47) ∧
        { other with omitHost }.setPath rest = some url := by
  unfold parseHierarchy at parsed
  split at parsed
  · cases parsed; exact .inl rfl
  split at parsed
  · cases parsed
  next request =>
    have rooted : viaRequest = true → rest.head? = some 47 := by
      intro via
      by_contra unrooted
      exact request ⟨unrooted, via⟩
    split at parsed
    · cases parsed
    split at parsed
    · obtain ⟨⟨user, host⟩, found, set⟩ := Option.bind_eq_some_iff.mp parsed
      refine .inr (.inl ⟨_, user, host, _, found, ?_, set⟩)
      exact dropWhile_ne 47 (rest.drop 2)
    · split at parsed
      · exact .inr (.inr ⟨true, rooted, parsed⟩)
      · exact .inr (.inr ⟨other.omitHost, rooted, parsed⟩)

structure Bare (text : Text) (url : URL User) : Prop where
  opaqueText : url.opaqueText = []
  user : url.user = none
  host : url.host = []
  path : url.path = []
  rawPath : url.rawPath = []
  query : ∀ byte ∈ url.rawQuery, byte ∈ text

theorem mem_of_mem_cut {separator : UInt8}
    (member : byte ∈ (cut separator text).2.getD []) : byte ∈ text := by
  unfold cut at member
  cases behind : text.dropWhile fun byte => decide (byte ≠ separator) with
  | nil =>
    rw [behind] at member
    cases member
  | cons =>
    rw [behind] at member
    have inside : byte ∈ text.dropWhile fun byte => decide (byte ≠ separator) := by
      rw [behind]
      exact List.mem_cons_of_mem _ member
    exact (List.dropWhile_sublist _).mem inside

theorem getScheme?_suffix {rest : Text} (found : getScheme? text = some (scheme, rest))
    (member : byte ∈ rest) : byte ∈ text := by
  unfold getScheme? at found
  dsimp only at found
  repeat' split at found
  all_goals cases found
  next tail behind =>
    have inside : byte ∈ text.dropWhile isSchemeByte := by
      rw [behind]
      exact List.mem_cons_of_mem _ member
    exact (List.dropWhile_sublist _).mem inside
  next tail behind => exact member
  exact member

theorem parseText_cases (parsed : parseText codec viaRequest text = some url) :
    (∀ byte ∈ text, isControl byte = false) ∧ (url = { path := [42] } ∨
        ∃ other rest, Bare text other ∧ parseHierarchy codec viaRequest other rest = some url) := by
  unfold parseText at parsed
  split at parsed
  · cases parsed
  next printable =>
    refine ⟨fun byte member => ?_, ?_⟩
    · simp only [Bool.not_eq_true, List.any_eq_false] at printable
      simpa using printable byte member
    · repeat' split at parsed
      any_goals cases parsed
      · exact .inl rfl
      obtain ⟨⟨_, _⟩, found, hierarchy⟩ := Option.bind_eq_some_iff.mp parsed
      refine .inr ⟨_, _, ⟨rfl, rfl, rfl, rfl, rfl, fun byte member => ?_⟩, hierarchy⟩
      exact getScheme?_suffix found (mem_of_mem_cut member)

/-- The query of a parsed URL is part of its text, its path is anchored if it was a request or names
a host, but for the asterisk, and its authority was parsed. -/
theorem parseText_spec (parsed : parseText codec viaRequest text = some url) :
    (∀ byte ∈ url.rawQuery, byte ∈ text ∧ isControl byte = false) ∧
      (viaRequest = true ∨ url.host ≠ [] → url = { path := [42] } ∨ url.Anchored) ∧
      (url.host ≠ [] → url.opaqueText = [] ∧
        ∃ text, codec.parse text = some (url.user, url.host)) := by
  obtain ⟨printable, rfl | ⟨other, _, bare, hierarchy⟩⟩ := parseText_cases parsed
  · exact ⟨nofun, fun _ => .inl rfl, fun host => absurd rfl host⟩
  have inText : ∀ byte ∈ other.rawQuery, byte ∈ text ∧ isControl byte = false :=
    fun byte member => ⟨bare.query byte member, printable byte (bare.query byte member)⟩
  rcases parseHierarchy_cases hierarchy with rfl | ⟨authority, _, host, path, found, start,
    set⟩ | ⟨omitHost, start, set⟩
  · exact ⟨inText, fun _ => .inr ⟨.inl ⟨bare.path, bare.rawPath⟩,
      fun hinted => absurd bare.rawPath hinted⟩, fun host => absurd bare.host host⟩
  · obtain ⟨anchored, same⟩ := setPath_anchored start set
    rw [same]
    refine ⟨inText, fun _ => ?_, fun _ => ⟨bare.opaqueText, authority, found⟩⟩
    rw [← same]
    exact .inr anchored
  · obtain ⟨_, -, rfl⟩ := Option.map_eq_some_iff.mp set
    refine ⟨inText, fun rooted => ?_, fun host => absurd bare.host host⟩
    have via : viaRequest = true := rooted.resolve_right fun host => host bare.host
    exact .inr (setPath_anchored (.inr (start via)) set).1

theorem parse_eq_some (parsed : parse codec text = some url) :
    ∃ plain, parseText codec false (cut 35 text).1 = some plain ∧
      url = { plain with fragment := url.fragment, rawFragment := url.rawFragment } := by
  obtain ⟨plain, found, rest⟩ := Option.bind_eq_some_iff.mp parsed
  refine ⟨plain, found, ?_⟩
  split at rest
  · cases rest; rfl
  · cases rest; rfl
  · obtain ⟨_, -, rfl⟩ := Option.map_eq_some_iff.mp rest
    rfl

theorem notMem_rawQuery_of_parse (parsed : parse codec text = some url) : 35 ∉ url.rawQuery := by
  obtain ⟨_, found, same⟩ := parse_eq_some parsed
  intro member
  rw [same] at member
  exact notMem_cut 35 text ((parseText_spec found).1 35 member).1

theorem parse_host (parsed : parse codec text = some url) (host : url.host ≠ []) :
    url.Anchored ∧ url.opaqueText = [] ∧ ∃ text, codec.parse text = some (url.user, url.host) := by
  obtain ⟨plain, found, same⟩ := parse_eq_some parsed
  obtain ⟨-, anchored, authority⟩ := parseText_spec found
  have plainHost : plain.host ≠ [] := by
    rwa [same] at host
  rcases anchored (.inr plainHost) with star | kept
  · rw [star] at plainHost
    exact absurd rfl plainHost
  · rw [same]
    exact ⟨⟨kept.shape.imp_right fun rooted => ⟨rooted.path, rooted.rawPath⟩, kept.hint⟩,
      authority plainHost⟩

theorem letter_lower :
    ((lower scheme).head?.map isLetter).getD false = (scheme.head?.map isLetter).getD false := by
  cases scheme with
  | nil => rfl
  | cons byte =>
    have checked : ∀ value : Fin 256, isLetter (if 65 ≤ UInt8.ofFin value ∧
        UInt8.ofFin value ≤ 90 then UInt8.ofFin value + 32 else UInt8.ofFin value) =
        isLetter (UInt8.ofFin value) := by decide +kernel
    exact checked byte.toFin

theorem schemeText_lower (letter : (scheme.head?.map isLetter).getD false)
    (bytes : ∀ byte ∈ scheme, isSchemeByte byte = true) : SchemeText (lower scheme) := by
  have checked : ∀ value : Fin 256, (isSchemeByte (UInt8.ofFin value) = true →
        isSchemeByte (if 65 ≤ UInt8.ofFin value ∧ UInt8.ofFin value ≤ 90
          then UInt8.ofFin value + 32 else UInt8.ofFin value) = true) ∧
      ¬ (65 ≤ (if 65 ≤ UInt8.ofFin value ∧ UInt8.ofFin value ≤ 90
          then UInt8.ofFin value + 32 else UInt8.ofFin value) ∧
        (if 65 ≤ UInt8.ofFin value ∧ UInt8.ofFin value ≤ 90
          then UInt8.ofFin value + 32 else UInt8.ofFin value) ≤ 90) := by decide +kernel
  refine ⟨letter_lower.trans letter, ?_, ?_⟩
  · intro byte member
    obtain ⟨original, inside, rfl⟩ := List.mem_map.mp member
    exact (checked original.toFin).1 (bytes original inside)
  · unfold lower
    rw [List.map_map]
    apply List.map_congr_left
    intro byte _
    exact if_neg (checked byte.toFin).2

theorem parse_getScheme (parsed : parse codec text = some url)
    (present : url.scheme ≠ []) : ∃ scheme rest, (cut 35 text).1 = scheme ++ rest ∧
      url.scheme = lower scheme ∧ (scheme.head?.map isLetter).getD false = true ∧
        ∀ byte ∈ scheme, isSchemeByte byte = true := by
  obtain ⟨plain, found, same⟩ := parse_eq_some parsed
  rw [same] at present ⊢
  unfold parseText at found
  repeat' split at found
  any_goals cases found
  · exact absurd rfl present
  obtain ⟨⟨scheme, _⟩, taken, hierarchy⟩ := Option.bind_eq_some_iff.mp found
  have kept : plain.scheme = lower scheme := by
    rcases parseHierarchy_cases hierarchy with rfl | ⟨_, _, _, _, _, _, set⟩ | ⟨_, _, set⟩
    · rfl
    · obtain ⟨_, -, rfl⟩ := Option.map_eq_some_iff.mp set
      rfl
    · obtain ⟨_, -, rfl⟩ := Option.map_eq_some_iff.mp set
      rfl
  simp only [kept] at present ⊢
  unfold getScheme? at taken
  dsimp only at taken
  split at taken
  · split at taken
    · cases taken
    split at taken
    next letter =>
      cases taken
      exact ⟨_, _, List.takeWhile_append_dropWhile.symm, rfl, letter,
        fun byte member => List.mem_takeWhile_imp member⟩
    · cases taken
      exact absurd rfl present
  · cases taken
    exact absurd rfl present

theorem parse_scheme (parsed : parse codec text = some url)
    (present : url.scheme ≠ []) : SchemeText url.scheme := by
  obtain ⟨_, _, -, same, letter, bytes⟩ := parse_getScheme parsed present
  rw [same]
  exact schemeText_lower letter bytes

theorem parse_letter (parsed : parse codec text = some url)
    (present : url.scheme ≠ []) : ∃ first rest, text = first :: rest ∧ isLetter first = true := by
  obtain ⟨scheme, _, front, -, letter, -⟩ := parse_getScheme parsed present
  cases scheme with
  | nil => cases letter
  | cons first =>
    obtain ⟨tail, whole⟩ : (cut 35 text).1 <+: text := List.takeWhile_prefix _
    rw [front] at whole
    exact ⟨first, _, whole.symm, letter⟩

/-- A printed URL leads to the host that it was printed for, whatever its query is. -/
theorem parse_string_authority (lawful : codec.Lawful) {next : URL User}
    (scheme : SchemeText url.scheme) (opaqueText : url.opaqueText = []) (host : url.host ≠ [])
    (authority : ∃ text, codec.parse text = some (url.user, url.host)) (rooted : url.Rooted)
    (fragment : url.fragment = []) (parsed : parse codec (url.string codec) = some next) :
    next.scheme = url.scheme ∧ next.host = url.host := by
  -- the query up to the first number sign, behind the question mark that is printed for it
  let short : URL User := { url with
    rawQuery := (cut 35 url.rawQuery).1
    forceQuery := url.forceQuery || url.rawQuery ≠ [] }
  have shortRooted : short.Rooted := ⟨rooted.path, rooted.rawPath⟩
  have printed := @string_of_rooted User codec url scheme opaqueText host rooted fragment
  have shortPrinted : short.string codec = url.scheme ++ 58 :: 47 :: 47 ::
      (codec.text url.user url.host ++ (url.escapedPath ++ short.queryText)) :=
    string_of_rooted scheme opaqueText host shortRooted fragment
  have shortQuery : (cut 35 url.queryText).1 = short.queryText := by
    unfold queryText
    by_cases empty : url.rawQuery = []
    · cases forced : url.forceQuery <;> simp [short, empty, forced, cut]
    · simp [short, empty, cut]
  obtain ⟨_, found, same⟩ := parse_eq_some parsed
  obtain ⟨text, authorityParsed⟩ := authority
  have alone : ∀ byte ∈ url.scheme ++ 58 :: 47 :: 47 ::
      (codec.text url.user url.host ++ url.escapedPath), byte ≠ 35 := by
    intro byte member
    simp only [List.mem_append, List.mem_cons] at member
    rcases member with inScheme | rfl | rfl | rfl | inAuthority | inPath
    · exact (ne_of_isPlain (isPlain_of_schemeByte (scheme.bytes byte inScheme))).1
    · decide
    · decide
    · decide
    · exact (ne_of_isPlain (lawful.clean text _ _ authorityParsed byte inAuthority).1).1
    · exact (ne_of_isPlain (isPlain_of_validEncoded (validEncoded_escapedPath url) inPath)).1
  have cutShort : (cut 35 (url.string codec)).1 = short.string codec := by
    have passed : ∀ byte ∈ url.scheme ++ 58 :: 47 :: 47 ::
        (codec.text url.user url.host ++ url.escapedPath), decide (byte ≠ 35) = true :=
      fun byte member => decide_eq_true (alone byte member)
    have shape (query : Text) : url.scheme ++ 58 :: 47 :: 47 ::
        (codec.text url.user url.host ++ (url.escapedPath ++ query)) =
        (url.scheme ++ 58 :: 47 :: 47 ::
          (codec.text url.user url.host ++ url.escapedPath)) ++ query := by simp
    rw [printed, shortPrinted, shape, shape, ← shortQuery]
    unfold cut
    rw [List.takeWhile_append_of_pos passed]
  rw [cutShort] at found
  have printable : ∀ byte ∈ short.rawQuery, isControl byte = false ∧ byte ≠ 35 := by
    intro byte member
    have notSign : byte ≠ 35 := by
      rintro rfl
      exact notMem_cut 35 url.rawQuery member
    have inText : byte ∈ short.string codec := by
      rw [shortPrinted]
      have inQuery : byte ∈ short.queryText := by
        have present : short.rawQuery ≠ [] := List.ne_nil_of_mem member
        simp [queryText, present, member]
      simp [inQuery]
    exact ⟨(parseText_cases found).1 byte inText, notSign⟩
  have requestable : short.Requestable codec :=
    ⟨scheme, opaqueText, host, ⟨text, authorityParsed⟩, shortRooted, printable, fragment⟩
  rw [requestable.parseText_string lawful] at found
  obtain ⟨_, -, rfl⟩ := Option.map_eq_some_iff.mp found
  rw [same]
  exact ⟨rfl, rfl⟩

end URL

end Url
