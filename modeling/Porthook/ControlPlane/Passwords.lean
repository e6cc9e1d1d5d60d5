import Porthook.ControlPlane.Access

/-!
# Password hashes

`HashPassword` writes its parameters, the salt and the key with `fmt.Sprintf`; `parseArgon2idHash`
reads them back, and that includes a hash of no rounds or of no threads, on which `argon2.IDKey`
panics.
-/

namespace Porthook.ControlPlane

open Protocol Base64

/-- `SkipSpace`, for which a newline is an error.  There are at most as many spaces as
bytes. -/
def skipSpace? : Nat → Bytes → Option Bytes
  | 0, text => some text
  | fuel + 1, text =>
    if text.head? = some 10 then none
    else
      match dropSpace? text with
      | some rest => skipSpace? fuel rest
      | none => some text

def isDigit (byte : UInt8) : Bool := (digit? byte).isSome

/-- `%d` into an `int`.  Nothing is read after it. -/
def scanInt? (text : Bytes) : Option Int := do
  let text ← skipSpace? text.length text
  match text with
  | 45 :: text => parseInt64? (45 :: text.takeWhile isDigit)
  | 43 :: text => parseInt64? (43 :: text.takeWhile isDigit)
  | text => parseInt64? (text.takeWhile isDigit)

/-- `%d` into an unsigned integer, and what is left of the text. -/
def scanUint? (bits : Nat) (text : Bytes) : Option (Nat × Bytes) := do
  let text ← skipSpace? text.length text
  let value ← parseNat? (text.takeWhile isDigit)
  if value < 2 ^ bits then some (value, text.dropWhile isDigit) else none

def scanVersion? (field : Bytes) : Option Int := (cutPrefix? field (ascii "v=")).bind scanInt?

/-- `Sscanf(field, "m=%d,t=%d,p=%d", &m, &t, &p)`; what follows is not looked at. -/
def scanParameters? (field : Bytes) : Option (UInt32 × UInt32 × UInt8) := do
  let field ← cutPrefix? field (ascii "m=")
  let (m, field) ← scanUint? 32 field
  let field ← cutPrefix? field (ascii ",t=")
  let (t, field) ← scanUint? 32 field
  let field ← cutPrefix? field (ascii ",p=")
  let (p, _) ← scanUint? 8 field
  return (m.toUInt32, t.toUInt32, p.toUInt8)

def argon2Version : Int := 19
def argon2idMemoryKiB : UInt32 := 19 * 1024
def argon2idIterations : UInt32 := 2
def argon2idParallel : UInt8 := 1
def argon2idSaltBytes : Nat := 16
def argon2idKeyBytes : UInt32 := 32

structure Argon2idHash where
  memoryKiB : UInt32
  iterations : UInt32
  parallel : UInt8
  salt : Bytes
  key : Bytes

def Argon2idHash.text (hash : Argon2idHash) : Bytes :=
  List.intercalate [36] [ascii "v=" ++ decimal argon2Version,
      ascii "m=" ++ decimal hash.memoryKiB.toNat ++ ascii ",t=" ++
        decimal hash.iterations.toNat ++ ascii ",p=" ++ decimal hash.parallel.toNat,
      rawStdEncode hash.salt, rawStdEncode hash.key]

/-- `ErrPasswordHashMalformed`, alone or with what it is wrapped around. -/
inductive PasswordHashError where
  | malformed
  | scan
  | unsupportedVersion (version : Int)
  | encoding
  deriving DecidableEq

def parseArgon2idHash (hash : Bytes) : Except PasswordHashError Argon2idHash :=
  match cutPrefix? hash argon2idPrefix with
  | none => .error .malformed
  | some rest =>
    match splitByte 36 rest with
    | [version, parameters, salt, key] =>
      match scanVersion? version with
      | none => .error .scan
      | some version =>
        if version ≠ argon2Version then .error (.unsupportedVersion version)
        else
          match scanParameters? parameters, rawStdDecode? salt, rawStdDecode? key with
          | none, _, _ => .error .scan
          | _, none, _ | _, _, none => .error .encoding
          | some (m, t, p), some salt, some key =>
            if salt = [] ∨ key = [] then .error .malformed else .ok ⟨m, t, p, salt, key⟩
    | _ => .error .malformed

/-- The package `argon2`: the key that is derived from a password, where one is. -/
structure Argon2 where
  deriveKey (password salt : Bytes) (time memory : UInt32) (threads : UInt8)
    (keyLen : UInt32) : Bytes
  length_deriveKey (password salt : Bytes) (time memory : UInt32) (threads : UInt8)
    (keyLen : UInt32) :
    (deriveKey password salt time memory threads keyLen).length = keyLen.toNat

/-- `argon2.IDKey`; `none` is its panic. -/
def Argon2.idKey (argon2 : Argon2) (password salt : Bytes) (time memory : UInt32)
    (threads : UInt8) (keyLen : UInt32) : Option Bytes :=
  if time < 1 then none
  else if threads < 1 then none
  else some (argon2.deriveKey password salt time memory threads keyLen)

inductive Verification where
  | failed (err : PasswordHashError)
  | compared (same : Bool)
  | panicked
  deriving DecidableEq

def Argon2.verifyPassword (argon2 : Argon2) (hash password : Bytes) : Verification :=
  match parseArgon2idHash hash with
  | .error err => .failed err
  | .ok parsed =>
    match argon2.idKey password parsed.salt parsed.iterations parsed.memoryKiB parsed.parallel
      parsed.key.length.toUInt32 with
    | none => .panicked
    | some candidate => .compared (candidate = parsed.key)

def Argon2.hashing (argon2 : Argon2) (sha256 : Bytes → Bytes) : Hashing where
  sha256
  derived salt password :=
    Argon2idHash.text ⟨argon2idMemoryKiB, argon2idIterations, argon2idParallel, salt,
      argon2.deriveKey password salt argon2idIterations argon2idMemoryKiB argon2idParallel
        argon2idKeyBytes⟩
  verifyPassword hash password := argon2.verifyPassword hash password = .compared true

theorem isDigit_of_foldlM {text : Bytes} {start value : Nat}
    (read : text.foldlM (fun value byte => (digit? byte).map fun digit => 10 * value + digit)
      start = some value) : ∀ byte ∈ text, isDigit byte := by
  induction text generalizing start with
  | nil => simp
  | cons _ _ ih =>
    rw [List.foldlM_cons, Option.bind_eq_bind, Option.bind_eq_some_iff] at read
    obtain ⟨_, digit, later⟩ := read
    obtain ⟨digit, found, -⟩ := Option.map_eq_some_iff.mp digit
    refine List.forall_mem_cons.mpr ⟨?_, ih later⟩
    rw [isDigit, found]
    rfl

theorem isDigit_decimal (n : Nat) : ∀ byte ∈ decimal n, isDigit byte := by
  have read := parseNat?_decimal n
  unfold parseNat? at read
  split at read
  · cases read
  · exact isDigit_of_foldlM read

theorem graphic_of_isDigit {byte : UInt8} (digit : isDigit byte) : Graphic byte := by
  unfold isDigit digit? at digit
  split at digit
  next bounds =>
    exact ⟨UInt8.le_trans (by decide) bounds.1, UInt8.le_trans bounds.2 (by decide)⟩
  next => cases digit

theorem skipSpace?_graphic {byte : UInt8} (graphic : Graphic byte) (rest : Bytes) (fuel : Nat) :
    skipSpace? fuel (byte :: rest) = some (byte :: rest) := by
  cases fuel with
  | zero => rfl
  | succ =>
    have inLine : byte ≠ 10 := by
      rintro rfl
      exact absurd graphic.1 (by decide)
    simp [skipSpace?, inLine, dropSpace?_graphic graphic]

theorem scanUint?_decimal {bits n : Nat} (small : n < 2 ^ bits) {rest : Bytes}
    (ends : ∀ byte ∈ rest.head?, ¬ isDigit byte) :
    scanUint? bits (decimal n ++ rest) = some (n, rest) := by
  have digits := isDigit_decimal n
  have skipped : skipSpace? (decimal n ++ rest).length (decimal n ++ rest) =
      some (decimal n ++ rest) := by
    cases written : decimal n with
    | nil => exact absurd (written ▸ parseNat?_decimal n) (by simp [parseNat?])
    | cons byte =>
      exact skipSpace?_graphic (graphic_of_isDigit (digits byte (by simp [written]))) _ _
  have taken : rest.takeWhile isDigit = [] ∧ rest.dropWhile isDigit = rest := by
    cases rest with
    | nil => exact ⟨rfl, rfl⟩
    | cons byte => simp [ends byte rfl]
  rw [scanUint?, skipped]
  simp [List.takeWhile_append_of_pos digits, List.dropWhile_append_of_pos digits, taken,
    parseNat?_decimal, small]

theorem scanUint?_comma {bits n : Nat} (small : n < 2 ^ bits) {name : Bytes}
    (comma : name.head? = some 44) (rest : Bytes) :
    scanUint? bits (decimal n ++ (name ++ rest)) = some (n, name ++ rest) := by
  refine scanUint?_decimal small fun byte first => ?_
  rw [List.head?_append, comma] at first
  cases first
  decide

theorem cutPrefix?_append (head rest : Bytes) : cutPrefix? (head ++ rest) head = some rest := by
  simp [cutPrefix?]

theorem scanParameters?_text (m t : UInt32) (p : UInt8) :
    scanParameters? (ascii "m=" ++ decimal m.toNat ++ ascii ",t=" ++ decimal t.toNat ++
      ascii ",p=" ++ decimal p.toNat) = some (m, t, p) := by
  have rounds : (ascii ",t=").head? = some 44 := rfl
  have threads : (ascii ",p=").head? = some 44 := rfl
  have last : scanUint? 8 (decimal p.toNat ++ []) = some (p.toNat, []) :=
    scanUint?_decimal p.toNat_lt (by simp)
  rw [List.append_nil] at last
  simp only [scanParameters?, List.append_assoc, cutPrefix?_append, Option.bind_eq_bind,
    Option.bind_some, scanUint?_comma m.toNat_lt rounds, scanUint?_comma t.toNat_lt threads,
    last, Option.pure_def]
  simp

theorem parseArgon2idHash_text {hash : Argon2idHash} (salted : hash.salt ≠ [])
    (keyed : hash.key ≠ []) : parseArgon2idHash (argon2idPrefix ++ hash.text) = .ok hash := by
  have version : scanVersion? (ascii "v=" ++ decimal argon2Version) = some argon2Version := by
    decide
  have plain : ∀ data, 36 ∉ rawStdEncode data := fun data dollar =>
    rawStdEncode_all (p := (· ≠ 36)) (by decide) data 36 dollar rfl
  have digits : ∀ n : Nat, 36 ∉ decimal n := fun n dollar =>
    absurd (isDigit_decimal n 36 dollar) (by decide)
  have fields : splitByte 36 hash.text = [ascii "v=" ++ decimal argon2Version,
        ascii "m=" ++ decimal hash.memoryKiB.toNat ++ ascii ",t=" ++
          decimal hash.iterations.toNat ++ ascii ",p=" ++ decimal hash.parallel.toNat,
        rawStdEncode hash.salt, rawStdEncode hash.key] := by
    refine List.splitOn_intercalate 36 ?_ (by simp)
    have first : 36 ∉ ascii "v=" ++ decimal argon2Version := by decide
    have names : 36 ∉ ascii "m=" ∧ 36 ∉ ascii ",t=" ∧ 36 ∉ ascii ",p=" := by decide
    simp [first, plain, names, digits]
  rw [parseArgon2idHash, cutPrefix?_append]
  simp only [fields, version, scanParameters?_text, rawStdDecode?_rawStdEncode]
  simp [salted, keyed]

theorem Argon2.idKey_eq_none_iff {argon2 : Argon2} {password salt : Bytes}
    {time memory keyLen : UInt32} {threads : UInt8} :
    argon2.idKey password salt time memory threads keyLen = none ↔ time < 1 ∨ threads < 1 := by
  unfold Argon2.idKey
  split
  · simp [*]
  · split <;> simp [*]

theorem Argon2.verifyPassword_panicked_iff {argon2 : Argon2} {hash password : Bytes} :
    argon2.verifyPassword hash password = .panicked ↔
      ∃ parsed, parseArgon2idHash hash = .ok parsed ∧
        (parsed.iterations < 1 ∨ parsed.parallel < 1) := by
  unfold Argon2.verifyPassword
  cases read : parseArgon2idHash hash with
  | error => simp
  | ok parsed =>
    simp only [Except.ok.injEq, exists_eq_left']
    generalize derived : argon2.idKey password parsed.salt _ _ _ _ = candidate
    rw [← Argon2.idKey_eq_none_iff, derived]
    cases candidate <;> simp

theorem Argon2.verifyPassword_hashed (argon2 : Argon2) (sha256 : Bytes → Bytes)
    (password : Bytes) {salt : Bytes} (salted : salt ≠ []) :
    argon2.verifyPassword
      (argon2idPrefix ++ (argon2.hashing sha256).derived salt password) password =
      .compared true := by
  have long := argon2.length_deriveKey password salt argon2idIterations argon2idMemoryKiB
    argon2idParallel argon2idKeyBytes
  have keyed : argon2.deriveKey password salt argon2idIterations argon2idMemoryKiB
      argon2idParallel argon2idKeyBytes ≠ [] := by
    intro empty
    rw [empty] at long
    cases long
  rw [Argon2.hashing, Argon2.verifyPassword, parseArgon2idHash_text salted keyed]
  have whole : argon2idKeyBytes.toNat.toUInt32 = argon2idKeyBytes := rfl
  have runs : ¬ argon2idIterations < 1 ∧ ¬ argon2idParallel < 1 := by decide
  simp only [long, whole, Argon2.idKey, if_neg runs.1, if_neg runs.2, decide_true]

/-- What is written is read back as it was, a hashed password verifies, and a hash can be
verified exactly if it is not one of no rounds or of no threads. -/
theorem passwordHash_safe_iff (argon2 : Argon2) (sha256 : Bytes → Bytes) :
    (∀ hash : Argon2idHash, hash.salt ≠ [] → hash.key ≠ [] →
      parseArgon2idHash (argon2idPrefix ++ hash.text) = .ok hash) ∧
    (∀ password salt, salt.length = argon2idSaltBytes →
      ∃ hash, hashPassword (argon2.hashing sha256) password (some salt) = some hash ∧
        argon2.verifyPassword hash password = .compared true) ∧
    ∀ hash, (∀ password, argon2.verifyPassword hash password ≠ .panicked) ↔
      ∀ parsed, parseArgon2idHash hash = .ok parsed →
        1 ≤ parsed.iterations ∧ 1 ≤ parsed.parallel := by
  refine ⟨fun hash salted keyed => parseArgon2idHash_text salted keyed, ?_, fun hash => ?_⟩
  · intro password salt length
    have salted : salt ≠ [] := by
      rintro rfl
      cases length
    exact ⟨_, rfl, argon2.verifyPassword_hashed sha256 password salted⟩
  · simp only [ne_eq, Argon2.verifyPassword_panicked_iff, forall_const, not_exists, not_and,
      not_or, UInt8.not_lt, UInt32.not_lt]

def zeroKeys : Argon2 where
  deriveKey _ _ _ _ _ keyLen := List.replicate keyLen.toNat 0
  length_deriveKey _ _ _ _ _ _ := List.length_replicate

/-- A stored hash of no rounds is well formed. -/
theorem passwordHash_panics :
    zeroKeys.verifyPassword (ascii "$argon2id$v=19$m=19456,t=0,p=1$AA$AA") (ascii "secret") =
      .panicked := by decide

end Porthook.ControlPlane
