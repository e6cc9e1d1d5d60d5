import Mathlib.Data.Set.Finite.Basic
import Porthook.Protocol.Encode
import Porthook.Protocol.Text

/-!
# Digests and random identifiers

How the control plane stores and compares secrets.  SHA-256 is a parameter; where
a result needs that two secrets with one digest are the same secret, it says so.
-/

namespace Porthook.ControlPlane

open Protocol Base64

def hexEncode (data : Bytes) : Bytes :=
  data.flatMap fun byte => [hexDigit (byte.toNat / 16), hexDigit (byte.toNat % 16)]

theorem hexDigit_inj {first second : Nat} (firstSmall : first < 16) (secondSmall : second < 16)
    (same : hexDigit first = hexDigit second) : first = second := by
  have checked : ∀ m n : Fin 16, hexDigit m = hexDigit n → m = n := by decide
  exact congrArg Fin.val (checked ⟨first, firstSmall⟩ ⟨second, secondSmall⟩ same)

theorem hexEncode_injective : Function.Injective hexEncode := by
  intro first second same
  induction first generalizing second with
  | nil =>
    cases second with
    | nil => rfl
    | cons => simp [hexEncode] at same
  | cons byte _ ih =>
    cases second with
    | nil => simp [hexEncode] at same
    | cons other =>
      simp only [hexEncode, List.flatMap_cons, List.cons_append, List.nil_append,
        List.cons.injEq] at same
      obtain ⟨high, low, later⟩ := same
      have highSame := hexDigit_inj (by have := byte.toNat_lt; omega)
        (by have := other.toNat_lt; omega) high
      have lowSame := hexDigit_inj (by omega) (by omega) low
      have bytes : byte = other := UInt8.toNat_inj.mp (by omega)
      rw [bytes, ih later]

section Digest

variable (sha256 : Bytes → Bytes)

def sha256Hex (secret : Bytes) : Bytes := hexEncode (sha256 secret)

def hashToken (token : Bytes) : Bytes := sha256Hex sha256 token

def hashSecret (secret : Bytes) : Bytes := sha256Hex sha256 secret

def secretEqual (got want : Bytes) : Bool := got ≠ [] && want ≠ [] && sha256 got == sha256 want

variable {sha256}

theorem sha256Hex_injective (injective : Function.Injective sha256) :
    Function.Injective (sha256Hex sha256) :=
  hexEncode_injective.comp injective

theorem secretEqual_iff (injective : Function.Injective sha256) {got want : Bytes} :
    secretEqual sha256 got want = true ↔ got ≠ [] ∧ got = want := by
  constructor
  · intro equal
    simp only [secretEqual, Bool.and_eq_true, decide_eq_true_eq, beq_iff_eq] at equal
    exact ⟨equal.1.1, injective equal.2⟩
  · rintro ⟨present, rfl⟩
    simp [secretEqual, present]

end Digest

/-- `randomSecret`: a fixed beginning and the encoded bytes of `rand.Read`, whose
error is `none`. -/
def randomSecret (head : Bytes) (data : Option Bytes) : Option Bytes :=
  data.map fun bytes => head ++ rawURLEncode bytes

theorem graphic_randomSecret {head secret : Bytes} {data : Option Bytes}
    (graphic : ∀ byte ∈ head, Graphic byte) (drawn : randomSecret head data = some secret) :
    ∀ byte ∈ secret, Graphic byte := by
  obtain ⟨bytes, -, rfl⟩ := Option.map_eq_some_iff.mp drawn
  intro byte member
  rcases List.mem_append.mp member with fixed | encoded
  · exact graphic byte fixed
  · exact graphic_rawURLEncode bytes byte encoded

theorem exists_fresh_secret (head : Bytes) {index : Bytes → Bytes}
    (injective : Function.Injective index) (taken : List Bytes) :
    ∃ data secret, randomSecret head (some data) = some secret ∧ index secret ∉ taken := by
  have distinct : Function.Injective fun count : Nat =>
      index (head ++ rawURLEncode (List.replicate count 0)) := by
    intro first second same
    have lengths := congrArg List.length (List.append_cancel_left (injective same))
    simp only [length_rawURLEncode, List.length_replicate] at lengths
    omega
  obtain ⟨-, ⟨count, rfl⟩, free⟩ :=
    (Set.infinite_range_of_injective distinct).exists_notMem_finset taken.toFinset
  exact ⟨List.replicate count 0, _, rfl, fun member => free (List.mem_toFinset.mpr member)⟩

theorem trimSpace_randomSecret {head secret : Bytes} {data : Option Bytes}
    (graphic : ∀ byte ∈ head, Graphic byte) (drawn : randomSecret head data = some secret) :
    trimSpace secret = secret :=
  trimSpace_graphic (graphic_randomSecret graphic drawn)

end Porthook.ControlPlane
