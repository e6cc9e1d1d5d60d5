import Mathlib.Data.List.Basic

/-!
# Unpadded base64

`base64.RawURLEncoding`: three bytes become four characters, and one or two bytes at
the end become two or three.  The decoder skips line ends and ignores the bits of the
last character that stand for nothing; it reads back what the encoder writes.
-/

namespace Base64

def urlDigit (value : Nat) : UInt8 :=
  if value < 26 then (65 + value).toUInt8
  else if value < 52 then (71 + value).toUInt8
  else if value < 62 then (value - 4).toUInt8
  else if value = 62 then 45
  else 95

def rawURLEncode : List UInt8 → List UInt8
  | [] => []
  | [a] => [urlDigit (a.toNat / 4), urlDigit (a.toNat % 4 * 16)]
  | [a, b] =>
    [urlDigit (a.toNat / 4), urlDigit (a.toNat % 4 * 16 + b.toNat / 16),
      urlDigit (b.toNat % 16 * 4)]
  | a :: b :: c :: rest =>
    [urlDigit (a.toNat / 4), urlDigit (a.toNat % 4 * 16 + b.toNat / 16),
      urlDigit (b.toNat % 16 * 4 + c.toNat / 64), urlDigit (c.toNat % 64)] ++ rawURLEncode rest

example : rawURLEncode [0xfb, 0xff, 104, 105] = [45, 95, 57, 111, 97, 81] := by decide

theorem length_rawURLEncode (data : List UInt8) :
    (rawURLEncode data).length = (4 * data.length + 2) / 3 := by
  induction data using rawURLEncode.induct with
  | case1 => rfl
  | case2 | case3 => simp [rawURLEncode]
  | case4 _ _ _ _ ih =>
    simp only [rawURLEncode, List.length_append, List.length_cons, List.length_nil, ih]
    omega

/-- Neither a space nor a control character nor beyond ASCII. -/
def Graphic (byte : UInt8) : Prop := 33 ≤ byte ∧ byte ≤ 126

instance (byte : UInt8) : Decidable (Graphic byte) := inferInstanceAs (Decidable (_ ∧ _))

variable {p : UInt8 → Prop}

theorem urlDigit_all (checked : ∀ digit : Fin 64, p (urlDigit digit))
    (value : Nat) : p (urlDigit value) := by
  by_cases small : value < 64
  · exact checked ⟨value, small⟩
  · have last : urlDigit value = urlDigit 63 := by
      unfold urlDigit
      rw [if_neg (by omega), if_neg (by omega), if_neg (by omega), if_neg (by omega)]
      rfl
    rw [last]
    exact checked 63

theorem rawURLEncode_all (checked : ∀ digit : Fin 64, p (urlDigit digit))
    (data : List UInt8) : ∀ byte ∈ rawURLEncode data, p byte := by
  have digits := urlDigit_all checked
  induction data using rawURLEncode.induct with
  | case1 => simp [rawURLEncode]
  | case2 | case3 => simp [rawURLEncode, digits]
  | case4 _ _ _ _ ih =>
    intro byte member
    rw [rawURLEncode, List.mem_append] at member
    rcases member with digit | later
    · simp only [List.mem_cons, List.not_mem_nil, or_false] at digit
      rcases digit with rfl | rfl | rfl | rfl <;> exact digits _
    · exact ih byte later

theorem graphic_rawURLEncode (data : List UInt8) : ∀ byte ∈ rawURLEncode data, Graphic byte :=
  rawURLEncode_all (by decide) data

def urlValue? (byte : UInt8) : Option Nat :=
  if 65 ≤ byte ∧ byte ≤ 90 then some (byte.toNat - 65)
  else if 97 ≤ byte ∧ byte ≤ 122 then some (byte.toNat - 71)
  else if 48 ≤ byte ∧ byte ≤ 57 then some (byte.toNat + 4)
  else if byte = 45 then some 62
  else if byte = 95 then some 63
  else none

theorem urlValue?_urlDigit {value : Nat} (small : value < 64) :
    urlValue? (urlDigit value) = some value := by
  have checked : ∀ digit : Fin 64, urlValue? (urlDigit digit) = some digit.val := by decide
  exact checked ⟨value, small⟩

def decodeDigits? : List UInt8 → Option (List UInt8)
  | [] => some []
  | [_] => none
  | [a, b] => do
      let first ← urlValue? a
      let second ← urlValue? b
      return [(first * 4 + second / 16).toUInt8]
  | [a, b, c] => do
      let first ← urlValue? a
      let second ← urlValue? b
      let third ← urlValue? c
      return [(first * 4 + second / 16).toUInt8, (second % 16 * 16 + third / 4).toUInt8]
  | a :: b :: c :: d :: rest => do
      let first ← urlValue? a
      let second ← urlValue? b
      let third ← urlValue? c
      let fourth ← urlValue? d
      let later ← decodeDigits? rest
      return [(first * 4 + second / 16).toUInt8, (second % 16 * 16 + third / 4).toUInt8,
        (third % 4 * 64 + fourth).toUInt8] ++ later

def rawURLDecode? (text : List UInt8) : Option (List UInt8) :=
  decodeDigits? (text.filter fun byte => byte ≠ 10 ∧ byte ≠ 13)

theorem toUInt8_of_eq {value : Nat} {byte : UInt8} (same : value = byte.toNat) :
    value.toUInt8 = byte := by
  rw [same]
  exact UInt8.ofNat_toNat

theorem decodeDigits?_rawURLEncode (data : List UInt8) :
    decodeDigits? (rawURLEncode data) = some data := by
  induction data using rawURLEncode.induct with
  | case1 => rfl
  | case2 a =>
    have smallA := a.toNat_lt
    have first : a.toNat / 4 * 4 + a.toNat % 4 * 16 / 16 = a.toNat := by omega
    simp only [rawURLEncode, decodeDigits?, urlValue?_urlDigit (show a.toNat / 4 < 64 by omega),
      urlValue?_urlDigit (show a.toNat % 4 * 16 < 64 by omega), Option.bind_eq_bind,
      Option.bind_some, Option.pure_def, toUInt8_of_eq first]
  | case3 a b =>
    have smallA := a.toNat_lt
    have smallB := b.toNat_lt
    have first : a.toNat / 4 * 4 + (a.toNat % 4 * 16 + b.toNat / 16) / 16 = a.toNat := by omega
    have second : (a.toNat % 4 * 16 + b.toNat / 16) % 16 * 16 + b.toNat % 16 * 4 / 4 =
        b.toNat := by omega
    simp only [rawURLEncode, decodeDigits?, urlValue?_urlDigit (show a.toNat / 4 < 64 by omega),
      urlValue?_urlDigit (show a.toNat % 4 * 16 + b.toNat / 16 < 64 by omega),
      urlValue?_urlDigit (show b.toNat % 16 * 4 < 64 by omega), Option.bind_eq_bind,
      Option.bind_some, Option.pure_def, toUInt8_of_eq first, toUInt8_of_eq second]
  | case4 a b c _ ih =>
    have smallA := a.toNat_lt
    have smallB := b.toNat_lt
    have smallC := c.toNat_lt
    have first : a.toNat / 4 * 4 + (a.toNat % 4 * 16 + b.toNat / 16) / 16 = a.toNat := by omega
    have second : (a.toNat % 4 * 16 + b.toNat / 16) % 16 * 16 +
        (b.toNat % 16 * 4 + c.toNat / 64) / 4 = b.toNat := by omega
    have third : (b.toNat % 16 * 4 + c.toNat / 64) % 4 * 64 + c.toNat % 64 = c.toNat := by omega
    simp only [rawURLEncode, List.cons_append, List.nil_append, decodeDigits?,
      urlValue?_urlDigit (show a.toNat / 4 < 64 by omega),
      urlValue?_urlDigit (show a.toNat % 4 * 16 + b.toNat / 16 < 64 by omega),
      urlValue?_urlDigit (show b.toNat % 16 * 4 + c.toNat / 64 < 64 by omega),
      urlValue?_urlDigit (show c.toNat % 64 < 64 by omega), ih,
      Option.bind_eq_bind, Option.bind_some, Option.pure_def, toUInt8_of_eq first,
      toUInt8_of_eq second, toUInt8_of_eq third]

theorem rawURLDecode?_rawURLEncode (data : List UInt8) :
    rawURLDecode? (rawURLEncode data) = some data := by
  have plain : (rawURLEncode data).filter (fun byte => byte ≠ 10 ∧ byte ≠ 13) =
      rawURLEncode data := by
    refine List.filter_eq_self.mpr fun byte member => ?_
    have graphic := (graphic_rawURLEncode data byte member).1
    have noLineEnd : byte ≠ 10 ∧ byte ≠ 13 := by
      constructor
      · rintro rfl
        exact absurd graphic (by decide)
      · rintro rfl
        exact absurd graphic (by decide)
    simpa using noLineEnd
  rw [rawURLDecode?, plain, decodeDigits?_rawURLEncode]

theorem rawURLEncode_ne_nil {data : List UInt8} (nonempty : data ≠ []) :
    rawURLEncode data ≠ [] := by
  have long := List.length_pos_iff.mpr nonempty
  have encoded := length_rawURLEncode data
  intro empty
  rw [empty, List.length_nil] at encoded
  omega

/-- The two alphabets differ in their last two characters. -/
def otherAlphabet (byte : UInt8) : UInt8 :=
  if byte = 45 then 43
  else if byte = 43 then 45
  else if byte = 95 then 47
  else if byte = 47 then 95
  else byte

def rawStdEncode (data : List UInt8) : List UInt8 := (rawURLEncode data).map otherAlphabet

def rawStdDecode? (text : List UInt8) : Option (List UInt8) :=
  rawURLDecode? (text.map otherAlphabet)

example : rawStdEncode [0xfb, 0xff, 104, 105] = [43, 47, 57, 111, 97, 81] := by decide

theorem rawStdEncode_all (checked : ∀ digit : Fin 64, p (otherAlphabet (urlDigit digit)))
    (data : List UInt8) :
    ∀ byte ∈ rawStdEncode data, p byte :=
  List.forall_mem_map.mpr (rawURLEncode_all checked data)

theorem rawStdDecode?_rawStdEncode (data : List UInt8) :
    rawStdDecode? (rawStdEncode data) = some data := by
  have twice : (rawURLEncode data).map (otherAlphabet ∘ otherAlphabet) = rawURLEncode data := by
    nth_rewrite 2 [← (rawURLEncode data).map_id]
    exact List.map_congr_left (rawURLEncode_all (by decide) data)
  rw [rawStdDecode?, rawStdEncode, List.map_map, twice, rawURLDecode?_rawURLEncode]

end Base64
