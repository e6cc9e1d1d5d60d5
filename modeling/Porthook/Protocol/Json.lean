import Mathlib.Algebra.Ring.Nat
import Mathlib.Data.List.Basic

/-!
# JSON values and `encoding/json`

A text that is not valid JSON already fails `wswire.Read`, so decoding starts from the parsed
value and follows `json.Unmarshal`: unknown members are ignored, member names match without regard
to case when no exact match exists, and `null` leaves a scalar unchanged.
-/

namespace Porthook.Protocol

abbrev Bytes := List UInt8

instance : LawfulBEq Bytes := inferInstance

def ascii (text : String) : Bytes := text.toList.map fun char => char.toNat.toUInt8

/-- A parsed JSON value.  Numbers keep their literal and strings are already
unescaped; members keep the order and the repetitions of the text. -/
inductive Json where
  | null
  | bool (value : Bool)
  | number (literal : Bytes)
  | string (value : Bytes)
  | array (items : List Json)
  | object (members : List (Bytes × Json))

def digit? (byte : UInt8) : Option Nat :=
  if 48 ≤ byte ∧ byte ≤ 57 then some (byte.toNat - 48) else none

def parseNat? : Bytes → Option Nat
  | [] => none
  | digits => digits.foldlM (fun value byte => (digit? byte).map fun d => 10 * value + d) 0

def parseInt64? : Bytes → Option Int
  | 45 :: digits =>
    (parseNat? digits).bind fun n => if n ≤ 2 ^ 63 then some (-(n : Int)) else none
  | 43 :: digits =>
    (parseNat? digits).bind fun n => if n < 2 ^ 63 then some (n : Int) else none
  | digits =>
    (parseNat? digits).bind fun n => if n < 2 ^ 63 then some (n : Int) else none

def base64Value? (byte : UInt8) : Option Nat :=
  let n := byte.toNat
  if 65 ≤ n ∧ n ≤ 90 then some (n - 65)
  else if 97 ≤ n ∧ n ≤ 122 then some (n - 71)
  else if 48 ≤ n ∧ n ≤ 57 then some (n + 4)
  else if n = 43 then some 62
  else if n = 47 then some 63
  else none

/-- Decode groups of four characters; only the last group may be padded. -/
def base64Groups : Bytes → Option Bytes
  | [] => some []
  | [a, b, 61, 61] => do
      let x ← base64Value? a
      let y ← base64Value? b
      return [(4 * x + y / 16).toUInt8]
  | [a, b, c, 61] => do
      let x ← base64Value? a
      let y ← base64Value? b
      let z ← base64Value? c
      return [(4 * x + y / 16).toUInt8, (16 * (y % 16) + z / 4).toUInt8]
  | a :: b :: c :: d :: rest => do
      let x ← base64Value? a
      let y ← base64Value? b
      let z ← base64Value? c
      let w ← base64Value? d
      let tail ← base64Groups rest
      return [(4 * x + y / 16).toUInt8, (16 * (y % 16) + z / 4).toUInt8,
        (64 * (z % 4) + w).toUInt8] ++ tail
  | _ => none

def base64Decode? (text : Bytes) : Option Bytes :=
  base64Groups (text.filter fun byte => byte ≠ 10 ∧ byte ≠ 13)

example : base64Decode? (ascii "aGk=") = some (ascii "hi") := by decide

def decodeInt (current : Int) : Json → Option Int
  | .null => some current
  | .number literal => parseInt64? literal
  | _ => none

def decodeString (current : Bytes) : Json → Option Bytes
  | .null => some current
  | .string value => some value
  | _ => none

/-- A `[]byte` is a base64 string, or an array of small numbers. -/
def decodeBytes : Json → Option Bytes
  | .null => some []
  | .string value => base64Decode? value
  | .array items => items.mapM fun item =>
    (decodeInt 0 item).bind fun n =>
      if 0 ≤ n ∧ n < 256 then some n.toNat.toUInt8 else none
  | _ => none

def decodeStrings : Json → Option (List Bytes)
  | .null => some []
  | .array items => items.mapM (decodeString [])
  | _ => none

/-- `http.Header` as the entries of the map. -/
abbrev Header := List (Bytes × List Bytes)

/-- Store `values` under `name`, replacing an entry that is there. -/
def Header.put (header : Header) (name : Bytes) (values : List Bytes) : Header :=
  (name, values) :: header.filter fun entry => entry.1 ≠ name

/-- Values under exactly this (already canonical) name. -/
def Header.values (header : Header) (name : Bytes) : List Bytes :=
  ((header.find? fun entry => entry.1 = name).map Prod.snd).getD []

def decodeHeader (current : Header) : Json → Option Header
  | .null => some []
  | .object members => members.foldlM
      (fun header member => (decodeStrings member.2).map fun values =>
        header.put member.1 values) current
  | _ => none

/-- `foldName`: ASCII letters fold to upper case, as do the long s and the
Kelvin sign, the only other runes that fold to an ASCII letter. -/
def foldName : Bytes → Bytes
  | 0xC5 :: 0xBF :: rest => 83 :: foldName rest
  | 0xE2 :: 0x84 :: 0xAA :: rest => 75 :: foldName rest
  | byte :: rest => (if 97 ≤ byte ∧ byte ≤ 122 then byte - 32 else byte) :: foldName rest
  | [] => []

/-- A struct field: its JSON name and how a value is stored in it. -/
structure Field (Struct : Type) where
  name : Bytes
  store : Struct → Json → Option Struct

def findField? {Struct : Type} (fields : List (Field Struct)) (name : Bytes) :
    Option (Field Struct) :=
  (fields.find? fun field => field.name = name).orElse fun _ =>
    fields.find? fun field => foldName field.name = foldName name

def decodeStruct {Struct : Type} (fields : List (Field Struct)) (zero : Struct) :
    Json → Option Struct
  | .null => some zero
  | .object members => members.foldlM
      (fun value member =>
        match findField? fields member.1 with
        | some field => field.store value member.2
        | none => some value) zero
  | _ => none

end Porthook.Protocol
