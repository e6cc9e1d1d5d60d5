import Mathlib.Data.List.Infix
import Porthook.Foundations.Paging
import Porthook.Protocol.Text

/-!
# Cursors of the request log and the audit log

The two logs have the same cursor, the time and the id of an entry as JSON in base64.  A time is a
number of nanoseconds that is zero for the zero value of `time.Time`.  `strings.ToLower`,
`strings.ToUpper` and the parsing of times are parameters.
-/

namespace Porthook.History

open Base64 Paging Protocol

structure Cursor where
  time : Int := 0
  id : Int := 0

structure CursorCodec where
  marshal : Cursor → Option Bytes
  unmarshal : Bytes → Option Cursor

/-- The times that have a year from 0 to 9999; RFC 3339 can express no other. -/
def Representable (time : Int) : Prop :=
  -366 * 86400000000000 ≤ time ∧ time < 3652059 * 86400000000000

instance (time : Int) : Decidable (Representable time) := inferInstanceAs (Decidable (_ ∧ _))

/-- A time that RFC 3339 can express is written to the nanosecond, and read back. -/
def CursorCodec.Lawful (codec : CursorCodec) : Prop :=
  ∀ cursor, Representable cursor.time →
    ∃ data, codec.marshal cursor = some data ∧ data ≠ [] ∧ codec.unmarshal data = some cursor

def encodeCursor (codec : CursorCodec) (cursor : Cursor) : Bytes :=
  if cursor.id ≤ 0 ∨ cursor.time = 0 then []
  else
    match codec.marshal cursor with
    | none => []
    | some data => rawURLEncode data

def decodeCursor (codec : CursorCodec) (raw : Bytes) : Except Bytes Cursor :=
  match rawURLDecode? raw with
  | none => .error (ascii "cursor is invalid")
  | some data =>
    match codec.unmarshal data with
    | none => .error (ascii "cursor is invalid")
    | some cursor =>
      if cursor.id ≤ 0 ∨ cursor.time = 0 then .error (ascii "cursor is invalid")
      else .ok cursor

def cursorFromRequest (codec : CursorCodec) (raw : Bytes) : Except Bytes Cursor :=
  if trimSpace raw ≠ [] then decodeCursor codec (trimSpace raw) else .ok {}

def Timely (time : Int) : Prop := time ≠ 0 ∧ Representable time

instance (time : Int) : Decidable (Timely time) := inferInstanceAs (Decidable (_ ∧ _))

structure Addressable (cursor : Cursor) : Prop where
  assigned : 0 < cursor.id
  timed : cursor.time ≠ 0
  representable : Representable cursor.time

variable {codec : CursorCodec}

theorem cursorFromRequest_encodeCursor (lawful : codec.Lawful) {cursor : Cursor}
    (addressable : Addressable cursor) :
    encodeCursor codec cursor ≠ [] ∧
      cursorFromRequest codec (encodeCursor codec cursor) = .ok cursor := by
  obtain ⟨data, written, nonempty, read⟩ := lawful cursor addressable.representable
  have valid : ¬ (cursor.id ≤ 0 ∨ cursor.time = 0) := by
    rintro (_ | untimed)
    · exact absurd addressable.assigned (by omega)
    · exact addressable.timed untimed
  have encoded : encodeCursor codec cursor = rawURLEncode data := by
    rw [encodeCursor, if_neg valid, written]
  have trimmed : trimSpace (rawURLEncode data) = rawURLEncode data :=
    trimSpace_graphic (graphic_rawURLEncode data)
  rw [encoded, cursorFromRequest, trimmed, if_pos (rawURLEncode_ne_nil nonempty)]
  refine ⟨rawURLEncode_ne_nil nonempty, ?_⟩
  rw [decodeCursor, rawURLDecode?_rawURLEncode]
  simp only [read, if_neg valid]

theorem cursorFromRequest_nil (codec : CursorCodec) : cursorFromRequest codec [] = .ok {} := rfl

/-- A text that is accepted as a cursor with a given place in the order of a store. -/
def OpensBy {Key : Type} (codec : CursorCodec) (place : Cursor → Key) (text : Bytes) (bound : Key) :
    Prop :=
  ∃ cursor, cursorFromRequest codec text = .ok cursor ∧ 0 < cursor.id ∧ cursor.time ≠ 0 ∧
    place cursor = bound

theorem opensBy_encodeCursor {Key : Type} (lawful : codec.Lawful) (place : Cursor → Key)
    {cursor : Cursor} (addressable : Addressable cursor) :
    encodeCursor codec cursor ≠ [] ∧
      OpensBy codec place (encodeCursor codec cursor) (place cursor) := by
  obtain ⟨nonempty, read⟩ := cursorFromRequest_encodeCursor lawful addressable
  exact ⟨nonempty, cursor, read, addressable.assigned, addressable.timed, rfl⟩

theorem OpensAt.cursorFromRequest {Key : Type} {place : Cursor → Key} {text : Bytes}
    {bound : Option Key} (opened : OpensAt (OpensBy codec place) text bound) :
    ∃ cursor, cursorFromRequest codec text = .ok cursor ∧ ((cursor = {} ∧ bound = none) ∨
        (0 < cursor.id ∧ cursor.time ≠ 0 ∧ bound = some (place cursor))) := by
  cases bound with
  | none =>
    rw [show text = [] from opened]
    exact ⟨{}, rfl, .inl ⟨rfl, rfl⟩⟩
  | some =>
    obtain ⟨-, cursor, read, assigned, timed, rfl⟩ := opened
    exact ⟨cursor, read, .inr ⟨assigned, timed, rfl⟩⟩

structure Folding where
  toLower : Bytes → Bytes
  toUpper : Bytes → Bytes
  parseTime : Bytes → Option Int

/-- `strings.ToLower` and `strings.ToUpper` keep what they return, and put no space at its
ends. -/
structure Folding.Lawful (folding : Folding) : Prop where
  lower_nil : folding.toLower [] = []
  lower_lower : ∀ text, folding.toLower (folding.toLower text) = folding.toLower text
  upper_upper : ∀ text, folding.toUpper (folding.toUpper text) = folding.toUpper text
  trim_lower : ∀ text, trimSpace (folding.toLower (trimSpace text)) =
    folding.toLower (trimSpace text)
  trim_upper : ∀ text, trimSpace (folding.toUpper (trimSpace text)) =
    folding.toUpper (trimSpace text)

def contains (text part : Bytes) : Bool := part <:+: text

/-- The common part of `normalizedRequestLogLimit` and `normalizedAuditEventLimit`, which
differ in what they take for no limit at all. -/
def clampLimit (largest limit : Int) : Int := if limit > largest then largest else limit

theorem clampLimit_pos {largest limit : Int} (large : 0 < largest) (positive : 1 ≤ limit) :
    0 < clampLimit largest limit := by
  unfold clampLimit
  split <;> omega

end Porthook.History
