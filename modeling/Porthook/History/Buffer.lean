import Mathlib.Data.Int.Order.Basic
import Porthook.Foundations.RingLog
import Porthook.History.Cursor

/-!
# The logs in memory

Both logs keep their entries in a ring of slots under ids that rise with each entry, and
have a copy each of the same code.  `Layout` is what differs: where an entry has its time
and its id.
-/

namespace Porthook.History

open Paging Protocol

variable {Entry : Type}

structure Layout (Entry : Type) where
  place : Entry → Cursor
  assign : Entry → Int → Entry
  blank : Entry
  place_assign : ∀ entry id, place (assign entry id) = ⟨(place entry).time, id⟩

structure Buffer (Entry : Type) where
  log : RingLog Entry
  nextID : Int := 0

def newBuffer (layout : Layout Entry) (limit : Int) : Buffer Entry where
  log := RingLog.empty layout.blank limit.toNat

def Buffer.add (layout : Layout Entry) (buffer : Buffer Entry) (entry : Entry) : Buffer Entry :=
  if buffer.log.slots = [] then buffer
  else if (layout.place entry).id = 0 then
    { log := buffer.log.push (layout.assign entry (buffer.nextID + 1))
      nextID := buffer.nextID + 1 }
  else if buffer.nextID < (layout.place entry).id then
    { log := buffer.log.push entry, nextID := (layout.place entry).id }
  else { buffer with log := buffer.log.push entry }

def outlives (layout : Layout Entry) (cutoff : Int) (entry : Entry) : Bool :=
  ¬ ((layout.place entry).time ≠ 0 ∧ (layout.place entry).time < cutoff)

/-- What is left, and how many entries were removed. -/
def Buffer.pruneBefore (layout : Layout Entry) (buffer : Buffer Entry) (cutoff : Int) :
    Buffer Entry × Int :=
  if buffer.log.slots = [] ∨ cutoff = 0 then (buffer, 0)
  else
    ({ buffer with log := buffer.log.compact layout.blank (outlives layout cutoff) },
      buffer.log.size - (buffer.log.retained (outlives layout cutoff)).length)

/-- The entries have rising ids that were given out by the buffer, and cursors. -/
structure Buffer.Kept (layout : Layout Entry) (buffer : Buffer Entry) : Prop where
  rising : buffer.log.entries.Pairwise fun first second =>
    (layout.place first).id < (layout.place second).id
  given : ∀ entry ∈ buffer.log.entries, (layout.place entry).id ≤ buffer.nextID
  counted : 0 ≤ buffer.nextID
  addressable : ∀ entry ∈ buffer.log.entries, Addressable (layout.place entry)

variable {layout : Layout Entry} {buffer : Buffer Entry}

theorem kept_newBuffer (limit : Int) : (newBuffer layout limit).Kept layout where
  rising := List.Pairwise.nil
  given _ member := by cases member
  counted := Int.le_refl 0
  addressable _ member := by cases member

theorem Buffer.Kept.add (kept : buffer.Kept layout) {entry : Entry}
    (unassigned : (layout.place entry).id = 0) (timed : (layout.place entry).time ≠ 0)
    (representable : Representable (layout.place entry).time) :
    (buffer.add layout entry).Kept layout ∧ buffer.nextID ≤ (buffer.add layout entry).nextID ∧
      ∀ other ∈ (buffer.add layout entry).log.entries,
        other ∈ buffer.log.entries ∨ ¬ (layout.place other).id ≤ buffer.nextID := by
  unfold Buffer.add
  split
  · exact ⟨kept, Int.le_refl _, fun _ member => .inl member⟩
  next slotted =>
    have place := layout.place_assign entry (buffer.nextID + 1)
    have counted := kept.counted
    -- the oldest entry may have been overwritten
    have among : ∀ other ∈ (buffer.log.push (layout.assign entry (buffer.nextID + 1))).entries,
        other ∈ buffer.log.entries ∨ other = layout.assign entry (buffer.nextID + 1) := by
      intro other member
      rw [RingLog.entries_push _ _ slotted] at member
      simpa using List.mem_of_mem_drop member
    refine ⟨⟨?_, fun other member => ?_, by simp only; omega, fun other member => ?_⟩,
      by simp only; omega, fun other member => ?_⟩
    · simp only [RingLog.entries_push _ _ slotted]
      refine List.Pairwise.sublist (List.drop_sublist _ _) (List.pairwise_append.mpr
        ⟨kept.rising, List.pairwise_singleton _ _, fun older before newer new => ?_⟩)
      rw [List.mem_singleton.mp new, place]
      exact lt_of_le_of_lt (kept.given older before) (Int.lt_succ _)
    · rcases among other member with before | rfl
      · exact le_trans (kept.given other before) (Int.le_of_lt (Int.lt_succ _))
      · rw [place]
    · rcases among other member with before | rfl
      · exact kept.addressable other before
      · rw [place]
        exact ⟨Int.lt_add_one_of_le counted, timed, representable⟩
    · rcases among other member with before | rfl
      · exact .inl before
      · rw [place]
        exact .inr (not_le_of_gt (Int.lt_succ _))

theorem Buffer.entries_add {entry : Entry} (unassigned : (layout.place entry).id = 0)
    (room : buffer.log.size < buffer.log.slots.length) :
    (buffer.add layout entry).log.entries =
      buffer.log.entries ++ [layout.assign entry (buffer.nextID + 1)] := by
  have slotted : buffer.log.slots ≠ [] := List.ne_nil_of_length_pos (by omega)
  have free : buffer.log.full = false := by
    by_contra full
    rw [Bool.not_eq_false] at full
    simp [RingLog.size, full] at room
  rw [Buffer.add, if_neg slotted, if_pos unassigned]
  simp [RingLog.entries_push _ _ slotted, free]

theorem Buffer.Kept.pruneBefore (kept : buffer.Kept layout) (cutoff : Int) :
    (buffer.pruneBefore layout cutoff).1.Kept layout ∧
      buffer.nextID ≤ (buffer.pruneBefore layout cutoff).1.nextID ∧
      ∀ other ∈ (buffer.pruneBefore layout cutoff).1.log.entries, other ∈ buffer.log.entries := by
  unfold Buffer.pruneBefore
  split
  · exact ⟨kept, Int.le_refl _, fun _ member => member⟩
  have left := buffer.log.entries_compact layout.blank (outlives layout cutoff)
  refine ⟨⟨?_, fun other member => ?_, kept.counted, fun other member => ?_⟩, Int.le_refl _,
    fun other member => ?_⟩
  · simp only [left]
    exact kept.rising.sublist List.filter_sublist
  all_goals simp only [left] at member
  · exact kept.given other (List.mem_of_mem_filter member)
  · exact kept.addressable other (List.mem_of_mem_filter member)
  · exact List.mem_of_mem_filter member

theorem Buffer.Kept.isPage (kept : buffer.Kept layout) {codec : CursorCodec}
    (lawful : codec.Lawful) {keep : Entry → Bool} {wanted : Entry → Prop} {cursor : Cursor}
    {bound : Option Int} {limit : Nat} (positive : 0 < limit)
    (opened : (cursor = {} ∧ bound = none) ∨
      (0 < cursor.id ∧ cursor.time ≠ 0 ∧ bound = some cursor.id))
    (kept_iff : ∀ entry ∈ buffer.log.entries, keep entry = true ↔
      ¬ (0 < cursor.id ∧ cursor.id ≤ (layout.place entry).id) ∧ wanted entry) :
    ∃ page next further, cut (fun entry => encodeCursor codec (layout.place entry)) limit
        (buffer.log.scan keep limit) = (page, next) ∧
      OpensAt (OpensBy codec Cursor.id) next further ∧
      IsPage (fun entry => (layout.place entry).id) (· ∈ buffer.log.entries) wanted bound page
        further := by
  have ahead : ∀ entry, ¬ (0 < cursor.id ∧ cursor.id ≤ (layout.place entry).id) ↔
      ∀ least ∈ bound, (layout.place entry).id < least := by
    intro entry
    rcases opened with ⟨rfl, rfl⟩ | ⟨assigned, -, rfl⟩
    · simp
    · simp [assigned]
  have meets : ∀ entry, entry ∈ buffer.log.entries.reverse.filter keep ↔
      entry ∈ buffer.log.entries ∧ wanted entry ∧
        ∀ least ∈ bound, (layout.place entry).id < least := by
    intro entry
    rw [List.mem_filter, List.mem_reverse]
    refine and_congr_right fun stored => ?_
    rw [kept_iff entry stored, ahead, and_comm]
  have falling : (buffer.log.entries.reverse.filter keep).Pairwise fun first second =>
      (layout.place second).id < (layout.place first).id :=
    (List.pairwise_reverse.mpr kept.rising).sublist List.filter_sublist
  rw [buffer.log.scan_eq keep limit, cut_take]
  exact isPage_cut positive falling (fun entry member => ((meets entry).mp member).2)
    (fun entry stored want below => (meets entry).mpr ⟨stored, want, below⟩)
    fun entry member =>
      opensBy_encodeCursor lawful Cursor.id (kept.addressable entry ((meets entry).mp member).1)

theorem Buffer.Kept.follow (kept : buffer.Kept layout) {codec : CursorCodec}
    (lawful : codec.Lawful) {wanted : Entry → Bool} {limit : Nat} (positive : 0 < limit)
    {read : Bytes → Option (List Entry × Bytes)}
    (reads : ∀ text cursor, cursorFromRequest codec text = .ok cursor →
      read text = some (cut (fun entry => encodeCursor codec (layout.place entry)) limit
        (buffer.log.scan (fun entry =>
          !(cursor.id > 0 && (layout.place entry).id ≥ cursor.id) && wanted entry) limit)))
    (pages : Nat) :
    Paging.follow read pages [] =
      some (chunks limit pages (buffer.log.entries.reverse.filter wanted)) := by
  have falling : (buffer.log.entries.reverse.filter wanted).Pairwise fun first second =>
      (layout.place second).id < (layout.place first).id :=
    (List.pairwise_reverse.mpr kept.rising).sublist List.filter_sublist
  refine follow_eq_chunks (fun entry => encodeCursor codec (layout.place entry)) positive ?_
    (fun front last rest whole => ?_) pages
  · rw [reads [] {} (cursorFromRequest_nil codec), RingLog.scan_eq, cut_take]
    simp
  · have found : last ∈ buffer.log.entries.reverse.filter wanted := by simp [whole]
    have addressable := kept.addressable last (List.mem_reverse.mp (List.mem_of_mem_filter found))
    obtain ⟨nonempty, decoded⟩ := cursorFromRequest_encodeCursor lawful addressable
    have behind : buffer.log.entries.reverse.filter (fun entry =>
        !((layout.place last).id > 0 && (layout.place entry).id ≥ (layout.place last).id) &&
          wanted entry) = rest := by
      rw [← List.filter_filter]
      have below := filter_below (fun entry => (layout.place entry).id) (whole ▸ falling)
      rw [← whole] at below
      rw [← below]
      refine List.filter_congr fun entry _ => ?_
      rw [Bool.eq_iff_iff]
      simp [addressable.assigned]
    refine ⟨nonempty, ?_⟩
    rw [reads _ _ decoded, RingLog.scan_eq, cut_take, behind]

end Porthook.History
