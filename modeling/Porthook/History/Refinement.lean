import Porthook.History.Pagination

/-!
# The logs in memory as bounded lists

What the ring of slots is for: a list to which entries are appended under rising ids, of
which the oldest go when there are too many or when they are pruned.  Both logs behave
like it, as far as their pages reach.
-/

namespace Porthook.History

open Paging Protocol

variable {Entry : Type} {layout : Layout Entry}

structure BoundedList (Entry : Type) where
  entries : List Entry := []
  lastID : Int := 0

def BoundedList.change (layout : Layout Entry) (capacity : Nat) (list : BoundedList Entry) :
    BufferChange Entry → BoundedList Entry × Int
  | .add entry =>
    let entries := list.entries ++ [layout.assign entry (list.lastID + 1)]
    ({ entries := entries.drop (entries.length - capacity), lastID := list.lastID + 1 }, 0)
  | .pruneBefore cutoff =>
    if cutoff = 0 then (list, 0)
    else
      let entries := list.entries.filter (outlives layout cutoff)
      ({ list with entries }, list.entries.length - entries.length)

def Buffer.change (layout : Layout Entry) (buffer : Buffer Entry) :
    BufferChange Entry → Buffer Entry × Int
  | .add entry => (buffer.add layout entry, 0)
  | .pruneBefore cutoff => buffer.pruneBefore layout cutoff

def changes {Store : Type} (change : Store → BufferChange Entry → Store × Int) :
    Store → List (BufferChange Entry) → Store × List Int
  | store, [] => (store, [])
  | store, next :: rest =>
    let (store, returned) := change store next
    let (store, others) := changes change store rest
    (store, returned :: others)

def BufferChange.Unassigned (layout : Layout Entry) : BufferChange Entry → Prop
  | .add entry => (layout.place entry).id = 0
  | .pruneBefore _ => True

structure Refines (capacity : Nat) (buffer : Buffer Entry) (list : BoundedList Entry) : Prop where
  slots : buffer.log.slots.length = capacity
  entries : buffer.log.entries = list.entries
  lastID : buffer.nextID = list.lastID

theorem Refines.change {capacity : Nat} {buffer : Buffer Entry} {list : BoundedList Entry}
    (refines : Refines capacity buffer list) (positive : 0 < capacity)
    {change : BufferChange Entry} (unassigned : change.Unassigned layout) :
    (buffer.change layout change).2 = (list.change layout capacity change).2 ∧
      Refines capacity (buffer.change layout change).1 (list.change layout capacity change).1 := by
  have slotted : buffer.log.slots ≠ [] := List.ne_nil_of_length_pos (refines.slots.symm ▸ positive)
  cases change with
  | add entry =>
    have blank : (layout.place entry).id = 0 := unassigned
    have added : buffer.add layout entry =
        { log := buffer.log.push (layout.assign entry (list.lastID + 1))
          nextID := list.lastID + 1 } := by
      rw [Buffer.add, if_neg slotted, if_pos blank, refines.lastID]
    refine ⟨rfl, ?_⟩
    simp only [Buffer.change, added, BoundedList.change]
    refine ⟨(RingLog.length_push _ _).trans refines.slots, ?_, rfl⟩
    rw [RingLog.entries_push_drop _ _ slotted, refines.entries, refines.slots, List.length_append]
    rfl
  | pruneBefore cutoff =>
    unfold Buffer.change BoundedList.change Buffer.pruneBefore
    by_cases never : cutoff = 0
    · simp only [if_pos never, if_pos (Or.inr never)]
      exact ⟨trivial, refines⟩
    · have prunes : ¬ (buffer.log.slots = [] ∨ cutoff = 0) := by
        rintro (none | zero)
        · exact slotted none
        · exact never zero
      simp only [if_neg never, if_neg prunes]
      refine ⟨?_, (RingLog.length_compact ..).trans refines.slots, ?_, refines.lastID⟩
      · rw [← RingLog.length_entries, RingLog.retained_eq, refines.entries]
      · rw [RingLog.entries_compact, refines.entries]

theorem Refines.changes {capacity : Nat} {buffer : Buffer Entry} {list : BoundedList Entry}
    (refines : Refines capacity buffer list) (positive : 0 < capacity)
    {changed : List (BufferChange Entry)}
    (unassigned : ∀ change ∈ changed, change.Unassigned layout) :
    (changes (Buffer.change layout) buffer changed).2 =
        (changes (BoundedList.change layout capacity) list changed).2 ∧
      Refines capacity (changes (Buffer.change layout) buffer changed).1
        (changes (BoundedList.change layout capacity) list changed).1 := by
  induction changed generalizing buffer list with
  | nil => exact ⟨rfl, refines⟩
  | cons change _ ih =>
    obtain ⟨returned, first⟩ := refines.change positive (unassigned change List.mem_cons_self)
    obtain ⟨others, last⟩ := ih first fun later member =>
      unassigned later (List.mem_cons_of_mem _ member)
    simp only [History.changes, returned, others]
    exact ⟨trivial, last⟩

/-- A log whose listing shows so many entries for a limit behaves like a bounded list. -/
def Behaves (layout : Layout Entry) (capacity : Int) (count : Buffer Entry → Nat)
    (listing : Buffer Entry → Int → List Entry) (shown : Int → Int) : Prop :=
  ∀ changed : List (BufferChange Entry), (∀ change ∈ changed, change.Unassigned layout) →
    (changes (Buffer.change layout) (newBuffer layout capacity) changed).2 =
        (changes (BoundedList.change layout capacity.toNat) {} changed).2 ∧
      count (changes (Buffer.change layout) (newBuffer layout capacity) changed).1 =
        (changes (BoundedList.change layout capacity.toNat) {} changed).1.entries.length ∧
      ∀ limit, listing (changes (Buffer.change layout) (newBuffer layout capacity) changed).1
          limit =
        (changes (BoundedList.change layout capacity.toNat) {} changed).1.entries.reverse.take
          (shown limit).toNat

theorem behaves {capacity : Int} (positive : 1 ≤ capacity) {count : Buffer Entry → Nat}
    {listing : Buffer Entry → Int → List Entry} {shown : Int → Int}
    (counts : ∀ buffer, buffer.log.slots ≠ [] → count buffer = buffer.log.size)
    (lists : ∀ buffer limit, buffer.log.slots ≠ [] →
      listing buffer limit = buffer.log.entries.reverse.take (shown limit).toNat) :
    Behaves layout capacity count listing shown := by
  intro changed unassigned
  have start : Refines capacity.toNat (newBuffer layout capacity) {} :=
    ⟨List.length_replicate, rfl, rfl⟩
  obtain ⟨returned, refines⟩ := start.changes (by omega) unassigned
  have slotted := List.ne_nil_of_length_pos (refines.slots.symm ▸ (by omega : 0 < capacity.toNat))
  refine ⟨returned, ?_, fun limit => ?_⟩
  · rw [counts _ slotted, ← RingLog.length_entries, refines.entries]
  · rw [lists _ limit slotted, refines.entries]

end Porthook.History

namespace Porthook.Gateway

open History Paging

def RequestLogBuffer.count (buffer : RequestLogBuffer) : Nat :=
  if buffer.log.slots = [] then 0 else if buffer.log.full then buffer.log.slots.length
  else buffer.log.next

theorem RequestLogBuffer.list_eq (folding : Folding) (codec : CursorCodec)
    (buffer : RequestLogBuffer) (limit : Int) :
    (RequestLogBuffer.listPage folding codec buffer { limit }).requestLogs =
      buffer.log.entries.reverse.take (normalizedRequestLogLimit limit).toNat := by
  rcases Int.le_iff_lt_or_eq.mp (normalizedRequestLogLimit_nonneg limit) with limited | none
  · have opened : 0 < normalizedRequestLogLimit ({ limit } : RequestLogListOptions).limit :=
      limited
    have page := congrArg Prod.fst (RequestLogBuffer.listPage_eq folding codec buffer opened)
    rw [RingLog.scan_eq, cut_take, cut_fst] at page
    simpa [RequestLogFilter.matches] using page
  · rw [RequestLogBuffer.listPage, ← none, if_pos (.inr (Int.le_refl 0))]
    rfl

end Porthook.Gateway

namespace Porthook.History

open Paging

/-- Both logs behave like bounded lists, and a listing without a filter shows as many of the
newest entries as a page has room for: at most a thousand. -/
theorem logs_behave {capacity : Int} (positive : 1 ≤ capacity) (folding : Folding)
    (codec : CursorCodec) (arrangement : ControlPlane.Arrangement) :
    Behaves Gateway.requestLogLayout capacity Gateway.RequestLogBuffer.count
        (fun buffer limit =>
          (Gateway.RequestLogBuffer.listPage folding codec buffer { limit }).requestLogs)
        Gateway.normalizedRequestLogLimit ∧
      Behaves ControlPlane.auditEventLayout capacity (·.log.size)
        (fun store limit => (ControlPlane.MemoryAuditEventStore.list folding codec store
          arrangement { limit }).events)
        ControlPlane.normalizedAuditEventLimit := by
  refine ⟨behaves positive (fun buffer slotted => if_neg slotted) fun buffer limit _ => ?_,
    behaves positive (fun _ _ => rfl) fun store limit _ => ?_⟩
  · exact Gateway.RequestLogBuffer.list_eq folding codec buffer limit
  · rw [ControlPlane.MemoryAuditEventStore.list_eq, ControlPlane.auditEventPage_eq,
      RingLog.scan_eq, cut_take]
    simp [cut_fst, ControlPlane.auditEventMatches, ControlPlane.AuditEventListOptions.selects]

theorem logs_behave_five : (1 : Int) ≤ 5 ∧ ∀ folding codec arrangement,
    Behaves Gateway.requestLogLayout 5 Gateway.RequestLogBuffer.count
        (fun buffer limit =>
          (Gateway.RequestLogBuffer.listPage folding codec buffer { limit }).requestLogs)
        Gateway.normalizedRequestLogLimit ∧
      Behaves ControlPlane.auditEventLayout 5 (·.log.size)
        (fun store limit => (ControlPlane.MemoryAuditEventStore.list folding codec store
          arrangement { limit }).events)
        ControlPlane.normalizedAuditEventLimit :=
  ⟨by decide, fun folding codec arrangement =>
    logs_behave (by decide) folding codec arrangement⟩

theorem length_adds (layout : Layout Entry) (capacity : Nat) (entry : Entry)
    (list : BoundedList Entry) (count : Nat) (room : list.entries.length + count ≤ capacity) :
    (changes (BoundedList.change layout capacity) list
      (List.replicate count (.add entry))).1.entries.length = list.entries.length + count := by
  induction count generalizing list with
  | zero => rfl
  | succ _ ih =>
    rw [List.replicate_succ]
    simp only [changes]
    rw [ih]
    · simp only [BoundedList.change, List.length_drop, List.length_append, List.length_singleton]
      omega
    · simp only [BoundedList.change, List.length_drop, List.length_append, List.length_singleton]
      omega

/-- A log of a thousand and one entries is longer than any listing of it. -/
theorem listing_capped : (1 : Int) ≤ 1001 ∧ ∀ folding codec, ∃ changed,
    (∀ change ∈ changed, change.Unassigned Gateway.requestLogLayout) ∧ ∀ limit,
      (Gateway.RequestLogBuffer.listPage folding codec
        (changes (Buffer.change Gateway.requestLogLayout)
          (newBuffer Gateway.requestLogLayout 1001) changed).1 { limit }).requestLogs ≠
      (changes (BoundedList.change Gateway.requestLogLayout 1001) {} changed).1.entries.reverse := by
  refine ⟨by decide, fun folding codec => ⟨List.replicate 1001 (.add {}), ?_, fun limit same => ?_⟩⟩
  · intro change member
    rw [List.eq_of_mem_replicate member]
    rfl
  · have added := length_adds Gateway.requestLogLayout 1001 {} {} 1001 (Nat.le_refl 1001)
    have lengths := congrArg List.length same
    rw [Gateway.RequestLogBuffer.list_eq, List.length_take, List.length_reverse,
      List.length_reverse, added] at lengths
    have capped : Gateway.normalizedRequestLogLimit limit ≤ 1000 := by
      unfold Gateway.normalizedRequestLogLimit clampLimit
      split
      · decide
      · split <;> simp only [Gateway.maxRequestLogLimit] at * <;> omega
    simp only [List.length_nil] at lengths
    omega

end Porthook.History
