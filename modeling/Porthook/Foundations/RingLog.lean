import Mathlib.Data.List.Basic

/-!
# A log in a ring of slots

A fixed number of slots that are written one after the other, the oldest entry first
when all are taken.  The loops work on indices; `entries` is what they amount to, oldest
first, and each operation is described by what it does to that list.
-/

universe u

/-- `next` is the slot that is written next; `full` is whether all have been. -/
structure RingLog (Entry : Type u) where
  slots : List Entry
  next : Nat
  full : Bool
  inside : next < max 1 slots.length

namespace RingLog

variable {Entry : Type u}

def empty (blank : Entry) (capacity : Nat) : RingLog Entry where
  slots := List.replicate capacity blank
  next := 0
  full := false
  inside := Nat.lt_of_lt_of_le Nat.one_pos (Nat.le_max_left _ _)

variable (log : RingLog Entry)

def size : Nat := if log.full then log.slots.length else log.next

def entries : List Entry :=
  if log.full then log.slots.drop log.next ++ log.slots.take log.next
  else log.slots.take log.next

theorem wrap_lt {slots : List Entry} (slotted : slots ≠ []) (next : Nat) :
    next % slots.length < max 1 slots.length :=
  Nat.lt_of_lt_of_le (Nat.mod_lt _ (List.length_pos_iff.mpr slotted)) (Nat.le_max_right _ _)

def push (entry : Entry) : RingLog Entry :=
  if slotless : log.slots = [] then log
  else
    { slots := log.slots.set log.next entry
      next := (log.next + 1) % log.slots.length
      full := log.full || (log.next + 1) % log.slots.length = 0
      inside := by rw [List.length_set]; exact wrap_lt slotless _ }

def newestIndex (place : Nat) : Nat :=
  if place < log.next then log.next - 1 - place
  else log.next + log.slots.length - 1 - place

def oldestIndex (place : Nat) : Nat :=
  if log.full then (log.next + place) % log.slots.length else place

/-- Look through the entries from the newest on, with so many still to see, and stop when
there is one more than there is room for. -/
def scanFrom (keep : Entry → Bool) (room : Nat) : Nat → List Entry → List Entry
  | 0, found => found
  | left + 1, found =>
    let index := log.newestIndex (log.size - (left + 1))
    if !log.full ∧ log.next ≤ index then found
    else
      match log.slots[index]? with
      | none => found
      | some entry =>
        if keep entry then
          if room < (found ++ [entry]).length then found ++ [entry]
          else scanFrom keep room left (found ++ [entry])
        else scanFrom keep room left found

def scan (keep : Entry → Bool) (room : Nat) : List Entry := log.scanFrom keep room log.size []

def retained (keep : Entry → Bool) : List Entry :=
  (List.range log.size).filterMap fun place => (log.slots[log.oldestIndex place]?).filter keep

theorem size_le : log.size ≤ log.slots.length := by
  have inside := log.inside
  unfold size
  split
  · exact Nat.le_refl _
  · omega

theorem length_retained_le (keep : Entry → Bool) :
    (log.retained keep).length ≤ log.slots.length := by
  refine Nat.le_trans (List.length_filterMap_le _ _) ?_
  rw [List.length_range]
  exact log.size_le

/-- Move the entries to keep to the first slots and blank the others. -/
def compact (blank : Entry) (keep : Entry → Bool) : RingLog Entry :=
  let kept := log.retained keep
  { slots := kept ++ List.replicate (log.slots.length - kept.length) blank
    next := if kept.length = log.slots.length then 0 else kept.length
    full := kept.length = log.slots.length
    inside := by
      have fits : kept.length ≤ log.slots.length := log.length_retained_le keep
      rw [List.length_append, List.length_replicate]
      split <;> omega }

theorem length_entries : log.entries.length = log.size := by
  have inside := log.inside
  unfold entries size
  split
  · rw [List.length_append, List.length_drop, List.length_take]
    omega
  · rw [List.length_take]
    omega

theorem oldestIndex_spec {place : Nat} (there : place < log.size) :
    log.slots[log.oldestIndex place]? = log.entries[place]? := by
  have inside := log.inside
  have fits := log.size_le
  unfold oldestIndex entries
  cases full : log.full with
  | false =>
    have size : log.size = log.next := by simp [RingLog.size, full]
    simp only [Bool.false_eq_true, if_false]
    rw [List.getElem?_take_of_lt (by omega)]
  | true =>
    simp only [if_true]
    by_cases before : place < log.slots.length - log.next
    · rw [List.getElem?_append_left (by rw [List.length_drop]; exact before),
        List.getElem?_drop, Nat.mod_eq_of_lt (by omega)]
    · have wrapped : (log.next + place) % log.slots.length =
          place - (log.slots.length - log.next) := by
        rw [Nat.mod_eq_sub_mod (by omega), Nat.mod_eq_of_lt (by omega)]
        omega
      rw [List.getElem?_append_right (by rw [List.length_drop]; omega), List.length_drop,
        wrapped, List.getElem?_take_of_lt (by omega)]

theorem newestIndex_eq {place : Nat} (there : place < log.size) :
    log.newestIndex (log.size - (place + 1)) = log.oldestIndex place := by
  have inside := log.inside
  have fits := log.size_le
  unfold newestIndex oldestIndex
  cases full : log.full with
  | false =>
    have size : log.size = log.next := by simp [RingLog.size, full]
    simp only [Bool.false_eq_true, if_false]
    rw [if_pos (by omega)]
    omega
  | true =>
    have size : log.size = log.slots.length := by simp [RingLog.size, full]
    simp only [if_true]
    split
    next wrapped =>
      rw [Nat.mod_eq_sub_mod (by omega), Nat.mod_eq_of_lt (by omega)]
      omega
    next direct =>
      rw [Nat.mod_eq_of_lt (by omega)]
      omega

theorem entries_push (entry : Entry) (slotted : log.slots ≠ []) : (log.push entry).entries =
      (log.entries ++ [entry]).drop (if log.full then 1 else 0) := by
  have inside := log.inside
  have long := List.length_pos_iff.mpr slotted
  have cut : log.slots.set log.next entry =
      log.slots.take log.next ++ entry :: log.slots.drop (log.next + 1) :=
    List.set_eq_take_append_cons_drop.trans (if_pos (by omega))
  have front : (log.slots.take log.next).length = log.next := by
    rw [List.length_take]
    omega
  simp only [push, dif_neg slotted, entries, cut]
  by_cases last : log.next + 1 = log.slots.length
  · -- the last slot: the next round begins
    have wrapped : (log.next + 1) % log.slots.length = 0 := by rw [last, Nat.mod_self]
    have rest : log.slots.drop (log.next + 1) = [] := List.drop_eq_nil_of_le (by omega)
    simp only [wrapped, decide_true, Bool.or_true, if_true, List.drop_zero, List.take_zero,
      List.append_nil, rest]
    cases full : log.full with
    | false => simp
    | true =>
      have oldest : log.slots.drop log.next = [log.slots.get ⟨log.next, by omega⟩] := by
        rw [List.drop_eq_getElem_cons (by omega), rest]
        rfl
      simp [oldest]
  · have same : (log.next + 1) % log.slots.length = log.next + 1 :=
      Nat.mod_eq_of_lt (by omega)
    have taken : (log.slots.take log.next ++ entry :: log.slots.drop (log.next + 1)).take
        (log.next + 1) = log.slots.take log.next ++ [entry] := by
      rw [List.take_append, front, List.take_of_length_le (by omega)]
      simp
    have dropped : (log.slots.take log.next ++ entry :: log.slots.drop (log.next + 1)).drop
        (log.next + 1) = log.slots.drop (log.next + 1) := by
      rw [List.drop_append, front, List.drop_eq_nil_of_le (by omega)]
      simp
    simp only [same, taken, dropped]
    cases full : log.full with
    | false => simp
    | true =>
      have oldest : log.slots.drop log.next =
          log.slots.get ⟨log.next, by omega⟩ :: log.slots.drop (log.next + 1) :=
        List.drop_eq_getElem_cons (by omega)
      simp only [Bool.true_or, if_true, oldest, List.cons_append, List.drop_succ_cons,
        List.drop_zero, List.append_assoc]

theorem entries_push_drop (entry : Entry) (slotted : log.slots ≠ []) : (log.push entry).entries =
      (log.entries ++ [entry]).drop (log.entries.length + 1 - log.slots.length) := by
  have inside := log.inside
  have long := List.length_pos_iff.mpr slotted
  rw [entries_push _ _ slotted, length_entries]
  unfold size
  split
  · rw [Nat.add_sub_cancel_left]
  · rw [Nat.sub_eq_zero_of_le (by omega)]

theorem length_push (entry : Entry) : (log.push entry).slots.length = log.slots.length := by
  unfold push
  split
  · rfl
  · exact List.length_set

theorem length_compact (blank : Entry) (keep : Entry → Bool) :
    (log.compact blank keep).slots.length = log.slots.length := by
  have fits := log.length_retained_le keep
  simp only [compact, List.length_append, List.length_replicate]
  omega

theorem scanFrom_eq (keep : Entry → Bool) (room : Nat) {left : Nat} {found : List Entry}
    (within : left ≤ log.size) (free : found.length ≤ room) :
    log.scanFrom keep room left found =
      found ++ (((log.entries.take left).reverse.filter keep).take (room + 1 - found.length)) := by
  induction left generalizing found with
  | zero => simp [scanFrom]
  | succ left ih =>
    have place : left < log.entries.length := by
      rw [length_entries]
      omega
    have index := log.newestIndex_eq (Nat.lt_of_succ_le within)
    have seen : log.slots[log.newestIndex (log.size - (left + 1))]? = some log.entries[left] := by
      rw [index, log.oldestIndex_spec (by omega), List.getElem?_eq_getElem place]
    have inUse : ¬ ((!log.full) = true ∧ log.next ≤ log.newestIndex (log.size - (left + 1))) := by
      rintro ⟨room, beyond⟩
      rw [index] at beyond
      simp only [Bool.not_eq_true'] at room
      simp only [oldestIndex, size, room, Bool.false_eq_true, if_false] at beyond within
      omega
    have next : (log.entries.take (left + 1)).reverse =
        log.entries[left] :: (log.entries.take left).reverse := by
      rw [List.take_succ_eq_append_getElem place, List.reverse_append]
      rfl
    simp only [scanFrom, if_neg inUse, seen, next]
    cases kept : keep log.entries[left] with
    | false =>
      simp only [Bool.false_eq_true, if_false, List.filter_cons, kept]
      exact ih (by omega) free
    | true =>
      simp only [if_true, List.filter_cons, kept]
      split
      next enough =>
        rw [List.length_append, List.length_singleton] at enough
        have one : room + 1 - found.length = 1 := by omega
        rw [one]
        rfl
      next more =>
        rw [List.length_append, List.length_singleton] at more
        have further : room + 1 - found.length = room - found.length + 1 := by omega
        rw [ih (by omega) (by simp; omega), further, List.take_succ_cons,
          List.length_append, List.length_singleton, List.append_assoc,
          List.singleton_append]
        congr 3
        omega

theorem scan_eq (keep : Entry → Bool) (room : Nat) :
    log.scan keep room = (log.entries.reverse.filter keep).take (room + 1) := by
  unfold scan
  rw [log.scanFrom_eq keep room (Nat.le_refl _) (Nat.zero_le _), ← log.length_entries,
    List.take_length]
  rfl

theorem scan_of_slotless (keep : Entry → Bool) (room : Nat) (slotless : log.slots = []) :
    log.scan keep room = [] := by
  have nothing : log.entries = [] := by
    have fits := log.size_le
    rw [slotless, List.length_nil, ← length_entries] at fits
    exact List.eq_nil_of_length_eq_zero (Nat.le_zero.mp fits)
  rw [scan_eq, nothing]
  rfl

theorem filterMap_range_getElem? (keep : Entry → Bool) (list : List Entry) :
    (List.range list.length).filterMap (fun place => (list[place]?).filter keep) =
      list.filter keep := by
  induction list with
  | nil => rfl
  | cons first rest ih =>
    rw [List.length_cons, List.range_succ_eq_map, List.filterMap_cons, List.filterMap_map]
    have later : (List.range rest.length).filterMap
        ((fun place => ((first :: rest)[place]?).filter keep) ∘ Nat.succ) =
        rest.filter keep := ih
    rw [later, List.filter_cons]
    cases kept : keep first with
    | false | true => simp [Option.filter, kept]

theorem retained_eq (keep : Entry → Bool) : log.retained keep = log.entries.filter keep := by
  rw [← filterMap_range_getElem?, length_entries, retained]
  refine List.filterMap_congr fun place member => ?_
  rw [log.oldestIndex_spec (List.mem_range.mp member)]

theorem entries_compact (blank : Entry) (keep : Entry → Bool) :
    (log.compact blank keep).entries = log.entries.filter keep := by
  rw [← log.retained_eq keep]
  simp only [compact, entries]
  by_cases all : (log.retained keep).length = log.slots.length
  · simp [all]
  · simp [all]

end RingLog
