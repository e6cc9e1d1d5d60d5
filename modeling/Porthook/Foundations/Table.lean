import Mathlib.Data.List.Nodup

/-!
# Finite tables with two unique keys

The rows of a table are told apart by an identifier and by a second key; both are unique, which the
table carries as a proof.  The operations are the ones of a map behind a lock, and one that the
keys do not allow gives `none`.  Each is described once by the rows it leaves.
-/

universe u v w

/-- Rows with a unique identifier and a unique second key. -/
structure Table {Row : Type u} {Key : Type v} {Other : Type w} (key : Row → Key)
    (other : Row → Other) where
  rows : List Row
  key_nodup : (rows.map key).Nodup
  other_nodup : (rows.map other).Nodup

namespace Table

variable {Row : Type u} {Key : Type v} {Other : Type w} {key : Row → Key} {other : Row → Other}

def empty : Table key other := ⟨[], List.nodup_nil, List.nodup_nil⟩

@[ext]
theorem ext {left right : Table key other} (same : left.rows = right.rows) : left = right := by
  cases left
  cases right
  cases same
  rfl

variable {table next : Table key other} {row : Row} {wanted : Key}

theorem eq_of_key {first second : Row} (one : first ∈ table.rows) (two : second ∈ table.rows)
    (same : key first = key second) : first = second :=
  List.inj_on_of_nodup_map table.key_nodup one two same

theorem eq_of_other {first second : Row} (one : first ∈ table.rows) (two : second ∈ table.rows)
    (same : other first = other second) : first = second :=
  List.inj_on_of_nodup_map table.other_nodup one two same

variable [DecidableEq Key] [DecidableEq Other]

def find? (table : Table key other) (wanted : Key) : Option Row :=
  table.rows.find? fun row => key row = wanted

def findOther? (table : Table key other) (wanted : Other) : Option Row :=
  table.rows.find? fun row => other row = wanted

omit [DecidableEq Key] [DecidableEq Other] in
theorem lookup_eq_some_iff {Index : Type v} [DecidableEq Index] {index : Row → Index}
    {rows : List Row} (nodup : (rows.map index).Nodup) {wanted : Index} :
    (rows.find? fun row => index row = wanted) = some row ↔ row ∈ rows ∧ index row = wanted := by
  constructor
  · intro found
    have keyed : index row = wanted := by simpa using List.find?_some found
    exact ⟨List.mem_of_find?_eq_some found, keyed⟩
  · rintro ⟨member, rfl⟩
    cases found : rows.find? fun held => index held = index row with
    | none =>
      have missing := List.find?_eq_none.mp found row member
      simp at missing
    | some hit =>
      have keyed : index hit = index row := by simpa using List.find?_some found
      rw [List.inj_on_of_nodup_map nodup (List.mem_of_find?_eq_some found) member keyed]

omit [DecidableEq Other] in
theorem find?_eq_some_iff :
    table.find? wanted = some row ↔ row ∈ table.rows ∧ key row = wanted :=
  lookup_eq_some_iff table.key_nodup

omit [DecidableEq Key] in
theorem findOther?_eq_some_iff {wanted : Other} :
    table.findOther? wanted = some row ↔ row ∈ table.rows ∧ other row = wanted :=
  lookup_eq_some_iff table.other_nodup

omit [DecidableEq Other] in
theorem find?_eq_none_iff :
    table.find? wanted = none ↔ ∀ row ∈ table.rows, key row ≠ wanted := by
  simp [find?]

omit [DecidableEq Key] in
theorem findOther?_eq_none_iff {wanted : Other} :
    table.findOther? wanted = none ↔ ∀ row ∈ table.rows, other row ≠ wanted := by
  simp [findOther?]

omit [DecidableEq Other] in
theorem find?_congr {first second : Table key other}
    (same : ∀ row, key row = wanted → (row ∈ first.rows ↔ row ∈ second.rows)) :
    first.find? wanted = second.find? wanted := by
  apply Option.ext
  intro row
  rw [find?_eq_some_iff, find?_eq_some_iff]
  constructor
  · rintro ⟨member, keyed⟩
    exact ⟨(same row keyed).mp member, keyed⟩
  · rintro ⟨member, keyed⟩
    exact ⟨(same row keyed).mpr member, keyed⟩

def insert? (table : Table key other) (row : Row) : Option (Table key other) :=
  if keyFree : key row ∈ table.rows.map key then none
  else if otherFree : other row ∈ table.rows.map other then none
  else some
    { rows := row :: table.rows
      key_nodup := List.nodup_cons.mpr ⟨keyFree, table.key_nodup⟩
      other_nodup := List.nodup_cons.mpr ⟨otherFree, table.other_nodup⟩ }

theorem insert?_eq_some (inserted : table.insert? row = some next) :
    table.find? (key row) = none ∧ table.findOther? (other row) = none ∧
      ∀ held, held ∈ next.rows ↔ held = row ∨ held ∈ table.rows := by
  unfold insert? at inserted
  repeat' split at inserted
  all_goals cases inserted
  next keyFree otherFree =>
    rw [find?_eq_none_iff, findOther?_eq_none_iff]
    simp only [List.mem_map, not_exists, not_and] at keyFree otherFree
    exact ⟨keyFree, otherFree, fun held => List.mem_cons⟩

theorem insert?_isSome (keyFree : table.find? (key row) = none)
    (otherFree : table.findOther? (other row) = none) :
    (table.insert? row).isSome = true := by
  rw [find?_eq_none_iff] at keyFree
  rw [findOther?_eq_none_iff] at otherFree
  have freeKey : key row ∉ table.rows.map key := by
    simpa only [List.mem_map, not_exists, not_and] using keyFree
  have freeOther : other row ∉ table.rows.map other := by
    simpa only [List.mem_map, not_exists, not_and] using otherFree
  simp [insert?, freeKey, freeOther]

theorem find?_insert? (inserted : table.insert? row = some next) (wanted : Key) :
    next.find? wanted = if wanted = key row then some row else table.find? wanted := by
  obtain ⟨-, -, rows⟩ := insert?_eq_some inserted
  split
  next same => exact find?_eq_some_iff.mpr ⟨(rows row).mpr (.inl rfl), same.symm⟩
  next different =>
    apply find?_congr
    rintro held rfl
    rw [rows held]
    constructor
    · rintro (rfl | there)
      · exact absurd rfl different
      · exact there
    · exact .inr

omit [DecidableEq Other] in
theorem nodup_replaced_other (table : Table key other) (row : Row)
    (free : ∀ held ∈ table.rows, other held = other row → key held = key row) :
    ((table.rows.map fun held => if key held = key row then row else held).map other).Nodup := by
  rw [List.map_map]
  apply List.Nodup.map_on _ (List.Nodup.of_map key table.key_nodup)
  intro first one second two same
  simp only [Function.comp_apply] at same
  split at same
  next firstOne =>
    split at same
    next secondOne => exact eq_of_key one two (firstOne.trans secondOne.symm)
    next secondElse => exact absurd (free second two same.symm) secondElse
  next firstElse =>
    split at same
    · exact absurd (free first one same) firstElse
    · exact eq_of_other one two same

omit [DecidableEq Other] in
theorem nodup_replaced_key (table : Table key other) (row : Row) :
    ((table.rows.map fun held => if key held = key row then row else held).map key).Nodup := by
  have same : (table.rows.map fun held => if key held = key row then row else held).map key =
      table.rows.map key := by
    rw [List.map_map]
    apply List.map_congr_left
    intro held _
    simp only [Function.comp_apply]
    split
    next keyed => exact keyed.symm
    · rfl
  rw [same]
  exact table.key_nodup

def replace? (table : Table key other) (row : Row) : Option (Table key other) :=
  if (table.find? (key row)).isNone then none
  else if free : ∀ held ∈ table.rows, other held = other row → key held = key row then some
    { rows := table.rows.map fun held => if key held = key row then row else held
      key_nodup := nodup_replaced_key table row
      other_nodup := nodup_replaced_other table row free }
  else none

theorem rows_replace? (replaced : table.replace? row = some next) :
    (∃ old, table.find? (key row) = some old) ∧
      next.rows = table.rows.map fun held => if key held = key row then row else held := by
  unfold replace? at replaced
  repeat' split at replaced
  all_goals cases replaced
  next present _ =>
    simp only [Option.isNone_iff_eq_none] at present
    exact ⟨Option.ne_none_iff_exists'.mp present, rfl⟩

theorem replace?_eq_some (replaced : table.replace? row = some next) :
    (∃ old, table.find? (key row) = some old) ∧
      ∀ held, held ∈ next.rows ↔ held = row ∨ held ∈ table.rows ∧ key held ≠ key row := by
  obtain ⟨⟨old, found⟩, rows⟩ := rows_replace? replaced
  refine ⟨⟨old, found⟩, fun held => ?_⟩
  obtain ⟨member, keyed⟩ := find?_eq_some_iff.mp found
  rw [rows, List.mem_map]
  constructor
  · rintro ⟨_, there, rfl⟩
    split
    · exact .inl rfl
    next different => exact .inr ⟨there, different⟩
  · rintro (rfl | ⟨there, different⟩)
    · exact ⟨old, member, if_pos keyed⟩
    · exact ⟨held, there, if_neg different⟩

theorem replace?_isSome {old : Row} (found : table.find? (key row) = some old)
    (kept : other old = other row) :
    (table.replace? row).isSome = true := by
  obtain ⟨member, keyed⟩ := find?_eq_some_iff.mp found
  have free : ∀ held ∈ table.rows, other held = other row → key held = key row := by
    intro held there same
    rw [← keyed, eq_of_other there member (same.trans kept.symm)]
  simp only [replace?, found, Option.isNone_some, Bool.false_eq_true, if_false]
  rw [dif_pos free]
  rfl

theorem find?_replace? (replaced : table.replace? row = some next) (wanted : Key) :
    next.find? wanted = if wanted = key row then some row else table.find? wanted := by
  obtain ⟨-, rows⟩ := replace?_eq_some replaced
  split
  next same => exact find?_eq_some_iff.mpr ⟨(rows row).mpr (.inl rfl), same.symm⟩
  next different =>
    apply find?_congr
    rintro held rfl
    rw [rows held]
    constructor
    · rintro (rfl | ⟨there, -⟩)
      · exact absurd rfl different
      · exact there
    · exact fun there => .inr ⟨there, different⟩

def remove (table : Table key other) (gone : Key) : Table key other where
  rows := table.rows.filter fun row => key row ≠ gone
  key_nodup := table.key_nodup.sublist (List.filter_sublist.map key)
  other_nodup := table.other_nodup.sublist (List.filter_sublist.map other)

omit [DecidableEq Key] [DecidableEq Other] in
def filter (table : Table key other) (keep : Row → Bool) : Table key other where
  rows := table.rows.filter keep
  key_nodup := table.key_nodup.sublist (List.filter_sublist.map key)
  other_nodup := table.other_nodup.sublist (List.filter_sublist.map other)

omit [DecidableEq Other] in
@[simp]
theorem mem_remove {gone : Key} :
    row ∈ (table.remove gone).rows ↔ row ∈ table.rows ∧ key row ≠ gone := by
  simp [remove]

omit [DecidableEq Other] in
theorem find?_remove (table : Table key other) (gone wanted : Key) :
    (table.remove gone).find? wanted = if wanted = gone then none else table.find? wanted := by
  split
  next same =>
    rw [find?_eq_none_iff]
    intro row member
    rw [same]
    exact (mem_remove.mp member).2
  next different =>
    apply find?_congr
    rintro _ rfl
    rw [mem_remove]
    exact ⟨And.left, fun member => ⟨member, different⟩⟩

end Table
