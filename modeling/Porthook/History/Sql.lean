import Mathlib.Data.List.Forall2
import Mathlib.Data.List.Sort
import Mathlib.Data.Prod.Lex
import Porthook.History.Cursor
import Porthook.Protocol.Encode

/-!
# The tables of the two logs in Postgres

A `text` is valid UTF-8 without NUL, and a time is kept to the microsecond.  `ILIKE` folds both
sides with `lower`, which depends on the locale of the database and is a parameter here.  Rows get
their ids from a sequence; a query sorts rows by time and id, the latest first.
-/

namespace Porthook.History

open Paging Protocol

def micros (time : Int) : Int := time / 1000 * 1000

theorem micros_micros (time : Int) : micros (micros time) = micros time := by
  unfold micros
  omega

def validFrom : Nat → Bytes → Bool
  | _, [] => true
  | skip + 1, _ :: rest => validFrom skip rest
  | 0, byte :: rest =>
    match runeLength? (byte :: rest) with
    | none => false
    | some length => validFrom (length - 1) rest

/-- What the database accepts as a `text`. -/
def storable (text : Bytes) : Bool := validFrom 0 text && !text.contains 0

/-- The places of a text where a rune begins, and its end. -/
def runeTailsFrom : Nat → Bytes → List Bytes
  | _, [] => [[]]
  | skip + 1, _ :: rest => runeTailsFrom skip rest
  | 0, byte :: rest =>
    (byte :: rest) :: runeTailsFrom ((runeLength? (byte :: rest)).getD 1 - 1) rest

/-- `LIKE`: a percent sign stands for any text, an underscore for any rune, and a backslash
takes the meaning from what follows it. -/
def like : Bytes → Bytes → Bool
  | [], text => text.isEmpty
  | 37 :: pattern, text => (runeTailsFrom 0 text).any (like pattern)
  | 95 :: pattern, text =>
    !text.isEmpty && like pattern (text.drop ((runeLength? text).getD 1))
  | 92 :: byte :: pattern, text => text.head? = some byte && like pattern text.tail
  | byte :: pattern, text => text.head? = some byte && like pattern text.tail

/-- What depends on the locale of the database: `lower`, which returns a text. -/
structure Collation where
  lower : Bytes → Bytes
  lower_storable : ∀ text, storable text = true → storable (lower text) = true

def Collation.ilike (locale : Collation) (text pattern : Bytes) : Bool :=
  like (locale.lower pattern) (locale.lower text)

/-- A nullable column that is read into a string; no column holds an empty text. -/
def nullable (text : Bytes) : Option Bytes := if text ≠ [] then some text else none

def Literal (text : Bytes) : Prop := 37 ∉ text ∧ 95 ∉ text ∧ 92 ∉ text

instance (text : Bytes) : Decidable (Literal text) := inferInstanceAs (Decidable (_ ∧ _ ∧ _))

theorem like_cons {byte : UInt8} (percent : byte ≠ 37) (underscore : byte ≠ 95)
    (backslash : byte ≠ 92) (pattern text : Bytes) :
    like (byte :: pattern) text = (text.head? = some byte && like pattern text.tail) := by
  rw [like]
  · exact percent
  · exact underscore
  · intro next rest same
    exact absurd same backslash

theorem nil_mem_runeTailsFrom (skip : Nat) (text : Bytes) : [] ∈ runeTailsFrom skip text := by
  induction text generalizing skip with
  | nil => simp [runeTailsFrom]
  | cons _ _ ih =>
    cases skip with
    | zero => exact List.mem_cons_of_mem _ (ih _)
    | succ skip => exact ih skip

theorem like_literal {part : Bytes} (literal : Literal part) (text : Bytes) :
    like (part ++ [37]) text = true ↔ part <+: text := by
  induction part generalizing text with
  | nil =>
    simp only [List.nil_append, List.nil_prefix, iff_true, like, List.any_eq_true]
    exact ⟨[], nil_mem_runeTailsFrom 0 text, rfl⟩
  | cons _ _ ih =>
    simp only [Literal, List.mem_cons, not_or] at literal
    obtain ⟨⟨percent, percents⟩, ⟨underscore, underscores⟩, ⟨backslash, backslashes⟩⟩ := literal
    rw [List.cons_append, like_cons (Ne.symm percent) (Ne.symm underscore) (Ne.symm backslash),
      Bool.and_eq_true, ih ⟨percents, underscores, backslashes⟩]
    cases text with
    | nil => simp
    | cons => simp [List.cons_prefix_cons, eq_comm]

theorem runeLength?_spec {lead : UInt8} {rest : Bytes} {length : Nat}
    (decoded : runeLength? (lead :: rest) = some length) :
    isContinuation lead = false ∧ ∀ byte ∈ rest.take (length - 1), isContinuation byte = true := by
  have second : ∀ byte, acceptsSecond lead byte = true → isContinuation byte = true := by
    intro byte accepted
    unfold acceptsSecond at accepted
    unfold isContinuation
    simp only [Bool.and_eq_true, decide_eq_true_eq] at accepted ⊢
    grind
  have beyond : ∀ least : UInt8, 0xC2 ≤ least → least ≤ lead → isContinuation lead = false := by
    intro least large above
    unfold isContinuation
    grind
  simp only [runeLength?] at decoded
  split at decoded
  next single =>
    cases decoded
    refine ⟨?_, by simp⟩
    unfold isContinuation
    grind
  · split at decoded
    next two =>
      simp only [Bool.and_eq_true, decide_eq_true_eq] at two
      refine ⟨beyond _ (by decide) two.1, ?_⟩
      split at decoded
      next next_ _ =>
        split at decoded
        next accepted =>
          cases decoded
          simpa using second next_ accepted
        · cases decoded
      · cases decoded
    · split at decoded
      next three =>
        simp only [Bool.and_eq_true, decide_eq_true_eq] at three
        refine ⟨beyond _ (by decide) three.1, ?_⟩
        split at decoded
        next next_ third _ =>
          split at decoded
          next accepted =>
            cases decoded
            simp only [Bool.and_eq_true] at accepted
            simpa using ⟨second next_ accepted.1, accepted.2⟩
          · cases decoded
        · cases decoded
      · split at decoded
        next four =>
          simp only [Bool.and_eq_true, decide_eq_true_eq] at four
          refine ⟨beyond _ (by decide) four.1, ?_⟩
          split at decoded
          next next_ third fourth _ =>
            split at decoded
            next accepted =>
              cases decoded
              simp only [Bool.and_eq_true] at accepted
              simpa using ⟨second next_ accepted.1.1, accepted.1.2, accepted.2⟩
            · cases decoded
          · cases decoded
        · cases decoded

variable {text : Bytes}

theorem suffix_of_mem_runeTailsFrom {skip : Nat} {tail : Bytes}
    (member : tail ∈ runeTailsFrom skip text) : tail <:+ text := by
  induction text generalizing skip with
  | nil =>
    rw [runeTailsFrom, List.mem_singleton] at member
    subst member
    exact List.suffix_refl _
  | cons _ _ ih =>
    cases skip with
    | zero =>
      rcases List.mem_cons.mp member with rfl | later
      · exact List.suffix_refl _
      · exact (ih later).trans (List.suffix_cons _ _)
    | succ => exact (ih member).trans (List.suffix_cons _ _)

theorem mem_runeTailsFrom {skip : Nat} (valid : validFrom skip text)
    (continued : ∀ byte ∈ text.take skip, isContinuation byte = true) {lead : UInt8} {tail : Bytes}
    (begins : isContinuation lead = false) (suffix : lead :: tail <:+ text) :
    lead :: tail ∈ runeTailsFrom skip text := by
  induction text generalizing skip with
  | nil => simp at suffix
  | cons byte rest ih =>
    cases skip with
    | zero =>
      simp only [validFrom] at valid
      cases decoded : runeLength? (byte :: rest) with
      | none =>
        rw [decoded] at valid
        cases valid
      | some =>
        rw [decoded] at valid
        rw [runeTailsFrom, decoded]
        rcases List.suffix_cons_iff.mp suffix with whole | later
        · rw [whole]
          exact List.mem_cons_self
        · exact List.mem_cons_of_mem _ (ih valid (runeLength?_spec decoded).2 later)
    | succ =>
      rcases List.suffix_cons_iff.mp suffix with whole | later
      · -- the byte at the front belongs to the rune before
        have inside := continued byte (by simp)
        rw [← (List.cons.inj whole).1, begins] at inside
        cases inside
      · exact ih valid (fun other member => continued other (by simp [member])) later

theorem like_contains {part : Bytes} (literal : Literal part) (nonempty : part ≠ [])
    (validPart : validFrom 0 part) (validText : validFrom 0 text) :
    like ([37] ++ part ++ [37]) text = contains text part := by
  rw [Bool.eq_iff_iff, contains, decide_eq_true_iff]
  have expanded : like ([37] ++ part ++ [37]) text = true ↔
      ∃ tail ∈ runeTailsFrom 0 text, part <+: tail := by
    rw [List.append_assoc, List.singleton_append, like, List.any_eq_true]
    exact exists_congr fun tail => and_congr_right fun _ => like_literal literal tail
  rw [expanded]
  constructor
  · rintro ⟨_, member, starts⟩
    exact starts.isInfix.trans (suffix_of_mem_runeTailsFrom member).isInfix
  · rintro ⟨before, after, shape⟩
    cases part with
    | nil => exact absurd rfl nonempty
    | cons lead part =>
      have begins : isContinuation lead = false := by
        simp only [validFrom] at validPart
        cases decoded : runeLength? (lead :: part) with
        | none =>
          rw [decoded] at validPart
          cases validPart
        | some => exact (runeLength?_spec decoded).1
      refine ⟨lead :: (part ++ after), mem_runeTailsFrom validText (by simp) begins
        ⟨before, ?_⟩, ?_⟩
      · rw [← shape]
        simp
      · exact ⟨after, by simp⟩

theorem runeLength?_append {length : Nat} (decoded : runeLength? text = some length)
    (more : Bytes) : runeLength? (text ++ more) = some length ∧ length ≤ text.length := by
  cases text with
  | nil => cases decoded
  | cons _ rest =>
    simp only [runeLength?, List.cons_append] at decoded ⊢
    rcases rest with _ | ⟨second, _ | ⟨third, _ | ⟨fourth, rest⟩⟩⟩ <;>
      simp only [List.nil_append, List.cons_append, List.length_cons, List.length_nil]
        at decoded ⊢ <;>
      grind

theorem validFrom_append {skip : Nat} {more : Bytes} (valid : validFrom skip text)
    (fits : skip ≤ text.length) (validMore : validFrom 0 more) :
    validFrom skip (text ++ more) = true := by
  induction text generalizing skip with
  | nil =>
    rw [Nat.le_zero.mp fits]
    exact validMore
  | cons byte rest ih =>
    cases skip with
    | zero =>
      simp only [validFrom, List.cons_append] at valid ⊢
      cases decoded : runeLength? (byte :: rest) with
      | none =>
        rw [decoded] at valid
        cases valid
      | some =>
        obtain ⟨same, within⟩ := runeLength?_append decoded more
        rw [List.cons_append] at same
        rw [decoded] at valid
        rw [same]
        refine ih valid ?_
        rw [List.length_cons] at within
        omega
    | succ => exact ih valid (Nat.le_of_succ_le_succ fits)

theorem storable_append {more : Bytes} (first : storable text)
    (second : storable more) : storable (text ++ more) = true := by
  simp only [storable, Bool.and_eq_true, Bool.not_eq_true', List.contains_eq_mem,
    decide_eq_false_iff_not, List.mem_append, not_or] at first second ⊢
  exact ⟨validFrom_append first.1 (Nat.zero_le _) second.1, first.2, second.2⟩

section SideBySide

variable {Left Right View : Type} {Twin : Left → Right → Prop} {lefts : List Left}
  {rights : List Right}

theorem exists_twin (twins : List.Forall₂ Twin lefts rights) {right : Right}
    (member : right ∈ rights) : ∃ left ∈ lefts, Twin left right := by
  induction twins with
  | nil => cases member
  | cons twin _ ih =>
    rcases List.mem_cons.mp member with rfl | later
    · exact ⟨_, List.mem_cons_self, twin⟩
    · obtain ⟨left, found, isTwin⟩ := ih later
      exact ⟨left, List.mem_cons_of_mem _ found, isTwin⟩

theorem map_filter_eq {keeps : Left → Bool} {holds : Right → Bool} {view : Left → View}
    {sees : Right → View} (twins : List.Forall₂ Twin lefts rights)
    (same : ∀ left ∈ lefts, ∀ right, Twin left right →
      keeps left = holds right ∧ view left = sees right) :
    (lefts.filter keeps).map view = (rights.filter holds).map sees := by
  induction twins with
  | nil => rfl
  | @cons left right lefts rights twin rest ih =>
    obtain ⟨kept, seen⟩ := same left List.mem_cons_self right twin
    have others := ih fun other later => same other (List.mem_cons_of_mem _ later)
    rw [List.filter_cons, List.filter_cons, kept]
    split
    · rw [List.map_cons, List.map_cons, seen, others]
    · exact others

end SideBySide

section Tables

variable {Row : Type}

/-- A condition of a query, with the texts that are sent as its arguments. -/
structure Clause (Row : Type) where
  texts : List Bytes
  holds : Row → Bool

def addLike (locale : Collation) (column : Row → Option Bytes) (value : Bytes) : List (Clause Row) :=
  if trimSpace value = [] then []
  else
    let pattern := [37] ++ value ++ [37]
    [{ texts := [pattern], holds := fun row => (column row).any fun text =>
      locale.ilike text pattern }]

def addSince (place : Row → Cursor) (since : Int) : List (Clause Row) :=
  if since ≠ 0 then [{ texts := [], holds := fun row => micros since ≤ (place row).time }] else []

def addUntil (place : Row → Cursor) (until_ : Int) : List (Clause Row) :=
  if until_ ≠ 0 then [{ texts := [], holds := fun row => (place row).time ≤ micros until_ }]
  else []

def addCursor (place : Row → Cursor) (cursor : Cursor) : List (Clause Row) :=
  if cursor.id > 0 ∧ cursor.time ≠ 0 then
    [{ texts := [], holds := fun row =>
        (place row).time < micros cursor.time ∨
          ((place row).time = micros cursor.time ∧ (place row).id < cursor.id) }]
  else []

def conjunction (clauses : List (Clause Row)) (row : Row) : Bool :=
  clauses.all fun clause => clause.holds row

def sendable (clauses : List (Clause Row)) : Bool :=
  clauses.all fun clause => clause.texts.all storable

@[simp]
theorem conjunction_append (first second : List (Clause Row)) (row : Row) :
    conjunction (first ++ second) row = (conjunction first row && conjunction second row) :=
  List.all_append

@[simp]
theorem sendable_append (first second : List (Clause Row)) :
    sendable (first ++ second) = (sendable first && sendable second) :=
  List.all_append

theorem sendable_addLike (locale : Collation) (column : Row → Option Bytes) {value : Bytes}
    (accepted : storable value) : sendable (addLike locale column value) = true := by
  have percent : storable [37] = true := by decide
  have pattern := storable_append (storable_append percent accepted) percent
  unfold addLike
  split
  · rfl
  · simpa [sendable] using pattern

theorem sendable_addSince (place : Row → Cursor) (since : Int) :
    sendable (addSince place since) = true := by
  unfold addSince
  split <;> rfl

theorem sendable_addUntil (place : Row → Cursor) (until_ : Int) :
    sendable (addUntil place until_) = true := by
  unfold addUntil
  split <;> rfl

variable {row : Row} {rows : List Row} {clauses : List (Clause Row)}

/-- Where a needle has no wildcards, and `lower` makes `low` of it and `folded` of the text in
the column, `ILIKE` looks for one in the other. -/
theorem conjunction_addLike {locale : Collation} {column : Row → Option Bytes}
    {part low text folded : Bytes} (trimmed : trimSpace part = part) (literal : Literal low)
    (storableLow : storable low)
    (lowered : locale.lower ([37] ++ part ++ [37]) = [37] ++ low ++ [37])
    (nonempty : low = [] → part = []) (storableText : storable text)
    (lower : locale.lower text = folded) (lower_nil : text = [] → folded = [])
    (reads : column row = some text ∨ column row = nullable text) :
    conjunction (addLike locale column part) row = (part = [] || contains folded low) := by
  have valid {text : Bytes} (accepted : storable text) : validFrom 0 text = true :=
    (Bool.and_eq_true _ _ ▸ accepted).1
  unfold addLike
  rw [trimmed]
  by_cases absent : part = []
  · simp [absent, conjunction]
  have present : low ≠ [] := fun empty => absent (nonempty empty)
  have found : locale.ilike text ([37] ++ part ++ [37]) = contains folded low := by
    rw [Collation.ilike, lowered, like_contains literal present (valid storableLow)
      (valid (locale.lower_storable text storableText)), lower]
  rw [if_neg absent]
  rcases reads with read | nullable_
  · rw [← found]
    simp [conjunction, read, absent]
  · by_cases null : text = []
    · have nowhere : contains [] low = false := by simp [contains, present]
      simp [conjunction, nullable_, nullable, null, absent, lower_nil null, nowhere]
    · rw [← found]
      simp [conjunction, nullable_, nullable, null, absent]

theorem conjunction_addSince {place : Row → Cursor} {time since : Int}
    (kept : (place row).time = micros time)
    (sharp : since ≠ 0 → micros time = micros since → since ≤ time) :
    conjunction (addSince place since) row = (since = 0 || ¬ time < since) := by
  unfold addSince
  by_cases absent : since = 0
  · simp [absent, conjunction]
  have same : micros since ≤ micros time ↔ since ≤ time := by
    have := sharp absent
    unfold micros at this ⊢
    omega
  simp [absent, conjunction, kept, same]

theorem conjunction_addUntil {place : Row → Cursor} {time until_ : Int}
    (kept : (place row).time = micros time)
    (sharp : until_ ≠ 0 → micros time = micros until_ → time ≤ until_) :
    conjunction (addUntil place until_) row = (until_ = 0 || ¬ until_ < time) := by
  unfold addUntil
  by_cases absent : until_ = 0
  · simp [absent, conjunction]
  have same : micros time ≤ micros until_ ↔ time ≤ until_ := by
    have := sharp absent
    unfold micros at this ⊢
    omega
  simp [absent, conjunction, kept, same]

structure Table (Row : Type) where
  rows : List Row := []
  issued : List Int := []

/-- Insert a row under an id that was never given out before. -/
def Table.insert (table : Table Row) (id : Int) (row : Row) : Option (Table Row) :=
  if 0 < id ∧ id ∉ table.issued then some ⟨row :: table.rows, id :: table.issued⟩ else none

def Table.deleteBefore (place : Row → Cursor) (table : Table Row) (cutoff : Int) : Table Row :=
  { table with rows := table.rows.filter fun row => ¬ (place row).time < micros cutoff }

/-- Where a row stands in `ORDER BY time DESC, id DESC`. -/
def Cursor.rank (cursor : Cursor) : Int ×ₗ Int := toLex (cursor.time, cursor.id)

def latest (place : Row → Cursor) (rows : List Row) : List Row :=
  rows.insertionSort fun first second => (place second).rank ≤ (place first).rank

/-- A query; its arguments are refused if one of them is no text. -/
def Table.select (place : Row → Cursor) (table : Table Row) (clauses : List (Clause Row))
    (limit : Nat) : Option (List Row) :=
  if sendable clauses then
    some ((latest place (table.rows.filter (conjunction clauses))).take limit)
  else none

/-- What a table always is: no id is there twice, and every row has a cursor. -/
structure Table.Kept (place : Row → Cursor) (table : Table Row) : Prop where
  distinct : table.rows.Pairwise fun first second => (place first).id ≠ (place second).id
  issued : ∀ row ∈ table.rows, (place row).id ∈ table.issued
  whole : ∀ row ∈ table.rows, micros (place row).time = (place row).time
  addressable : ∀ row ∈ table.rows, Addressable (place row)

variable {place : Row → Cursor} {table : Table Row}

theorem Table.kept_initial : Table.Kept place ({} : Table Row) where
  distinct := List.Pairwise.nil
  issued _ member := by cases member
  whole _ member := by cases member
  addressable _ member := by cases member

theorem Table.insert_eq_some {id : Int} {next : Table Row}
    (inserted : table.insert id row = some next) :
    (0 < id ∧ id ∉ table.issued) ∧ next = ⟨row :: table.rows, id :: table.issued⟩ := by
  unfold Table.insert at inserted
  split at inserted
  next fresh =>
    cases inserted
    exact ⟨fresh, rfl⟩
  · cases inserted

theorem Table.Kept.insert (kept : table.Kept place) {id : Int} {next : Table Row}
    (assigned : (place row).id = id) (whole : micros (place row).time = (place row).time)
    (timed : (place row).time ≠ 0) (representable : Representable (place row).time)
    (inserted : table.insert id row = some next) :
    next.Kept place ∧ ∀ entry ∈ next.rows, entry ∈ table.rows ∨ (place entry).id ∉ table.issued := by
  obtain ⟨fresh, rfl⟩ := Table.insert_eq_some inserted
  refine ⟨⟨?_, ?_, ?_, ?_⟩, fun entry member => ?_⟩
  · refine List.pairwise_cons.mpr ⟨fun other member same => ?_, kept.distinct⟩
    rw [assigned] at same
    exact fresh.2 (same ▸ kept.issued other member)
  · intro other member
    rcases List.mem_cons.mp member with rfl | earlier
    · rw [assigned]
      exact List.mem_cons_self
    · exact List.mem_cons_of_mem _ (kept.issued other earlier)
  · intro other member
    rcases List.mem_cons.mp member with rfl | earlier
    · exact whole
    · exact kept.whole other earlier
  · intro other member
    rcases List.mem_cons.mp member with rfl | earlier
    · exact ⟨assigned ▸ fresh.1, timed, representable⟩
    · exact kept.addressable other earlier
  · rcases List.mem_cons.mp member with rfl | earlier
    · exact .inr (assigned ▸ fresh.2)
    · exact .inl earlier

theorem Table.Kept.deleteBefore (kept : table.Kept place) (cutoff : Int) :
    (table.deleteBefore place cutoff).Kept place where
  distinct := kept.distinct.sublist (List.filter_sublist)
  issued row member := kept.issued row (List.mem_of_mem_filter member)
  whole row member := kept.whole row (List.mem_of_mem_filter member)
  addressable row member := kept.addressable row (List.mem_of_mem_filter member)

theorem falling_latest
    (distinct : rows.Pairwise fun first second => (place first).id ≠ (place second).id) :
    (latest place rows).Pairwise fun first second => (place second).rank < (place first).rank := by
  have sorted : (latest place rows).Pairwise fun first second =>
      (place second).rank ≤ (place first).rank := by
    have total : Std.Total fun first second : Row => (place second).rank ≤ (place first).rank :=
      ⟨fun first second => le_total _ _⟩
    have transitive : IsTrans Row fun first second => (place second).rank ≤ (place first).rank :=
      ⟨fun first second third before after => le_trans after before⟩
    exact List.pairwise_insertionSort _ rows
  have apart : (latest place rows).Pairwise fun first second =>
      (place first).id ≠ (place second).id :=
    (List.perm_insertionSort _ rows).symm.pairwise distinct fun different => Ne.symm different
  refine sorted.imp₂ (fun first second ordered different => ?_) apart
  refine lt_of_le_of_ne ordered fun same => different ?_
  have equal : ((place second).time, (place second).id) = ((place first).time, (place first).id) :=
    toLex.injective same
  exact (Prod.mk.inj equal).2.symm

theorem latest_of_ordered (ordered : rows.Pairwise fun first second =>
    (place second).rank ≤ (place first).rank) : latest place rows = rows :=
  List.Pairwise.insertionSort_eq ordered

theorem mem_latest : row ∈ latest place rows ↔ row ∈ rows := List.mem_insertionSort _

theorem conjunction_addCursor {cursor : Cursor} (set : 0 < cursor.id ∧ cursor.time ≠ 0)
    (row : Row) :
    conjunction (addCursor place cursor) row = true ↔
      (place row).rank < toLex (micros cursor.time, cursor.id) := by
  rw [addCursor, if_pos set]
  simp [conjunction, Cursor.rank, Prod.Lex.toLex_lt_toLex]

theorem sendable_addCursor (cursor : Cursor) : sendable (addCursor place cursor) = true := by
  unfold addCursor
  split <;> rfl

theorem Table.Kept.isPage (kept : table.Kept place) {codec : CursorCodec} (lawful : codec.Lawful)
    {cursor : Cursor} {bound : Option (Int ×ₗ Int)} {limit : Nat} (positive : 0 < limit)
    (opened : (cursor = {} ∧ bound = none) ∨ (0 < cursor.id ∧ cursor.time ≠ 0 ∧
        bound = some (toLex (micros cursor.time, cursor.id)))) :
    (table.select place (clauses ++ addCursor place cursor) (limit + 1) = none ∧
        sendable clauses = false) ∨
      ∃ found page next further,
        table.select place (clauses ++ addCursor place cursor) (limit + 1) = some found ∧
        cut (fun row => encodeCursor codec (place row)) limit found = (page, next) ∧
        OpensAt (OpensBy codec fun cursor => toLex (micros cursor.time, cursor.id)) next further ∧
        IsPage (fun row => (place row).rank) (· ∈ table.rows)
          (fun row => conjunction clauses row = true) bound page further := by
  unfold Table.select
  rw [sendable_append, sendable_addCursor, Bool.and_true]
  cases sent : sendable clauses with
  | false => exact .inl ⟨if_neg (by decide), rfl⟩
  | true =>
    refine .inr ?_
    have ahead : ∀ row, conjunction (addCursor place cursor) row = true ↔
        ∀ least ∈ bound, (place row).rank < least := by
      intro row
      rcases opened with ⟨rfl, rfl⟩ | ⟨assigned, timed, rfl⟩
      · simp [addCursor, conjunction]
      · rw [conjunction_addCursor ⟨assigned, timed⟩]
        simp
    have meets : ∀ row, row ∈ latest place
        (table.rows.filter (conjunction (clauses ++ addCursor place cursor))) ↔
        row ∈ table.rows ∧ conjunction clauses row = true ∧
          ∀ least ∈ bound, (place row).rank < least := by
      intro row
      rw [mem_latest, List.mem_filter, conjunction_append, Bool.and_eq_true, ahead]
    have encoded : ∀ row ∈ latest place
        (table.rows.filter (conjunction (clauses ++ addCursor place cursor))),
        encodeCursor codec (place row) ≠ [] ∧
          OpensBy codec (fun cursor => toLex (micros cursor.time, cursor.id))
            (encodeCursor codec (place row)) (place row).rank := by
      intro row member
      have stored := ((meets row).mp member).1
      have opens := opensBy_encodeCursor lawful
        (fun cursor => toLex (micros cursor.time, cursor.id)) (kept.addressable row stored)
      rwa [kept.whole row stored] at opens
    obtain ⟨page, next, further, isCut, opens, isPage⟩ :=
      isPage_cut positive (falling_latest (kept.distinct.sublist List.filter_sublist))
        (fun row member => ((meets row).mp member).2)
        (fun row stored wanted below => (meets row).mpr ⟨stored, wanted, below⟩) encoded
    simp only [if_true]
    exact ⟨_, page, next, further, rfl, (cut_take _ _ _).trans isCut, opens, isPage⟩

theorem Table.Kept.follow (kept : table.Kept place)
    (ordered : table.rows.Pairwise fun first second => (place second).rank ≤ (place first).rank)
    {codec : CursorCodec} (lawful : codec.Lawful) (sent : sendable clauses) {limit : Nat}
    (positive : 0 < limit) {read : Bytes → Option (List Row × Bytes)}
    (reads : ∀ text cursor, cursorFromRequest codec text = .ok cursor →
      read text = (table.select place (clauses ++ addCursor place cursor) (limit + 1)).map
        (cut (fun row => encodeCursor codec (place row)) limit)) (pages : Nat) :
    Paging.follow read pages [] =
      some (chunks limit pages (table.rows.filter (conjunction clauses))) := by
  have page : ∀ text cursor, cursorFromRequest codec text = .ok cursor →
      read text = some (cut (fun row => encodeCursor codec (place row)) limit
        ((table.rows.filter (conjunction clauses)).filter
          (conjunction (addCursor place cursor)))) := by
    intro text cursor decoded
    have all : sendable (clauses ++ addCursor place cursor) = true := by
      rw [sendable_append, sent, sendable_addCursor]
      rfl
    have both : table.rows.filter (conjunction (clauses ++ addCursor place cursor)) =
        (table.rows.filter (conjunction clauses)).filter
          (conjunction (addCursor place cursor)) := by
      rw [List.filter_filter]
      refine List.filter_congr fun row _ => ?_
      rw [conjunction_append, Bool.and_comm]
    rw [reads text cursor decoded, Table.select, if_pos all, both,
      latest_of_ordered ((ordered.sublist List.filter_sublist).sublist List.filter_sublist),
      Option.map_some, cut_take]
  have falling : (table.rows.filter (conjunction clauses)).Pairwise fun first second =>
      (place second).rank < (place first).rank := by
    have strict := falling_latest (kept.distinct.sublist
      (List.filter_sublist (p := conjunction clauses)))
    rwa [latest_of_ordered (ordered.sublist List.filter_sublist)] at strict
  refine follow_eq_chunks (fun row => encodeCursor codec (place row)) positive ?_
    (fun front last rest whole => ?_) pages
  · have unbounded : conjunction (addCursor place {}) = fun _ : Row => true := rfl
    rw [page [] {} (cursorFromRequest_nil codec), unbounded, List.filter_true]
  · have found : last ∈ table.rows.filter (conjunction clauses) := by simp [whole]
    have stored := List.mem_of_mem_filter found
    have addressable := kept.addressable last stored
    obtain ⟨nonempty, decoded⟩ := cursorFromRequest_encodeCursor lawful addressable
    have behind : (table.rows.filter (conjunction clauses)).filter
        (conjunction (addCursor place (place last))) = rest := by
      have below := filter_below (fun row => (place row).rank) (whole ▸ falling)
      rw [← whole] at below
      rw [← below]
      refine List.filter_congr fun row _ => ?_
      rw [Bool.eq_iff_iff, conjunction_addCursor ⟨addressable.assigned, addressable.timed⟩,
        kept.whole last stored, decide_eq_true_iff]
      rfl
    refine ⟨nonempty, ?_⟩
    rw [page _ _ decoded, behind]

end Tables

end Porthook.History
