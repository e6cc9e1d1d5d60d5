import Porthook.History.AuditLog
import Porthook.History.RequestLog

/-!
# Walks through the logs

A reader follows `next_cursor` from the first page on while entries are added and pruned.
Each of the four stores is a `Paging.Source`: those in memory are ordered by id, those in
Postgres by time and id.  `walks_exact` says when such a walk is exact in all of them.
-/

namespace Porthook.History

open Paging Protocol

def ExactWalks {Store Change Read Entry Symbol Key : Type} [LinearOrder Key]
    (source : Source Store Change Read Entry Symbol) (key : Entry → Key) (wanted : Entry → Prop)
    (refuses : Prop) (guard : Store → Move Change Read → Prop) (store : Store) : Prop :=
  ∀ moves, Transition.Guarded source.step (fun state move => guard state.store move)
      { store := store } moves →
    Transition.Always source.step (source.Exactly key wanted refuses) { store := store } moves

section Memory

variable {Entry Read : Type} {layout : Layout Entry} {codec : CursorCodec}

inductive BufferChange (Entry : Type) where
  | add (entry : Entry)
  | pruneBefore (cutoff : Int)

/-- A buffer that gives every entry its id, read through the texts of its cursors. -/
def bufferSource (layout : Layout Entry) (codec : CursorCodec)
    (page : Buffer Entry → Read → Cursor → List Entry × Bytes) :
    Source (Buffer Entry) (BufferChange Entry) Read Entry UInt8 where
  stored buffer := buffer.log.entries
  change
    | buffer, .add entry => some (buffer.add layout (layout.assign entry 0))
    | buffer, .pruneBefore cutoff => some (buffer.pruneBefore layout cutoff).1
  read buffer read text :=
    match cursorFromRequest codec text with
    | .error _ => none
    | .ok cursor => some (page buffer read cursor)

/-- Entries that are added have a time that a cursor can express. -/
def bufferGuard (Read : Type) (layout : Layout Entry) (settled : Buffer Entry → Prop)
    (buffer : Buffer Entry) : Move (BufferChange Entry) Read → Prop
  | .change (.add entry) => Timely (layout.place entry).time
  | .change (.pruneBefore _) => True
  | .read _ => settled buffer

variable {page : Buffer Entry → Read → Cursor → List Entry × Bytes} {settled : Buffer Entry → Prop}

theorem bufferSource_changed (buffer : Buffer Entry) (change : BufferChange Entry)
    (next : Buffer Entry) (kept : buffer.Kept layout)
    (met : bufferGuard Read layout settled buffer (.change change))
    (changed : (bufferSource layout codec page).change buffer change = some next) :
    next.Kept layout ∧ (∀ entry, (layout.place entry).id ≤ buffer.nextID →
        (layout.place entry).id ≤ next.nextID) ∧
      ∀ entry ∈ next.log.entries,
        entry ∈ buffer.log.entries ∨ ¬ (layout.place entry).id ≤ buffer.nextID := by
  cases change with
  | add entry =>
    cases changed
    have place := layout.place_assign entry 0
    obtain ⟨stillKept, grown, fresh⟩ := kept.add (by rw [place])
      (by rw [place]; exact met.1) (by rw [place]; exact met.2)
    exact ⟨stillKept, fun other given => le_trans given grown, fresh⟩
  | pruneBefore cutoff =>
    cases changed
    obtain ⟨stillKept, grown, remaining⟩ := kept.pruneBefore cutoff
    exact ⟨stillKept, fun other given => le_trans given grown,
      fun other member => .inl (remaining other member)⟩

theorem exactWalks_bufferSource (lawful : codec.Lawful) {wanted : Entry → Prop} {limit : Nat}
    (positive : 0 < limit)
    (paged : ∀ buffer read cursor, settled buffer → ∃ keep : Entry → Bool,
      page buffer read cursor = cut (fun entry => encodeCursor codec (layout.place entry)) limit
        (buffer.log.scan keep limit) ∧
      ∀ entry ∈ buffer.log.entries, keep entry = true ↔
        ¬ (0 < cursor.id ∧ cursor.id ≤ (layout.place entry).id) ∧ wanted entry) (capacity : Int) :
    ExactWalks (bufferSource layout codec page) (fun entry => (layout.place entry).id) wanted
      False (bufferGuard Read layout settled) (newBuffer layout capacity) := by
  intro moves guarded
  have pages : (bufferSource layout codec page).Pages (fun entry => (layout.place entry).id)
      wanted False (bufferGuard Read layout settled) (Buffer.Kept layout)
      (fun buffer entry => (layout.place entry).id ≤ buffer.nextID)
      (OpensBy codec Cursor.id) := by
    refine ⟨bufferSource_changed, fun buffer kept => kept.given,
      fun buffer read text bound kept met opened => .inr ?_⟩
    obtain ⟨cursor, decoded, starts⟩ := OpensAt.cursorFromRequest opened
    obtain ⟨_, isCut, keep_iff⟩ := paged buffer read cursor met
    obtain ⟨found, next, further, cutAs, opens, isPage⟩ :=
      kept.isPage lawful positive starts keep_iff
    refine ⟨found, next, further, ?_, opens, isPage⟩
    simp only [bufferSource, decoded, isCut, cutAs]
  exact always_exactly pages (kept_newBuffer capacity) guarded

end Memory

section Postgres

variable {Row : Type} {place : Row → Cursor} {codec : CursorCodec}

inductive TableChange (Row : Type) where
  | add (id now : Int) (entry : Row)
  | pruneBefore (cutoff : Int)

def tableSource (codec : CursorCodec) (add : Table Row → Int → Int → Row → Option (Table Row))
    (prune : Table Row → Int → Table Row)
    (page : Table Row → Cursor → Option (List Row × Bytes)) :
    Source (Table Row) (TableChange Row) Unit Row UInt8 where
  stored table := table.rows
  change
    | table, .add id now entry => add table id now entry
    | table, .pruneBefore cutoff => some (prune table cutoff)
  read table _ text :=
    match cursorFromRequest codec text with
    | .error _ => none
    | .ok cursor => page table cursor

def rowTime (now time : Int) : Int := micros (if time = 0 then now else time)

def tableGuard (place : Row → Cursor) (_ : Table Row) : Move (TableChange Row) Unit → Prop
  | .change (.add _ now entry) => Timely (rowTime now (place entry).time)
  | .change (.pruneBefore _) => True
  | .read _ => True

theorem exactWalks_tableSource (lawful : codec.Lawful)
    {add : Table Row → Int → Int → Row → Option (Table Row)}
    {prune : Table Row → Int → Table Row}
    {page : Table Row → Cursor → Option (List Row × Bytes)}
    {clauses : List (Clause Row)} {limit : Nat} (positive : 0 < limit)
    (added : ∀ table id now entry next, add table id now entry = some next → next = table ∨
      ∃ row, place row = ⟨rowTime now (place entry).time, id⟩ ∧ table.insert id row = some next)
    (pruned : ∀ table cutoff, prune table cutoff = table ∨
      prune table cutoff = table.deleteBefore place cutoff)
    (paged : ∀ table cursor, page table cursor =
      (table.select place (clauses ++ addCursor place cursor) (limit + 1)).map
        (cut (fun row => encodeCursor codec (place row)) limit)) :
    ExactWalks (tableSource codec add prune page) (fun row => (place row).rank)
      (fun row => conjunction clauses row = true) (sendable clauses = false) (tableGuard place)
      {} := by
  intro moves guarded
  have pages : (tableSource codec add prune page).Pages (fun row => (place row).rank)
      (fun row => conjunction clauses row = true) (sendable clauses = false) (tableGuard place)
      (Table.Kept place) (fun table row => (place row).id ∈ table.issued)
      (OpensBy codec fun cursor => toLex (micros cursor.time, cursor.id)) := by
    refine ⟨fun table change next kept met changed => ?_, fun table kept => kept.issued,
      fun table read text bound kept met opened => ?_⟩
    · cases change with
      | add id now entry =>
        rcases added table id now entry next changed with rfl | ⟨_, placed, inserted⟩
        · exact ⟨kept, fun _ given => given, fun _ member => .inl member⟩
        obtain ⟨stillKept, fresh⟩ := kept.insert (by rw [placed])
          (by rw [placed]; exact micros_micros _) (by rw [placed]; exact met.1)
          (by rw [placed]; exact met.2) inserted
        refine ⟨stillKept, fun other given => ?_, fresh⟩
        rw [(Table.insert_eq_some inserted).2]
        exact List.mem_cons_of_mem _ given
      | pruneBefore cutoff =>
        cases changed
        rcases pruned table cutoff with same | deleted
        · rw [same]
          exact ⟨kept, fun _ given => given, fun _ member => .inl member⟩
        · rw [deleted]
          exact ⟨kept.deleteBefore cutoff, fun _ given => given,
            fun other member => .inl (List.mem_of_mem_filter member)⟩
    · obtain ⟨cursor, decoded, starts⟩ := OpensAt.cursorFromRequest opened
      have query : (table.select place (clauses ++ addCursor place cursor) (limit + 1) = none ∧
          sendable clauses = false) ∨ _ := kept.isPage lawful positive starts
      rcases query with ⟨refused, reason⟩ |
        ⟨found, result, next, further, selected, cutAs, opens, isPage⟩
      · refine .inl ⟨?_, reason⟩
        simp [tableSource, decoded, paged, refused]
      · refine .inr ⟨result, next, further, ?_, opens, isPage⟩
        simp [tableSource, decoded, paged, selected, cutAs]
  exact always_exactly pages Table.kept_initial guarded

end Postgres

section Stores

open Gateway ControlPlane

variable (folding : Folding) (locale : Collation) (jsonb : Jsonb) (codec : CursorCodec)

def requestLogSource (opts : RequestLogListOptions) :
    Source RequestLogBuffer (BufferChange RequestLogEntry) Unit RequestLogEntry UInt8 :=
  bufferSource requestLogLayout codec fun buffer _ cursor =>
    let page := RequestLogBuffer.listPage folding codec buffer { opts with cursor := cursor }
    (page.requestLogs, page.nextCursor)

def auditEventSource (opts : AuditEventListOptions) :
    Source MemoryAuditEventStore (BufferChange AuditEvent) Arrangement AuditEvent UInt8 :=
  bufferSource auditEventLayout codec fun store arrangement cursor =>
    let page := MemoryAuditEventStore.list folding codec store arrangement
      { opts with cursor }
    (page.events, page.nextCursor)

def postgresRequestLogSource (opts : RequestLogListOptions) :
    Source PostgresRequestLogStore (TableChange RequestLogEntry) Unit RequestLogEntry UInt8 :=
  tableSource codec PostgresRequestLogStore.add PostgresRequestLogStore.pruneBefore
    fun store cursor =>
      (PostgresRequestLogStore.list folding locale codec store
        { opts with cursor }).map fun page => (page.requestLogs, page.nextCursor)

def postgresAuditEventSource (opts : AuditEventListOptions) :
    Source PostgresAuditEventStore (TableChange AuditEvent) Unit AuditEvent UInt8 :=
  tableSource codec (PostgresAuditEventStore.add jsonb) PostgresAuditEventStore.pruneBefore
    fun store cursor =>
      (PostgresAuditEventStore.list folding locale jsonb codec store
        { opts with cursor }).map fun page => (page.events, page.nextCursor)

/-- Whether an event is selected does not depend on the order of its fields. -/
def FieldsSettled (opts : AuditEventListOptions) (store : MemoryAuditEventStore) : Prop :=
  ∀ event ∈ store.log.entries, ∀ order : Fields, order.Perm event.fields →
    opts.selects folding event order = opts.selects folding event event.fields

variable {codec}

theorem requestLog_exact (lawful : codec.Lawful) (opts : RequestLogListOptions)
    (positive : 1 ≤ opts.limit) (capacity : Int) :
    ExactWalks (requestLogSource folding codec opts) RequestLogEntry.id
      (fun entry => opts.filter.matches folding entry = true) False
      (bufferGuard Unit requestLogLayout fun _ => True) (newRequestLogBuffer capacity) := by
  have limited := normalizedRequestLogLimit_pos positive
  refine exactWalks_bufferSource lawful (by omega : 0 < (normalizedRequestLogLimit opts.limit).toNat)
    (fun buffer _ cursor _ => ?_) capacity
  refine ⟨fun entry => !(cursor.id > 0 && entry.id ≥ cursor.id) &&
    opts.filter.matches folding entry, ?_, fun entry _ => ?_⟩
  · exact RequestLogBuffer.listPage_eq folding codec buffer limited
  · simp [requestLogLayout, RequestLogEntry.place, imp_iff_not_or]

theorem auditEvent_exact (lawful : codec.Lawful) (opts : AuditEventListOptions) (capacity : Int) :
    ExactWalks (auditEventSource folding codec opts) AuditEvent.id
      (fun event => opts.selects folding event event.fields = true) False
      (bufferGuard Arrangement auditEventLayout (FieldsSettled folding opts))
      (newMemoryAuditEventStore capacity) := by
  have limited := normalizedAuditEventLimit_pos opts.limit
  refine exactWalks_bufferSource lawful (by omega : 0 < (normalizedAuditEventLimit opts.limit).toNat)
    (fun store arrangement cursor settled => ?_) capacity
  refine ⟨fun event => auditEventMatches folding event { opts with cursor }
    (arrangement.order event), ?_, fun event member => ?_⟩
  · simp only [MemoryAuditEventStore.list_eq, auditEventPage_eq]
    rfl
  · have same := settled event member (arrangement.order event) (arrangement.perm event)
    have whole : AuditEventListOptions.selects folding { opts with cursor } event
        (arrangement.order event) = opts.selects folding event event.fields := same
    simp [auditEventMatches, whole, auditEventLayout, AuditEvent.place, imp_iff_not_or]

theorem postgresRequestLog_exact (lawful : codec.Lawful) (opts : RequestLogListOptions)
    (positive : 1 ≤ opts.limit) :
    ExactWalks (postgresRequestLogSource folding locale codec opts) (fun row => row.place.rank)
      (fun row => conjunction (requestLogSQLFilters folding locale opts.filter) row = true)
      (sendable (requestLogSQLFilters folding locale opts.filter) = false)
      (tableGuard RequestLogEntry.place) {} := by
  have limited := normalizedRequestLogLimit_pos positive
  refine exactWalks_tableSource lawful (by omega : 0 < (normalizedRequestLogLimit opts.limit).toNat)
    (fun store id now entry next added => ?_) (fun store cutoff => ?_) (fun store cursor => ?_)
  · unfold PostgresRequestLogStore.add at added
    split at added
    · exact .inr ⟨entry.row id now, rfl, added⟩
    · cases added
      exact .inl rfl
  · unfold PostgresRequestLogStore.pruneBefore
    split
    · exact .inl rfl
    · exact .inr rfl
  · exact PostgresRequestLogStore.list_eq folding locale codec store limited

theorem postgresAuditEvent_exact (lawful : codec.Lawful) (opts : AuditEventListOptions) :
    ExactWalks (postgresAuditEventSource folding locale jsonb codec opts)
      (fun row => row.place.rank)
      (fun row => conjunction (auditEventSQLFilters folding locale jsonb opts) row = true)
      (sendable (auditEventSQLFilters folding locale jsonb opts) = false)
      (tableGuard AuditEvent.place) {} := by
  have limited := normalizedAuditEventLimit_pos opts.limit
  refine exactWalks_tableSource lawful (by omega : 0 < (normalizedAuditEventLimit opts.limit).toNat)
    (fun store id now event next added => ?_) (fun store cutoff => ?_) (fun store cursor => ?_)
  · unfold PostgresAuditEventStore.add at added
    split at added
    · cases added
      exact .inl rfl
    next fields kept =>
      split at added
      · exact .inr ⟨event.row id now fields, rfl, added⟩
      · cases added
        exact .inl rfl
  · unfold PostgresAuditEventStore.pruneBefore
    split
    · exact .inl rfl
    · exact .inr rfl
  · unfold PostgresAuditEventStore.list
    simp only [Option.map_map, auditEventPage_eq]
    rfl

/-- Walks are exact in all four stores, whatever is added and pruned on the way, as long as times
can be expressed in a cursor and, for the audit log in memory, the filter does not depend on the
order of an event's fields. -/
theorem walks_exact (lawful : codec.Lawful) (capacity : Int) (requests : RequestLogListOptions)
    (events : AuditEventListOptions) (requestsPositive : 1 ≤ requests.limit) :
    ExactWalks (requestLogSource folding codec requests) RequestLogEntry.id
      (fun entry => requests.filter.matches folding entry = true) False
      (bufferGuard Unit requestLogLayout fun _ => True) (newRequestLogBuffer capacity) ∧
    ExactWalks (postgresRequestLogSource folding locale codec requests) (fun row => row.place.rank)
      (fun row => conjunction (requestLogSQLFilters folding locale requests.filter) row = true)
      (sendable (requestLogSQLFilters folding locale requests.filter) = false)
      (tableGuard RequestLogEntry.place) {} ∧
    ExactWalks (auditEventSource folding codec events) AuditEvent.id
      (fun event => events.selects folding event event.fields = true) False
      (bufferGuard Arrangement auditEventLayout (FieldsSettled folding events))
      (newMemoryAuditEventStore capacity) ∧
    ExactWalks (postgresAuditEventSource folding locale jsonb codec events)
      (fun row => row.place.rank)
      (fun row => conjunction (auditEventSQLFilters folding locale jsonb events) row = true)
      (sendable (auditEventSQLFilters folding locale jsonb events) = false)
      (tableGuard AuditEvent.place) {} :=
  ⟨requestLog_exact folding lawful requests requestsPositive capacity,
    postgresRequestLog_exact folding locale lawful requests requestsPositive,
    auditEvent_exact folding lawful events capacity,
    postgresAuditEvent_exact folding locale jsonb lawful events⟩

end Stores

section Walks

open ControlPlane

def unary (n : Int) : Bytes := (if n < 0 then 2 else 1) :: List.replicate n.natAbs 0

def readUnary : Bytes → Option (Int × Bytes)
  | [] => none
  | sign :: rest =>
    let size : Int := (rest.takeWhile (· = 0)).length
    some (if sign = 2 then -size else size, rest.dropWhile (· = 0))

def unaryCodec : CursorCodec where
  marshal cursor :=
    if Representable cursor.time then some (unary cursor.time ++ unary cursor.id) else none
  unmarshal data := do
    let (time, rest) ← readUnary data
    let (id, _) ← readUnary rest
    return ⟨time, id⟩

theorem readUnary_unary (n : Int) {rest : Bytes} (ends : ∀ byte ∈ rest.head?, byte ≠ 0) :
    readUnary (unary n ++ rest) = some (n, rest) := by
  have stops : rest.takeWhile (· = 0) = [] ∧ rest.dropWhile (· = 0) = rest := by
    cases rest with
    | nil => exact ⟨rfl, rfl⟩
    | cons byte => simp [ends byte rfl]
  have zeros : ∀ size : Nat, (List.replicate size (0 : UInt8) ++ rest).takeWhile (· = 0) =
      List.replicate size 0 ∧
      (List.replicate size (0 : UInt8) ++ rest).dropWhile (· = 0) = rest := by
    intro size
    induction size with
    | zero => simpa using stops
    | succ _ ih => simpa [List.replicate_succ] using ih
  have size := zeros n.natAbs
  simp only [unary, readUnary, List.cons_append, size.1, size.2, List.length_replicate]
  by_cases negative : n < 0
  · simp only [if_pos negative, if_true]
    congr 2
    omega
  · rw [if_neg negative, if_neg (by decide)]
    congr 2
    omega

theorem unaryCodec_lawful : unaryCodec.Lawful := by
  intro cursor representable
  refine ⟨unary cursor.time ++ unary cursor.id, if_pos representable, by simp [unary], ?_⟩
  have first : readUnary (unary cursor.time ++ unary cursor.id) =
      some (cursor.time, unary cursor.id) := by
    refine readUnary_unary _ fun byte head => ?_
    simp only [unary, List.head?_cons, Option.mem_def, Option.some.injEq] at head
    rw [← head]
    split <;> decide
  have second : readUnary (unary cursor.id) = some (cursor.id, []) := by
    have alone : readUnary (unary cursor.id ++ []) = some (cursor.id, []) :=
      readUnary_unary cursor.id fun byte head => by cases head
    rwa [List.append_nil] at alone
  simp [unaryCodec, first, second]

def asciiFolding : Folding where
  toLower text := text.map fun byte => if 65 ≤ byte ∧ byte ≤ 90 then byte + 32 else byte
  toUpper text := text.map fun byte => if 97 ≤ byte ∧ byte ≤ 122 then byte - 32 else byte
  parseTime _ := none

def listedOrder : Arrangement := ⟨AuditEvent.fields, fun _ => .refl _⟩

def reversedOrder : Arrangement := ⟨fun event => event.fields.reverse, fun _ => List.reverse_perm _⟩

def pagedMoves (fields : Fields) (second : Arrangement) :
    List (Move (BufferChange AuditEvent) Arrangement) :=
  [.change (.add { time := 1, fields }), .change (.add { time := 2, fields }),
    .read listedOrder, .read second]

def twoFields : Fields := [(ascii "a", ascii "1"), (ascii "b", ascii "2")]

theorem guarded_pagedMoves (opts : AuditEventListOptions) (fields : Fields)
    (second : Arrangement) {settled : MemoryAuditEventStore → Prop}
    (always : ∀ store, settled store) (store : MemoryAuditEventStore) :
    Transition.Guarded (auditEventSource asciiFolding unaryCodec opts).step
      (fun state move => bufferGuard Arrangement auditEventLayout settled state.store move)
      { store := store } (pagedMoves fields second) := by
  have first : Timely 1 := by decide
  have later : Timely 2 := by decide
  exact ⟨first, fun _ _ => ⟨later, fun _ _ => ⟨always _, fun _ _ => ⟨always _,
    fun _ _ => trivial⟩⟩⟩⟩

/-- Both events have what the filter looks for.  The second read goes through the fields the other
way round and does not find in the older event what the first read found there. -/
theorem audit_walk_loses_event : Transition.Guarded (auditEventSource asciiFolding unaryCodec
          { limit := 1, field := ascii "a=1 b=2" }).step
        (fun state move => bufferGuard Arrangement auditEventLayout (fun _ => True) state.store move)
        { store := newMemoryAuditEventStore 2 } (pagedMoves twoFields reversedOrder) ∧
    ∃ last first event, Transition.exec (auditEventSource asciiFolding unaryCodec
          { limit := 1, field := ascii "a=1 b=2" }).step
        { store := newMemoryAuditEventStore 2 } (pagedMoves twoFields reversedOrder) = some last ∧
      last.finished = true ∧ last.first = some first ∧ event ∈ first ∧
      event ∈ last.store.log.entries ∧
      AuditEventListOptions.selects asciiFolding { limit := 1, field := ascii "a=1 b=2" } event
        (listedOrder.order event) = true ∧
      event ∉ last.returned := by
  refine ⟨guarded_pagedMoves _ _ _ (fun _ => trivial) _, ?_⟩
  let older : AuditEvent := { id := 1, time := 1, fields := twoFields }
  have reached : ((Transition.exec (auditEventSource asciiFolding unaryCodec
          { limit := 1, field := ascii "a=1 b=2" }).step
        { store := newMemoryAuditEventStore 2 } (pagedMoves twoFields reversedOrder)).any
      fun last => last.finished = true ∧ last.first = some last.store.log.entries ∧
        older ∈ last.store.log.entries ∧ older ∉ last.returned) = true := by
    decide +kernel
  obtain ⟨last, executed, ended⟩ := (Option.any_eq_true _ _).mp reached
  obtain ⟨finished, began, stored, missing⟩ := of_decide_eq_true ended
  exact ⟨last, last.store.log.entries, older, executed, finished, began, stored, stored,
    by decide +kernel, missing⟩

theorem fieldsSettled_of_unfiltered (folding : Folding) {opts : AuditEventListOptions}
    (unfiltered : opts.field = []) (store : MemoryAuditEventStore) :
    FieldsSettled folding opts store := by
  intro event _ order _
  simp [AuditEventListOptions.selects, unfiltered]

theorem walks_exact_unfiltered :
    Transition.Always (auditEventSource asciiFolding unaryCodec { limit := 1 }).step
      ((auditEventSource asciiFolding unaryCodec { limit := 1 }).Exactly AuditEvent.id
        (fun event => AuditEventListOptions.selects asciiFolding { limit := 1 } event
          event.fields = true) False)
      { store := newMemoryAuditEventStore 2 } (pagedMoves twoFields reversedOrder) ∧
    ((Transition.exec (auditEventSource asciiFolding unaryCodec { limit := 1 }).step
        { store := newMemoryAuditEventStore 2 } (pagedMoves twoFields reversedOrder)).map
      fun last => (last.finished, last.returned.map AuditEvent.id)) = some (true, [2, 1]) := by
  have settled := fieldsSettled_of_unfiltered asciiFolding
    (show ({ limit := 1 } : AuditEventListOptions).field = [] from rfl)
  refine ⟨(walks_exact asciiFolding ⟨id, fun _ => id⟩ ⟨some, auditEventFieldsText⟩ unaryCodec_lawful 2
    { limit := 1 } { limit := 1 } (by decide)).2.2.1 _ ?_, by decide +kernel⟩
  exact guarded_pagedMoves _ _ _ settled _

end Walks

end Porthook.History
