import Porthook.History.Buffer
import Porthook.History.Sql

/-!
# The control plane's audit log

The second of the two logs.  An event has a map of further fields, which a filter can look
for.  In memory the fields are put into one text in the order in which Go goes through the
map, which is another one each time; Postgres has one text for a `jsonb` value.
-/

namespace Porthook.ControlPlane

open History Paging Protocol

abbrev Fields := List (Bytes × Bytes)

structure AuditEvent where
  id : Int := 0
  time : Int := 0
  level : Bytes := []
  message : Bytes := []
  event : Bytes := []
  method : Bytes := []
  path : Bytes := []
  remoteIP : Bytes := []
  requestID : Bytes := []
  fields : Fields := []
  deriving DecidableEq, Repr

structure AuditEventListOptions where
  limit : Int
  event : Bytes := []
  level : Bytes := []
  requestID : Bytes := []
  remoteIP : Bytes := []
  field : Bytes := []
  since : Int := 0
  until_ : Int := 0
  cursor : Cursor := {}

structure AuditEventListPage where
  events : List AuditEvent := []
  nextCursor : Bytes := []

def defaultAuditEventLimit : Int := 500

def maxAuditEventLimit : Int := 1000

def normalizedAuditEventLimit (limit : Int) : Int :=
  if limit ≤ 0 then defaultAuditEventLimit else clampLimit maxAuditEventLimit limit

def AuditEvent.place (event : AuditEvent) : Cursor := ⟨event.time, event.id⟩

def encodeAuditEventCursor (codec : CursorCodec) (event : AuditEvent) : Bytes :=
  encodeCursor codec event.place

def auditEventPage (codec : CursorCodec) (events : List AuditEvent) (limit : Int) :
    AuditEventListPage :=
  let (page, next) :=
    cut (encodeAuditEventCursor codec) (normalizedAuditEventLimit limit).toNat events
  { events := page, nextCursor := next }

def auditEventFieldsText (fields : Fields) : Bytes :=
  [32].intercalate (fields.map fun field => field.1 ++ [61] ++ field.2)

/-- What the options other than the cursor ask for, with the fields in a given order. -/
def AuditEventListOptions.selects (folding : Folding) (opts : AuditEventListOptions)
    (event : AuditEvent) (order : Fields) : Bool :=
  let among (text part : Bytes) : Bool := contains (folding.toLower text) (folding.toLower part)
  (opts.since = 0 || ¬ event.time < opts.since) &&
  (opts.until_ = 0 || ¬ opts.until_ < event.time) &&
  (opts.event = [] || among event.event opts.event) &&
  (opts.level = [] || folding.toUpper event.level = opts.level) &&
  (opts.requestID = [] || among event.requestID opts.requestID) &&
  (opts.remoteIP = [] || among event.remoteIP opts.remoteIP) &&
  (opts.field = [] || among (auditEventFieldsText order) opts.field)

def auditEventMatches (folding : Folding) (event : AuditEvent) (opts : AuditEventListOptions)
    (order : Fields) : Bool :=
  !(opts.cursor.id > 0 && event.id ≥ opts.cursor.id) && opts.selects folding event order

def auditEventLayout : Layout AuditEvent where
  place := AuditEvent.place
  assign event id := { event with id }
  blank := {}
  place_assign _ _ := rfl

abbrev MemoryAuditEventStore := Buffer AuditEvent

def newMemoryAuditEventStore (limit : Int) : MemoryAuditEventStore :=
  newBuffer auditEventLayout limit

def MemoryAuditEventStore.add (store : MemoryAuditEventStore) (event : AuditEvent) :
    MemoryAuditEventStore :=
  Buffer.add auditEventLayout store event

/-- The orders in which one read goes through the fields of the events it looks at. -/
structure Arrangement where
  order : AuditEvent → Fields
  perm : ∀ event, (order event).Perm event.fields

def MemoryAuditEventStore.list (folding : Folding) (codec : CursorCodec)
    (store : MemoryAuditEventStore) (arrangement : Arrangement) (opts : AuditEventListOptions) :
    AuditEventListPage :=
  if store.log.slots = [] then {}
  else
    let limit := normalizedAuditEventLimit opts.limit
    let visible (event : AuditEvent) : Bool :=
      auditEventMatches folding event opts (arrangement.order event)
    auditEventPage codec (store.log.scan visible limit.toNat) limit

def MemoryAuditEventStore.pruneBefore (store : MemoryAuditEventStore) (cutoff : Int) :
    MemoryAuditEventStore × Int :=
  Buffer.pruneBefore auditEventLayout store cutoff

/-- What becomes of the fields in a `jsonb` column: what is read back from it, `none` where
the value is refused, and its text. -/
structure Jsonb where
  kept : Fields → Option Fields
  text : Fields → Bytes

abbrev PostgresAuditEventStore := Table AuditEvent

/-- The row for an event whose fields are kept as they are given. -/
def AuditEvent.row (event : AuditEvent) (id now : Int) (fields : Fields) : AuditEvent :=
  { event with
    id := id
    time := micros (if event.time = 0 then now else event.time)
    requestID := if trimSpace event.requestID ≠ [] then event.requestID else []
    fields := fields }

def AuditEvent.texts (event : AuditEvent) : List Bytes :=
  [event.level, event.message, event.event, event.method, event.path, event.remoteIP,
    event.requestID]

/-- Insert an event at a time, under an id of the sequence.  What the columns cannot hold is
refused, and the caller goes on without it. -/
def PostgresAuditEventStore.add (jsonb : Jsonb) (store : PostgresAuditEventStore) (id now : Int)
    (event : AuditEvent) : Option PostgresAuditEventStore :=
  match jsonb.kept event.fields with
  | none => some store
  | some fields =>
    if (event.row id now fields).texts.all storable then
      store.insert id (event.row id now fields)
    else some store

def PostgresAuditEventStore.pruneBefore (store : PostgresAuditEventStore) (cutoff : Int) :
    PostgresAuditEventStore :=
  if cutoff = 0 then store else store.deleteBefore AuditEvent.place cutoff

def auditEventSQLFilters (folding : Folding) (locale : Collation) (jsonb : Jsonb)
    (opts : AuditEventListOptions) : List (Clause AuditEvent) :=
  addLike locale (fun row => some row.event) opts.event ++
  (if trimSpace opts.level ≠ [] then
    let value := folding.toUpper (trimSpace opts.level)
    [{ texts := [value], holds := fun row => row.level = value }]
  else []) ++
  addLike locale (fun row => nullable row.requestID) opts.requestID ++
  addLike locale (fun row => some row.remoteIP) opts.remoteIP ++
  addLike locale (fun row => some (jsonb.text row.fields)) opts.field ++
  addSince AuditEvent.place opts.since ++
  addUntil AuditEvent.place opts.until_

def PostgresAuditEventStore.list (folding : Folding) (locale : Collation) (jsonb : Jsonb)
    (codec : CursorCodec) (store : PostgresAuditEventStore) (opts : AuditEventListOptions) :
    Option AuditEventListPage :=
  let limit := normalizedAuditEventLimit opts.limit
  let clauses := auditEventSQLFilters folding locale jsonb opts ++
    addCursor AuditEvent.place opts.cursor
  (store.select AuditEvent.place clauses (limit.toNat + 1)).map fun events =>
    auditEventPage codec events limit

theorem normalizedAuditEventLimit_pos (limit : Int) : 0 < normalizedAuditEventLimit limit := by
  unfold normalizedAuditEventLimit
  split
  · decide
  next positive => exact clampLimit_pos (by decide) (by omega)

theorem normalizedAuditEventLimit_idem (limit : Int) :
    normalizedAuditEventLimit (normalizedAuditEventLimit limit) =
      normalizedAuditEventLimit limit := by
  have pos := normalizedAuditEventLimit_pos limit
  rw [normalizedAuditEventLimit, if_neg (by omega)]
  unfold normalizedAuditEventLimit clampLimit
  split
  · decide
  · split <;> omega

theorem auditEventPage_eq (codec : CursorCodec) (events : List AuditEvent) (limit : Int) :
    auditEventPage codec events (normalizedAuditEventLimit limit) =
      { events := (cut (encodeAuditEventCursor codec)
          (normalizedAuditEventLimit limit).toNat events).1
        nextCursor := (cut (encodeAuditEventCursor codec)
          (normalizedAuditEventLimit limit).toNat events).2 } := by
  unfold auditEventPage
  rw [normalizedAuditEventLimit_idem]

theorem MemoryAuditEventStore.list_eq (folding : Folding) (codec : CursorCodec)
    (store : MemoryAuditEventStore) (arrangement : Arrangement) (opts : AuditEventListOptions) :
    MemoryAuditEventStore.list folding codec store arrangement opts =
      auditEventPage codec (store.log.scan (fun event =>
          auditEventMatches folding event opts (arrangement.order event))
        (normalizedAuditEventLimit opts.limit).toNat) (normalizedAuditEventLimit opts.limit) := by
  unfold MemoryAuditEventStore.list
  by_cases slotless : store.log.slots = []
  · rw [RingLog.scan_of_slotless _ _ _ slotless, if_pos slotless]
    simp [auditEventPage, cut]
  · rw [if_neg slotless]

end Porthook.ControlPlane
