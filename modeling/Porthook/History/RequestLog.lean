import Mathlib.Algebra.Ring.Int.Defs
import Porthook.History.Buffer
import Porthook.History.Sql

/-!
# The gateway's request log

One entry for each public request, in memory and, if there is a database, in Postgres.
The same filter is a Go function over the entries in memory and a list of SQL clauses over
the rows.
-/

namespace Porthook.Gateway

open History Paging Protocol

structure RequestLogEntry where
  id : Int := 0
  time : Int := 0
  method : Bytes := []
  host : Bytes := []
  path : Bytes := []
  queryPresent : Bool := false
  remoteIP : Bytes := []
  requestID : Bytes := []
  subdomain : Bytes := []
  customDomain : Bytes := []
  tunnelID : Bytes := []
  streamID : Bytes := []
  status : Int := 0
  outcome : Bytes := []
  requestBytes : Int := 0
  responseBytes : Int := 0
  durationMS : Int := 0
  error : Bytes := []
  deriving DecidableEq, Repr

structure RequestLogFilter where
  subdomain : Bytes := []
  status : Int := 0
  outcome : Bytes := []
  requestID : Bytes := []
  host : Bytes := []
  method : Bytes := []
  path : Bytes := []
  tunnelID : Bytes := []
  since : Int := 0
  until_ : Int := 0

structure RequestLogListOptions where
  limit : Int
  filter : RequestLogFilter := {}
  cursor : Cursor := {}

structure RequestLogListPage where
  requestLogs : List RequestLogEntry := []
  nextCursor : Bytes := []

def defaultRequestLogLimit : Int := 500

def maxRequestLogLimit : Int := 1000

def normalizedRequestLogLimit (limit : Int) : Int :=
  if limit < 0 then defaultRequestLogLimit else clampLimit maxRequestLogLimit limit

structure RequestLogQuery where
  limit : Bytes := []
  subdomain : Bytes := []
  outcome : Bytes := []
  requestID : Bytes := []
  host : Bytes := []
  method : Bytes := []
  path : Bytes := []
  tunnelID : Bytes := []
  status : Bytes := []
  since : Bytes := []
  until_ : Bytes := []
  cursor : Bytes := []

def requestLogLimit (raw : Bytes) (fallback : Int) : Int :=
  match parseInt64? raw with
  | none => normalizedRequestLogLimit fallback
  | some limit =>
    if limit ≤ 0 then normalizedRequestLogLimit fallback else normalizedRequestLogLimit limit

def requestLogTimeFilter (folding : Folding) (raw : Bytes) (name : String) : Except Bytes Int :=
  if trimSpace raw = [] then .ok 0
  else
    match folding.parseTime (trimSpace raw) with
    | none => .error (ascii (name ++ " must be an RFC3339 timestamp"))
    | some value => .ok value

def requestLogStatusFilter (raw : Bytes) : Except Bytes Int :=
  if trimSpace raw = [] then .ok 0
  else
    match parseInt64? (trimSpace raw) with
    | none => .error (ascii "status must be an HTTP status code between 100 and 599")
    | some status =>
      if status < 100 ∨ status > 599 then
        .error (ascii "status must be an HTTP status code between 100 and 599")
      else .ok status

def requestLogFilterFromRequest (folding : Folding) (query : RequestLogQuery) :
    Except Bytes RequestLogFilter := do
  let lowered (raw : Bytes) : Bytes := folding.toLower (trimSpace raw)
  let status ← requestLogStatusFilter query.status
  let since ← requestLogTimeFilter folding query.since "since"
  let until_ ← requestLogTimeFilter folding query.until_ "until"
  if since ≠ 0 ∧ until_ ≠ 0 ∧ since > until_ then throw (ascii "since must be before until")
  return {
    subdomain := lowered query.subdomain
    outcome := lowered query.outcome
    requestID := lowered query.requestID
    host := lowered query.host
    method := folding.toUpper (trimSpace query.method)
    path := lowered query.path
    tunnelID := lowered query.tunnelID
    status := status
    since := since
    until_ := until_ }

def requestLogListOptionsFromRequest (folding : Folding) (codec : CursorCodec)
    (query : RequestLogQuery) (fallback : Int) : Except Bytes RequestLogListOptions := do
  let filter ← requestLogFilterFromRequest folding query
  let cursor ← cursorFromRequest codec query.cursor
  return { limit := requestLogLimit query.limit fallback, filter, cursor }

def RequestLogFilter.matches (folding : Folding) (filter : RequestLogFilter)
    (entry : RequestLogEntry) : Bool :=
  (filter.subdomain = [] || folding.toLower entry.subdomain = filter.subdomain) &&
  (filter.status = 0 || entry.status = filter.status) &&
  (filter.outcome = [] || contains (folding.toLower entry.outcome) filter.outcome) &&
  (filter.requestID = [] || contains (folding.toLower entry.requestID) filter.requestID) &&
  (filter.host = [] || contains (folding.toLower entry.host) filter.host) &&
  (filter.method = [] || folding.toUpper entry.method = filter.method) &&
  (filter.path = [] || contains (folding.toLower entry.path) filter.path) &&
  (filter.tunnelID = [] || contains (folding.toLower entry.tunnelID) filter.tunnelID) &&
  (filter.since = 0 || ¬ entry.time < filter.since) &&
  (filter.until_ = 0 || ¬ filter.until_ < entry.time)

def RequestLogEntry.place (entry : RequestLogEntry) : Cursor := ⟨entry.time, entry.id⟩

def requestLogLayout : Layout RequestLogEntry where
  place := RequestLogEntry.place
  assign entry id := { entry with id }
  blank := {}
  place_assign _ _ := rfl

abbrev RequestLogBuffer := Buffer RequestLogEntry

def newRequestLogBuffer (limit : Int) : RequestLogBuffer := newBuffer requestLogLayout limit

def encodeRequestLogCursor (codec : CursorCodec) (entry : RequestLogEntry) : Bytes :=
  encodeCursor codec entry.place

def requestLogPage (codec : CursorCodec) (entries : List RequestLogEntry) (limit : Int) :
    RequestLogListPage :=
  if normalizedRequestLogLimit limit ≤ 0 ∨ entries = [] then {}
  else
    let (page, next) :=
      cut (encodeRequestLogCursor codec) (normalizedRequestLogLimit limit).toNat entries
    { requestLogs := page, nextCursor := next }

def RequestLogBuffer.add (buffer : RequestLogBuffer) (entry : RequestLogEntry) :
    RequestLogBuffer :=
  Buffer.add requestLogLayout buffer entry

def RequestLogBuffer.listPage (folding : Folding) (codec : CursorCodec) (buffer : RequestLogBuffer)
    (opts : RequestLogListOptions) : RequestLogListPage :=
  let limit := normalizedRequestLogLimit opts.limit
  if buffer.log.slots = [] ∨ limit ≤ 0 then {}
  else
    let visible (entry : RequestLogEntry) : Bool :=
      !(opts.cursor.id > 0 && entry.id ≥ opts.cursor.id) && opts.filter.matches folding entry
    requestLogPage codec (buffer.log.scan visible limit.toNat) limit

def RequestLogBuffer.pruneBefore (buffer : RequestLogBuffer) (cutoff : Int) :
    RequestLogBuffer × Int :=
  Buffer.pruneBefore requestLogLayout buffer cutoff

abbrev PostgresRequestLogStore := Table RequestLogEntry

/-- The row for an entry.  Empty texts in nullable columns are nulls. -/
def RequestLogEntry.row (entry : RequestLogEntry) (id now : Int) : RequestLogEntry :=
  { entry with
    id := id
    time := micros (if entry.time = 0 then now else entry.time)
    requestID := trimSpace entry.requestID
    subdomain := trimSpace entry.subdomain
    customDomain := trimSpace entry.customDomain
    tunnelID := trimSpace entry.tunnelID
    streamID := trimSpace entry.streamID
    error := trimSpace entry.error }

def RequestLogEntry.texts (entry : RequestLogEntry) : List Bytes :=
  [entry.method, entry.host, entry.path, entry.remoteIP, entry.requestID, entry.subdomain,
    entry.customDomain, entry.tunnelID, entry.streamID, entry.outcome, entry.error]

/-- Whether the columns can hold the row; `status` is an `INTEGER`. -/
def RequestLogEntry.Storable (row : RequestLogEntry) : Prop :=
  (∀ text ∈ row.texts, storable text = true) ∧ -2 ^ 31 ≤ row.status ∧ row.status < 2 ^ 31

instance (row : RequestLogEntry) : Decidable row.Storable := inferInstanceAs (Decidable (_ ∧ _))

/-- Insert an entry at a time, under an id of the sequence.  A row that the columns cannot
hold is refused, and the caller goes on without it. -/
def PostgresRequestLogStore.add (store : PostgresRequestLogStore) (id now : Int)
    (entry : RequestLogEntry) : Option PostgresRequestLogStore :=
  if (entry.row id now).Storable then store.insert id (entry.row id now) else some store

def PostgresRequestLogStore.pruneBefore (store : PostgresRequestLogStore) (cutoff : Int) :
    PostgresRequestLogStore :=
  if cutoff = 0 then store else store.deleteBefore RequestLogEntry.place cutoff

def addSubdomain (folding : Folding) (locale : Collation) (filter : RequestLogFilter) :
    List (Clause RequestLogEntry) :=
  if trimSpace filter.subdomain ≠ [] then
    let value := folding.toLower (trimSpace filter.subdomain)
    [{ texts := [value], holds := fun row => (nullable row.subdomain).any fun text =>
      locale.lower text = value }]
  else []

def addStatus (filter : RequestLogFilter) : List (Clause RequestLogEntry) :=
  if filter.status ≠ 0 then [{ texts := [], holds := fun row => row.status = filter.status }]
  else []

def addMethod (folding : Folding) (filter : RequestLogFilter) : List (Clause RequestLogEntry) :=
  if trimSpace filter.method ≠ [] then
    let value := folding.toUpper (trimSpace filter.method)
    [{ texts := [value], holds := fun row => row.method = value }]
  else []

def requestLogSQLFilters (folding : Folding) (locale : Collation) (filter : RequestLogFilter) :
    List (Clause RequestLogEntry) :=
  addSubdomain folding locale filter ++
  addStatus filter ++
  addLike locale (fun row => some row.outcome) filter.outcome ++
  addLike locale (fun row => nullable row.requestID) filter.requestID ++
  addLike locale (fun row => some row.host) filter.host ++
  addMethod folding filter ++
  addLike locale (fun row => some row.path) filter.path ++
  addLike locale (fun row => nullable row.tunnelID) filter.tunnelID ++
  addSince RequestLogEntry.place filter.since ++
  addUntil RequestLogEntry.place filter.until_

def PostgresRequestLogStore.list (folding : Folding) (locale : Collation) (codec : CursorCodec)
    (store : PostgresRequestLogStore) (opts : RequestLogListOptions) :
    Option RequestLogListPage :=
  let limit := normalizedRequestLogLimit opts.limit
  if limit ≤ 0 then some {}
  else
    let clauses := requestLogSQLFilters folding locale opts.filter ++
      addCursor RequestLogEntry.place opts.cursor
    (store.select RequestLogEntry.place clauses (limit.toNat + 1)).map fun entries =>
      requestLogPage codec entries limit

theorem normalizedRequestLogLimit_pos {limit : Int} (positive : 1 ≤ limit) :
    0 < normalizedRequestLogLimit limit := by
  rw [normalizedRequestLogLimit, if_neg (by omega)]
  exact clampLimit_pos (by decide) positive

theorem normalizedRequestLogLimit_nonneg (limit : Int) : 0 ≤ normalizedRequestLogLimit limit := by
  unfold normalizedRequestLogLimit clampLimit maxRequestLogLimit
  split
  · decide
  · split <;> omega

theorem requestLogLimit_nonneg (raw : Bytes) (fallback : Int) :
    0 ≤ requestLogLimit raw fallback := by
  unfold requestLogLimit
  split
  · exact normalizedRequestLogLimit_nonneg fallback
  · split <;> exact normalizedRequestLogLimit_nonneg _

theorem normalizedRequestLogLimit_idem (limit : Int) :
    normalizedRequestLogLimit (normalizedRequestLogLimit limit) =
      normalizedRequestLogLimit limit := by
  have nonneg := normalizedRequestLogLimit_nonneg limit
  rw [normalizedRequestLogLimit, if_neg (by omega)]
  unfold normalizedRequestLogLimit clampLimit
  split
  · decide
  · split <;> omega

theorem requestLogPage_eq (codec : CursorCodec) (entries : List RequestLogEntry) {limit : Int}
    (limited : 0 < normalizedRequestLogLimit limit) :
    requestLogPage codec entries (normalizedRequestLogLimit limit) =
      { requestLogs := (cut (encodeRequestLogCursor codec)
          (normalizedRequestLogLimit limit).toNat entries).1
        nextCursor := (cut (encodeRequestLogCursor codec)
          (normalizedRequestLogLimit limit).toNat entries).2 } := by
  unfold requestLogPage
  rw [normalizedRequestLogLimit_idem limit]
  by_cases nothing : entries = []
  · rw [if_pos (.inr nothing), nothing]
    simp [cut]
  · have something : ¬ (normalizedRequestLogLimit limit ≤ 0 ∨ entries = []) := by
      rintro (_ | empty)
      · omega
      · exact nothing empty
    rw [if_neg something]

variable {opts : RequestLogListOptions}

theorem RequestLogBuffer.listPage_eq (folding : Folding) (codec : CursorCodec)
    (buffer : RequestLogBuffer) (limited : 0 < normalizedRequestLogLimit opts.limit) :
    ((RequestLogBuffer.listPage folding codec buffer opts).requestLogs,
      (RequestLogBuffer.listPage folding codec buffer opts).nextCursor) =
      cut (encodeRequestLogCursor codec) (normalizedRequestLogLimit opts.limit).toNat
        (buffer.log.scan (fun entry => !(opts.cursor.id > 0 && entry.id ≥ opts.cursor.id) &&
          opts.filter.matches folding entry) (normalizedRequestLogLimit opts.limit).toNat) := by
  unfold RequestLogBuffer.listPage
  by_cases slotless : buffer.log.slots = []
  · rw [RingLog.scan_of_slotless _ _ _ slotless, if_pos (.inl slotless)]
    simp [cut]
  · have open_ : ¬ (buffer.log.slots = [] ∨ normalizedRequestLogLimit opts.limit ≤ 0) := by
      rintro (none | _)
      · exact slotless none
      · omega
    simp only [if_neg open_, requestLogPage_eq codec _ limited]

theorem PostgresRequestLogStore.list_eq (folding : Folding) (locale : Collation)
    (codec : CursorCodec) (store : PostgresRequestLogStore)
    (limited : 0 < normalizedRequestLogLimit opts.limit) :
    (PostgresRequestLogStore.list folding locale codec store opts).map
        (fun page => (page.requestLogs, page.nextCursor)) =
      (store.select RequestLogEntry.place (requestLogSQLFilters folding locale opts.filter ++
          addCursor RequestLogEntry.place opts.cursor)
        ((normalizedRequestLogLimit opts.limit).toNat + 1)).map
        (cut (encodeRequestLogCursor codec) (normalizedRequestLogLimit opts.limit).toNat) := by
  unfold PostgresRequestLogStore.list
  have open_ : ¬ normalizedRequestLogLimit opts.limit ≤ 0 := by omega
  simp only [if_neg open_, Option.map_map, requestLogPage_eq codec _ limited]
  rfl

end Porthook.Gateway
