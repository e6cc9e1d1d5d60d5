import Porthook.Foundations.Url
import Porthook.History.Pagination

/-!
# The request log with and without a database

Every public request is recorded in memory and, if there is a database, in Postgres, and the
history is read from Postgres whenever it can be.  The two give the same pages if nothing of an
entry is lost, requests end in the order in which they began, and a filter means the same in both.
-/

namespace Porthook.Gateway

open History Paging Protocol Url

structure PublicRequestLog where
  started : Int
  status : Int
  outcome : Bytes
  subdomain : Bytes := []
  customDomain : Bytes := []
  tunnelID : Bytes := []
  streamID : Bytes := []
  requestBytes : Int := 0
  responseBytes : Int := 0
  error : Option Bytes := none

structure LoggedRequest (User : Type) where
  method : Bytes
  host : Bytes
  url : URL User
  requestID : Bytes := []

def requestLogEntryFromPublicRequest {User : Type} (request : LoggedRequest User)
    (entry : PublicRequestLog) (clientIP : Bytes) (ended : Int) : RequestLogEntry where
  time := entry.started
  method := request.method
  host := request.host
  path := request.url.path
  queryPresent := request.url.rawQuery ≠ []
  remoteIP := clientIP
  requestID := request.requestID
  subdomain := entry.subdomain
  customDomain := entry.customDomain
  tunnelID := entry.tunnelID
  streamID := entry.streamID
  status := entry.status
  outcome := entry.outcome
  requestBytes := entry.requestBytes
  responseBytes := entry.responseBytes
  durationMS := (ended - entry.started).tdiv 1000000
  error := entry.error.getD []

structure Recorder where
  memory : RequestLogBuffer
  postgres : PostgresRequestLogStore := {}

/-- The end of a public request: what is recorded of it, and the id that the database gives
out if it takes the row. -/
structure RequestEnding (User : Type) where
  request : LoggedRequest User
  log : PublicRequestLog
  clientIP : Bytes
  ended : Int
  id : Int

def RequestEnding.entry {User : Type} (ending : RequestEnding User) : RequestLogEntry :=
  requestLogEntryFromPublicRequest ending.request ending.log ending.clientIP ending.ended

def recordRequestLog {User : Type} (recorder : Recorder) (ending : RequestEnding User) :
    Option Recorder :=
  (PostgresRequestLogStore.add recorder.postgres ending.id ending.ended ending.entry).map
    fun postgres => ⟨RequestLogBuffer.add recorder.memory ending.entry, postgres⟩

section Reading

variable (folding : Folding) (locale : Collation) (codec : CursorCodec)

def memoryHistory (recorder : Recorder) (query : RequestLogQuery) (fallback : Int)
    (cursor : Bytes) : Option (List RequestLogEntry × Bytes) :=
  match requestLogListOptionsFromRequest folding codec { query with cursor } fallback with
  | .error _ => none
  | .ok opts =>
    let page := RequestLogBuffer.listPage folding codec recorder.memory opts
    some (page.requestLogs, page.nextCursor)

def postgresHistory (recorder : Recorder) (query : RequestLogQuery) (fallback : Int)
    (cursor : Bytes) : Option (List RequestLogEntry × Bytes) :=
  match requestLogListOptionsFromRequest folding codec { query with cursor } fallback with
  | .error _ => none
  | .ok opts =>
    (PostgresRequestLogStore.list folding locale codec recorder.postgres opts).map fun page =>
      (page.requestLogs, page.nextCursor)

def RequestLogEntry.view (entry : RequestLogEntry) : RequestLogEntry :=
  { entry with id := 0, time := micros entry.time }

/-- However many pages are read, the entries are the same. -/
def SameHistory (recorder : Recorder) (query : RequestLogQuery) (fallback : Int) : Prop :=
  ∀ pages, (follow (memoryHistory folding codec recorder query fallback) pages []).map
        (List.map (List.map RequestLogEntry.view)) =
      (follow (postgresHistory folding locale codec recorder query fallback) pages []).map
        (List.map (List.map RequestLogEntry.view))

end Reading

/-- Nothing of an entry is lost or changed in the table, and it has a cursor. -/
structure RequestLogEntry.Faithful (entry : RequestLogEntry) : Prop where
  storable : entry.Storable
  trimmed : ∀ text ∈ [entry.requestID, entry.subdomain, entry.customDomain, entry.tunnelID,
    entry.streamID, entry.error], trimSpace text = text
  timely : Timely entry.time
  timelyRow : Timely (micros entry.time)

/-- There is room in memory, and the request began after all that ended before it. -/
structure Recordable {User : Type} (recorder : Recorder) (ending : RequestEnding User) : Prop where
  room : recorder.memory.log.size < recorder.memory.log.slots.length
  faithful : ending.entry.Faithful
  later : ∀ entry ∈ recorder.memory.log.entries, micros entry.time < micros ending.entry.time

def RequestLogFilter.parts (filter : RequestLogFilter) : List Bytes :=
  [filter.outcome, filter.requestID, filter.host, filter.path, filter.tunnelID]

def RequestLogEntry.folded (entry : RequestLogEntry) : List Bytes :=
  [entry.subdomain, entry.outcome, entry.requestID, entry.host, entry.path, entry.tunnelID]

/-- A filter means the same in Go and in SQL: it has no wildcards, the database folds the compared
texts as Go does, and no bound falls within the microsecond of an entry. -/
structure Comparable (folding : Folding) (locale : Collation) (filter : RequestLogFilter)
    (entries : List RequestLogEntry) : Prop where
  literal : ∀ part ∈ filter.parts, Literal part
  storable : ∀ text ∈ filter.subdomain :: filter.method :: filter.parts, storable text = true
  lowered : ∀ part ∈ filter.parts, locale.lower ([37] ++ part ++ [37]) = [37] ++ part ++ [37]
  sameLower : ∀ entry ∈ entries, ∀ text ∈ entry.folded, locale.lower text = folding.toLower text
  upper : filter.method ≠ [] → ∀ entry ∈ entries, folding.toUpper entry.method = entry.method
  since : filter.since ≠ 0 → ∀ entry ∈ entries, micros entry.time = micros filter.since →
    filter.since ≤ entry.time
  until_ : filter.until_ ≠ 0 → ∀ entry ∈ entries, micros entry.time = micros filter.until_ →
    entry.time ≤ filter.until_

def Twin (entry row : RequestLogEntry) : Prop :=
  row = { entry with id := row.id, time := micros entry.time }

theorem Twin.field {entry row : RequestLogEntry} (twin : Twin entry row) {Value : Type}
    (field : RequestLogEntry → Value) :
    field row = field { entry with id := row.id, time := micros entry.time } :=
  congrArg field twin

theorem Twin.view {entry row : RequestLogEntry} (twin : Twin entry row) :
    entry.view = row.view := by
  rw [twin]
  simp [RequestLogEntry.view, micros_micros]

section Filters

variable {folding : Folding} {locale : Collation} {filter : RequestLogFilter}

structure RequestLogFilter.Normal (folding : Folding) (filter : RequestLogFilter) : Prop where
  subdomain : folding.toLower filter.subdomain = filter.subdomain
  subdomainTrimmed : trimSpace filter.subdomain = filter.subdomain
  method : folding.toUpper filter.method = filter.method
  methodTrimmed : trimSpace filter.method = filter.method
  parts : ∀ part ∈ filter.parts, trimSpace part = part

theorem requestLogFilterFromRequest_normal (lawful : folding.Lawful) {query : RequestLogQuery}
    (accepted : requestLogFilterFromRequest folding query = .ok filter) :
    filter.Normal folding := by
  have trimmed (text : Bytes) := lawful.trim_lower text
  simp only [requestLogFilterFromRequest, bind, Except.bind] at accepted
  split at accepted
  · cases accepted
  split at accepted
  · cases accepted
  split at accepted
  · cases accepted
  split at accepted
  · cases accepted
  cases accepted
  refine ⟨lawful.lower_lower _, trimmed _, lawful.upper_upper _, lawful.trim_upper _, ?_⟩
  intro part member
  simp only [RequestLogFilter.parts, List.mem_cons, List.not_mem_nil, or_false] at member
  rcases member with rfl | rfl | rfl | rfl | rfl <;> exact trimmed _

variable {row : RequestLogEntry} {entries : List RequestLogEntry}

theorem conjunction_addSubdomain (lawful : folding.Lawful) (normal : filter.Normal folding)
    {text : Bytes} (reads : row.subdomain = text)
    (sameLower : locale.lower text = folding.toLower text) :
    conjunction (addSubdomain folding locale filter) row =
      (filter.subdomain = [] || folding.toLower text = filter.subdomain) := by
  unfold addSubdomain
  rw [normal.subdomainTrimmed, normal.subdomain]
  by_cases absent : filter.subdomain = []
  · simp [absent, conjunction]
  · by_cases null : text = []
    · simp [absent, conjunction, nullable, reads, null, lawful.lower_nil, Ne.symm absent]
    · simp [absent, conjunction, nullable, reads, null, sameLower]

theorem conjunction_addStatus {status : Int} (reads : row.status = status) :
    conjunction (addStatus filter) row = (filter.status = 0 || status = filter.status) := by
  unfold addStatus
  by_cases absent : filter.status = 0
  · simp [absent, conjunction]
  · simp [absent, conjunction, reads]

theorem conjunction_addMethod (normal : filter.Normal folding) {text : Bytes}
    (reads : row.method = text) (upper : filter.method ≠ [] → folding.toUpper text = text) :
    conjunction (addMethod folding filter) row =
      (filter.method = [] || folding.toUpper text = filter.method) := by
  unfold addMethod
  rw [normal.methodTrimmed, normal.method]
  by_cases absent : filter.method = []
  · simp [absent, conjunction]
  · simp [absent, conjunction, reads, upper absent]

theorem matches_eq_conjunction (lawful : folding.Lawful) (normal : filter.Normal folding)
    (comparable : Comparable folding locale filter entries) {entry : RequestLogEntry}
    (member : entry ∈ entries) (faithful : entry.Storable) (twin : Twin entry row) :
    filter.matches folding entry = conjunction (requestLogSQLFilters folding locale filter) row := by
  have same {text : Bytes} (isFolded : text ∈ entry.folded) :
      locale.lower text = folding.toLower text := comparable.sameLower entry member text isFolded
  have parts (part text : Bytes) (column : RequestLogEntry → Option Bytes)
      (isPart : part ∈ filter.parts) (isText : text ∈ entry.texts ∧ text ∈ entry.folded)
      (reads : column row = some text ∨ column row = nullable text) :
      conjunction (addLike locale column part) row =
        (part = [] || contains (folding.toLower text) part) :=
    conjunction_addLike (normal.parts part isPart) (comparable.literal part isPart)
      (comparable.storable part (by simp [isPart])) (comparable.lowered part isPart) id
      (faithful.1 text isText.1) (same isText.2) (fun null => null ▸ lawful.lower_nil) reads
  have subdomain : conjunction (addSubdomain folding locale filter) row =
      (filter.subdomain = [] || folding.toLower entry.subdomain = filter.subdomain) :=
    conjunction_addSubdomain lawful normal (twin.field RequestLogEntry.subdomain)
      (same (by simp [RequestLogEntry.folded]))
  have status : conjunction (addStatus filter) row =
      (filter.status = 0 || entry.status = filter.status) :=
    conjunction_addStatus (twin.field RequestLogEntry.status)
  have method : conjunction (addMethod folding filter) row =
      (filter.method = [] || folding.toUpper entry.method = filter.method) :=
    conjunction_addMethod normal (twin.field RequestLogEntry.method)
      fun set => comparable.upper set entry member
  have outcome := parts filter.outcome entry.outcome (fun row => some row.outcome)
    (by simp [RequestLogFilter.parts]) (by simp [RequestLogEntry.texts, RequestLogEntry.folded])
    (.inl (congrArg some (twin.field RequestLogEntry.outcome)))
  have requestID := parts filter.requestID entry.requestID (fun row => nullable row.requestID)
    (by simp [RequestLogFilter.parts]) (by simp [RequestLogEntry.texts, RequestLogEntry.folded])
    (.inr (congrArg nullable (twin.field RequestLogEntry.requestID)))
  have host := parts filter.host entry.host (fun row => some row.host)
    (by simp [RequestLogFilter.parts]) (by simp [RequestLogEntry.texts, RequestLogEntry.folded])
    (.inl (congrArg some (twin.field RequestLogEntry.host)))
  have path := parts filter.path entry.path (fun row => some row.path)
    (by simp [RequestLogFilter.parts]) (by simp [RequestLogEntry.texts, RequestLogEntry.folded])
    (.inl (congrArg some (twin.field RequestLogEntry.path)))
  have tunnelID := parts filter.tunnelID entry.tunnelID (fun row => nullable row.tunnelID)
    (by simp [RequestLogFilter.parts]) (by simp [RequestLogEntry.texts, RequestLogEntry.folded])
    (.inr (congrArg nullable (twin.field RequestLogEntry.tunnelID)))
  have time : row.place.time = micros entry.time := twin.field RequestLogEntry.time
  simp only [requestLogSQLFilters, conjunction_append, RequestLogFilter.matches, subdomain, status,
    outcome, requestID, host, method, path, tunnelID,
    conjunction_addSince time fun set => comparable.since set entry member,
    conjunction_addUntil time fun set => comparable.until_ set entry member]

theorem sendable_requestLogSQLFilters (normal : filter.Normal folding)
    (comparable : Comparable folding locale filter entries) :
    sendable (requestLogSQLFilters folding locale filter) = true := by
  have part : ∀ text ∈ filter.parts, ∀ column : RequestLogEntry → Option Bytes,
      sendable (addLike locale column text) = true := fun text isPart column =>
    sendable_addLike locale column (comparable.storable text (by simp [isPart]))
  simp only [RequestLogFilter.parts, List.forall_mem_cons] at part
  have subdomain : sendable (addSubdomain folding locale filter) = true := by
    unfold addSubdomain
    rw [normal.subdomainTrimmed, normal.subdomain]
    split
    · simpa [sendable] using comparable.storable filter.subdomain (by simp)
    · rfl
  have status : sendable (addStatus filter) = true := by
    unfold addStatus
    split <;> rfl
  have method : sendable (addMethod folding filter) = true := by
    unfold addMethod
    rw [normal.methodTrimmed, normal.method]
    split
    · simpa [sendable] using comparable.storable filter.method (by simp)
    · rfl
  simp [requestLogSQLFilters, sendable_append, subdomain, status, method, sendable_addSince,
    sendable_addUntil, part]

end Filters

/-- The rows are those of the entries, one for one, and in order already. -/
structure Recorder.Twinned (recorder : Recorder) : Prop where
  memory : recorder.memory.Kept requestLogLayout
  postgres : recorder.postgres.Kept RequestLogEntry.place
  storable : ∀ entry ∈ recorder.memory.log.entries, entry.Storable
  twins : List.Forall₂ Twin recorder.memory.log.entries.reverse recorder.postgres.rows
  ordered : recorder.postgres.rows.Pairwise fun first second => second.place.rank ≤ first.place.rank

theorem twinned_initial (capacity : Int) :
    Recorder.Twinned { memory := newRequestLogBuffer capacity } where
  memory := kept_newBuffer capacity
  postgres := Table.kept_initial
  storable _ member := by cases member
  twins := List.Forall₂.nil
  ordered := List.Pairwise.nil

theorem RequestLogEntry.Faithful.row {entry : RequestLogEntry} (faithful : entry.Faithful)
    (id now : Int) : entry.row id now = { entry with id, time := micros entry.time } := by
  have trimmed := faithful.trimmed
  simp only [List.mem_cons, List.not_mem_nil, or_false, forall_eq_or_imp, forall_eq] at trimmed
  obtain ⟨requestID, subdomain, customDomain, tunnelID, streamID, error⟩ := trimmed
  simp only [RequestLogEntry.row, if_neg faithful.timely.1, requestID, subdomain, customDomain,
    tunnelID, streamID, error]

theorem Recorder.Twinned.record {User : Type} (recorder : Recorder) (ending : RequestEnding User)
    (next : Recorder) (twinned : recorder.Twinned) (recordable : Recordable recorder ending)
    (recorded : recordRequestLog recorder ending = some next) : next.Twinned := by
  obtain ⟨room, faithful, later⟩ := recordable
  obtain ⟨table, added, rfl⟩ := Option.map_eq_some_iff.mp recorded
  have isRow := faithful.row ending.id ending.ended
  have isStorable : (ending.entry.row ending.id ending.ended).Storable := by
    rw [isRow]
    exact faithful.storable
  rw [PostgresRequestLogStore.add, if_pos isStorable, isRow] at added
  have keptTable : table.Kept RequestLogEntry.place := by
    refine (twinned.postgres.insert ?_ ?_ ?_ ?_ added).1
    · rfl
    · exact micros_micros _
    · exact faithful.timelyRow.1
    · exact faithful.timelyRow.2
  have unassigned : (requestLogLayout.place ending.entry).id = 0 := rfl
  have keptMemory := (twinned.memory.add unassigned faithful.timely.1 faithful.timely.2).1
  have entries : (RequestLogBuffer.add recorder.memory ending.entry).log.entries =
      recorder.memory.log.entries ++ [{ ending.entry with id := recorder.memory.nextID + 1 }] :=
    Buffer.entries_add unassigned room
  refine ⟨keptMemory, keptTable, fun entry member => ?_, ?_, ?_⟩
  · rw [entries] at member
    rcases List.mem_append.mp member with before | new
    · exact twinned.storable entry before
    · rw [List.mem_singleton.mp new]
      exact faithful.storable
  · rw [entries, List.reverse_append, (Table.insert_eq_some added).2]
    exact List.Forall₂.cons rfl twinned.twins
  · rw [(Table.insert_eq_some added).2]
    refine List.pairwise_cons.mpr ⟨fun row member => ?_, twinned.ordered⟩
    obtain ⟨entry, found, twin⟩ := exists_twin twinned.twins member
    have earlier := later entry (List.mem_reverse.mp found)
    have time : row.time = micros entry.time := twin.field RequestLogEntry.time
    rw [← time] at earlier
    exact le_of_lt (Prod.Lex.toLex_lt_toLex.mpr (.inl earlier))

section Pages

variable {folding : Folding} {locale : Collation} {codec : CursorCodec} {recorder : Recorder}
  {query : RequestLogQuery} {fallback : Int} {filter : RequestLogFilter}

theorem requestLogListOptionsFromRequest_eq (fallback : Int)
    (accepted : requestLogFilterFromRequest folding query = .ok filter) {text : Bytes}
    {cursor : Cursor} (decoded : cursorFromRequest codec text = .ok cursor) :
    requestLogListOptionsFromRequest folding codec { query with cursor := text } fallback =
      .ok { limit := requestLogLimit query.limit fallback, filter, cursor } := by
  have same : requestLogFilterFromRequest folding { query with cursor := text } = .ok filter :=
    accepted
  simp only [requestLogListOptionsFromRequest, same, decoded, bind, Except.bind]
  rfl

theorem follow_memoryHistory (lawful : codec.Lawful) (twinned : recorder.Twinned)
    (accepted : requestLogFilterFromRequest folding query = .ok filter)
    (positive : 1 ≤ requestLogLimit query.limit fallback) (pages : Nat) :
    follow (memoryHistory folding codec recorder query fallback) pages [] =
      some (chunks (normalizedRequestLogLimit (requestLogLimit query.limit fallback)).toNat pages
        (recorder.memory.log.entries.reverse.filter (filter.matches folding))) := by
  have limited := normalizedRequestLogLimit_pos positive
  refine twinned.memory.follow lawful (by omega) (fun text cursor decoded => ?_) pages
  simp only [memoryHistory, requestLogListOptionsFromRequest_eq fallback accepted decoded]
  rw [RequestLogBuffer.listPage_eq folding codec recorder.memory limited]
  rfl

theorem follow_postgresHistory (lawful : codec.Lawful) (twinned : recorder.Twinned)
    (accepted : requestLogFilterFromRequest folding query = .ok filter)
    (sent : sendable (requestLogSQLFilters folding locale filter))
    (positive : 1 ≤ requestLogLimit query.limit fallback) (pages : Nat) :
    follow (postgresHistory folding locale codec recorder query fallback) pages [] =
      some (chunks (normalizedRequestLogLimit (requestLogLimit query.limit fallback)).toNat pages
        (recorder.postgres.rows.filter
          (conjunction (requestLogSQLFilters folding locale filter)))) := by
  have limited := normalizedRequestLogLimit_pos positive
  refine twinned.postgres.follow twinned.ordered lawful sent (by omega)
    (fun text cursor decoded => ?_) pages
  simp only [postgresHistory, requestLogListOptionsFromRequest_eq fallback accepted decoded]
  exact PostgresRequestLogStore.list_eq folding locale codec recorder.postgres limited

theorem Recorder.Twinned.found_eq (folded : folding.Lawful) (twinned : recorder.Twinned)
    (normal : filter.Normal folding)
    (comparable : Comparable folding locale filter recorder.memory.log.entries) :
    (recorder.memory.log.entries.reverse.filter (filter.matches folding)).map RequestLogEntry.view =
      (recorder.postgres.rows.filter
        (conjunction (requestLogSQLFilters folding locale filter))).map RequestLogEntry.view := by
  refine map_filter_eq twinned.twins fun entry member row twin => ⟨?_, twin.view⟩
  have stored := List.mem_reverse.mp member
  exact matches_eq_conjunction folded normal comparable stored (twinned.storable entry stored) twin

theorem Recorder.Twinned.sameHistory (lawful : codec.Lawful) (folded : folding.Lawful)
    (twinned : recorder.Twinned)
    (accepted : requestLogFilterFromRequest folding query = .ok filter)
    (comparable : Comparable folding locale filter recorder.memory.log.entries) :
    SameHistory folding locale codec recorder query fallback := by
  intro pages
  have normal := requestLogFilterFromRequest_normal folded accepted
  by_cases positive : 1 ≤ requestLogLimit query.limit fallback
  · rw [follow_memoryHistory lawful twinned accepted positive,
      follow_postgresHistory lawful twinned accepted
        (sendable_requestLogSQLFilters normal comparable) positive]
    rw [Option.map_some, Option.map_some, ← chunks_map, ← chunks_map,
      twinned.found_eq folded normal comparable]
  · have none : requestLogLimit query.limit fallback = 0 := by
      have := requestLogLimit_nonneg query.limit fallback
      omega
    have low : normalizedRequestLogLimit 0 ≤ 0 := by decide
    have opening := requestLogListOptionsFromRequest_eq fallback accepted
      (cursorFromRequest_nil codec)
    have emptyMemory : memoryHistory folding codec recorder query fallback [] = some ([], []) := by
      simp only [memoryHistory, opening, none]
      rw [RequestLogBuffer.listPage, if_pos (.inr low)]
    have emptyTable :
        postgresHistory folding locale codec recorder query fallback [] = some ([], []) := by
      simp only [postgresHistory, opening, none]
      rw [PostgresRequestLogStore.list, if_pos low]
      rfl
    cases pages with
    | zero => rfl
    | succ => simp [follow, emptyMemory, emptyTable]

end Pages

/-- As long as each request can be recorded, every filter that means the same in Go and in SQL gives
the same history with and without a database. -/
theorem histories_agree {User : Type} (folding : Folding) (locale : Collation) (codec : CursorCodec)
    (lawful : codec.Lawful) (folded : folding.Lawful) (capacity : Int)
    (endings : List (RequestEnding User))
    (recordable : Transition.Guarded recordRequestLog Recordable
      { memory := newRequestLogBuffer capacity } endings) :
    Transition.Always recordRequestLog (fun recorder => ∀ query fallback filter,
        requestLogFilterFromRequest folding query = .ok filter →
        Comparable folding locale filter recorder.memory.log.entries →
        SameHistory folding locale codec recorder query fallback)
      { memory := newRequestLogBuffer capacity } endings :=
  Transition.Always.mono
    (fun _ twinned _ _ _ accepted comparable =>
      Recorder.Twinned.sameHistory lawful folded twinned accepted comparable)
    (Transition.always_of_guarded Recorder.Twinned.record (twinned_initial capacity) recordable)

instance (entry : RequestLogEntry) : Decidable entry.Faithful :=
  decidable_of_iff (entry.Storable ∧ (∀ text ∈ [entry.requestID, entry.subdomain,
      entry.customDomain, entry.tunnelID, entry.streamID, entry.error], trimSpace text = text) ∧
      Timely entry.time ∧ Timely (micros entry.time))
    ⟨fun ⟨storable, trimmed, timely, row⟩ => ⟨storable, trimmed, timely, row⟩,
      fun ⟨storable, trimmed, timely, row⟩ => ⟨storable, trimmed, timely, row⟩⟩

instance {User : Type} (recorder : Recorder) (ending : RequestEnding User) :
    Decidable (Recordable recorder ending) :=
  decidable_of_iff (recorder.memory.log.size < recorder.memory.log.slots.length ∧
      ending.entry.Faithful ∧ ∀ entry ∈ recorder.memory.log.entries,
        micros entry.time < micros ending.entry.time)
    ⟨fun ⟨room, faithful, later⟩ => ⟨room, faithful, later⟩,
      fun ⟨room, faithful, later⟩ => ⟨room, faithful, later⟩⟩

def endingOf (target : String) (started id : Int) : RequestEnding Empty where
  request :=
    { method := ascii "GET"
      host := ascii "demo.test"
      url := (URL.parseRequestURI ⟨fun _ => none, Empty.elim, fun host => host⟩
        (ascii target)).getD {} }
  log := { started := 1000 * started, status := 200, outcome := ascii "success" }
  clientIP := ascii "192.0.2.1"
  ended := 5000000
  id := id

def plainLocale : Collation := ⟨fun text => text, fun _ accepted => accepted⟩

def plainFolding : Folding := ⟨fun text => text, fun text => text, fun _ => none⟩

theorem plainFolding_lawful : plainFolding.Lawful where
  lower_nil := rfl
  lower_lower _ := rfl
  upper_upper _ := rfl
  trim_lower text := trimSpace_trimSpace text
  trim_upper text := trimSpace_trimSpace text

theorem histories_agree_in_turn :
    ∃ recorder, Transition.exec recordRequestLog { memory := newRequestLogBuffer 2 }
        [endingOf "/a" 1 1, endingOf "/b" 2 2] = some recorder ∧
      SameHistory plainFolding plainLocale unaryCodec recorder {} 500 := by
  refine ⟨_, rfl, ?_⟩
  have agree := histories_agree plainFolding plainLocale unaryCodec unaryCodec_lawful
    plainFolding_lawful 2 [endingOf "/a" 1 1, endingOf "/b" 2 2] (by decide +kernel)
  refine (agree.2 _ rfl).2 _ rfl {} 500 {} rfl ⟨by decide, by decide, fun _ _ => rfl,
    fun _ _ _ _ => rfl, fun set => absurd rfl set, fun set => absurd rfl set,
    fun set => absurd rfl set⟩

/-- A path with a NUL in it is not recorded in the table, a request that began last comes first
there, and an underscore in a filter stands for any character. -/
theorem histories_differ :
    (∃ recorder, Transition.exec recordRequestLog { memory := newRequestLogBuffer 2 }
        [endingOf "/a%00" 1 1] = some recorder ∧
      ¬ SameHistory asciiFolding plainLocale unaryCodec recorder {} 500) ∧
    (∃ recorder, Transition.exec recordRequestLog { memory := newRequestLogBuffer 2 }
        [endingOf "/a" 2 1, endingOf "/b" 1 2] = some recorder ∧
      ¬ SameHistory asciiFolding plainLocale unaryCodec recorder {} 500) ∧
    ∃ recorder, Transition.exec recordRequestLog { memory := newRequestLogBuffer 2 }
        [endingOf "/a" 1 1] = some recorder ∧
      ¬ SameHistory asciiFolding plainLocale unaryCodec recorder { path := ascii "_" } 500 := by
  refine ⟨⟨_, rfl, fun same => ?_⟩, ⟨_, rfl, fun same => ?_⟩, ⟨_, rfl, fun same => ?_⟩⟩
  · exact absurd (same 1) (by decide +kernel)
  · exact absurd (same 1) (by decide +kernel)
  · exact absurd (same 1) (by decide +kernel)

end Porthook.Gateway
