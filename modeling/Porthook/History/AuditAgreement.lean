import Mathlib.Data.Multiset.Defs
import Porthook.History.Agreement

/-!
# The audit log with and without a database

A filter for the fields of an event looks in memory in a text that is joined in the order in which
Go goes through the map, in Postgres in the text of a `jsonb` value.
-/

namespace Porthook.ControlPlane

open Gateway History Paging Protocol Transition

structure AuditRecorder where
  memory : MemoryAuditEventStore
  postgres : PostgresAuditEventStore := {}

/-- An event, and the time and the id that the database would give it. -/
structure AuditRecording where
  event : AuditEvent
  now : Int := 0
  id : Int

def recordAuditEvent (jsonb : Jsonb) (recorder : AuditRecorder) (recording : AuditRecording) :
    Option AuditRecorder :=
  (PostgresAuditEventStore.add jsonb recorder.postgres recording.id recording.now
      recording.event).map
    fun postgres => ⟨recorder.memory.add recording.event, postgres⟩

/-- An event without its id, its time to the microsecond, and its fields in no order. -/
def AuditEvent.view (event : AuditEvent) : AuditEvent × Multiset (Bytes × Bytes) :=
  ({ event with id := 0, time := micros event.time, fields := [] }, event.fields)

/-- Every order of the fields gives the page that Postgres gives. -/
def SameAnswers (folding : Folding) (locale : Collation) (jsonb : Jsonb) (codec : CursorCodec)
    (recorder : AuditRecorder) (opts : AuditEventListOptions) : Prop :=
  ∃ page found, PostgresAuditEventStore.list folding locale jsonb codec recorder.postgres opts =
      some found ∧
    (∀ arrangement, MemoryAuditEventStore.list folding codec recorder.memory arrangement opts =
      page) ∧
    page.events.map AuditEvent.view = found.events.map AuditEvent.view

/-- The characters that join the parts of the two texts: `space " , : = { }`. -/
def punctuation : Bytes := [32, 34, 44, 58, 61, 123, 125]

/-- `strings.ToLower` goes through a text rune by rune. -/
structure Runewise (folding : Folding) : Prop where
  lower_nil : folding.toLower [] = []
  lower_ne_nil : ∀ text, folding.toLower text = [] → text = []
  lower_split : ∀ front, ∀ mark ∈ punctuation, ∀ back, folding.toLower (front ++ mark :: back) =
    folding.toLower front ++ mark :: folding.toLower back

/-- `{"k": "v", …}` for fields in which nothing is to be escaped. -/
def jsonbText (fields : Fields) : Bytes :=
  [123] ++ [44, 32].intercalate (fields.map fun field =>
    [34] ++ field.1 ++ [34, 58, 32, 34] ++ field.2 ++ [34]) ++ [125]

/-- A text that JSON writes as it is. -/
def Plain (text : Bytes) : Prop := ∀ byte ∈ text, 32 ≤ byte ∧ byte ≠ 34 ∧ byte ≠ 92

def Fields.Plain (fields : Fields) : Prop :=
  ∀ field ∈ fields, ControlPlane.Plain field.1 ∧ ControlPlane.Plain field.2

def Fields.Storable (fields : Fields) : Prop :=
  ∀ field ∈ fields, storable field.1 = true ∧ storable field.2 = true

/-- A map of texts is kept as it is, in an order of the database. -/
structure Jsonb.Documented (jsonb : Jsonb) : Prop where
  kept : ∀ fields : Fields, (fields.map Prod.fst).Nodup → fields.Storable →
    ∃ order, jsonb.kept fields = some order ∧ order.Perm fields
  text : ∀ fields : Fields, fields.Plain → jsonb.text fields = jsonbText fields

theorem infix_append_cons_iff {Symbol : Type} {needle front back : List Symbol} {mark : Symbol}
    (free : mark ∉ needle) :
    needle <:+: front ++ mark :: back ↔ needle <:+: front ∨ needle <:+: back := by
  constructor
  · rintro ⟨before, after, whole⟩
    rw [List.append_assoc] at whole
    rcases List.append_eq_append_iff.mp whole with ⟨middle, rfl, rest⟩ | ⟨middle, rfl, rest⟩
    · rcases List.append_eq_append_iff.mp rest with ⟨more, rfl, -⟩ | ⟨more, rfl, tail⟩
      · exact .inl ⟨before, more, by simp⟩
      · cases more with
        | nil => exact .inl ⟨before, [], by simp⟩
        | cons =>
          cases tail
          simp at free
    · cases middle with
      | nil =>
        cases needle with
        | nil => exact .inl (List.nil_infix)
        | cons =>
          cases rest
          simp at free
      | cons _ middle =>
        cases rest
        exact .inr ⟨middle, after, by simp⟩
  · rintro (inside | inside)
    · exact inside.trans (List.prefix_append _ _).isInfix
    · exact inside.trans ⟨front ++ [mark], [], by simp⟩

section Needles

variable {folding : Folding} {needle : Bytes} (runewise : Runewise folding)
  (free : ∀ mark ∈ punctuation, mark ∉ needle) (present : needle ≠ [])
include runewise free present

theorem infix_lower_join (front marks back : Bytes) (some_ : marks ≠ [])
    (joins : marks ⊆ punctuation) :
    needle <:+: folding.toLower (front ++ marks ++ back) ↔
      needle <:+: folding.toLower front ∨ needle <:+: folding.toLower back := by
  induction marks generalizing front with
  | nil => exact absurd rfl some_
  | cons mark marks ih =>
    have isMark := joins List.mem_cons_self
    rw [List.append_assoc, List.cons_append, runewise.lower_split front mark isMark,
      infix_append_cons_iff (free mark isMark)]
    cases marks with
    | nil => rfl
    | cons =>
      have others := ih [] (by simp) fun _ member => joins (by simp [member])
      rw [List.nil_append, runewise.lower_nil] at others
      rw [others]
      simp [present]

theorem infix_intercalate_iff {marks : Bytes} (some_ : marks ≠ []) (joins : marks ⊆ punctuation)
    (parts : List Bytes) :
    needle <:+: folding.toLower (marks.intercalate parts) ↔
      ∃ part ∈ parts, needle <:+: folding.toLower part := by
  induction parts with
  | nil => simp [runewise.lower_nil, present]
  | cons part parts ih =>
    cases parts with
    | nil => simp
    | cons next parts =>
      have text : marks.intercalate (part :: next :: parts) =
          part ++ marks ++ marks.intercalate (next :: parts) := by simp
      rw [text, infix_lower_join runewise free present _ _ _ some_ joins]
      simp [ih]

theorem infix_fieldsText_iff (fields : Fields) :
    needle <:+: folding.toLower (auditEventFieldsText fields) ↔ ∃ field ∈ fields,
      needle <:+: folding.toLower field.1 ∨ needle <:+: folding.toLower field.2 := by
  rw [auditEventFieldsText,
    infix_intercalate_iff runewise free present (show [32] ≠ [] by decide) (by decide)]
  simp only [List.mem_map, exists_exists_and_eq_and]
  refine exists_congr fun field => and_congr_right fun _ => ?_
  exact infix_lower_join runewise free present _ [61] _ (by decide) (by decide)

theorem infix_jsonbText_iff (fields : Fields) :
    needle <:+: folding.toLower (jsonbText fields) ↔ ∃ field ∈ fields,
      needle <:+: folding.toLower field.1 ∨ needle <:+: folding.toLower field.2 := by
  have join := infix_lower_join runewise free present
  have opened {marks : Bytes} (back : Bytes) (some_ : marks ≠ []) (joins : marks ⊆ punctuation) :
      needle <:+: folding.toLower (marks ++ back) ↔ needle <:+: folding.toLower back := by
    rw [← List.nil_append marks, join [] marks back some_ joins, runewise.lower_nil]
    simp [present]
  have closed {marks : Bytes} (front : Bytes) (some_ : marks ≠ []) (joins : marks ⊆ punctuation) :
      needle <:+: folding.toLower (front ++ marks) ↔ needle <:+: folding.toLower front := by
    rw [← List.append_nil (front ++ marks), join front marks [] some_ joins, runewise.lower_nil]
    simp [present]
  rw [jsonbText, closed _ (by decide) (by decide), opened _ (by decide) (by decide),
    infix_intercalate_iff runewise free present (by decide) (by decide)]
  simp only [List.mem_map, exists_exists_and_eq_and]
  refine exists_congr fun field => and_congr_right fun _ => ?_
  rw [closed _ (by decide) (by decide), join _ _ _ (by decide) (by decide),
    opened _ (by decide) (by decide)]

end Needles

theorem storable_intercalate {marks : Bytes} (joins : storable marks) {parts : List Bytes}
    (storables : ∀ part ∈ parts, storable part = true) :
    storable (marks.intercalate parts) = true := by
  induction parts with
  | nil => rfl
  | cons part parts ih =>
    have first := storables part List.mem_cons_self
    have others := ih fun other later => storables other (by simp [later])
    cases parts with
    | nil => simpa using first
    | cons =>
      rw [List.intercalate_cons_cons]
      exact storable_append (storable_append first joins) others

theorem storable_jsonbText {fields : Fields} (storables : fields.Storable) :
    storable (jsonbText fields) = true := by
  refine storable_append (storable_append (by decide) ?_) (by decide)
  refine storable_intercalate (by decide) fun part member => ?_
  obtain ⟨field, held, rfl⟩ := List.mem_map.mp member
  obtain ⟨key, value⟩ := storables field held
  have opened := storable_append (storable_append (show storable [34] = true by decide) key)
    (show storable [34, 58, 32, 34] = true by decide)
  exact storable_append (storable_append opened value) (by decide)

/-- Nothing of an event is lost or changed in the table. -/
structure AuditEvent.Faithful (event : AuditEvent) : Prop where
  unassigned : event.id = 0
  timed : event.time ≠ 0
  storable : ∀ text ∈ event.texts, storable text = true
  keys : (event.fields.map Prod.fst).Nodup
  fields : event.fields.Storable
  requestID : trimSpace event.requestID = [] → event.requestID = []

/-- There is room in memory, and the event comes after all others in the table. -/
structure Loggable (recorder : AuditRecorder) (recording : AuditRecording) : Prop where
  room : recorder.memory.log.size < recorder.memory.log.slots.length
  faithful : recording.event.Faithful
  later : ∀ row ∈ recorder.postgres.rows,
    row.place.rank ≤ Cursor.rank ⟨micros recording.event.time, recording.id⟩

def AuditEventListOptions.parts (opts : AuditEventListOptions) : List Bytes :=
  [opts.event, opts.requestID, opts.remoteIP, opts.field]

/-- A filter means the same in Go and in SQL. -/
structure Searchable (folding : Folding) (locale : Collation) (opts : AuditEventListOptions)
    (events : List AuditEvent) : Prop where
  trimmed : ∀ text ∈ opts.level :: opts.parts, trimSpace text = text
  storable : ∀ text ∈ opts.level :: opts.parts, storable text = true
  storableLow : ∀ part ∈ opts.parts, History.storable (folding.toLower part) = true
  literal : ∀ part ∈ opts.parts, Literal (folding.toLower part)
  lowered : ∀ part ∈ opts.parts,
    locale.lower ([37] ++ part ++ [37]) = [37] ++ folding.toLower part ++ [37]
  sameLower : ∀ event ∈ events, ∀ text ∈ [event.event, event.requestID, event.remoteIP],
    locale.lower text = folding.toLower text
  upper : opts.level ≠ [] → folding.toUpper opts.level = opts.level ∧
    ∀ event ∈ events, folding.toUpper event.level = event.level
  since : opts.since ≠ 0 → ∀ event ∈ events, micros event.time = micros opts.since →
    opts.since ≤ event.time
  until_ : opts.until_ ≠ 0 → ∀ event ∈ events, micros event.time = micros opts.until_ →
    event.time ≤ opts.until_
  field : opts.field ≠ [] → (∀ mark ∈ punctuation, mark ∉ folding.toLower opts.field) ∧
    ∀ event ∈ events, event.fields.Plain ∧ ∀ order : Fields, order.Perm event.fields →
      locale.lower (jsonbText order) = folding.toLower (jsonbText order)

def Twin (event row : AuditEvent) : Prop :=
  ∃ id order, order.Perm event.fields ∧
    row = { event with id, time := micros event.time, fields := order }

theorem Twin.view {event row : AuditEvent} (twin : Twin event row) : event.view = row.view := by
  obtain ⟨_, _, perm, rfl⟩ := twin
  simp only [AuditEvent.view, micros_micros, Prod.mk.injEq, true_and]
  exact Multiset.coe_eq_coe.mpr perm.symm

section Agreement

variable {folding : Folding} {locale : Collation} {jsonb : Jsonb} {codec : CursorCodec}
  {opts : AuditEventListOptions} {events : List AuditEvent} {recorder : AuditRecorder}

theorem selects_eq_conjunction (runewise : Runewise folding) (documented : jsonb.Documented)
    (searchable : Searchable folding locale opts events) {event row : AuditEvent}
    (member : event ∈ events) (storables : ∀ text ∈ event.texts, storable text = true)
    (fields : event.fields.Storable) (twin : Twin event row) {order : Fields}
    (perm : order.Perm event.fields) :
    opts.selects folding event order =
      conjunction (auditEventSQLFilters folding locale jsonb opts) row := by
  obtain ⟨id, stored, storedPerm, rfl⟩ := twin
  generalize isRow : ({ event with id, time := micros event.time, fields := stored } : AuditEvent) =
    row
  have part {part text : Bytes} {column : AuditEvent → Option Bytes} (isPart : part ∈ opts.parts)
      (isText : storable text) (sameLower : locale.lower text = folding.toLower text)
      (reads : column row = some text ∨ column row = nullable text) :
      conjunction (addLike locale column part) row =
        (part = [] || contains (folding.toLower text) (folding.toLower part)) :=
    conjunction_addLike (searchable.trimmed part (by simp [isPart]))
      (searchable.literal part isPart) (searchable.storableLow part isPart)
      (searchable.lowered part isPart) (runewise.lower_ne_nil part) isText sameLower
      (fun null => null ▸ runewise.lower_nil) reads
  have lower := searchable.sameLower event member
  simp only [List.mem_cons, List.not_mem_nil, or_false, forall_eq_or_imp, forall_eq,
    AuditEvent.texts] at lower storables
  obtain ⟨-, -, isEvent, -, -, isRemoteIP, isRequestID⟩ := storables
  have named : conjunction (addLike locale (fun row => some row.event) opts.event) row =
      (opts.event = [] || contains (folding.toLower event.event) (folding.toLower opts.event)) :=
    part (by simp [AuditEventListOptions.parts]) isEvent lower.1 (.inl (by rw [← isRow]))
  have requestID : conjunction (addLike locale (fun row => nullable row.requestID)
      opts.requestID) row = (opts.requestID = [] ||
        contains (folding.toLower event.requestID) (folding.toLower opts.requestID)) :=
    part (by simp [AuditEventListOptions.parts]) isRequestID lower.2.1 (.inr (by rw [← isRow]))
  have remoteIP : conjunction (addLike locale (fun row => some row.remoteIP) opts.remoteIP) row =
      (opts.remoteIP = [] ||
        contains (folding.toLower event.remoteIP) (folding.toLower opts.remoteIP)) :=
    part (by simp [AuditEventListOptions.parts]) isRemoteIP lower.2.2 (.inl (by rw [← isRow]))
  have field : conjunction (addLike locale (fun row => some (jsonb.text row.fields))
      opts.field) row = (opts.field = [] ||
        contains (folding.toLower (auditEventFieldsText order)) (folding.toLower opts.field)) := by
    by_cases absent : opts.field = []
    · simp [absent, addLike, conjunction, show trimSpace [] = [] from rfl]
    obtain ⟨free, plains⟩ := searchable.field absent
    obtain ⟨plain, lower⟩ := plains event member
    have text : jsonb.text row.fields = jsonbText stored := by
      rw [← isRow]
      exact documented.text stored fun field held => plain field (storedPerm.mem_iff.mp held)
    have present : folding.toLower opts.field ≠ [] :=
      fun empty => absent (runewise.lower_ne_nil _ empty)
    have found : contains (folding.toLower (jsonbText stored)) (folding.toLower opts.field) =
        contains (folding.toLower (auditEventFieldsText order)) (folding.toLower opts.field) := by
      simp only [contains, infix_jsonbText_iff runewise free present,
        infix_fieldsText_iff runewise free present, (storedPerm.trans perm.symm).mem_iff]
    rw [part (by simp [AuditEventListOptions.parts])
      (storable_jsonbText fun field held => fields field (storedPerm.mem_iff.mp held))
      (lower stored storedPerm) (.inl (congrArg some text)), found]
  have level : conjunction (if trimSpace opts.level ≠ [] then
      let value := folding.toUpper (trimSpace opts.level)
      [{ texts := [value], holds := fun row : AuditEvent => row.level = value }] else []) row =
      (opts.level = [] || folding.toUpper event.level = opts.level) := by
    rw [searchable.trimmed opts.level (by simp)]
    by_cases absent : opts.level = []
    · simp [absent, conjunction]
    · obtain ⟨upper, others⟩ := searchable.upper absent
      simp [absent, conjunction, upper, others event member, ← isRow]
  have time : row.place.time = micros event.time := by rw [← isRow]; rfl
  simp only [auditEventSQLFilters, conjunction_append, AuditEventListOptions.selects, named, level,
    requestID, remoteIP, field,
    conjunction_addSince time fun set => searchable.since set event member,
    conjunction_addUntil time fun set => searchable.until_ set event member]
  ac_rfl

theorem sendable_auditEventSQLFilters (searchable : Searchable folding locale opts events) :
    sendable (auditEventSQLFilters folding locale jsonb opts) = true := by
  have storables := searchable.storable
  simp only [List.mem_cons, AuditEventListOptions.parts, List.not_mem_nil, or_false,
    forall_eq_or_imp, forall_eq] at storables
  obtain ⟨isLevel, isEvent, isRequestID, isRemoteIP, isField⟩ := storables
  have level : sendable (if trimSpace opts.level ≠ [] then
      let value := folding.toUpper (trimSpace opts.level)
      [{ texts := [value], holds := fun row : AuditEvent => row.level = value }] else []) =
      true := by
    rw [searchable.trimmed opts.level (by simp)]
    split
    next present => simpa [sendable, (searchable.upper present).1] using isLevel
    · rfl
  simp only [auditEventSQLFilters, sendable_append, level, sendable_addSince, sendable_addUntil,
    sendable_addLike locale _ isEvent, sendable_addLike locale _ isRequestID,
    sendable_addLike locale _ isRemoteIP, sendable_addLike locale _ isField, Bool.and_true]

/-- The rows are those of the events, one for one, and in order already. -/
structure AuditRecorder.Twinned (recorder : AuditRecorder) : Prop where
  whole : ∀ event ∈ recorder.memory.log.entries,
    (∀ text ∈ event.texts, storable text = true) ∧ event.fields.Storable
  twins : List.Forall₂ Twin recorder.memory.log.entries.reverse recorder.postgres.rows
  ordered : recorder.postgres.rows.Pairwise fun first second => second.place.rank ≤ first.place.rank

theorem AuditRecorder.Twinned.record (documented : jsonb.Documented) (recorder : AuditRecorder)
    (recording : AuditRecording) (next : AuditRecorder) (twinned : recorder.Twinned)
    (loggable : Loggable recorder recording)
    (recorded : recordAuditEvent jsonb recorder recording = some next) : next.Twinned := by
  obtain ⟨room, faithful, later⟩ := loggable
  obtain ⟨_, added, rfl⟩ := Option.map_eq_some_iff.mp recorded
  obtain ⟨order, kept, perm⟩ := documented.kept _ faithful.keys faithful.fields
  have requestID : (if trimSpace recording.event.requestID ≠ [] then recording.event.requestID
      else []) = recording.event.requestID := by
    split
    · rfl
    next blank => exact (faithful.requestID (not_not.mp blank)).symm
  have isRow : recording.event.row recording.id recording.now order =
      { recording.event with
        id := recording.id, time := micros recording.event.time, fields := order } := by
    simp only [AuditEvent.row, requestID, if_neg faithful.timed]
  have accepted : (recording.event.row recording.id recording.now order).texts.all storable =
      true := by
    rw [isRow]
    exact List.all_eq_true.mpr faithful.storable
  simp only [PostgresAuditEventStore.add, kept, accepted, if_true] at added
  rw [isRow] at added
  obtain ⟨-, rfl⟩ := Table.insert_eq_some added
  have entries : (recorder.memory.add recording.event).log.entries =
      recorder.memory.log.entries ++ [{ recording.event with id := recorder.memory.nextID + 1 }] :=
    Buffer.entries_add faithful.unassigned room
  refine ⟨fun event member => ?_, ?_, List.pairwise_cons.mpr ⟨later, twinned.ordered⟩⟩
  · rw [entries] at member
    rcases List.mem_append.mp member with before | new
    · exact twinned.whole event before
    · rw [List.mem_singleton.mp new]
      exact ⟨faithful.storable, faithful.fields⟩
  · rw [entries, List.reverse_append]
    exact List.Forall₂.cons ⟨recording.id, order, perm, rfl⟩ twinned.twins

theorem AuditRecorder.Twinned.sameAnswers (runewise : Runewise folding)
    (documented : jsonb.Documented) (twinned : recorder.Twinned) (opening : opts.cursor = {})
    (searchable : Searchable folding locale opts recorder.memory.log.entries) :
    SameAnswers folding locale jsonb codec recorder opts := by
  let clauses := auditEventSQLFilters folding locale jsonb opts
  have same : ∀ event ∈ recorder.memory.log.entries, ∀ row, Twin event row →
      ∀ order : Fields, order.Perm event.fields →
        opts.selects folding event order = conjunction clauses row :=
    fun event member row twin order perm => selects_eq_conjunction runewise documented searchable
      member (twinned.whole event member).1 (twinned.whole event member).2 twin perm
  have settled : ∀ arrangement : Arrangement, recorder.memory.log.entries.reverse.filter
      (fun event => auditEventMatches folding event opts (arrangement.order event)) =
      recorder.memory.log.entries.reverse.filter fun event =>
        opts.selects folding event event.fields := by
    refine fun arrangement => List.filter_congr fun event member => ?_
    have twin : Twin event { event with time := micros event.time } :=
      ⟨event.id, event.fields, .refl _, rfl⟩
    have stored := List.mem_reverse.mp member
    rw [same event stored _ twin _ (.refl _), ← same event stored _ twin _ (arrangement.perm event)]
    simp [auditEventMatches, opening]
  have listed : PostgresAuditEventStore.list folding locale jsonb codec recorder.postgres opts =
      some (auditEventPage codec ((recorder.postgres.rows.filter (conjunction clauses)).take
        ((normalizedAuditEventLimit opts.limit).toNat + 1))
          (normalizedAuditEventLimit opts.limit)) := by
    have unbounded : addCursor AuditEvent.place ({} : Cursor) = [] := rfl
    simp only [PostgresAuditEventStore.list, Table.select, opening, unbounded, List.append_nil,
      sendable_auditEventSQLFilters searchable, if_true, Option.map_some,
      latest_of_ordered (twinned.ordered.sublist List.filter_sublist), clauses]
  refine ⟨auditEventPage codec ((recorder.memory.log.entries.reverse.filter fun event =>
    opts.selects folding event event.fields).take
      ((normalizedAuditEventLimit opts.limit).toNat + 1)) (normalizedAuditEventLimit opts.limit),
    _, listed, fun arrangement => ?_, ?_⟩
  · rw [MemoryAuditEventStore.list_eq, RingLog.scan_eq, settled]
  · have seen : (recorder.memory.log.entries.reverse.filter fun event =>
        opts.selects folding event event.fields).map AuditEvent.view =
        (recorder.postgres.rows.filter (conjunction clauses)).map AuditEvent.view :=
      map_filter_eq twinned.twins fun event member row twin =>
        ⟨same event (List.mem_reverse.mp member) row twin _ (.refl _), twin.view⟩
    simp only [auditEventPage_eq, cut_take, cut_fst, List.map_take, seen]

end Agreement

/-- As long as each event can be recorded, a filter that means the same in Go and in SQL gives one
answer, with and without a database. -/
theorem audit_histories_agree (folding : Folding) (locale : Collation) {jsonb : Jsonb}
    (codec : CursorCodec) (runewise : Runewise folding) (documented : jsonb.Documented)
    (capacity : Int) (recordings : List AuditRecording)
    (loggable : Guarded (recordAuditEvent jsonb) Loggable
      { memory := newMemoryAuditEventStore capacity } recordings) :
    Always (recordAuditEvent jsonb)
      (fun recorder => ∀ opts : AuditEventListOptions, opts.cursor = {} →
        Searchable folding locale opts recorder.memory.log.entries →
        SameAnswers folding locale jsonb codec recorder opts)
      { memory := newMemoryAuditEventStore capacity } recordings := by
  have initially : AuditRecorder.Twinned { memory := newMemoryAuditEventStore capacity } :=
    ⟨by rintro _ ⟨⟩, .nil, .nil⟩
  refine Always.mono (fun _ twinned _ opening searchable => ?_)
    (always_of_guarded (AuditRecorder.Twinned.record documented) initially loggable)
  exact twinned.sameAnswers runewise documented opening searchable

def plainJsonb : Jsonb := ⟨some, jsonbText⟩

def pairRecording : AuditRecording where
  event := { time := 1000, fields := [(ascii "a", ascii "1"), (ascii "b", ascii "2")] }
  id := 1

/-- The order of the fields decides about a needle that spans two of them, and only one of
the texts has a needle that spans a key and its value. -/
theorem audit_histories_differ :
    ∃ recorder, exec (recordAuditEvent plainJsonb) { memory := newMemoryAuditEventStore 2 }
        [pairRecording] = some recorder ∧
      ¬ SameAnswers asciiFolding plainLocale plainJsonb unaryCodec recorder
        { limit := 1, field := ascii "1 b" } ∧
      ¬ SameAnswers asciiFolding plainLocale plainJsonb unaryCodec recorder
        { limit := 1, field := ascii "a=1" } := by
  refine ⟨_, rfl, ?_, ?_⟩
  · rintro ⟨page, _, -, same, -⟩
    have orders := congrArg (fun page => page.events.length)
      ((same listedOrder).trans (same reversedOrder).symm)
    exact absurd orders (by decide +kernel)
  · rintro ⟨_, found, listed, same, seen⟩
    have both := congrArg (Option.map fun found => found.events.map AuditEvent.view) listed
    rw [Option.map_some, ← seen, ← same listedOrder] at both
    exact absurd both (by decide +kernel)

theorem audit_histories_agree_pair :
    ∃ recorder, exec (recordAuditEvent plainJsonb) { memory := newMemoryAuditEventStore 2 }
        [pairRecording] = some recorder ∧
      SameAnswers plainFolding plainLocale plainJsonb unaryCodec recorder
        { limit := 1, field := ascii "1" } := by
  refine ⟨_, rfl, ?_⟩
  have runewise : Runewise plainFolding := ⟨rfl, fun _ => id, fun _ _ _ _ => rfl⟩
  have documented : plainJsonb.Documented :=
    ⟨fun fields _ _ => ⟨fields, rfl, .refl _⟩, fun _ _ => rfl⟩
  have faithful : pairRecording.event.Faithful :=
    ⟨rfl, by decide, by decide, by decide, by unfold Fields.Storable; decide +kernel, fun _ => rfl⟩
  have agree := audit_histories_agree plainFolding plainLocale unaryCodec runewise documented 2
    [pairRecording] ⟨⟨by decide, faithful, by rintro _ ⟨⟩⟩, fun _ _ => trivial⟩
  refine agree.2 _ rfl { limit := 1, field := ascii "1" } rfl ⟨by decide, by decide, by decide,
    by decide, fun _ _ => rfl, fun _ _ _ _ => rfl, fun set => absurd rfl set,
    fun set => absurd rfl set, fun set => absurd rfl set, fun _ => ⟨by decide +kernel, ?_⟩⟩
  refine fun event member => ⟨?_, fun _ _ => rfl⟩
  obtain rfl := List.mem_singleton.mp member
  unfold Fields.Plain Plain
  decide +kernel

end Porthook.ControlPlane
