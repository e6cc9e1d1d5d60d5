import Porthook.Agent.Runner
import Porthook.Gateway.RequestBody

/-!
# Limits on bodies

The gateway reads a public request body, and the agent a local response body, with one loop: each
read is one chunk, and its bytes are counted before it is written.
-/

namespace Porthook.Gateway

open Protocol

/-- The loop of the agent; it differs from the gateway's in the texts of its errors. -/
def streamLimitedResponseBody (limit : Int) (write : Nat → Option Bytes)
    (reads : List BodyRead) : RequestBodyRun :=
  writeRequestBodyFrom (if limit ≤ 0 then Agent.defaultMaxResponseBodyBytes else limit) write {}
    reads

def delivered : List BodyRead → Bytes
  | [] => []
  | read :: rest => read.data ++ if read.ended = none then delivered rest else []

def EndsWithEOF : List BodyRead → Prop
  | [] => False
  | read :: rest => read.ended = some .eof ∨ read.ended = none ∧ EndsWithEOF rest

/-- Every chunk that is read is written, from the one with this number on. -/
def Written (write : Nat → Option Bytes) : Nat → List BodyRead → Prop
  | _, [] => True
  | index, read :: rest => (read.data ≠ [] → write index = none) ∧
      (read.ended = none → Written write (if read.data = [] then index else index + 1) rest)

/-- What a bounded copy of a body in chunks should be. -/
structure Copied (limit chunkBytes : Int) (write : Nat → Option Bytes) (reads : List BodyRead)
    (run : RequestBodyRun) : Prop where
  chunk : ∀ chunk ∈ run.chunks, chunk ≠ [] ∧ (chunk.length : Int) ≤ chunkBytes
  isPrefix : run.chunks.flatten <+: delivered reads
  bounded : (run.chunks.flatten.length : Int) ≤ limit
  success : run.result = some (.ok ()) ↔
    EndsWithEOF reads ∧ ((delivered reads).length : Int) ≤ limit ∧ Written write 0 reads
  whole : run.result = some (.ok ()) →
    run.chunks.flatten = delivered reads ∧ run.sent = (delivered reads).length
  tooLarge : run.result = some (.error .tooLarge) ↔
    ∃ count < reads.length, limit < (delivered (reads.take (count + 1))).length ∧
      Written write 0 (reads.take count)

section Loop

variable {limit : Int} {write : Nat → Option Bytes}

variable {reads : List BodyRead} {run : RequestBodyRun}

theorem success_iff (within : run.sent ≤ limit) (running : run.result = none) :
    (writeRequestBodyFrom limit write run reads).result = some (.ok ()) ↔
      EndsWithEOF reads ∧ run.sent + (delivered reads).length ≤ limit ∧
        Written write run.chunks.length reads := by
  induction reads generalizing run with
  | nil => simp [writeRequestBodyFrom, running, EndsWithEOF]
  | cons read rest ih =>
    generalize ran : writeRequestBodyFrom limit write run (read :: rest) = after
    simp only [EndsWithEOF, delivered, Written, List.length_append, ← length_chunks_take]
    cases readStep within ran with
    | large => simp; omega
    | stuck _ _ present failed => simp [present, failed]
    | more fits writes ended =>
      rw [ih (show (run.take read.data).sent ≤ limit from fits) running]
      simp [eq_true writes, ended, sent_take, Int.add_assoc]
    | eof fits writes ended => simpa [ended, fits] using writes
    | failed _ _ _ ended => simp [ended]

theorem tooLarge_iff (within : run.sent ≤ limit) (running : run.result = none) :
    (writeRequestBodyFrom limit write run reads).result = some (.error .tooLarge) ↔
      ∃ count < reads.length, limit < run.sent + (delivered (reads.take (count + 1))).length ∧
        Written write run.chunks.length (reads.take count) := by
  induction reads generalizing run with
  | nil => simp [writeRequestBodyFrom, running]
  | cons read rest ih =>
    generalize ran : writeRequestBodyFrom limit write run (read :: rest) = after
    simp only [List.length_cons, Nat.exists_lt_succ_left, List.take_succ_cons, List.take_zero,
      delivered, Written, List.length_append, ← length_chunks_take]
    cases readStep within ran with
    | large above => simpa using .inl above
    | stuck _ fits present failed => simp [present, failed, fits]
    | more fits writes ended =>
      rw [ih (show (run.take read.data).sent ≤ limit from fits) running]
      simp [eq_true writes, ended, sent_take, Int.add_assoc, Int.not_lt.mpr fits]
    | eof fits _ ended | failed _ fits _ ended => simp [ended, Int.not_lt.mpr fits]

theorem flatten_isPrefix (within : run.sent ≤ limit) :
    (writeRequestBodyFrom limit write run reads).chunks.flatten <+:
      run.chunks.flatten ++ delivered reads := by
  induction reads generalizing run with
  | nil => simp [writeRequestBodyFrom, delivered]
  | cons read rest ih =>
    generalize ran : writeRequestBodyFrom limit write run (read :: rest) = after
    cases readStep within ran with
    | large | stuck => exact List.prefix_append _ _
    | more fits _ ended =>
      have later := ih (show (run.take read.data).sent ≤ limit from fits)
      simpa [delivered, ended, flatten_chunks_take] using later
    | eof _ _ ended | failed _ _ _ ended =>
      simp [delivered, flatten_chunks_take, ended]

theorem whole_of_success (within : run.sent ≤ limit) (running : run.result = none)
    (success : (writeRequestBodyFrom limit write run reads).result = some (.ok ())) :
    (writeRequestBodyFrom limit write run reads).chunks.flatten =
        run.chunks.flatten ++ delivered reads ∧
      (writeRequestBodyFrom limit write run reads).sent = run.sent + (delivered reads).length := by
  induction reads generalizing run with
  | nil => simp [writeRequestBodyFrom, running] at success
  | cons read rest ih =>
    generalize ran : writeRequestBodyFrom limit write run (read :: rest) = after at success ⊢
    cases readStep within ran with
    | large | stuck | failed => cases success
    | more fits _ ended =>
      obtain ⟨chunks, sent⟩ := ih
        (show (run.take read.data).sent ≤ limit from fits) running success
      rw [chunks, sent, flatten_chunks_take]
      simp [delivered, ended, sent_take, Int.add_assoc]
    | eof _ _ ended =>
      simp [delivered, ended, flatten_chunks_take, sent_take]

theorem copied {chunkBytes : Int} (positive : 0 ≤ limit)
    (buffered : ∀ read ∈ reads, (read.data.length : Int) ≤ chunkBytes) :
    Copied limit chunkBytes write reads (writeRequestBodyFrom limit write {} reads) := by
  have bounded : (writeRequestBodyFrom limit write {} reads).Bounded limit chunkBytes :=
    writeRequestBodyFrom_bounded buffered rfl ⟨by simp, by simpa using positive, fun _ => rfl⟩
  have success := @success_iff limit write reads {} positive rfl
  have whole := @whole_of_success limit write reads {} positive rfl
  have tooLarge := @tooLarge_iff limit write reads {} positive rfl
  simp only [Int.zero_add] at success whole tooLarge
  exact ⟨bounded.chunk, @flatten_isPrefix limit write reads {} positive, bounded.total, success,
    whole, tooLarge⟩

end Loop

/-- Both loops copy a body in chunks up to a limit, and say so. -/
theorem bodies_limited {limit chunkBytes : Int} (limited : 0 < limit)
    (write : Nat → Option Bytes) (reads : List BodyRead)
    (buffered : ∀ read ∈ reads, (read.data.length : Int) ≤ chunkBytes) :
    Copied limit chunkBytes write reads (writeRequestBody limit write reads) ∧
      Copied limit chunkBytes write reads (streamLimitedResponseBody limit write reads) := by
  have request : effectiveMaxBodyBytes limit = limit := if_neg (Int.not_le.mpr limited)
  rw [writeRequestBody, request, streamLimitedResponseBody, if_neg (Int.not_le.mpr limited)]
  exact ⟨copied (Int.le_of_lt limited) buffered, copied (Int.le_of_lt limited) buffered⟩

theorem bodies_limited_two :
    Copied 4 2 (fun _ => none) [⟨[1, 2], none⟩, ⟨[3], some .eof⟩]
      (writeRequestBody 4 (fun _ => none) [⟨[1, 2], none⟩, ⟨[3], some .eof⟩]) :=
  (bodies_limited (by decide) _ _ (by decide)).1

def responseBound (limit : Int64) : Int64 :=
  if limit ≤ 0 then Int64.ofInt Agent.defaultMaxResponseBodyBytes else limit

/-- `io.ReadAll` of what a limited reader leaves of a body: one that may read a negative
number of bytes reads none. -/
def readLimitedResponseBody (body : Bytes) (limit : Int64) : Except RequestBodyError Bytes :=
  let limit := responseBound limit
  let data := body.take (limit + 1).toInt.toNat
  if (data.length : Int) > limit.toInt then .error .tooLarge else .ok data

/-- Both succeed with the whole body, or find it too large. -/
def LimitsAgree (limit : Int64) (body : Bytes) (reads : List BodyRead) : Prop :=
  let streamed := streamLimitedResponseBody limit.toInt (fun _ => none) reads
  (readLimitedResponseBody body limit = .ok body ∧ streamed.result = some (.ok ()) ∧
      streamed.chunks.flatten = body) ∨
    readLimitedResponseBody body limit = .error .tooLarge ∧
      streamed.result = some (.error .tooLarge)

theorem written_all (index : Nat) (reads : List BodyRead) :
    Written (fun _ => none) index reads := by
  induction reads generalizing index with
  | nil => trivial
  | cons _ _ ih => exact ⟨fun _ => rfl, fun _ => ih _⟩

theorem responseBound_pos (limit : Int64) : 0 < (responseBound limit).toInt := by
  unfold responseBound
  split
  · decide
  next positive => exact Int.not_le.mp fun small => positive (Int64.le_iff_toInt_le.mpr small)

theorem streamLimited_eq (limit : Int64) (write : Nat → Option Bytes) (reads : List BodyRead) :
    streamLimitedResponseBody limit.toInt write reads =
      writeRequestBodyFrom (responseBound limit).toInt write {} reads := by
  unfold streamLimitedResponseBody responseBound
  have same : limit ≤ 0 ↔ limit.toInt ≤ 0 := Int64.le_iff_toInt_le
  simp only [same]
  split
  · rfl
  · rfl

theorem readLimited_eq {limit : Int64} {body : Bytes}
    (readable : limit ≠ Int64.maxValue ∨ body = []) :
    readLimitedResponseBody body limit =
      if (body.length : Int) ≤ (responseBound limit).toInt then .ok body
      else .error .tooLarge := by
  have positive := responseBound_pos limit
  have bound := (responseBound limit).toInt_lt
  unfold readLimitedResponseBody
  dsimp only
  rcases readable with _ | rfl
  · have below : (responseBound limit).toInt ≠ 2 ^ 63 - 1 := by
      unfold responseBound
      split
      · decide
      · rwa [← Int64.toInt_maxValue, ne_eq, Int64.toInt_inj]
    have next : (responseBound limit + 1).toInt = (responseBound limit).toInt + 1 := by
      rw [Int64.toInt_add, show (1 : Int64).toInt = 1 by decide]
      exact Int.bmod_eq_of_le_mul_two (by omega) (by omega)
    rw [next, List.length_take]
    by_cases fits : (body.length : Int) ≤ (responseBound limit).toInt
    · rw [if_neg (by omega), if_pos fits, List.take_of_length_le (by omega)]
    · rw [if_pos (by omega), if_neg fits]
  · rw [List.take_nil, if_neg (by simp; omega), if_pos (by simp; omega)]

theorem readLimited_maxValue (body : Bytes) :
    readLimitedResponseBody body Int64.maxValue = .ok [] := by
  have none : (Int64.maxValue + 1).toInt.toNat = 0 := by decide
  rw [readLimitedResponseBody, show responseBound Int64.maxValue = Int64.maxValue by decide]
  simp only [none, List.take_zero]
  rfl

/-- The limits agree but for the largest: one more than that is negative. -/
theorem limits_agree_iff (limit : Int64) (body : Bytes) :
    (∀ chunkBytes : Int, 0 < chunkBytes → ∀ reads : List BodyRead,
        (∀ read ∈ reads, (read.data.length : Int) ≤ chunkBytes) → EndsWithEOF reads →
        delivered reads = body → LimitsAgree limit body reads) ↔
      limit ≠ Int64.maxValue ∨ body = [] := by
  constructor
  · intro agree
    by_contra fails
    obtain ⟨largest, present⟩ := not_or.mp fails
    rw [not_not] at largest
    have agrees := agree body.length (by simpa using List.length_pos_iff.mpr present)
      [⟨body, some .eof⟩] (by simp) (.inl rfl) (by simp [delivered])
    rw [LimitsAgree, largest, readLimited_maxValue] at agrees
    rcases agrees with ⟨whole, -⟩ | ⟨large, -⟩
    · exact present (Except.ok.inj whole).symm
    · cases large
  · intro readable chunkBytes _ reads buffered ended whole
    have copy : Copied (responseBound limit).toInt chunkBytes (fun _ => none) reads _ :=
      copied (Int.le_of_lt (responseBound_pos limit)) buffered
    rw [LimitsAgree, streamLimited_eq, readLimited_eq readable, ← whole]
    by_cases fits : ((delivered reads).length : Int) ≤ (responseBound limit).toInt
    · have success := copy.success.mpr ⟨ended, fits, written_all 0 reads⟩
      exact .inl ⟨if_pos fits, success, (copy.whole success).1⟩
    · refine .inr ⟨if_neg fits, copy.tooLarge.mpr ⟨reads.length - 1, ?_, ?_, written_all _ _⟩⟩
      · have nonempty : reads ≠ [] := by rintro rfl; exact ended
        have := List.length_pos_iff.mpr nonempty
        omega
      · rw [List.take_of_length_le (by omega)]
        exact Int.not_le.mp fits

/-- With the largest limit a body of one byte is read as an empty one. -/
theorem body_lost :
    readLimitedResponseBody [7] Int64.maxValue = .ok [] ∧
      (streamLimitedResponseBody Int64.maxValue.toInt (fun _ => none)
        [⟨[7], some .eof⟩]).result = some (.ok ()) ∧
      (streamLimitedResponseBody Int64.maxValue.toInt (fun _ => none)
        [⟨[7], some .eof⟩]).chunks.flatten = [7] :=
  ⟨readLimited_maxValue [7], by decide, by decide⟩

end Porthook.Gateway
