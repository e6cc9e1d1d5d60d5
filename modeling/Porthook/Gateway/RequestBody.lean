import Porthook.Gateway.Response

/-!
# Sending a request body

`writeRequestBody` reads the public request body into a buffer and sends what
each read returns as one chunk, until the body ends, fails or is too large.  The
reads are given as a list; an empty rest stands for a read that has not returned
yet.
-/

namespace Porthook.Gateway

open Porthook.Protocol

def defaultMaxBodyBytes : Int := 1024 * 1024

inductive BodyEnd where
  | eof
  | failed (text : Bytes)
  deriving DecidableEq

structure BodyRead where
  data : Bytes
  ended : Option BodyEnd

inductive RequestBodyError where
  | tooLarge
  | writeFailed (cause : Bytes)
  | readFailed (text : Bytes)
  deriving DecidableEq

structure RequestBodyRun where
  sent : Int := 0
  chunks : List Bytes := []
  result : Option (Except RequestBodyError Unit) := none

/-- `write` tells which chunks cannot be written, and why. -/
def writeRequestBodyFrom (maxBodyBytes : Int) (write : Nat → Option Bytes)
    (run : RequestBodyRun) : List BodyRead → RequestBodyRun
  | [] => run
  | read :: rest =>
    let sent := run.sent + read.data.length
    if read.data ≠ [] ∧ sent > maxBodyBytes then
      { run with sent, result := some (.error .tooLarge) }
    else
      match if read.data = [] then none else write run.chunks.length with
      | some cause => { run with sent, result := some (.error (.writeFailed cause)) }
      | none =>
        let run := { run with
          sent, chunks := if read.data = [] then run.chunks else run.chunks ++ [read.data] }
        match read.ended with
        | none => writeRequestBodyFrom maxBodyBytes write run rest
        | some .eof => { run with result := some (.ok ()) }
        | some (.failed text) => { run with result := some (.error (.readFailed text)) }

def effectiveMaxBodyBytes (maxBodyBytes : Int) : Int :=
  if maxBodyBytes ≤ 0 then defaultMaxBodyBytes else maxBodyBytes

def writeRequestBody (maxBodyBytes : Int) (write : Nat → Option Bytes) (reads : List BodyRead) :
    RequestBodyRun :=
  writeRequestBodyFrom (effectiveMaxBodyBytes maxBodyBytes) write {} reads

section Step

variable {limit : Int} {write : Nat → Option Bytes}

def RequestBodyRun.take (run : RequestBodyRun) (data : Bytes) : RequestBodyRun :=
  { run with
    sent := run.sent + data.length
    chunks := if data = [] then run.chunks else run.chunks ++ [data] }

theorem sent_take (run : RequestBodyRun) (data : Bytes) :
    (run.take data).sent = run.sent + data.length := rfl

theorem length_chunks_take (run : RequestBodyRun) (data : Bytes) : (run.take data).chunks.length =
      if data = [] then run.chunks.length else run.chunks.length + 1 := by
  unfold RequestBodyRun.take
  split <;> simp

theorem flatten_chunks_take (run : RequestBodyRun) (data : Bytes) :
    (run.take data).chunks.flatten = run.chunks.flatten ++ data := by
  unfold RequestBodyRun.take
  split
  next empty => simp [empty]
  · simp

inductive ReadStep (limit : Int) (write : Nat → Option Bytes) (run : RequestBodyRun)
    (read : BodyRead) (rest : List BodyRead) : RequestBodyRun → Prop where
  | large : limit < run.sent + read.data.length → ReadStep limit write run read rest
      { run with sent := run.sent + read.data.length, result := some (.error .tooLarge) }
  | stuck (cause) : run.sent + read.data.length ≤ limit → read.data ≠ [] →
      write run.chunks.length = some cause → ReadStep limit write run read rest
        { run with
          sent := run.sent + read.data.length, result := some (.error (.writeFailed cause)) }
  | more : run.sent + read.data.length ≤ limit →
      (read.data ≠ [] → write run.chunks.length = none) → read.ended = none →
      ReadStep limit write run read rest (writeRequestBodyFrom limit write (run.take read.data) rest)
  | eof : run.sent + read.data.length ≤ limit →
      (read.data ≠ [] → write run.chunks.length = none) → read.ended = some .eof →
      ReadStep limit write run read rest { run.take read.data with result := some (.ok ()) }
  | failed (text) : run.sent + read.data.length ≤ limit →
      (read.data ≠ [] → write run.chunks.length = none) → read.ended = some (.failed text) →
      ReadStep limit write run read rest
        { run.take read.data with result := some (.error (.readFailed text)) }

theorem readStep {run after : RequestBodyRun} (within : run.sent ≤ limit) {read : BodyRead}
    {rest : List BodyRead} (ran : writeRequestBodyFrom limit write run (read :: rest) = after) :
    ReadStep limit write run read rest after := by
  rw [← ran, writeRequestBodyFrom]
  split
  next large => exact .large large.2
  next small =>
    have fits : run.sent + read.data.length ≤ limit := by
      by_cases empty : read.data = []
      · simpa [empty] using within
      · simpa [empty] using small
    split
    next cause failed =>
      split at failed
      · cases failed
      next present => exact .stuck cause fits present failed
    next written =>
      have writes : read.data ≠ [] → write run.chunks.length = none := fun present => by
        rwa [if_neg present] at written
      dsimp only
      cases ended : read.ended with
      | none => exact .more fits writes ended
      | some stop =>
        cases stop with
        | eof => exact .eof fits writes ended
        | failed text => exact .failed text fits writes ended

end Step

structure RequestBodyRun.Bounded (maxBodyBytes chunkBytes : Int) (run : RequestBodyRun) : Prop where
  chunk : ∀ chunk ∈ run.chunks, chunk ≠ [] ∧ (chunk.length : Int) ≤ chunkBytes
  total : (run.chunks.flatten.length : Int) ≤ maxBodyBytes
  sent : run.result = none → (run.chunks.flatten.length : Int) = run.sent

theorem RequestBodyRun.Bounded.take {limit chunkBytes : Int} {run : RequestBodyRun}
    (bounded : run.Bounded limit chunkBytes) (running : run.result = none) {data : Bytes}
    (fits : run.sent + data.length ≤ limit) (buffered : (data.length : Int) ≤ chunkBytes) :
    (run.take data).Bounded limit chunkBytes := by
  have total : ((run.take data).chunks.flatten.length : Int) = run.sent + data.length := by
    rw [flatten_chunks_take, List.length_append, Int.natCast_add, bounded.sent running]
  refine ⟨fun chunk member => ?_, total ▸ fits, fun _ => total⟩
  unfold RequestBodyRun.take at member
  split at member
  · exact bounded.chunk chunk member
  next present =>
    rcases List.mem_append.mp member with earlier | last
    · exact bounded.chunk chunk earlier
    · rw [List.mem_singleton.mp last]
      exact ⟨present, buffered⟩

theorem writeRequestBodyFrom_bounded {maxBodyBytes chunkBytes : Int}
    {write : Nat → Option Bytes} {reads : List BodyRead}
    (buffered : ∀ read ∈ reads, (read.data.length : Int) ≤ chunkBytes) {run : RequestBodyRun}
    (running : run.result = none) (bounded : run.Bounded maxBodyBytes chunkBytes) :
    (writeRequestBodyFrom maxBodyBytes write run reads).Bounded maxBodyBytes chunkBytes := by
  induction reads generalizing run with
  | nil => exact bounded
  | cons read rest ih =>
    have small := buffered read List.mem_cons_self
    have within : run.sent ≤ maxBodyBytes := bounded.sent running ▸ bounded.total
    generalize ran : writeRequestBodyFrom maxBodyBytes write run (read :: rest) = after
    cases readStep within ran with
    | large | stuck => exact ⟨bounded.chunk, bounded.total, by rintro ⟨⟩⟩
    | more fits =>
      exact ih (fun other member => buffered other (List.mem_cons_of_mem _ member))
        running (bounded.take running fits small)
    | eof fits | failed _ fits =>
      have after := bounded.take running fits small
      exact ⟨after.chunk, after.total, by rintro ⟨⟩⟩

theorem length_le_flatten {chunks : List Bytes} {chunk : Bytes} (member : chunk ∈ chunks) :
    chunk.length ≤ chunks.flatten.length :=
  (List.sublist_flatten_of_mem member).length_le

theorem writeRequestBody_chunk_iff (maxBodyBytes chunkBytes : Int) (chunk : Bytes) :
    (∃ write reads, (∀ read ∈ reads, (read.data.length : Int) ≤ chunkBytes) ∧
        chunk ∈ (writeRequestBody maxBodyBytes write reads).chunks) ↔
      chunk ≠ [] ∧ (chunk.length : Int) ≤ min chunkBytes (effectiveMaxBodyBytes maxBodyBytes) := by
  have positive : 0 ≤ effectiveMaxBodyBytes maxBodyBytes := by
    unfold effectiveMaxBodyBytes defaultMaxBodyBytes
    split <;> omega
  constructor
  · rintro ⟨write, reads, buffered, member⟩
    have bounded : (writeRequestBody maxBodyBytes write reads).Bounded
        (effectiveMaxBodyBytes maxBodyBytes) chunkBytes :=
      writeRequestBodyFrom_bounded buffered rfl ⟨nofun, by simpa using positive, fun _ => rfl⟩
    obtain ⟨nonempty, _⟩ := bounded.chunk chunk member
    have total := bounded.total
    have part := length_le_flatten member
    exact ⟨nonempty, by omega⟩
  · rintro ⟨nonempty, _⟩
    refine ⟨fun _ => none, [⟨chunk, some .eof⟩], ?_, ?_⟩
    · intro read member
      rw [List.mem_singleton.mp member]
      dsimp only
      omega
    · have fits : ¬ (0 + (chunk.length : Int) > effectiveMaxBodyBytes maxBodyBytes) := by omega
      simp only [writeRequestBody, writeRequestBodyFrom]
      rw [if_neg (fun large => fits large.2)]
      simp [nonempty]

end Porthook.Gateway
