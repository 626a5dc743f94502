import TaskAttest.SuperviseProperties
import Mathlib.Data.List.Induction

/-! What one capture thread has kept of its stream, however the stream is read. -/

set_option autoImplicit false

namespace TaskAttest

/-- The bytes at the end of a stream that a summary is made from. -/
def lastBytes (stream : List UInt8) : List UInt8 := stream.drop (stream.length - summaryBytes)

private theorem lastBytes_append (stream chunk : List UInt8) :
    lastBytes (lastBytes stream ++ chunk) = lastBytes (stream ++ chunk) := by
  have cut : lastBytes stream ++ chunk =
      (stream ++ chunk).drop (stream.length - summaryBytes) := by
    rw [lastBytes, List.drop_append_of_le_length (Nat.sub_le ..)]
  rw [cut, lastBytes, lastBytes, List.drop_drop, List.length_drop, List.length_append]
  generalize summaryBytes = limit
  have later : stream.length - limit +
      (stream.length + chunk.length - (stream.length - limit) - limit) =
        stream.length + chunk.length - limit := by omega
  rw [later]

theorem length_lastBytes (stream : List UInt8) :
    (lastBytes stream).length = min stream.length summaryBytes := by
  rw [lastBytes, List.length_drop]
  omega

private theorem lastBytes_suffix (stream : List UInt8) : lastBytes stream <:+ stream :=
  List.drop_suffix _ _

private theorem lastBytes_of_length_le {stream : List UInt8}
    (short : stream.length ≤ summaryBytes) :
    lastBytes stream = stream := by
  rw [lastBytes, Nat.sub_eq_zero_of_le short, List.drop_zero]

namespace CaptureThread

/-- The chunk that is not yet part of the tail. -/
def unkept (thread : CaptureThread) : List UInt8 :=
  match thread.phase with
  | .counting chunk | .flagging chunk _ => chunk
  | _ => []

/-- The tail is the end of what was read before the current chunk. -/
structure Kept [Sha2] (path : String) (thread : CaptureThread) : Prop where
  tail : ∃ read, thread.hashed = read ++ thread.unkept ∧ thread.tail = lastBytes read ∧
    (thread.truncated = true ↔ summaryBytes < read.length)
  copied : (∀ error, thread.phase ≠ .finished (.error error)) → thread.written = thread.hashed
  bounded : thread.hashed.length ≤ maxFileBytes
  captured : ∀ {capture : Capture}, thread.phase = .finished (.ok capture) →
    capture = thread.capture path

private theorem keepTail_eq (thread : CaptureThread) (chunk : List UInt8) :
    (thread.keepTail chunk).tail = lastBytes (thread.tail ++ chunk) ∧
      ((thread.keepTail chunk).truncated = true ↔
        thread.truncated = true ∨ summaryBytes < (thread.tail ++ chunk).length) := by
  by_cases long : (thread.tail ++ chunk).length > summaryBytes
  · have cut : thread.keepTail chunk = { thread with
        tail := lastBytes (thread.tail ++ chunk), truncated := true, phase := .reading } :=
      if_pos long
    simp only [cut, true_and]
    exact iff_of_true trivial (Or.inr long)
  · have kept : thread.keepTail chunk =
        { thread with tail := thread.tail ++ chunk, phase := .reading } := if_neg long
    rw [kept]
    have short : (thread.tail ++ chunk).length ≤ summaryBytes := Nat.not_lt.mp long
    refine ⟨(lastBytes_of_length_le short).symm, ?_⟩
    exact ⟨Or.inl, fun either => either.resolve_right long⟩

private theorem keepTail_tail {thread : CaptureThread} {read chunk : List UInt8}
    (tail : thread.tail = lastBytes read)
    (truncated : thread.truncated = true ↔ summaryBytes < read.length) :
    (thread.keepTail chunk).tail = lastBytes (read ++ chunk) ∧
      ((thread.keepTail chunk).truncated = true ↔ summaryBytes < (read ++ chunk).length) := by
  obtain ⟨keptTail, keptTruncated⟩ := thread.keepTail_eq chunk
  have grown : (thread.tail ++ chunk).length = min read.length summaryBytes + chunk.length := by
    rw [tail, List.length_append, length_lastBytes]
  constructor
  · rw [keptTail, tail, lastBytes_append]
  · rw [keptTruncated, truncated, grown, List.length_append]
    omega

section Steps

variable [Sha2] {path : String} {maxLogBytes : UInt64}

private theorem kept_initial : initial.Kept path where
  tail := ⟨[], rfl, rfl, by decide⟩
  copied := fun _ => rfl
  bounded := Nat.zero_le _
  captured := nofun

private theorem captureStep_kept {before after : CaptureThread} {budget added : LogBudget}
    (step : CaptureStep path maxLogBytes (before, budget) (after, added))
    (kept : before.Kept path) : after.Kept path := by
  obtain ⟨⟨read, hashed, tail, truncated⟩, copied, bounded, captured⟩ := kept
  cases step with
  | read chunk running reading nonempty short fits =>
      have same := copied (by simp [reading])
      simp only [unkept, reading, List.append_nil] at hashed
      rw [same] at fits
      refine ⟨⟨read, ?_, tail, truncated⟩, ?_, fits, ?_⟩
      · simp [absorb, unkept, hashed]
      · intro _
        simp [absorb, same]
      · intro capture finished
        cases finished
  | readFails error running reading =>
      simp only [unkept, reading] at hashed
      refine ⟨⟨read, hashed, tail, truncated⟩, fun noError => absurd rfl (noError error), bounded,
        ?_⟩
      intro capture finished
      cases finished
  | writeFails chunk torn error running reading short isPrefix =>
      simp only [unkept, reading] at hashed
      refine ⟨⟨read, hashed, tail, truncated⟩, fun noError => absurd rfl (noError error), bounded,
        ?_⟩
      intro capture finished
      cases finished
  | @count _ _ chunk running counting =>
      simp only [unkept, counting] at hashed
      refine ⟨⟨read, hashed, tail, truncated⟩, fun _ => copied (by simp [counting]), bounded, ?_⟩
      intro capture finished
      cases finished
  | @flag _ _ chunk combined running flagging =>
      simp only [unkept, flagging] at hashed
      obtain ⟨sameWritten, sameHashed, _, samePhase, _⟩ := before.keepTail_fields chunk
      obtain ⟨keptTail, keptTruncated⟩ := @keepTail_tail before read chunk tail truncated
      refine ⟨⟨read ++ chunk, ?_, keptTail, keptTruncated⟩, ?_, ?_, ?_⟩
      · simp [unkept, sameHashed, samePhase, hashed]
      · intro _
        rw [sameWritten, sameHashed]
        exact copied (by simp [flagging])
      · rw [sameHashed]
        exact bounded
      · intro capture finished
        rw [samePhase] at finished
        cases finished
  | endOfStream running reading =>
      simp only [unkept, reading] at hashed
      refine ⟨⟨read, hashed, tail, truncated⟩, fun _ => copied (by simp [reading]), bounded, ?_⟩
      intro capture finished
      cases finished
  | sync running syncing =>
      simp only [unkept, syncing] at hashed
      refine ⟨⟨read, hashed, tail, truncated⟩, fun _ => copied (by simp [syncing]), bounded, ?_⟩
      intro capture finished
      cases finished
      rfl
  | syncFails error running syncing =>
      simp only [unkept, syncing] at hashed
      refine ⟨⟨read, hashed, tail, truncated⟩, fun noError => absurd rfl (noError error), bounded,
        ?_⟩
      intro capture finished
      cases finished
  | panic running => exact ⟨⟨read, hashed, tail, truncated⟩, copied, bounded, captured⟩

/-- One step of a thread, whatever the other thread has added to the budget. -/
def ThreadStep (path : String) (maxLogBytes : UInt64) (before after : CaptureThread) : Prop :=
  ∃ budget added, CaptureStep path maxLogBytes (before, budget) (after, added)

/-- A thread that has read a stream to its end, in chunks of any size. -/
def CapturesStream (path : String) (maxLogBytes : UInt64) (stream : List UInt8)
    (capture : Capture) : Prop :=
  ∃ thread, Transition.Run (ThreadStep path maxLogBytes) initial thread ∧
    thread.phase = .finished (.ok capture) ∧ thread.hashed = stream

private theorem kept_run {thread : CaptureThread}
    (run : Transition.Run (ThreadStep path maxLogBytes) initial thread) : thread.Kept path := by
  apply Transition.run_invariant _ run kept_initial
  intro before after step kept
  obtain ⟨budget, added, step⟩ := step
  exact captureStep_kept step kept

/-- The tail does not depend on the chunks. -/
theorem capturesStream_tail {stream : List UInt8} {capture : Capture}
    (captures : CapturesStream path maxLogBytes stream capture) :
    capture.tail = lastBytes stream := by
  obtain ⟨thread, run, finished, rfl⟩ := captures
  obtain ⟨⟨read, hashed, tail, truncated⟩, copied, bounded, captured⟩ := kept_run run
  rw [captured finished]
  simp only [unkept, finished, List.append_nil] at hashed
  rw [hashed]
  exact tail

theorem capturesStream_bounded {stream : List UInt8} {capture : Capture}
    (captures : CapturesStream path maxLogBytes stream capture) :
    stream.length ≤ maxFileBytes := by
  obtain ⟨thread, run, _, rfl⟩ := captures
  exact (kept_run run).bounded

/-! Chunks -/

/-- The chunk that a step has read, if it is a read. -/
def chunksRead (before after : CaptureThread) : List (List UInt8) :=
  match before.phase, after.phase with
  | .reading, .counting chunk => [chunk]
  | _, _ => []

/-- A thread whose reader has given it these chunks, one a read. -/
inductive Reads (path : String) (maxLogBytes : UInt64) :
    List (List UInt8) → CaptureThread → Prop where
  | initial : Reads path maxLogBytes [] initial
  | step {chunks : List (List UInt8)} {before after : CaptureThread} :
      Reads path maxLogBytes chunks before → ThreadStep path maxLogBytes before after →
      Reads path maxLogBytes (chunks ++ before.chunksRead after) after

/-- A chunk that one read can return. -/
def IsChunk (chunk : List UInt8) : Prop := chunk ≠ [] ∧ chunk.length ≤ bufferBytes

private theorem reads_run {chunks : List (List UInt8)} {thread : CaptureThread}
    (reads : Reads path maxLogBytes chunks thread) :
    Transition.Run (ThreadStep path maxLogBytes) initial thread := by
  induction reads with
  | initial => exact .refl
  | step _ step ih => exact ih.tail step

private theorem captureStep_chunksRead {before after : CaptureThread} {budget added : LogBudget}
    (step : CaptureStep path maxLogBytes (before, budget) (after, added)) :
    after.hashed = before.hashed ++ (before.chunksRead after).flatten ∧
      ∀ chunk ∈ before.chunksRead after, IsChunk chunk := by
  cases step with
  | read chunk running reading nonempty short fits =>
      simp [chunksRead, reading, absorb, IsChunk, nonempty, short]
  | readFails error running reading => simp [chunksRead, reading, fail]
  | writeFails chunk torn error running reading short isPrefix => simp [chunksRead, reading, fail]
  | count running counting => simp [chunksRead, counting]
  | @flag _ _ chunk combined running flagging =>
      simp [chunksRead, flagging, (before.keepTail_fields chunk).2.1]
  | endOfStream running reading => simp [chunksRead, reading]
  | sync running syncing => simp [chunksRead, syncing]
  | syncFails error running syncing => simp [chunksRead, syncing, fail]
  | panic running =>
      unfold chunksRead
      split
      · rename_i same other
        rw [show before.phase = _ from other] at same
        cases same
      · simp

/-- What a thread has hashed is what it has been given. -/
theorem reads_hashed {chunks : List (List UInt8)} {thread : CaptureThread}
    (reads : Reads path maxLogBytes chunks thread) :
    thread.hashed = chunks.flatten ∧ ∀ chunk ∈ chunks, IsChunk chunk := by
  induction reads with
  | initial => exact ⟨rfl, nofun⟩
  | step _ step ih =>
      obtain ⟨_, _, step⟩ := step
      obtain ⟨hashed, known⟩ := ih
      obtain ⟨grown, added⟩ := captureStep_chunksRead step
      refine ⟨by rw [grown, hashed, List.flatten_append], ?_⟩
      intro chunk member
      rcases List.mem_append.mp member with earlier | later
      · exact known chunk earlier
      · exact added chunk later

private theorem captureStep_bytes {before after : CaptureThread} {budget added : LogBudget}
    (step : CaptureStep path maxLogBytes (before, budget) (after, added))
    (kept : before.Kept path) (bytes : before.bytes.toNat = before.hashed.length) :
    after.bytes.toNat = after.hashed.length := by
  have small : maxFileBytes < 2 ^ 64 := by decide
  cases step with
  | read chunk running reading nonempty short fits =>
      rw [kept.copied (by simp [reading]), List.length_append] at fits
      have length : (chunkBytes chunk).toNat = chunk.length := toNat_chunkBytes (by omega)
      simp only [absorb, List.length_append]
      rw [toNat_saturatingAdd (by omega), bytes, length]
  | @flag _ _ chunk combined running flagging =>
      obtain ⟨_, sameHashed, sameBytes, _⟩ := before.keepTail_fields chunk
      rw [sameHashed, sameBytes]
      exact bytes
  | _ => exact bytes

/-- A thread counts the bytes it has read; a file holds fewer than the counter can. -/
theorem bytes_run {thread : CaptureThread}
    (run : Transition.Run (ThreadStep path maxLogBytes) initial thread) :
    thread.bytes.toNat = thread.hashed.length := by
  induction run with
  | refl => rfl
  | tail earlier step ih =>
      obtain ⟨_, _, step⟩ := step
      exact captureStep_bytes step (kept_run earlier) ih

/-- A thread that waits for its reader takes one more chunk. -/
theorem reads_chunk {chunks : List (List UInt8)} {chunk : List UInt8} {thread : CaptureThread}
    (reads : Reads path maxLogBytes chunks thread) (running : thread.panicked = false)
    (reading : thread.phase = .reading) (isChunk : IsChunk chunk)
    (fits : (thread.hashed ++ chunk).length ≤ maxFileBytes) : ∃ next,
    Reads path maxLogBytes (chunks ++ [chunk]) next ∧ next.panicked = false ∧
      next.phase = .reading := by
  have written := (kept_run (reads_run reads)).copied (by simp [reading])
  have absorbed := reads.step ⟨⟨0, false⟩, _, CaptureStep.read chunk running reading
    isChunk.1 isChunk.2 (by rw [written]; exact fits)⟩
  have counted := absorbed.step ⟨⟨0, false⟩, _, CaptureStep.count running rfl⟩
  have flagged := counted.step ⟨⟨0, false⟩, _, CaptureStep.flag running rfl⟩
  obtain ⟨_, _, _, samePhase, samePanicked⟩ := keepTail_fields
    { thread.absorb chunk with phase := .flagging chunk 0 } chunk
  refine ⟨_, ?_, samePanicked.trans running, samePhase⟩
  simpa [chunksRead, reading, absorb] using flagged

/-- Every sequence of chunks that fits in a file can be read. -/
theorem exists_reads {chunks : List (List UInt8)} (areChunks : ∀ chunk ∈ chunks, IsChunk chunk)
    (fits : chunks.flatten.length ≤ maxFileBytes) : ∃ thread,
    Reads path maxLogBytes chunks thread ∧ thread.panicked = false ∧ thread.phase = .reading := by
  induction chunks using List.reverseRecOn with
  | nil => exact ⟨initial, .initial, rfl, rfl⟩
  | append_singleton earlier chunk ih =>
      rw [List.flatten_concat] at fits
      have shorter : earlier.flatten.length ≤ maxFileBytes := by
        rw [List.length_append] at fits
        omega
      obtain ⟨thread, reads, running, reading⟩ :=
        ih (fun other member => areChunks other (List.mem_append_left _ member)) shorter
      rw [← (reads_hashed reads).1] at fits
      exact reads_chunk reads running reading (areChunks chunk (by simp)) fits

/-- A thread that has read all there is returns its capture. -/
theorem reads_finish {chunks : List (List UInt8)} {thread : CaptureThread}
    (reads : Reads path maxLogBytes chunks thread) (running : thread.panicked = false)
    (reading : thread.phase = .reading) : ∃ ended capture,
    Reads path maxLogBytes chunks ended ∧ ended.phase = .finished (.ok capture) := by
  have ended := reads.step ⟨⟨0, false⟩, _, CaptureStep.endOfStream running reading⟩
  have synced := ended.step ⟨⟨0, false⟩, _, CaptureStep.sync running rfl⟩
  simp only [chunksRead, reading, List.append_nil] at synced
  exact ⟨_, _, synced, rfl⟩

/-- A capture tells the stream it was made from, however the stream was split, and every
splitting of a stream that fits in a file is captured. -/
theorem captureStream_exact (path : String) (maxLogBytes : UInt64) :
    (∀ (chunks : List (List UInt8)) (thread : CaptureThread) (capture : Capture),
      Reads path maxLogBytes chunks thread → thread.phase = .finished (.ok capture) →
      capture.path = path ∧ capture.digest = sha256Bytes chunks.flatten ∧
      capture.bytes.toNat = chunks.flatten.length ∧ thread.written = chunks.flatten ∧
      (capture.tail <:+ chunks.flatten ∧
        capture.tail.length = min summaryBytes chunks.flatten.length) ∧
      (capture.truncated = true ↔ summaryBytes < chunks.flatten.length)) ∧
    ∀ chunks : List (List UInt8),
      (∀ chunk ∈ chunks, chunk ≠ [] ∧ chunk.length ≤ bufferBytes) →
      chunks.flatten.length ≤ maxFileBytes →
      ∃ thread capture, Reads path maxLogBytes chunks thread ∧
        thread.phase = .finished (.ok capture) := by
  constructor
  · intro chunks thread capture reads finished
    have run := reads_run reads
    obtain ⟨⟨read, hashed, tail, truncated⟩, copied, _, captured⟩ := kept_run run
    have same := (reads_hashed reads).1
    simp only [unkept, finished, List.append_nil] at hashed
    subst hashed
    have written : thread.written = thread.hashed := copied (by simp [finished])
    rw [← same, captured finished, written]
    have ends : thread.tail <:+ thread.hashed := by
      rw [tail]
      exact lastBytes_suffix _
    have length : thread.tail.length = min summaryBytes thread.hashed.length := by
      rw [tail, length_lastBytes, Nat.min_comm]
    exact ⟨rfl, rfl, bytes_run run, rfl, ⟨ends, length⟩, truncated⟩
  · intro chunks areChunks fits
    obtain ⟨thread, reads, running, reading⟩ := exists_reads areChunks fits
    exact reads_finish reads running reading

omit [Sha2] in
/-- The first byte past the tail drops the first byte of the stream. -/
theorem captureStream_exact_boundary : ∃ thread capture,
    @Reads standardSha2 "stdout.log" 65536 [List.replicate summaryBytes 65, [66]] thread ∧
      thread.phase = .finished (.ok capture) ∧ capture.bytes.toNat = summaryBytes + 1 ∧
      capture.tail.length = summaryBytes ∧ capture.truncated = true := by
  obtain ⟨exact', exists'⟩ := @captureStream_exact standardSha2 "stdout.log" 65536
  have positive : summaryBytes ≠ 0 := by decide
  have short : summaryBytes ≤ bufferBytes ∧ 1 ≤ bufferBytes := by decide
  have areChunks : ∀ chunk ∈ [List.replicate summaryBytes (65 : UInt8), [66]],
      chunk ≠ [] ∧ chunk.length ≤ bufferBytes := by
    simp [positive, short]
  have length : [List.replicate summaryBytes (65 : UInt8), [66]].flatten.length =
      summaryBytes + 1 := by simp
  obtain ⟨thread, capture, reads, finished⟩ := exists' _ areChunks (length.le.trans (by decide))
  obtain ⟨_, _, bytes, _, ⟨_, tail⟩, truncated⟩ := exact' _ thread capture reads finished
  rw [length] at bytes tail truncated
  exact ⟨thread, capture, reads, finished, bytes, tail.trans (Nat.min_eq_left (Nat.le_succ _)),
    truncated.mpr (Nat.lt_succ_self _)⟩

/-- Every stream that fits in a file can be captured. -/
theorem exists_capturesStream {stream : List UInt8} (fits : stream.length ≤ maxFileBytes) :
    ∃ capture, CapturesStream path maxLogBytes stream capture := by
  let bytewise : List (List UInt8) := stream.map fun byte => [byte]
  have whole : bytewise.flatten = stream := by
    rw [← List.flatMap_def]
    exact List.flatMap_singleton' stream
  have areChunks : ∀ chunk ∈ bytewise, IsChunk chunk := by
    intro chunk member
    obtain ⟨byte, _, rfl⟩ := List.mem_map.mp member
    exact ⟨List.cons_ne_nil _ _, show 1 ≤ bufferBytes by decide⟩
  rw [← whole] at fits
  obtain ⟨thread, reads, running, reading⟩ := exists_reads areChunks fits
  obtain ⟨ended, capture, finished, done⟩ := reads_finish reads running reading
  exact ⟨capture, ended, reads_run finished, done, (reads_hashed finished).1.trans whole⟩

end Steps

end CaptureThread

section Supervisions

variable [Sha2] {setup : SuperviseSetup}

/-- Each thread of a supervision runs by itself. -/
theorem superviseRun_threads {state : SuperviseState}
    (run : Transition.Run (SuperviseStep setup) setup.initial state) :
    Transition.Run (CaptureThread.ThreadStep setup.stdoutPath setup.maxLogBytes) .initial
        state.stdout ∧
      Transition.Run (CaptureThread.ThreadStep setup.stderrPath setup.maxLogBytes) .initial
        state.stderr := by
  induction run with
  | refl => exact ⟨.refl, .refl⟩
  | tail _ step ih =>
      obtain ⟨stdout, stderr⟩ := ih
      cases step with
      | stdout step => exact ⟨stdout.tail ⟨_, _, step⟩, stderr⟩
      | stderr step => exact ⟨stdout, stderr.tail ⟨_, _, step⟩⟩
      | _ => exact ⟨stdout, stderr⟩

/-- What a supervision returns are captures of the two streams it has copied. -/
theorem supervision_capturesStream {supervision : Supervision setup}
    {forced : Option StopReason} {status : ExitStatus} {stdout stderr : Capture}
    (returned : supervision.result = .ok (forced, status, stdout, stderr)) :
    CaptureThread.CapturesStream setup.stdoutPath setup.maxLogBytes
        supervision.ended.stdout.hashed stdout ∧
      CaptureThread.CapturesStream setup.stderrPath setup.maxLogBytes
        supervision.ended.stderr.hashed stderr := by
  obtain ⟨stdoutRun, stderrRun⟩ := superviseRun_threads supervision.reached
  obtain ⟨_, stdoutJoined, stderrJoined⟩ := Supervision.result_joined returned
  exact ⟨⟨_, stdoutRun, joinCapture_ok stdoutJoined, rfl⟩,
    ⟨_, stderrRun, joinCapture_ok stderrJoined, rfl⟩⟩

end Supervisions

end TaskAttest
