import TaskAttest.Supervise

/-! What every interleaving of a supervision preserves, and what it returns. -/

set_option autoImplicit false

namespace TaskAttest

theorem toNat_chunkBytes {chunk : List UInt8} (bounded : chunk.length ≤ maxFileBytes) :
    (chunkBytes chunk).toNat = chunk.length := by
  have small : maxFileBytes < 2 ^ 64 := by decide
  rw [chunkBytes, UInt64.toNat_ofNat', Nat.min_eq_left (by omega), Nat.mod_eq_of_lt (by omega)]

theorem toNat_saturatingAdd {left right : UInt64}
    (bounded : left.toNat + right.toNat < 2 ^ 64) :
    (saturatingAdd left right).toNat = left.toNat + right.toNat := by
  rw [saturatingAdd, UInt64.toNat_ofNat', Nat.min_eq_left (by omega), Nat.mod_eq_of_lt bounded]

namespace CaptureThread

/-- The bytes that are hashed but not yet counted. -/
def pending (thread : CaptureThread) : List UInt8 :=
  match thread.phase with
  | .counting chunk => chunk
  | _ => []

/-- How many bytes a thread has added to the shared counter. -/
def counted (thread : CaptureThread) : Nat := thread.hashed.length - thread.pending.length

structure Invariant [Sha2] (path : String) (thread : CaptureThread) : Prop where
  bounded : thread.hashed.length ≤ maxFileBytes
  bytes : thread.bytes.toNat = thread.hashed.length
  pending : thread.pending.length ≤ thread.hashed.length
  copied : (∀ error, thread.phase ≠ .finished (.error error)) → thread.written = thread.hashed
  captured : ∀ {capture : Capture}, thread.phase = .finished (.ok capture) →
    capture = thread.capture path

theorem keepTail_fields (thread : CaptureThread) (chunk : List UInt8) :
    (thread.keepTail chunk).written = thread.written ∧
      (thread.keepTail chunk).hashed = thread.hashed ∧
      (thread.keepTail chunk).bytes = thread.bytes ∧
      (thread.keepTail chunk).phase = .reading ∧
      (thread.keepTail chunk).panicked = thread.panicked := by
  simp only [keepTail]
  split <;> exact ⟨rfl, rfl, rfl, rfl, rfl⟩

private theorem invariant_initial [Sha2] (path : String) : initial.Invariant path where
  bounded := Nat.zero_le _
  bytes := rfl
  pending := Nat.le_refl _
  copied := fun _ => rfl
  captured := nofun

end CaptureThread

@[simp] theorem LogBudget.flag_totalBytes (budget : LogBudget) (maxLogBytes : UInt64)
    (chunk : List UInt8) (combined : UInt64) :
    (budget.flag maxLogBytes chunk combined).totalBytes = budget.totalBytes := by
  unfold LogBudget.flag
  split <;> rfl

section Threads

variable [Sha2] {path : String} {maxLogBytes : UInt64}

/-- One step of a thread keeps its invariant and counts exactly what it adds. -/
theorem captureStep_invariant {before after : CaptureThread} {budget added : LogBudget}
    {others : Nat} (step : CaptureStep path maxLogBytes (before, budget) (after, added))
    (invariant : before.Invariant path) (othersBounded : others ≤ maxFileBytes)
    (total : budget.totalBytes.toNat = before.counted + others) :
    after.Invariant path ∧ added.totalBytes.toNat = after.counted + others := by
  obtain ⟨bounded, bytes, pendingBounded, copied, captured⟩ := invariant
  have small : maxFileBytes + maxFileBytes < 2 ^ 64 := by decide
  cases step with
  | read chunk running reading nonempty short fits =>
      have same := copied (by simp [reading])
      simp only [CaptureThread.pending, CaptureThread.counted, reading, List.length_nil,
        Nat.sub_zero] at total
      have length : (chunkBytes chunk).toNat = chunk.length :=
        toNat_chunkBytes (by rw [List.length_append] at fits; omega)
      rw [same, List.length_append] at fits
      refine ⟨⟨?_, ?_, ?_, ?_, nofun⟩, ?_⟩
      · simpa [CaptureThread.absorb] using fits
      · simp only [CaptureThread.absorb, List.length_append]
        rw [toNat_saturatingAdd (by omega), bytes, length]
      · simp [CaptureThread.absorb, CaptureThread.pending]
      · intro _
        simp [CaptureThread.absorb, same]
      · simp [CaptureThread.absorb, CaptureThread.counted, CaptureThread.pending, total]
  | readFails error running reading =>
      refine ⟨⟨bounded, bytes, Nat.zero_le _, fun noError => absurd rfl (noError error), nofun⟩, ?_⟩
      simpa [CaptureThread.counted, CaptureThread.pending, CaptureThread.fail, reading] using total
  | writeFails chunk torn error running reading short isPrefix =>
      refine ⟨⟨bounded, bytes, Nat.zero_le _, fun noError => absurd rfl (noError error), nofun⟩, ?_⟩
      simpa [CaptureThread.counted, CaptureThread.pending, CaptureThread.fail, reading] using total
  | @count _ _ chunk running counting =>
      simp only [CaptureThread.counted, CaptureThread.pending, counting] at total pendingBounded
      refine ⟨⟨bounded, bytes, Nat.zero_le _, fun _ => copied (by simp [counting]), nofun⟩, ?_⟩
      have length : (chunkBytes chunk).toNat = chunk.length := toNat_chunkBytes (by omega)
      simp only [LogBudget.add, CaptureThread.counted, CaptureThread.pending, List.length_nil,
        UInt64.toNat_add, length]
      rw [Nat.mod_eq_of_lt (by omega)]
      omega
  | @flag _ _ chunk combined running flagging =>
      simp only [CaptureThread.counted, CaptureThread.pending, flagging] at total
      obtain ⟨sameWritten, sameHashed, sameBytes, samePhase, _⟩ := before.keepTail_fields chunk
      refine ⟨⟨?_, ?_, ?_, ?_, ?_⟩, ?_⟩
      · rw [sameHashed]
        exact bounded
      · rw [sameBytes, sameHashed]
        exact bytes
      · simp [CaptureThread.pending, samePhase]
      · intro _
        rw [sameWritten, sameHashed]
        exact copied (by simp [flagging])
      · intro capture finished
        rw [samePhase] at finished
        cases finished
      · simpa [CaptureThread.counted, CaptureThread.pending, samePhase, sameHashed] using total
  | endOfStream running reading =>
      refine ⟨⟨bounded, bytes, Nat.zero_le _, fun _ => copied (by simp [reading]), nofun⟩, ?_⟩
      simpa [CaptureThread.counted, CaptureThread.pending, reading] using total
  | sync running syncing =>
      refine ⟨⟨bounded, bytes, Nat.zero_le _, fun _ => copied (by simp [syncing]), ?_⟩, ?_⟩
      · intro capture impossible
        cases impossible
        rfl
      · simpa [CaptureThread.counted, CaptureThread.pending, syncing] using total
  | syncFails error running syncing =>
      refine ⟨⟨bounded, bytes, Nat.zero_le _, fun noError => absurd rfl (noError error), nofun⟩, ?_⟩
      simpa [CaptureThread.counted, CaptureThread.pending, CaptureThread.fail, syncing] using total
  | panic running => exact ⟨⟨bounded, bytes, pendingBounded, copied, captured⟩, total⟩

end Threads

/-! The whole supervision -/

section Supervisions

variable [Sha2] {setup : SuperviseSetup}

structure SuperviseInvariant (setup : SuperviseSetup) (state : SuperviseState) : Prop where
  stdout : state.stdout.Invariant setup.stdoutPath
  stderr : state.stderr.Invariant setup.stderrPath
  total : state.budget.totalBytes.toNat = state.stdout.counted + state.stderr.counted
  cancelled : setup.cancelled = true → state.cancelled = true
  terminating : state.phase = .terminating .cancellation → state.cancelled = true
  forced : ∀ {status : ExitStatus}, state.phase = .joining (some .cancellation) status →
    state.cancelled = true
  exited : ∀ {status : ExitStatus}, state.phase = .joining none status →
    state.child = .exited status

private theorem superviseInvariant_initial : SuperviseInvariant setup setup.initial where
  stdout := CaptureThread.invariant_initial _
  stderr := CaptureThread.invariant_initial _
  total := rfl
  cancelled := id
  terminating := nofun
  forced := nofun
  exited := nofun

theorem counted_le {path : String} {thread : CaptureThread} (invariant : thread.Invariant path) :
    thread.counted ≤ maxFileBytes :=
  Nat.le_trans (Nat.sub_le _ _) invariant.bounded

private theorem superviseInvariant_step {before after : SuperviseState}
    (step : SuperviseStep setup before after) (invariant : SuperviseInvariant setup before) :
    SuperviseInvariant setup after := by
  obtain ⟨stdout, stderr, total, cancelled, terminating, forced, exited⟩ := invariant
  cases step with
  | cancel =>
      exact ⟨stdout, stderr, total, fun _ => rfl, fun _ => rfl, fun _ => rfl, exited⟩
  | expire => exact ⟨stdout, stderr, total, cancelled, terminating, forced, exited⟩
  | exit status running =>
      refine ⟨stdout, stderr, total, cancelled, terminating, forced, ?_⟩
      intro other joining
      rw [exited joining] at running
      cases running
  | stdout step =>
      obtain ⟨kept, added⟩ := captureStep_invariant step stdout (counted_le stderr) total
      exact ⟨kept, stderr, added, cancelled, terminating, forced, exited⟩
  | stderr step =>
      obtain ⟨kept, added⟩ := captureStep_invariant step stderr (counted_le stdout)
        (total.trans (Nat.add_comm _ _))
      exact ⟨stdout, kept, added.trans (Nat.add_comm _ _), cancelled, terminating, forced, exited⟩
  | stillRunning waiting running =>
      exact ⟨stdout, stderr, total, cancelled, nofun, nofun, nofun⟩
  | hasExited waiting hasExited =>
      refine ⟨stdout, stderr, total, cancelled, nofun, nofun, ?_⟩
      intro status same
      cases same
      exact hasExited
  | waitFails error waiting => exact ⟨stdout, stderr, total, cancelled, nofun, nofun, nofun⟩
  | stop checking holds =>
      refine ⟨stdout, stderr, total, cancelled, ?_, nofun, nofun⟩
      intro same
      cases same
      exact holds
  | @proceed reason checking holds =>
      cases reason <;> exact ⟨stdout, stderr, total, cancelled, nofun, nofun, nofun⟩
  | terminate status stopping running =>
      refine ⟨stdout, stderr, total, cancelled, nofun, ?_, nofun⟩
      intro other same
      cases same
      exact terminating stopping
  | alreadyExited stopping hasExited =>
      refine ⟨stdout, stderr, total, cancelled, nofun, ?_, nofun⟩
      intro other same
      cases same
      exact terminating stopping
  | terminationFails error stopping =>
      exact ⟨stdout, stderr, total, cancelled, nofun, nofun, nofun⟩
  | wake sleeping => exact ⟨stdout, stderr, total, cancelled, nofun, nofun, nofun⟩

theorem superviseInvariant_run {state : SuperviseState}
    (run : Transition.Run (SuperviseStep setup) setup.initial state) :
    SuperviseInvariant setup state :=
  @Transition.run_invariant _ _ (SuperviseInvariant setup)
    superviseInvariant_step _ _ run superviseInvariant_initial

/-- A capture describes the temporary file its thread has written. -/
structure Captured (path : String) (thread : CaptureThread) (capture : Capture) : Prop where
  path : capture.path = path
  digest : capture.digest = sha256Bytes thread.written
  bytes : capture.bytes.toNat = thread.written.length

/-- What is known when a supervision returns the two captures. -/
structure Supervised (setup : SuperviseSetup) (ended : SuperviseState)
    (forced : Option StopReason) (status : ExitStatus) (stdout stderr : Capture) : Prop where
  phase : ended.phase = .joining forced status
  stdoutFile : Captured setup.stdoutPath ended.stdout stdout
  stderrFile : Captured setup.stderrPath ended.stderr stderr
  total : ended.budget.totalBytes.toNat = stdout.bytes.toNat + stderr.bytes.toNat
  exited : forced = none → ended.child = .exited status
  cancelled : forced = some .cancellation → ended.cancelled = true
  remembered : setup.cancelled = true → ended.cancelled = true

omit [Sha2] in
theorem joinCapture_ok {thread : CaptureThread} {stream : String} {capture : Capture}
    (joined : joinCapture thread stream = .ok capture) :
    thread.phase = .finished (.ok capture) := by
  unfold joinCapture at joined
  split at joined
  · rename_i finished
    cases joined
    exact finished
  · cases joined
  · cases joined

theorem counted_finished {path : String} {thread : CaptureThread} {capture : Capture}
    (invariant : thread.Invariant path) (finished : thread.phase = .finished (.ok capture)) :
    thread.counted = capture.bytes.toNat := by
  obtain rfl := invariant.captured finished
  simp [CaptureThread.counted, CaptureThread.pending, finished, CaptureThread.capture,
    invariant.bytes]

/-- A joined thread has counted all it has written. -/
theorem captured_of_join {path stream : String} {thread : CaptureThread} {capture : Capture}
    (invariant : thread.Invariant path) (joined : joinCapture thread stream = .ok capture) :
    Captured path thread capture ∧ thread.counted = capture.bytes.toNat := by
  have finished := joinCapture_ok joined
  have copied := invariant.copied (by simp [finished])
  refine ⟨?_, counted_finished invariant finished⟩
  obtain rfl := invariant.captured finished
  exact ⟨rfl, by rw [copied]; rfl, by rw [copied]; exact invariant.bytes⟩

omit [Sha2] in
/-- A result says that both threads were joined. -/
theorem SuperviseState.result_ok {state : SuperviseState} {forced : Option StopReason}
    {status : ExitStatus} {stdout stderr : Capture}
    (result : state.result = some (.ok (forced, status, stdout, stderr))) :
    state.phase = .joining forced status ∧ joinCapture state.stdout "stdout" = .ok stdout ∧
      joinCapture state.stderr "stderr" = .ok stderr := by
  unfold SuperviseState.result at result
  split at result
  · cases result
  · rename_i reason code joining
    split at result
    · cases result
    · split at result
      · cases result
      · rename_i first firstJoined
        split at result
        · cases result
        · cases secondJoined : joinCapture state.stderr "stderr" with
          | error error =>
              rw [secondJoined] at result
              cases result
          | ok second =>
              rw [secondJoined] at result
              cases result
              exact ⟨joining, firstJoined, rfl⟩
  · cases result

theorem Supervision.result_joined {supervision : Supervision setup}
    {forced : Option StopReason} {status : ExitStatus} {stdout stderr : Capture}
    (returned : supervision.result = .ok (forced, status, stdout, stderr)) :
    supervision.ended.phase = .joining forced status ∧
      joinCapture supervision.ended.stdout "stdout" = .ok stdout ∧
      joinCapture supervision.ended.stderr "stderr" = .ok stderr := by
  apply SuperviseState.result_ok
  rw [← returned, Supervision.result, Option.some_get]

theorem Supervision.result_ok {supervision : Supervision setup} {forced : Option StopReason}
    {status : ExitStatus} {stdout stderr : Capture}
    (returned : supervision.result = .ok (forced, status, stdout, stderr)) :
    Supervised setup supervision.ended forced status stdout stderr := by
  have invariant := superviseInvariant_run supervision.reached
  obtain ⟨joining, stdoutJoined, stderrJoined⟩ := Supervision.result_joined returned
  obtain ⟨stdoutFile, stdoutCounted⟩ := captured_of_join invariant.stdout stdoutJoined
  obtain ⟨stderrFile, stderrCounted⟩ := captured_of_join invariant.stderr stderrJoined
  refine ⟨joining, stdoutFile, stderrFile, ?_, ?_, ?_, invariant.cancelled⟩
  · rw [invariant.total, stdoutCounted, stderrCounted]
  · intro same
    subst same
    exact invariant.exited joining
  · intro same
    subst same
    exact invariant.forced joining

end Supervisions

end TaskAttest
