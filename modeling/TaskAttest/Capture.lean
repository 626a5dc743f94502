import TaskAttest.BlobStore

/-! One capture thread: it reads a stream to its end, copies it into a temporary
file, hashes it, counts it against a budget shared with the other thread and
keeps its tail. -/

set_option autoImplicit false

namespace TaskAttest

def summaryBytes : Nat := 4 * 1024

/-- The most bytes one read returns. -/
def bufferBytes : Nat := 8 * 1024

structure Capture where
  path : String
  digest : String
  bytes : UInt64
  tail : List UInt8
  truncated : Bool
deriving DecidableEq

/-- What the two threads share: `total_bytes` and `log_limit_exceeded`. -/
structure LogBudget where
  totalBytes : UInt64
  limitExceeded : Bool
deriving DecidableEq

/-- What a thread does next. -/
inductive CapturePhase where
  | reading
  | counting (chunk : List UInt8)
  | flagging (chunk : List UInt8) (combined : UInt64)
  | syncing
  | finished (result : Except IoError Capture)

structure CaptureThread where
  written : List UInt8
  hashed : List UInt8
  bytes : UInt64
  tail : List UInt8
  truncated : Bool
  phase : CapturePhase
  panicked : Bool

def saturatingAdd (left right : UInt64) : UInt64 :=
  UInt64.ofNat (min (left.toNat + right.toNat) (2 ^ 64 - 1))

def chunkBytes (chunk : List UInt8) : UInt64 := UInt64.ofNat (min chunk.length (2 ^ 64 - 1))

namespace CaptureThread

def initial : CaptureThread where
  written := []
  hashed := []
  bytes := 0
  tail := []
  truncated := false
  phase := .reading
  panicked := false

/-- Write and hash one chunk. -/
def absorb (thread : CaptureThread) (chunk : List UInt8) : CaptureThread :=
  { thread with
    written := thread.written ++ chunk
    hashed := thread.hashed ++ chunk
    bytes := saturatingAdd thread.bytes (chunkBytes chunk)
    phase := .counting chunk }

/-- Keep the last bytes of what was read. -/
def keepTail (thread : CaptureThread) (chunk : List UInt8) : CaptureThread :=
  let tail := thread.tail ++ chunk
  if tail.length > summaryBytes then
    { thread with
      tail := tail.drop (tail.length - summaryBytes), truncated := true, phase := .reading }
  else { thread with tail, phase := .reading }

def capture [Sha2] (thread : CaptureThread) (path : String) : Capture where
  path
  digest := sha256Bytes thread.hashed
  bytes := thread.bytes
  tail := thread.tail
  truncated := thread.truncated

def fail (thread : CaptureThread) (error : IoError) : CaptureThread :=
  { thread with phase := .finished (.error error) }

/-- Joining the thread does not block. -/
def done (thread : CaptureThread) : Bool :=
  thread.panicked || match thread.phase with
    | .finished _ => true
    | _ => false

end CaptureThread

/-- `fetch_add`, which wraps. -/
def LogBudget.add (budget : LogBudget) (chunk : List UInt8) : LogBudget :=
  { budget with totalBytes := budget.totalBytes + chunkBytes chunk }

def LogBudget.flag (budget : LogBudget) (maxLogBytes : UInt64) (chunk : List UInt8)
    (combined : UInt64) : LogBudget :=
  if saturatingAdd combined (chunkBytes chunk) > maxLogBytes then
    { budget with limitExceeded := true }
  else budget

/-- The steps of one thread. The environment chooses the chunks and the failures. -/
inductive CaptureStep [Sha2] (path : String) (maxLogBytes : UInt64) :
    CaptureThread × LogBudget → CaptureThread × LogBudget → Prop where
  | read {thread : CaptureThread} {budget : LogBudget} (chunk : List UInt8) :
      thread.panicked = false → thread.phase = .reading →
      chunk ≠ [] → chunk.length ≤ bufferBytes →
      (thread.written ++ chunk).length ≤ maxFileBytes →
      CaptureStep path maxLogBytes (thread, budget) (thread.absorb chunk, budget)
  | readFails {thread : CaptureThread} {budget : LogBudget} (error : IoError) :
      thread.panicked = false → thread.phase = .reading →
      CaptureStep path maxLogBytes (thread, budget) (thread.fail error, budget)
  | writeFails {thread : CaptureThread} {budget : LogBudget} (chunk torn : List UInt8)
      (error : IoError) :
      thread.panicked = false → thread.phase = .reading →
      chunk.length ≤ bufferBytes → torn <+: chunk →
      CaptureStep path maxLogBytes (thread, budget)
        ({ thread with written := thread.written ++ torn }.fail error, budget)
  | count {thread : CaptureThread} {budget : LogBudget} {chunk : List UInt8} :
      thread.panicked = false → thread.phase = .counting chunk →
      CaptureStep path maxLogBytes (thread, budget)
        ({ thread with phase := .flagging chunk budget.totalBytes }, budget.add chunk)
  | flag {thread : CaptureThread} {budget : LogBudget} {chunk : List UInt8} {combined : UInt64} :
      thread.panicked = false → thread.phase = .flagging chunk combined →
      CaptureStep path maxLogBytes (thread, budget)
        (thread.keepTail chunk, budget.flag maxLogBytes chunk combined)
  | endOfStream {thread : CaptureThread} {budget : LogBudget} :
      thread.panicked = false → thread.phase = .reading →
      CaptureStep path maxLogBytes (thread, budget) ({ thread with phase := .syncing }, budget)
  | sync {thread : CaptureThread} {budget : LogBudget} :
      thread.panicked = false → thread.phase = .syncing →
      CaptureStep path maxLogBytes (thread, budget)
        ({ thread with phase := .finished (.ok (thread.capture path)) }, budget)
  | syncFails {thread : CaptureThread} {budget : LogBudget} (error : IoError) :
      thread.panicked = false → thread.phase = .syncing →
      CaptureStep path maxLogBytes (thread, budget) (thread.fail error, budget)
  | panic {thread : CaptureThread} {budget : LogBudget} :
      thread.done = false →
      CaptureStep path maxLogBytes (thread, budget) ({ thread with panicked := true }, budget)

/-- What the main thread gets when it joins a thread that is done. -/
def joinCapture (thread : CaptureThread) (stream : String) : Except TaskError Capture :=
  match thread.panicked, thread.phase with
  | false, .finished (.ok capture) => .ok capture
  | false, .finished (.error error) =>
      .error (TaskError.execution ("capture " ++ stream ++ ": " ++ error.text))
  | _, _ => .error (TaskError.execution (stream ++ " capture thread panicked"))

end TaskAttest
