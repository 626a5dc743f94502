import TaskAttest.Library.Transition
import TaskAttest.Store

/-! Any number of processes share one store. Each captures a stream into its
own temporary file and then stores that file as a blob, one system call at a
time. The environment picks who moves and which call fails. -/

set_option autoImplicit false

namespace TaskAttest

/-- The system call a `store_blob` call makes next. -/
inductive BlobPhase where
  | lookup
  | verify (action : String)
  | link
  | relookup (error : IoError)
  | remove (action : String)
  | finished (result : Except TaskError String)

/-- A regular file cannot grow past the largest signed file offset. -/
def maxFileBytes : Nat := 2 ^ 63 - 1

def capturePath (store : StateStore) (process sequence : Nat) (stream : String) : String :=
  joinPath store.temporaryDirectory
    (toString process ++ "-" ++ toString sequence ++ "-" ++ stream ++ ".log")

inductive BlobProcess where
  | capturing (temporary : String) (hashed : List UInt8)
  | storing (call : BlobCall) (phase : BlobPhase)
  | abandoned

/-- Append to the content of a regular file. -/
def Entry.append (chunk : List UInt8) : Entry → Entry
  | .file content failure => .file (content ++ chunk) failure
  | .directory => .directory

section Steps

variable [Sha2]

/-- The call for a captured file: its digest and its length. -/
def captureCall (temporary : String) (hashed : List UInt8) : BlobCall where
  temporary
  digest := sha256Bytes hashed
  expectedBytes := UInt64.ofNat hashed.length

/-- One system call of one `store_blob` call, failed by the environment if it
says so. -/
def BlobCall.step (store : StateStore) (call : BlobCall) (fault : Option IoError) :
    BlobPhase → Disk → BlobPhase × Disk
  | .lookup, disk =>
      match validateSha256 call.digest with
      | .error error => (.finished (.error error), disk)
      | .ok () =>
          if fault.isNone && disk.pathExists (store.blobTarget call.digest) then
            (.verify "remove duplicate temporary log", disk)
          else (.link, disk)
  | .verify action, disk =>
      match store.verifyBlobStep call fault disk with
      | .error error => (.finished (.error error), disk)
      | .ok () => (.remove action, disk)
  | .link, disk =>
      match attempt fault (disk.hardLink call.temporary (store.blobTarget call.digest)) with
      | .ok linked => (.remove "remove published temporary log", linked)
      | .error error => (.relookup error, disk)
  | .relookup error, disk =>
      if fault.isNone && disk.pathExists (store.blobTarget call.digest) then
        (.verify "remove raced temporary log", disk)
      else
        (.finished (.error (TaskError.io "publish content-addressed log without overwriting"
          (store.blobTarget call.digest) error)), disk)
  | .remove action, disk =>
      let (result, removed) := store.removeTemporary call action fault disk
      (.finished result, removed)
  | .finished result, disk => (.finished result, disk)

/-- The shared disk and what every process is doing. -/
structure BlobState where
  disk : Disk
  processes : Nat → Option BlobProcess

/-- Change what one process is doing, and the disk. -/
def BlobState.become (state : BlobState) (process : Nat) (doing : BlobProcess) (disk : Disk) :
    BlobState where
  disk
  processes other := if other = process then some doing else state.processes other

/-- The steps of the system. -/
inductive BlobStep (store : StateStore) : BlobState → BlobState → Prop where
  | create {state : BlobState} (process id sequence : Nat) (stream : String) :
      state.processes process = none →
      state.disk.pathExists (capturePath store id sequence stream) = false →
      BlobStep store state (state.become process
        (.capturing (capturePath store id sequence stream) [])
        (state.disk.create (capturePath store id sequence stream) (.file [] none)))
  | write {state : BlobState} {process : Nat} {temporary : String} {hashed : List UInt8}
      (chunk : List UInt8) :
      state.processes process = some (.capturing temporary hashed) →
      (hashed ++ chunk).length ≤ maxFileBytes →
      BlobStep store state (state.become process (.capturing temporary (hashed ++ chunk))
        (state.disk.modify temporary (Entry.append chunk)))
  | abandon {state : BlobState} {process : Nat} {temporary : String} {hashed : List UInt8} :
      state.processes process = some (.capturing temporary hashed) →
      BlobStep store state (state.become process .abandoned state.disk)
  | finish {state : BlobState} {process : Nat} {temporary : String} {hashed : List UInt8} :
      state.processes process = some (.capturing temporary hashed) →
      BlobStep store state (state.become process
        (.storing (captureCall temporary hashed) .lookup) state.disk)
  | advance {state : BlobState} {process : Nat} {call : BlobCall} {phase : BlobPhase}
      (fault : Option IoError) :
      state.processes process = some (.storing call phase) →
      BlobStep store state (state.become process
        (.storing call (call.step store fault phase state.disk).1)
        (call.step store fault phase state.disk).2)

end Steps

end TaskAttest
