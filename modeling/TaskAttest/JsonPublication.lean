import TaskAttest.Library.Transition
import TaskAttest.Publish

/-! One `write_json_atomic` call among other parties, one system call at a time.
Between any two of its steps the others may do whatever leaves the call's own
temporary file alone; the environment picks which system call fails. -/

set_option autoImplicit false

namespace TaskAttest

/-- The process, the requested path and the document one call is made with. -/
structure JsonCall where
  process : Nat
  path : String
  document : List UInt8

/-- The system call a `write_json_atomic` call makes next. -/
inductive JsonPhase where
  | createParent
  | inspectParent
  | inspectTarget
  | allocate (attempts : Nat)
  | write (temporary : String) (rest : List UInt8)
  | newline (temporary : String)
  | sync (temporary : String)
  | link (temporary : String)
  | remove (temporary : String) (result : Except TaskError Unit)
  | finished (result : Except TaskError Unit)

/-- What the environment decides about one system call: whether it fails, how many
bytes a write takes, and what a failing write leaves. -/
structure JsonChoice where
  fault : Option IoError
  count : Nat
  torn : List UInt8

/-- The disk, the next number of the temporary names, and what the call is doing.
The rest is history: the temporary file and its number, what the target named when
it was linked, and whether the temporary file could not be removed. -/
structure JsonState where
  disk : Disk
  sequence : Nat
  phase : JsonPhase
  own : Option (String × Nat)
  linked : Option Entry
  leftover : Bool

namespace JsonState

def initial (disk : Disk) (sequence : Nat) : JsonState where
  disk
  sequence
  phase := .createParent
  own := none
  linked := none
  leftover := false

/-- The call goes on to another phase, with nothing changed. -/
def become (state : JsonState) (phase : JsonPhase) : JsonState := { state with phase }

def fail (state : JsonState) (error : TaskError) : JsonState :=
  state.become (.finished (.error error))

def Pending (state : JsonState) : Prop := ∀ result, state.phase ≠ .finished result

end JsonState

namespace JsonCall

/-- A step of `preflight_json_output`, for the parent directory. -/
def parentStep (call : JsonCall) (state : JsonState) (step : String → JsonState) : JsonState :=
  match jsonOutputParent call.path with
  | .error error => state.fail error
  | .ok (parent, _) => step parent

def createParentStep (call : JsonCall) (fault : Option IoError) (state : JsonState) : JsonState :=
  call.parentStep state fun parent =>
    match attempt fault (state.disk.createDirAll ((components parent).length + 1) parent) with
    | .error error => state.fail (TaskError.io "create output directory" parent error)
    | .ok created => { state with disk := created, phase := .inspectParent }

def inspectParentStep (call : JsonCall) (fault : Option IoError) (state : JsonState) : JsonState :=
  call.parentStep state fun parent =>
    match attempt fault (state.disk.metadata parent) with
    | .error error => state.fail (TaskError.io "inspect output directory" parent error)
    | .ok metadata =>
        if !metadata.isDir then
          state.fail (TaskError.new "output_parent_invalid"
            ("output parent is not a directory: " ++ parent) 4)
        else state.become .inspectTarget

def inspectTargetStep (call : JsonCall) (fault : Option IoError) (state : JsonState) : JsonState :=
  match attempt fault (state.disk.metadata call.path) with
  | .ok _ =>
      state.fail (TaskError.new "output_already_exists"
        ("receipt output already exists: " ++ call.path) 4)
  | .error error =>
      if error.kind = .notFound then state.become (.allocate allocationAttempts)
      else state.fail (TaskError.io "inspect receipt output" call.path error)

/-- One exclusive creation. Every attempt consumes a sequence number. -/
def allocateStep (call : JsonCall) (fault : Option IoError) (state : JsonState) :
    Nat → JsonState
  | 0 => state.fail (TaskError.execution "could not allocate a unique temporary JSON file")
  | attempts + 1 =>
      match jsonOutputParent call.path with
      | .error error => state.fail error
      | .ok (parent, name) =>
          let allocation := jsonAllocation call.process parent name
          let temporary := allocation.name state.sequence
          match attempt fault (state.disk.createNew temporary) with
          | .ok created =>
              { state with
                disk := created
                sequence := state.sequence + 1
                phase := .write temporary call.document
                own := some (temporary, state.disk.next) }
          | .error error =>
              let next := { state with sequence := state.sequence + 1 }
              if error.kind = .alreadyExists then next.become (.allocate attempts)
              else next.fail (TaskError.io allocation.action temporary error)

/-- A write takes some of the bytes that remain, or fails after some others. -/
def writeStep (choice : JsonChoice) (state : JsonState) (temporary : String) (rest : List UInt8) :
    JsonState :=
  match choice.fault with
  | some error =>
      { state with
        disk := state.disk.modify temporary (Entry.append choice.torn)
        phase := .remove temporary (.error (TaskError.json error.text)) }
  | none =>
      { state with
        disk := state.disk.modify temporary (Entry.append (rest.take choice.count))
        phase :=
          if rest.drop choice.count = [] then .newline temporary
          else .write temporary (rest.drop choice.count) }

def newlineStep (fault : Option IoError) (state : JsonState) (temporary : String) : JsonState :=
  match fault with
  | some error =>
      state.become (.remove temporary
        (.error (TaskError.io "finish temporary JSON file" temporary error)))
  | none =>
      { state with
        disk := state.disk.modify temporary (Entry.append [10])
        phase := .sync temporary }

def syncStep (fault : Option IoError) (state : JsonState) (temporary : String) : JsonState :=
  match fault with
  | some error =>
      state.become (.remove temporary
        (.error (TaskError.io "sync temporary JSON file" temporary error)))
  | none => state.become (.link temporary)

def linkStep (call : JsonCall) (fault : Option IoError) (state : JsonState) (temporary : String) :
    JsonState :=
  match attempt fault (state.disk.hardLink temporary call.path) with
  | .error error =>
      state.become (.remove temporary
        (.error (TaskError.io "publish JSON file without overwriting" call.path error)))
  | .ok disk =>
      { state with
        disk
        phase := .remove temporary (.ok ())
        linked := disk.lookup call.path }

/-- The clean-up. Its failure does not change the result. -/
def removeStep (fault : Option IoError) (state : JsonState) (temporary : String)
    (result : Except TaskError Unit) : JsonState :=
  match attempt fault (state.disk.removeFile temporary) with
  | .ok disk => { state with disk, phase := .finished result }
  | .error _ => { state with leftover := true, phase := .finished result }

/-- One system call. -/
def step (call : JsonCall) (choice : JsonChoice) (state : JsonState) : JsonState :=
  match state.phase with
  | .createParent => call.createParentStep choice.fault state
  | .inspectParent => call.inspectParentStep choice.fault state
  | .inspectTarget => call.inspectTargetStep choice.fault state
  | .allocate attempts => call.allocateStep choice.fault state attempts
  | .write temporary rest => writeStep choice state temporary rest
  | .newline temporary => newlineStep choice.fault state temporary
  | .sync temporary => syncStep choice.fault state temporary
  | .link temporary => call.linkStep choice.fault state temporary
  | .remove temporary result => removeStep choice.fault state temporary result
  | .finished _ => state

end JsonCall

/-- Others leave a temporary file alone: its name, its content, and that it has no
other names than before. -/
structure Spares (own : Option (String × Nat)) (before after : Disk) : Prop where
  name : ∀ {temporary : String} {file : Nat}, own = some (temporary, file) →
    after.links temporary = before.links temporary
  content : ∀ {temporary : String} {file : Nat}, own = some (temporary, file) →
    after.nodes file = before.nodes file
  names : ∀ {temporary path : String} {file : Nat}, own = some (temporary, file) →
    after.links path = some file → before.links path = some file

/-- The steps of an execution. -/
inductive JsonStep (call : JsonCall) : JsonState → JsonState → Prop where
  | advance {state : JsonState} (choice : JsonChoice) :
      state.Pending → JsonStep call state (call.step choice state)
  | others {state : JsonState} (disk : Disk) (sequence : Nat) :
      state.Pending → Spares state.own state.disk disk →
      JsonStep call state { state with disk, sequence }

end TaskAttest
