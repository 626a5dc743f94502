import TaskAttest.RunCommandProperties
import TaskAttest.SharedRun

/-! A run that shares its store with nobody is the run command: the system calls, made
one after another, are the operations of which the command is made. -/

set_option autoImplicit false

namespace TaskAttest

open Interleaving

namespace Shared

/-! Temporary files -/

private theorem alone_attemptCreate (counter : Counter) (allocation : Allocation)
    (faults : Nat → Option IoError) (attempts : Nat) (state : RunState) :
    (createFile counter allocation faults (attempts + 1)).alone state =
      match attempt (faults (counter.read state))
          (state.disk.createNew (allocation.name (counter.read state))) with
      | .ok disk =>
          .ok (allocation.name (counter.read state))
            { counter.write (counter.read state + 1) state with disk }
      | .error error =>
          if error.kind = .alreadyExists then
            (createFile counter allocation faults attempts).alone
              (counter.write (counter.read state + 1) state)
          else
            .error (TaskError.io allocation.action (allocation.name (counter.read state)) error)
              (counter.write (counter.read state + 1) state) := by
  simp only [createFile, Calls.alone_bind, Calls.alone_perform]
  simp only [bind, EStateM.bind, attemptCreate, Allocation.once]
  cases attempt (faults (counter.read state))
      (state.disk.createNew (allocation.name (counter.read state))) with
  | ok disk => rfl
  | error error => by_cases taken : error.kind = .alreadyExists <;> simp [taken]

/-- Without interference the attempts are an allocation. -/
theorem alone_createFile (counter : Counter) (allocation : Allocation)
    (faults : Nat → Option IoError) (attempts : Nat) (state : RunState) :
    (createFile counter allocation faults attempts).alone state =
      match allocation.run faults attempts (counter.read state) state.disk with
      | (.ok path, number, disk) => .ok path { counter.write number state with disk }
      | (.error error, number, disk) => .error error { counter.write number state with disk } := by
  induction attempts generalizing state with
  | zero => cases counter <;> rfl
  | succ attempts ih =>
      rw [alone_attemptCreate, Allocation.run]
      cases attempt (faults (counter.read state))
          (state.disk.createNew (allocation.name (counter.read state))) with
      | ok disk => rfl
      | error error =>
          by_cases taken : error.kind = .alreadyExists
          · simp only [if_pos taken, ih]
            cases counter <;> rfl
          · simp only [if_neg taken]
            cases counter <;> rfl

private theorem alone_createTemporary (process : Nat) (faults : PublishFaults)
    (parent name : String) :
    (createFile .json (jsonAllocation process parent name) faults.allocate
      allocationAttempts).alone = Among.createTemporary process faults parent name := by
  funext state
  rw [alone_createFile]
  rfl

private theorem alone_createCaptureFiles [Sha2] (world : World) (here : CheckWorld)
    (store : StateStore) :
    (createCaptureFiles world here store).alone =
      TaskAttest.createCaptureFiles world here store := by
  have creates (stream : String) (faults : Nat → Option IoError) :
      (createFile .log (store.captureAllocation world.process stream) faults
        allocationAttempts).alone = createCaptureFile world store faults stream := by
    funext state
    rw [alone_createFile]
    rfl
  have cleans (program : RunCalls String) (path : String) :
      (program.onFailure (discardFile here.removeStdout path)).alone =
        onFailure program.alone (discardFile here.removeStdout path) := by
    funext state
    rw [Calls.alone_onFailure, onFailure]
    cases program.alone state <;> rfl
  simp only [createCaptureFiles, TaskAttest.createCaptureFiles, Calls.alone_bind,
    Calls.alone_pure, creates, cleans]

theorem alone_writeJsonAtomic (process : Nat) (faults : PublishFaults) (path : String)
    (document : List UInt8) :
    (writeJsonAtomic process faults path document).alone =
      (Among.writeJsonAtomic process faults path document).alone := by
  simp only [writeJsonAtomic, Among.writeJsonAtomic, Calls.alone_bind, alone_createTemporary,
    Calls.alone_perform]

/-! Blobs -/

section Blobs

variable {store : StateStore} {call : BlobCall} {faults : BlobFaults} {action : String}

private theorem alone_pathExists (fails : Bool) (path : String) (state : RunState) :
    (pathExists fails path).alone state = .ok (!fails && state.disk.pathExists path) state := by
  rw [pathExists, Among.alone_inspect]
  rfl

private theorem alone_removeTemporary (fault : Option IoError) :
    (removeTemporary store call action fault).alone =
      onDisk (store.removeTemporary call action fault) := by
  funext state
  simp only [removeTemporary, Calls.alone_bind, Calls.alone_pure, onDisk,
    StateStore.removeTemporary]
  simp only [bind, EStateM.bind, Among.alone_change]
  cases attempt fault (state.disk.removeFile call.temporary) <;> rfl

variable [Sha2]

private theorem alone_adoptBlob :
    (adoptBlob store call action faults).alone = onDisk (store.adoptBlob call action faults) := by
  funext state
  simp only [adoptBlob, Calls.alone_bind, alone_removeTemporary, onDisk, StateStore.adoptBlob]
  simp only [bind, EStateM.bind, Among.alone_inspect]
  cases store.verifyBlobStep call faults.verify state.disk <;> rfl

private theorem alone_publishBlob (state : RunState) :
    (publishBlob store call faults).alone state =
      match attempt faults.link
          (state.disk.hardLink call.temporary (store.blobTarget call.digest)) with
      | .ok disk =>
          onDisk (store.removeTemporary call "remove published temporary log" faults.remove)
            { state with disk }
      | .error error =>
          if !faults.relookup && state.disk.pathExists (store.blobTarget call.digest) then
            onDisk (store.adoptBlob call "remove raced temporary log" faults) state
          else
            .error (TaskError.io "publish content-addressed log without overwriting"
              (store.blobTarget call.digest) error) state := by
  rw [publishBlob, Calls.alone_bind, Calls.alone_perform]
  cases linked : attempt faults.link
      (state.disk.hardLink call.temporary (store.blobTarget call.digest)) with
  | ok disk =>
      have called : hardLink faults.link call.temporary (store.blobTarget call.digest) state =
          .ok none { state with disk } := by simp only [hardLink, linked]
      rw [Program.bind_of_ok called, alone_removeTemporary]
  | error error =>
      have called : hardLink faults.link call.temporary (store.blobTarget call.digest) state =
          .ok (some error) state := by simp only [hardLink, linked]
      rw [Program.bind_of_ok called, Calls.alone_bind, Program.bind_of_ok (alone_pathExists _ _ _)]
      split
      · rw [alone_adoptBlob]
      · rfl

/-- Without interference the calls are `store_blob`. -/
theorem alone_storeBlob :
    (storeBlob store call faults).alone = onDisk (store.storeBlob call faults) := by
  funext state
  simp only [storeBlob, Calls.alone_bind, onDisk, StateStore.storeBlob]
  cases validateSha256 call.digest with
  | error error => rfl
  | ok =>
      rw [Calls.alone_lift_ok, pure_bind, Program.bind_of_ok (alone_pathExists _ _ _)]
      by_cases found : (!faults.lookup && state.disk.pathExists (store.blobTarget call.digest)) =
          true
      · simp only [if_pos found, alone_adoptBlob, onDisk]
      · simp only [if_neg found, alone_publishBlob]
        cases attempt faults.link
            (state.disk.hardLink call.temporary (store.blobTarget call.digest)) with
        | ok disk => rfl
        | error error =>
            by_cases raced : (!faults.relookup &&
                state.disk.pathExists (store.blobTarget call.digest)) = true
            · simp only [if_pos raced, onDisk]
            · simp only [if_neg raced]

private theorem alone_persistCapture (capture : Capture) :
    (persistCapture store faults capture).alone =
      TaskAttest.persistCapture store faults capture := by
  simp only [persistCapture, TaskAttest.persistCapture, Calls.alone_bind, Calls.alone_pure,
    alone_storeBlob]

end Blobs

/-! The run -/

section Run

variable [Sha2] {world : World} {store : StateStore} {invocation : Invocation}

theorem alone_executeCheck (here : CheckWorld) (check : CheckDefinition) (maxLogBytes : UInt64) :
    (executeCheck world here store check maxLogBytes).alone =
      TaskAttest.executeCheck world here store check maxLogBytes := by
  have supervised (startedUnixMs : UInt64) (paths : String × String) :
      (supervisedExecution world here store check maxLogBytes startedUnixMs paths).alone =
        TaskAttest.supervisedExecution world here store check maxLogBytes startedUnixMs paths := by
    unfold supervisedExecution TaskAttest.supervisedExecution
    rw [Calls.alone_bind, Calls.alone_perform]
    congr 1
    funext joined
    obtain ⟨forced, status, stdout, stderr, budget⟩ := joined
    simp only [Calls.alone_bind, Calls.alone_perform, Calls.alone_pure, alone_persistCapture]
  unfold executeCheck TaskAttest.executeCheck
  cases here.spawn with
  | some error =>
      simp only [Calls.alone_bind, Calls.alone_perform, Among.alone_lift,
        alone_createCaptureFiles]
  | none =>
      simp only [Calls.alone_bind, Calls.alone_perform, Among.alone_lift,
        alone_createCaptureFiles, supervised]

theorem alone_runLoop (checks : List CheckDefinition) (position : Nat) (stop : Bool) :
    (runLoop world store invocation position stop checks).alone =
      TaskAttest.runLoop world store invocation position stop checks := by
  induction checks generalizing position stop with
  | nil => rfl
  | cons check rest ih =>
      have turn : (runCheck world store invocation position stop check).alone =
          TaskAttest.runCheck world store invocation position stop check := by
        unfold runCheck TaskAttest.runCheck skipOrExecute TaskAttest.skipOrExecute
        cases stop <;>
          simp only [Calls.alone_bind, Calls.alone_perform, Calls.alone_pure, if_true,
            Bool.false_eq_true, if_false, alone_executeCheck]
      simp only [runLoop, TaskAttest.runLoop, Calls.alone_bind, Calls.alone_pure, turn, ih]

variable [JsonDiagnostics]

omit [Sha2] in
private theorem alone_adoptReceipt (path : String) (receipt : Receipt) (state : RunState) :
    (adoptReceipt path receipt).alone state =
      match readReceiptFile state.disk path with
      | .error error => .error error state
      | .ok existing =>
          if existing.canonicalDigest = receipt.canonicalDigest then .ok path state
          else .error (TaskError.receipt ("receipt id collision at " ++ path)) state := by
  simp only [adoptReceipt, Calls.alone_bind]
  simp only [bind, EStateM.bind, Among.alone_inspect]
  cases readReceiptFile state.disk path with
  | error error => rfl
  | ok existing =>
      by_cases same : existing.canonicalDigest = receipt.canonicalDigest <;>
        simp [same, ofExcept]

omit [Sha2] in
/-- Without interference the calls are `write_receipt`. -/
theorem alone_writeReceipt (process : Nat) (faults : PublishFaults) (receipt : Receipt) :
    (writeReceipt process faults store receipt).alone =
      storeReceipt process faults store receipt := by
  funext state
  simp only [writeReceipt, storeReceipt, StateStore.writeReceipt, Calls.alone_bind]
  cases store.receiptPath receipt.receiptId with
  | error error => rfl
  | ok path =>
      simp only [Calls.alone_lift_ok, pure_bind]
      by_cases large : (toVecPretty receipt).length + 1 > maxReceiptBytes
      · simp only [if_pos large]
        rfl
      · simp only [if_neg large, Calls.alone_bind]
        rw [Program.bind_of_ok (alone_pathExists _ _ _)]
        by_cases found : (!faults.lookup && state.disk.pathExists path) = true
        · simp only [if_pos found, alone_adoptReceipt]
          cases readReceiptFile state.disk path with
          | error error => rfl
          | ok existing =>
              by_cases same : existing.canonicalDigest = receipt.canonicalDigest <;> simp [same]
        · simp only [if_neg found, Calls.alone_bind, alone_writeJsonAtomic]
          simp only [bind, EStateM.bind, Among.alone_writeJsonAtomic]
          rcases TaskAttest.writeJsonAtomic process faults path (toVecPretty receipt)
            state.jsonSequence state.disk with ⟨result, rest⟩
          cases result <;> rfl

theorem alone_runChecks (discovery : DiscoveryReport) :
    (runChecks world store discovery invocation).alone =
      (Among.runChecks world store discovery invocation).alone := by
  rw [Among.alone_runChecks]
  simp only [runChecks, TaskAttest.runChecks, collectEvidence, TaskAttest.collectEvidence,
    Calls.alone_bind, Calls.alone_perform, Calls.alone_pure, Among.alone_lift, alone_runLoop,
    alone_writeReceipt]

/-- Without interference the system calls are the run command. -/
theorem alone_run [Packages] (world : CommandWorld) (arguments : RunArguments) :
    (run world arguments).alone = (TaskAttest.run world arguments).alone := by
  have copies (store : StateStore) (receipt : Receipt) :
      (publishReceipt world store receipt arguments.receiptOut).alone =
        (TaskAttest.publishReceipt world store receipt arguments.receiptOut).alone := by
    cases arguments.receiptOut with
    | none => rfl
    | some path =>
        funext state
        simp only [publishReceipt, TaskAttest.publishReceipt, Calls.alone_handle,
          alone_writeJsonAtomic]
  simp only [run, TaskAttest.run, attest, TaskAttest.attest, Calls.alone_bind, alone_runChecks,
    copies, Calls.alone_pure]

end Run

end Shared

end TaskAttest
