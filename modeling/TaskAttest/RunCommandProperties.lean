import TaskAttest.RunCommand
import TaskAttest.ErrorProperties
import TaskAttest.ReceiptWriteProperties
import TaskAttest.RunProperties

/-! The run command among other parties: what its exit code says about the receipt
in the store and about the requested copy. -/

set_option autoImplicit false

namespace TaskAttest

open Interleaving

/-! Alone, the calls are the run -/

namespace Among

section Alone

variable [Sha2] {world : World} {store : StateStore} {invocation : Invocation}
  {check : CheckDefinition}

private theorem alone_supervisedExecution (here : CheckWorld) (maxLogBytes startedUnixMs : UInt64)
    (paths : String × String) :
    (supervisedExecution world here store check maxLogBytes startedUnixMs paths).alone =
      TaskAttest.supervisedExecution world here store check maxLogBytes startedUnixMs paths := by
  unfold supervisedExecution TaskAttest.supervisedExecution
  rw [Calls.alone_bind, Calls.alone_perform]
  congr 1
  funext supervised
  obtain ⟨forced, status, stdout, stderr, budget⟩ := supervised
  simp only [Calls.alone_bind, Calls.alone_perform, Calls.alone_pure]

omit [Sha2] in
theorem alone_lift {Value : Type} (result : Except TaskError Value) :
    (Calls.lift result : RunCalls Value).alone = ofExcept result := by
  cases result <;> rfl

theorem alone_executeCheck (here : CheckWorld) (maxLogBytes : UInt64) :
    (executeCheck world here store check maxLogBytes).alone =
      TaskAttest.executeCheck world here store check maxLogBytes := by
  unfold executeCheck TaskAttest.executeCheck
  cases here.spawn with
  | some error => simp only [Calls.alone_bind, Calls.alone_perform, alone_lift]
  | none =>
      simp only [Calls.alone_bind, Calls.alone_perform, alone_lift, alone_supervisedExecution]

theorem alone_runLoop (checks : List CheckDefinition) (position : Nat) (stop : Bool) :
    (runLoop world store invocation position stop checks).alone =
      TaskAttest.runLoop world store invocation position stop checks := by
  induction checks generalizing position stop with
  | nil => rfl
  | cons check rest ih =>
      have turn : (runCheck world store invocation position stop check).alone =
          TaskAttest.runCheck world store invocation position stop check := by
        unfold runCheck TaskAttest.runCheck skipOrExecute TaskAttest.skipOrExecute
        cases stop <;>
          simp only [Calls.alone_bind, Calls.alone_perform, Calls.alone_pure, if_true,
            Bool.false_eq_true, if_false, alone_executeCheck]
      simp only [runLoop, TaskAttest.runLoop, Calls.alone_bind, Calls.alone_pure, turn, ih]

/-- Without interference the calls of the run are the run. -/
theorem alone_runChecks [JsonDiagnostics] (discovery : DiscoveryReport) :
    (runChecks world store discovery invocation).alone =
      TaskAttest.runChecks world store discovery invocation := by
  simp only [runChecks, TaskAttest.runChecks, collectEvidence, TaskAttest.collectEvidence,
    Calls.alone_bind, Calls.alone_perform, Calls.alone_pure, alone_lift, alone_runLoop]

end Alone

section Publication

variable {faults : PublishFaults} {path : String}

theorem alone_change (update : Disk → Except TaskError Disk) (state : RunState) :
    (change update).alone state =
      match update state.disk with
      | .ok disk => .ok () { state with disk }
      | .error error => .error error state := by
  rw [change, Calls.alone_perform]
  rfl

theorem alone_inspect {Value : Type} (look : Disk → Except TaskError Value) (state : RunState) :
    (inspect look).alone state = ofExcept (look state.disk) state := by
  rw [inspect, Calls.alone_perform]
  rfl

theorem alone_preflightJsonOutput :
    (preflightJsonOutput faults path).alone =
      onDisk (TaskAttest.preflightJsonOutput faults path) := by
  funext state
  simp only [preflightJsonOutput, onDisk, TaskAttest.preflightJsonOutput]
  cases parts : jsonOutputParent path with
  | error error => rfl
  | ok found =>
      obtain ⟨parent, name⟩ := found
      simp only [Calls.alone_bind, Calls.alone_lift_ok, pure_bind, createDirectory]
      simp only [bind, EStateM.bind, alone_change]
      cases made : attempt faults.parent
          (state.disk.createDirAll ((components parent).length + 1) parent) with
      | error error => rfl
      | ok created =>
          simp only [orElseFail, Except.mapError, alone_inspect]
          cases inspected : attempt faults.inspectParent (created.metadata parent) with
          | error error => rfl
          | ok metadata =>
              simp only [ofExcept]
              cases directory : metadata.isDir with
              | false => rfl
              | true =>
                  simp only [Bool.not_true, Bool.false_eq_true, if_false, alone_inspect,
                    inspectTarget, ofExcept]
                  cases attempt faults.inspectTarget (created.metadata path) with
                  | ok entry => rfl
                  | error error => by_cases absent : error.kind = .notFound <;> simp [absent]

/-- The clean-up after a failure, and the one after a success, come after these calls. -/
theorem alone_fillAndLink (document : List UInt8) (temporary : String) (state : RunState) :
    (∃ linked : Disk, (fillAndLink faults document temporary path).alone state =
        .ok () { state with disk := linked } ∧
      TaskAttest.fillAndLink faults document temporary path state.disk =
        (.ok (), linked.discard faults.remove temporary)) ∨
    ∃ error filled, (fillAndLink faults document temporary path).alone state =
        .error error { state with disk := filled } ∧
      TaskAttest.fillAndLink faults document temporary path state.disk =
        (.error error, filled) := by
  simp only [fillAndLink, TaskAttest.fillAndLink, Calls.alone_bind, Calls.alone_perform]
  simp only [bind, EStateM.bind, writeDocument, alone_change]
  cases faults.serialize with
  | some torn =>
      obtain ⟨torn, text⟩ := torn
      exact .inr ⟨_, _, rfl, rfl⟩
  | none =>
      simp only
      cases faults.newline with
      | some error => exact .inr ⟨_, _, rfl, rfl⟩
      | none =>
          simp only [attempt, orElseFail, Except.mapError]
          cases faults.sync with
          | some error => exact .inr ⟨_, _, rfl, rfl⟩
          | none =>
              simp only
              cases faults.link with
              | some error => exact .inr ⟨_, _, rfl, rfl⟩
              | none =>
                  simp only
                  cases Disk.hardLink _ temporary path with
                  | error error => exact .inr ⟨_, _, rfl, rfl⟩
                  | ok linked => exact .inl ⟨linked, rfl, rfl⟩

/-- Without interference a publication is `write_json_atomic`. -/
theorem alone_writeJsonAtomic (process : Nat) (document : List UInt8) (state : RunState) :
    (writeJsonAtomic process faults path document).alone state =
      match TaskAttest.writeJsonAtomic process faults path document state.jsonSequence
        state.disk with
      | (.ok (), jsonSequence, disk) => .ok () { state with jsonSequence, disk }
      | (.error error, jsonSequence, disk) => .error error { state with jsonSequence, disk } := by
  simp only [writeJsonAtomic, TaskAttest.writeJsonAtomic, Calls.alone_bind,
    alone_preflightJsonOutput]
  cases checking : TaskAttest.preflightJsonOutput faults path state.disk with
  | mk verdict checked =>
      simp only [bind, EStateM.bind, onDisk, checking]
      cases verdict with
      | error error => rfl
      | ok =>
          cases parts : jsonOutputParent path with
          | error error => rfl
          | ok found =>
              obtain ⟨parent, name⟩ := found
              simp only [Calls.alone_lift_ok, Calls.alone_perform, createTemporary]
              cases allocated : (jsonAllocation process parent name).run faults.allocate
                  allocationAttempts state.jsonSequence checked with
              | mk opened rest =>
                  obtain ⟨next, created⟩ := rest
                  simp only [Program.pure_apply, allocated]
                  cases opened with
                  | error error => rfl
                  | ok temporary =>
                      simp only [Calls.alone_onFailure]
                      rcases @alone_fillAndLink faults path document temporary
                          { state with jsonSequence := next, disk := created } with
                        ⟨linked, alone, filled⟩ | ⟨error, torn, alone, filled⟩
                      · simp only [alone, filled]
                        rfl
                      · simp only [alone, filled]
                        rfl

end Publication

end Among

end TaskAttest
