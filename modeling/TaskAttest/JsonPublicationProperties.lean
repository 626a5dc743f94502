import TaskAttest.JsonPublication
import TaskAttest.PublishProperties

/-! Publication among others is all or nothing: what each system call does to the
call's own file and to the target, and what holds in every reachable state. -/

set_option autoImplicit false

namespace TaskAttest

/-- The file a call created has this name and this content, and no names besides. -/
structure Held (own : Option (String × Nat)) (disk : Disk) (temporary : String) (file : Nat)
    (names : List String) (content : List UInt8) : Prop where
  own : own = some (temporary, file)
  linked : disk.links temporary = some file
  stored : disk.nodes file = .file content none
  named : ∀ {path : String}, disk.links path = some file → path ∈ names

namespace Held

variable {own : Option (String × Nat)} {disk after : Disk} {temporary path : String} {file : Nat}
  {names : List String} {content : List UInt8}

theorem spares (held : Held own disk temporary file names content)
    (spared : Spares own disk after) : Held own after temporary file names content where
  own := held.own
  linked := (spared.name held.own).trans held.linked
  stored := (spared.content held.own).trans held.stored
  named linked := held.named (spared.names held.own linked)

theorem created (disk : Disk) (temporary : String) :
    Held (some (temporary, disk.next)) (disk.create temporary (.file [] none)) temporary disk.next
      [temporary] [] where
  own := rfl
  linked := by simp [FileSystem.create]
  stored := by simp [FileSystem.create]
  named := by
    intro path linked
    by_cases same : path = temporary
    · simp [same]
    · simp only [FileSystem.create, if_neg same] at linked
      exact absurd (disk.allocated linked) (Nat.lt_irrefl _)

theorem append (held : Held own disk temporary file names content) (chunk : List UInt8) :
    Held own (disk.modify temporary (Entry.append chunk)) temporary file names
      (content ++ chunk) where
  own := held.own
  linked := held.linked
  stored := by simp [FileSystem.modify, held.linked, held.stored, Entry.append]
  named linked := held.named linked

theorem link (held : Held own disk temporary file names content) (different : temporary ≠ path) :
    Held own (disk.link temporary path) temporary file (path :: names) content where
  own := held.own
  linked := by simp [FileSystem.link, different, held.linked]
  stored := held.stored
  named := by
    intro other linked
    by_cases same : other = path
    · simp [same]
    · simp only [FileSystem.link, if_neg same] at linked
      exact List.mem_cons_of_mem _ (held.named linked)

theorem lookup (held : Held own disk temporary file names content) :
    disk.lookup temporary = some (.file content none) := by
  simp [FileSystem.lookup, held.linked, held.stored]

end Held

section Call

variable {call : JsonCall} {state : JsonState}

namespace JsonCall

/-- What the target names when the call has published its document. -/
def complete (call : JsonCall) : Entry := .file (call.document ++ [10]) none

/-- There is no temporary file yet. -/
def Clear (state : JsonState) : Prop := state.own = none ∧ state.linked = none

/-- The temporary file is being filled and has no other name yet. -/
def Filling (call : JsonCall) (state : JsonState) (temporary : String) (content : List UInt8) :
    Prop :=
  state.linked = none ∧ temporary ≠ call.path ∧
    ∃ file, Held state.own state.disk temporary file [temporary] content

/-- The document is linked, and only the temporary name is left to remove. -/
def Published (call : JsonCall) (state : JsonState) (temporary : String) : Prop :=
  state.linked = some call.complete ∧ temporary ≠ call.path ∧
    ∃ file, Held state.own state.disk temporary file [call.path, temporary]
      (call.document ++ [10])

/-- The temporary file is gone, or could not be removed. -/
def Cleaned (state : JsonState) (temporary : String) : Prop :=
  state.disk.links temporary = none ∨ state.leftover = true

/-- What is known in each phase. -/
def PhaseInvariant (call : JsonCall) (state : JsonState) : JsonPhase → Prop
  | .createParent | .inspectParent | .inspectTarget | .allocate _ => Clear state
  | .write temporary rest =>
      ∃ written, written ++ rest = call.document ∧ call.Filling state temporary written
  | .newline temporary => call.Filling state temporary call.document
  | .sync temporary | .link temporary => call.Filling state temporary (call.document ++ [10])
  | .remove temporary (.error _) => ∃ content, call.Filling state temporary content
  | .remove temporary (.ok _) => call.Published state temporary
  | .finished (.error _) => state.linked = none ∧
      ∀ {temporary : String} {file : Nat}, state.own = some (temporary, file) →
        state.disk.links call.path ≠ some file ∧ Cleaned state temporary
  | .finished (.ok _) => state.linked = some call.complete ∧
      ∃ temporary file, state.own = some (temporary, file) ∧
        state.disk.nodes file = call.complete ∧ Cleaned state temporary

/-- The invariant of the call. -/
def Invariant (call : JsonCall) (state : JsonState) : Prop := call.PhaseInvariant state state.phase

private theorem invariant_fail (error : TaskError) (clear : Clear state) :
    call.Invariant (state.fail error) := by
  refine ⟨clear.2, fun {temporary file} own => ?_⟩
  rw [show (state.fail error).own = state.own from rfl, clear.1] at own
  cases own

/-! Each system call keeps the invariant. -/

private theorem createParentStep_invariant (fault : Option IoError) (clear : Clear state) :
    call.Invariant (call.createParentStep fault state) := by
  unfold createParentStep parentStep
  split
  · exact invariant_fail _ clear
  · simp only
    split
    · exact invariant_fail _ clear
    · exact clear

private theorem inspectParentStep_invariant (fault : Option IoError) (clear : Clear state) :
    call.Invariant (call.inspectParentStep fault state) := by
  unfold inspectParentStep parentStep
  split
  · exact invariant_fail _ clear
  · simp only
    split
    · exact invariant_fail _ clear
    · split
      · exact invariant_fail _ clear
      · exact clear

private theorem inspectTargetStep_invariant (fault : Option IoError) (clear : Clear state) :
    call.Invariant (call.inspectTargetStep fault state) := by
  unfold inspectTargetStep
  split
  · exact invariant_fail _ clear
  · split
    · exact clear
    · exact invariant_fail _ clear

private theorem allocateStep_invariant (fault : Option IoError) (attempts : Nat)
    (clear : Clear state) :
    call.Invariant (call.allocateStep fault state attempts) := by
  cases attempts with
  | zero => exact invariant_fail _ clear
  | succ attempts =>
      simp only [allocateStep]
      split
      · exact invariant_fail _ clear
      · rename_i parent name parts
        split
        · rename_i created opened
          obtain ⟨_, rfl⟩ := createNew_ok opened
          exact ⟨[], List.nil_append _, clear.2, jsonAllocation_name_ne _ _ parts, _,
            Held.created _ _⟩
        · split
          · exact clear
          · exact invariant_fail _ clear

private theorem writeStep_invariant {choice : JsonChoice} {temporary : String}
    {written rest : List UInt8} (document : written ++ rest = call.document)
    (filling : call.Filling state temporary written) :
    call.Invariant (writeStep choice state temporary rest) := by
  obtain ⟨unlinked, different, file, held⟩ := filling
  unfold writeStep
  split
  · exact ⟨_, unlinked, different, file, held.append _⟩
  · have taken := held.append (rest.take choice.count)
    have split : written ++ rest.take choice.count ++ rest.drop choice.count = call.document := by
      rw [List.append_assoc, List.take_append_drop, document]
    by_cases done : rest.drop choice.count = []
    · rw [done, List.append_nil] at split
      rw [split] at taken
      rw [if_pos done]
      exact ⟨unlinked, different, file, taken⟩
    · rw [if_neg done]
      exact ⟨_, split, unlinked, different, file, taken⟩

private theorem newlineStep_invariant {fault : Option IoError} {temporary : String}
    (filling : call.Filling state temporary call.document) :
    call.Invariant (newlineStep fault state temporary) := by
  unfold newlineStep
  split
  · exact ⟨_, filling⟩
  · obtain ⟨unlinked, different, file, held⟩ := filling
    exact ⟨unlinked, different, file, held.append _⟩

private theorem syncStep_invariant {fault : Option IoError} {temporary : String}
    (filling : call.Filling state temporary (call.document ++ [10])) :
    call.Invariant (syncStep fault state temporary) := by
  unfold syncStep
  split
  · exact ⟨_, filling⟩
  · exact filling

private theorem linkStep_invariant {fault : Option IoError} {temporary : String}
    (filling : call.Filling state temporary (call.document ++ [10])) :
    call.Invariant (call.linkStep fault state temporary) := by
  unfold linkStep
  split
  · exact ⟨_, filling⟩
  · rename_i disk done
    obtain ⟨_, different, file, held⟩ := filling
    obtain ⟨_, rfl⟩ := hardLink_ok done
    refine ⟨?_, different, file, held.link different⟩
    exact (FileSystem.lookup_link_target _).trans held.lookup

/-- Either the temporary file is gone, or that it stayed is noted. -/
theorem removeStep_cases (fault : Option IoError) (state : JsonState) (temporary : String)
    (result : Except TaskError Unit) :
    removeStep fault state temporary result =
        { state with disk := state.disk.unlink temporary, phase := .finished result } ∨
      removeStep fault state temporary result =
        { state with leftover := true, phase := .finished result } := by
  unfold removeStep
  cases fault with
  | some error => exact .inr rfl
  | none =>
      simp only [attempt, Disk.removeFile]
      cases state.disk.pathExists temporary
      · exact .inr rfl
      · exact .inl rfl

private theorem removeStep_invariant {fault : Option IoError} {temporary : String}
    {result : Except TaskError Unit}
    (known : call.PhaseInvariant state (.remove temporary result)) :
    call.Invariant (removeStep fault state temporary result) := by
  cases result with
  | error error =>
      obtain ⟨content, unlinked, different, file, held⟩ := known
      have elsewhere : state.disk.links call.path ≠ some file := fun linked =>
        different (List.mem_singleton.mp (held.named linked)).symm
      rcases removeStep_cases fault state temporary (.error error) with removed | kept
      · rw [removed]
        refine ⟨unlinked, fun {other otherFile} own => ?_⟩
        obtain ⟨rfl, rfl⟩ := Prod.mk.inj (Option.some.inj (held.own.symm.trans own))
        refine ⟨?_, .inl ?_⟩
        · simpa [FileSystem.unlink, Ne.symm different] using elsewhere
        · simp [FileSystem.unlink]
      · rw [kept]
        refine ⟨unlinked, fun {other otherFile} own => ?_⟩
        obtain ⟨rfl, rfl⟩ := Prod.mk.inj (Option.some.inj (held.own.symm.trans own))
        exact ⟨elsewhere, .inr rfl⟩
  | ok _ =>
      obtain ⟨linked, different, file, held⟩ := known
      rcases removeStep_cases fault state temporary (.ok ()) with removed | kept
      · rw [removed]
        exact ⟨linked, temporary, file, held.own, held.stored, .inl (by simp [FileSystem.unlink])⟩
      · rw [kept]
        exact ⟨linked, temporary, file, held.own, held.stored, .inr rfl⟩

private theorem step_invariant (choice : JsonChoice) (invariant : call.Invariant state) :
    call.Invariant (call.step choice state) := by
  have known : call.PhaseInvariant state state.phase := invariant
  cases phase : state.phase <;> rw [phase] at known <;> simp only [step, phase]
  case createParent => exact createParentStep_invariant _ known
  case inspectParent => exact inspectParentStep_invariant _ known
  case inspectTarget => exact inspectTargetStep_invariant _ known
  case allocate attempts => exact allocateStep_invariant _ attempts known
  case write temporary rest =>
    obtain ⟨written, document, filling⟩ := known
    exact writeStep_invariant document filling
  case newline temporary => exact newlineStep_invariant known
  case sync temporary => exact syncStep_invariant known
  case link temporary => exact linkStep_invariant known
  case remove temporary result => exact removeStep_invariant known
  case finished result => exact invariant

/-! What others do while the call is pending keeps it too. -/

theorem Filling.spares {temporary : String} {content : List UInt8} {disk : Disk} (sequence : Nat)
    (filling : call.Filling state temporary content) (spared : Spares state.own state.disk disk) :
    call.Filling { state with disk, sequence } temporary content := by
  obtain ⟨unlinked, different, file, held⟩ := filling
  exact ⟨unlinked, different, file, held.spares spared⟩

private theorem others_invariant {disk : Disk} {sequence : Nat} (pending : state.Pending)
    (spared : Spares state.own state.disk disk) (invariant : call.Invariant state) :
    call.Invariant { state with disk, sequence } := by
  have known : call.PhaseInvariant state state.phase := invariant
  have goal : call.PhaseInvariant { state with disk, sequence } state.phase := by
    cases phase : state.phase <;> rw [phase] at known
    case createParent => exact known
    case inspectParent => exact known
    case inspectTarget => exact known
    case allocate attempts => exact known
    case write temporary rest =>
      obtain ⟨written, document, filling⟩ := known
      exact ⟨written, document, filling.spares sequence spared⟩
    case newline temporary => exact known.spares sequence spared
    case sync temporary => exact known.spares sequence spared
    case link temporary => exact known.spares sequence spared
    case remove temporary result =>
      cases result with
      | error error =>
          obtain ⟨content, filling⟩ := known
          exact ⟨content, filling.spares sequence spared⟩
      | ok _ =>
          obtain ⟨linked, different, file, held⟩ := known
          exact ⟨linked, different, file, held.spares spared⟩
    case finished result => exact absurd phase (pending result)
  exact goal

private theorem jsonStep_invariant {before after : JsonState} (taken : JsonStep call before after)
    (invariant : call.Invariant before) : call.Invariant after := by
  cases taken with
  | advance choice _ => exact step_invariant choice invariant
  | others disk sequence pending spared => exact others_invariant pending spared invariant

private theorem jsonRun_invariant {disk : Disk} {sequence : Nat}
    (run : Transition.Run (JsonStep call) (.initial disk sequence) state) :
    call.Invariant state :=
  @Transition.run_invariant _ _ call.Invariant (@jsonStep_invariant call) _ _ run
    (show Clear _ from ⟨rfl, rfl⟩)

/-! What a system call of the call does to the target. -/

/-- The target still names the file it named, and that file has the same content. -/
def KeepsTarget (call : JsonCall) (before after : Disk) : Prop :=
  ∀ file, before.links call.path = some file →
    after.links call.path = some file ∧ after.nodes file = before.nodes file

private theorem keepsTarget_refl (disk : Disk) :
    call.KeepsTarget disk disk := fun _ linked => ⟨linked, rfl⟩

private theorem keepsTarget_of_extends {before after : Disk} (grown : before.Extends after) :
    call.KeepsTarget before after := fun _ linked => grown.kept linked

private theorem Filling.keepsTarget {temporary : String} {content : List UInt8}
    (filling : call.Filling state temporary content) (change : Entry → Entry) :
    call.KeepsTarget state.disk (state.disk.modify temporary change) := by
  obtain ⟨_, different, own, held⟩ := filling
  intro file linked
  have other : own ≠ file := by
    intro same
    rw [← same] at linked
    exact different (List.mem_singleton.mp (held.named linked)).symm
  exact ⟨linked, by simp [FileSystem.modify, held.linked, other]⟩

private theorem step_keepsTarget (choice : JsonChoice) (invariant : call.Invariant state) :
    call.KeepsTarget state.disk (call.step choice state).disk := by
  have known : call.PhaseInvariant state state.phase := invariant
  cases phase : state.phase <;> rw [phase] at known <;> simp only [step, phase]
  case createParent =>
    unfold createParentStep parentStep
    split
    · exact keepsTarget_refl _
    · simp only
      split
      · exact keepsTarget_refl _
      · rename_i created made
        exact keepsTarget_of_extends (createDirAll_extends _ (attempt_ok made))
  case inspectParent =>
    unfold inspectParentStep parentStep
    split
    · exact keepsTarget_refl _
    · simp only
      split
      · exact keepsTarget_refl _
      · split <;> exact keepsTarget_refl _
  case inspectTarget =>
    unfold inspectTargetStep
    split
    · exact keepsTarget_refl _
    · split <;> exact keepsTarget_refl _
  case allocate attempts =>
    cases attempts with
    | zero => exact keepsTarget_refl _
    | succ attempts =>
        simp only [allocateStep]
        split
        · exact keepsTarget_refl _
        · split
          · rename_i created opened
            obtain ⟨missing, rfl⟩ := createNew_ok opened
            exact keepsTarget_of_extends (Disk.Extends.refl.create missing)
          · split <;> exact keepsTarget_refl _
  case write temporary rest =>
    obtain ⟨written, _, filling⟩ := known
    unfold writeStep
    split <;> exact filling.keepsTarget _
  case newline temporary =>
    unfold newlineStep
    split
    · exact keepsTarget_refl _
    · exact Filling.keepsTarget known _
  case sync temporary =>
    unfold syncStep
    split <;> exact keepsTarget_refl _
  case link temporary =>
    unfold linkStep
    split
    · exact keepsTarget_refl _
    · rename_i disk done
      obtain ⟨missing, rfl⟩ := hardLink_ok done
      exact keepsTarget_of_extends
        (Disk.Extends.refl.link (Disk.pathExists_eq_false_iff.mp missing))
  case remove temporary result =>
    have different : temporary ≠ call.path := by
      cases result with
      | error error => exact known.choose_spec.2.1
      | ok _ => exact known.2.1
    rcases removeStep_cases choice.fault state temporary result with removed | kept
    · rw [removed]
      exact fun _ linked => ⟨by simp [FileSystem.unlink, Ne.symm different, linked], rfl⟩
    · rw [kept]
      exact keepsTarget_refl _
  case finished result => exact keepsTarget_refl _

/-! What others may do to the target. -/

/-- The phases of one invariant taken together. -/
theorem Invariant.cases (invariant : call.Invariant state) :
    Clear state ∨ (∃ temporary content, call.Filling state temporary content) ∨
      (∃ temporary, call.Published state temporary) ∨
      ∃ result, state.phase = .finished result ∧ call.PhaseInvariant state (.finished result) := by
  have known : call.PhaseInvariant state state.phase := invariant
  cases phase : state.phase <;> rw [phase] at known
  case createParent => exact .inl known
  case inspectParent => exact .inl known
  case inspectTarget => exact .inl known
  case allocate attempts => exact .inl known
  case write temporary rest =>
    obtain ⟨written, _, filling⟩ := known
    exact .inr (.inl ⟨temporary, written, filling⟩)
  case newline temporary => exact .inr (.inl ⟨temporary, _, known⟩)
  case sync temporary => exact .inr (.inl ⟨temporary, _, known⟩)
  case link temporary => exact .inr (.inl ⟨temporary, _, known⟩)
  case remove temporary result =>
    cases result with
    | error error =>
        obtain ⟨content, filling⟩ := known
        exact .inr (.inl ⟨temporary, content, filling⟩)
    | ok _ => exact .inr (.inr (.inl ⟨temporary, known⟩))
  case finished result => exact .inr (.inr (.inr ⟨result, rfl, known⟩))

private theorem own_of_pending {temporary : String} {file : Nat} (invariant : call.Invariant state)
    (pending : state.Pending) (own : state.own = some (temporary, file)) :
    temporary ≠ call.path ∧ state.disk.links temporary = some file := by
  obtain ⟨unowned, _⟩ | ⟨other, content, _, different, otherFile, held⟩ |
    ⟨other, _, different, otherFile, held⟩ | ⟨result, finished, _⟩ := invariant.cases
  · rw [unowned] at own
    cases own
  · obtain ⟨rfl, rfl⟩ := Prod.mk.inj (Option.some.inj (held.own.symm.trans own))
    exact ⟨different, held.linked⟩
  · obtain ⟨rfl, rfl⟩ := Prod.mk.inj (Option.some.inj (held.own.symm.trans own))
    exact ⟨different, held.linked⟩
  · exact absurd finished (pending result)

/-- Between any two steps others may put anything at the target. -/
theorem others_create (invariant : call.Invariant state) (pending : state.Pending)
    (entry : Entry) :
    JsonStep call state { state with disk := state.disk.create call.path entry } := by
  refine .others _ _ pending ⟨?_, ?_, ?_⟩
  · intro temporary file own
    obtain ⟨different, _⟩ := own_of_pending invariant pending own
    simp [FileSystem.create, different]
  · intro temporary file own
    obtain ⟨_, linked⟩ := own_of_pending invariant pending own
    simp [FileSystem.create, Nat.ne_of_lt (state.disk.allocated linked)]
  · intro temporary path file own linked
    obtain ⟨_, named⟩ := own_of_pending invariant pending own
    simp only [FileSystem.create] at linked
    split at linked
    · cases linked
      exact absurd (state.disk.allocated named) (Nat.lt_irrefl _)
    · exact linked

end JsonCall

/-! A call that runs alone is an execution. -/

namespace JsonCall

/-- A call's step alone is a run. -/
theorem run_step {fault : Option IoError} {count : Nat} {torn : List UInt8} {after : JsonState}
    (pending : state.Pending) (taken : call.step ⟨fault, count, torn⟩ state = after) :
    Transition.Run (JsonStep call) state after :=
  .single (taken ▸ .advance _ pending)

private theorem removeStep_disk (fault : Option IoError) (temporary : String)
    (result : Except TaskError Unit) :
    (removeStep fault state temporary result).disk = state.disk.discard fault temporary ∧
      (removeStep fault state temporary result).phase = .finished result ∧
      (removeStep fault state temporary result).sequence = state.sequence := by
  unfold removeStep Disk.discard
  cases attempt fault (state.disk.removeFile temporary) <;> exact ⟨rfl, rfl, rfl⟩

/-- How a call ends: with this result and this disk. -/
def Ends (call : JsonCall) (start : JsonState) (result : Except TaskError Unit) (sequence : Nat)
    (disk : Disk) : Prop :=
  ∃ state, Transition.Run (JsonStep call) start state ∧ state.phase = .finished result ∧
    state.sequence = sequence ∧ state.disk = disk

theorem Ends.after {start : JsonState} {result : Except TaskError Unit} {sequence : Nat}
    {disk : Disk} (run : Transition.Run (JsonStep call) start state)
    (ends : call.Ends state result sequence disk) : call.Ends start result sequence disk := by
  obtain ⟨last, rest, phase, numbered, found⟩ := ends
  exact ⟨last, run.trans rest, phase, numbered, found⟩

private theorem remove_ends (fault : Option IoError) {temporary : String}
    {result : Except TaskError Unit} (phase : state.phase = .remove temporary result) :
    call.Ends state result state.sequence (state.disk.discard fault temporary) := by
  have taken : call.step ⟨fault, 0, []⟩ state = removeStep fault state temporary result := by
    simp only [step, phase]
  obtain ⟨disk, finished, sequence⟩ := @removeStep_disk state fault temporary result
  exact ⟨_, run_step (fun _ other => by rw [phase] at other; cases other) taken, finished, sequence,
    disk⟩

private theorem link_ends (faults : PublishFaults) {temporary : String}
    (phase : state.phase = .link temporary) :
    (∃ linked, attempt faults.link (state.disk.hardLink temporary call.path) = .ok linked ∧
        call.Ends state (.ok ()) state.sequence (linked.discard faults.remove temporary)) ∨
      ∃ error, attempt faults.link (state.disk.hardLink temporary call.path) = .error error ∧
        call.Ends state
          (.error (TaskError.io "publish JSON file without overwriting" call.path error))
          state.sequence (state.disk.discard faults.remove temporary) := by
  have pending : state.Pending := fun _ other => by rw [phase] at other; cases other
  cases done : attempt faults.link (state.disk.hardLink temporary call.path) with
  | ok linked =>
      have taken : call.step ⟨faults.link, 0, []⟩ state =
          { state with
            disk := linked
            phase := .remove temporary (.ok ())
            linked := linked.lookup call.path } := by
        simp only [step, phase, linkStep, done]
      exact .inl ⟨linked, rfl, (remove_ends faults.remove rfl).after (run_step pending taken)⟩
  | error error =>
      have taken : call.step ⟨faults.link, 0, []⟩ state = state.become (.remove temporary
          (.error (TaskError.io "publish JSON file without overwriting" call.path error))) := by
        simp only [step, phase, linkStep, done]
      exact .inr ⟨error, rfl, (remove_ends faults.remove rfl).after (run_step pending taken)⟩

/-- Filling and linking, then the clean-up that `write_json_atomic` runs on failure. -/
theorem fill_ends (faults : PublishFaults) {temporary : String}
    (phase : state.phase = .write temporary call.document) :
    (∃ published, fillAndLink faults call.document temporary call.path state.disk =
        (.ok (), published) ∧ call.Ends state (.ok ()) state.sequence published) ∨
      ∃ error filled, fillAndLink faults call.document temporary call.path state.disk =
          (.error error, filled) ∧
        call.Ends state (.error error) state.sequence (filled.discard faults.remove temporary) := by
  have pending : state.Pending := fun _ other => by rw [phase] at other; cases other
  unfold fillAndLink
  cases serialized : faults.serialize with
  | some torn =>
      obtain ⟨torn, text⟩ := torn
      have taken : call.step ⟨some ⟨.other, text⟩, 0, torn⟩ state =
          { state with
            disk := state.disk.modify temporary (Entry.append torn)
            phase := .remove temporary (.error (TaskError.json text)) } := by
        simp only [step, phase, writeStep]
      exact .inr ⟨_, _, rfl, (remove_ends faults.remove rfl).after (run_step pending taken)⟩
  | none =>
      let written : JsonState := { state with
        disk := state.disk.modify temporary (Entry.append call.document)
        phase := .newline temporary }
      have writing : Transition.Run (JsonStep call) state written := by
        have taken : call.step ⟨none, call.document.length, []⟩ state = written := by
          simp only [step, phase, writeStep, List.take_length, List.drop_length, if_true, written]
        exact run_step pending taken
      have writtenPending : written.Pending := fun _ other => by cases other
      simp only
      cases newline : faults.newline with
      | some error =>
          have taken : call.step ⟨some error, 0, []⟩ written = written.become (.remove temporary
              (.error (TaskError.io "finish temporary JSON file" temporary error))) := rfl
          exact .inr ⟨_, _, rfl, ((remove_ends faults.remove rfl).after
            (run_step writtenPending taken)).after writing⟩
      | none =>
          let finished : JsonState := { written with
            disk := written.disk.modify temporary (Entry.append [10])
            phase := .sync temporary }
          have finishing : Transition.Run (JsonStep call) state finished := by
            have taken : call.step ⟨none, 0, []⟩ written = finished := rfl
            exact writing.trans (run_step writtenPending taken)
          have finishedPending : finished.Pending := fun _ other => by cases other
          simp only
          cases synced : faults.sync with
          | some error =>
              have taken : call.step ⟨some error, 0, []⟩ finished = finished.become (.remove
                  temporary (.error (TaskError.io "sync temporary JSON file" temporary error))) :=
                rfl
              exact .inr ⟨_, _, rfl, ((remove_ends faults.remove rfl).after
                (run_step finishedPending taken)).after finishing⟩
          | none =>
              let linking : JsonState := finished.become (.link temporary)
              have syncing : Transition.Run (JsonStep call) state linking := by
                have taken : call.step ⟨none, 0, []⟩ finished = linking := rfl
                exact finishing.trans (run_step finishedPending taken)
              rcases @link_ends call linking faults temporary rfl with
                ⟨linked, done, ends⟩ | ⟨error, failed, ends⟩
              · refine .inl ⟨_, ?_, ends.after syncing⟩
                simp only [linking, finished, written, JsonState.become] at done
                simp only [done]
              · refine .inr ⟨_, _, ?_, ends.after syncing⟩
                simp only [linking, finished, written, JsonState.become] at failed
                simp only [failed]
                rfl

/-- The exclusive creations of a call that runs alone. -/
theorem allocate_ends {parent name : String}
    (parts : jsonOutputParent call.path = .ok (parent, name))
    (faults : Nat → Option IoError) {attempts : Nat} (phase : state.phase = .allocate attempts) :
    (∃ temporary next created after, (jsonAllocation call.process parent name).run faults attempts
        state.sequence state.disk = (.ok temporary, next, created) ∧
      Transition.Run (JsonStep call) state after ∧
      after.phase = .write temporary call.document ∧ after.sequence = next ∧
      after.disk = created) ∨
    ∃ error next disk, (jsonAllocation call.process parent name).run faults attempts
        state.sequence state.disk = (.error error, next, disk) ∧
      call.Ends state (.error error) next disk := by
  have pending : state.Pending := fun _ other => by rw [phase] at other; cases other
  induction attempts generalizing state with
  | zero =>
      have taken : call.step ⟨none, 0, []⟩ state = state.fail
          (TaskError.execution "could not allocate a unique temporary JSON file") := by
        simp only [step, phase, allocateStep]
      exact .inr ⟨_, _, _, rfl, _, run_step pending taken, rfl, rfl, rfl⟩
  | succ attempts ih =>
      simp only [Allocation.run]
      cases opened : attempt (faults state.sequence) (state.disk.createNew
          ((jsonAllocation call.process parent name).name state.sequence)) with
      | ok created =>
          refine .inl ⟨_, _, _, call.step ⟨faults state.sequence, 0, []⟩ state, rfl,
            run_step pending rfl, ?_⟩
          simp only [step, phase, allocateStep, parts, opened]
          exact ⟨trivial, trivial, trivial⟩
      | error error =>
          by_cases occupied : error.kind = .alreadyExists
          · let next : JsonState :=
              { state with sequence := state.sequence + 1, phase := .allocate attempts }
            have taken : call.step ⟨faults state.sequence, 0, []⟩ state = next := by
              simp only [step, phase, allocateStep, parts, opened, if_pos occupied,
                JsonState.become, next]
            have advanced := run_step pending taken
            simp only [if_pos occupied]
            rcases @ih next rfl (fun _ other => by cases other) with
              ⟨temporary, last, created, after, allocated, run, known⟩ |
              ⟨fault, last, disk, failed, ends⟩
            · exact .inl ⟨temporary, last, created, after, allocated, advanced.trans run, known⟩
            · exact .inr ⟨fault, last, disk, failed, ends.after advanced⟩
          · refine .inr ⟨_, _, _, if_neg occupied,
              call.step ⟨faults state.sequence, 0, []⟩ state, run_step pending rfl, ?_⟩
            simp only [step, phase, allocateStep, parts, opened, if_neg occupied]
            exact ⟨rfl, rfl, rfl⟩

private theorem run_fail {fault : Option IoError} {error : TaskError} (pending : state.Pending)
    (taken : call.step ⟨fault, 0, []⟩ state = state.fail error) :
    call.Ends state (.error error) state.sequence state.disk :=
  ⟨_, run_step pending taken, rfl, rfl, rfl⟩

private theorem inspectTarget_ends (faults : PublishFaults) (phase : state.phase = .inspectTarget) :
    (∃ error, attempt faults.inspectTarget (state.disk.metadata call.path) = .error error ∧
      error.kind = .notFound ∧
      Transition.Run (JsonStep call) state (state.become (.allocate allocationAttempts))) ∨
    (∃ error, attempt faults.inspectTarget (state.disk.metadata call.path) = .error error ∧
      error.kind ≠ .notFound ∧ call.Ends state
        (.error (TaskError.io "inspect receipt output" call.path error)) state.sequence
        state.disk) ∨
    ∃ entry, attempt faults.inspectTarget (state.disk.metadata call.path) = .ok entry ∧
      call.Ends state (.error (TaskError.new "output_already_exists"
        ("receipt output already exists: " ++ call.path) 4)) state.sequence state.disk := by
  have pending : state.Pending := fun _ other => by rw [phase] at other; cases other
  cases inspected : attempt faults.inspectTarget (state.disk.metadata call.path) with
  | ok entry =>
      refine .inr (.inr ⟨entry, rfl, @run_fail _ _ faults.inspectTarget _ pending ?_⟩)
      simp only [step, phase, inspectTargetStep, inspected]
  | error error =>
      by_cases missing : error.kind = .notFound
      · refine .inl ⟨error, rfl, missing, @run_step _ _ faults.inspectTarget 0 [] _ pending ?_⟩
        simp only [step, phase, inspectTargetStep, inspected, if_pos missing]
      · refine .inr (.inl ⟨error, rfl, missing, @run_fail _ _ faults.inspectTarget _ pending ?_⟩)
        simp only [step, phase, inspectTargetStep, inspected, if_neg missing]

/-- The preflight of a call that runs alone. -/
theorem preflight_ends (faults : PublishFaults) (phase : state.phase = .createParent) :
    (∃ created after, preflightJsonOutput faults call.path state.disk = (.ok (), created) ∧
      Transition.Run (JsonStep call) state after ∧
      after.phase = .allocate allocationAttempts ∧ after.sequence = state.sequence ∧
      after.disk = created) ∨
    ∃ error checked, preflightJsonOutput faults call.path state.disk = (.error error, checked) ∧
      call.Ends state (.error error) state.sequence checked := by
  have pending : state.Pending := fun _ other => by rw [phase] at other; cases other
  unfold preflightJsonOutput
  cases parts : jsonOutputParent call.path with
  | error error =>
      refine .inr ⟨_, _, rfl, @run_fail _ _ none _ pending ?_⟩
      simp only [step, phase, createParentStep, parentStep, parts]
  | ok found =>
      obtain ⟨parent, name⟩ := found
      simp only
      cases made : attempt faults.parent
          (state.disk.createDirAll ((components parent).length + 1) parent) with
      | error error =>
          refine .inr ⟨_, _, rfl, @run_fail _ _ faults.parent _ pending ?_⟩
          simp only [step, phase, createParentStep, parentStep, parts, made]
      | ok created =>
          let inspecting : JsonState := { state with disk := created, phase := .inspectParent }
          have creating : Transition.Run (JsonStep call) state inspecting := by
            refine @run_step _ _ faults.parent 0 [] _ pending ?_
            simp only [step, phase, createParentStep, parentStep, parts, made, inspecting]
          have stillPending : inspecting.Pending := fun _ other => by cases other
          simp only
          cases inspected : attempt faults.inspectParent (created.metadata parent) with
          | error error =>
              refine .inr ⟨_, _, rfl, Ends.after creating
                (@run_fail _ _ faults.inspectParent _ stillPending ?_)⟩
              simp only [step, inspecting, inspectParentStep, parentStep, parts, inspected]
          | ok metadata =>
              by_cases directory : metadata.isDir = true
              · let target : JsonState := inspecting.become .inspectTarget
                have checking : Transition.Run (JsonStep call) state target := by
                  refine creating.trans (@run_step _ _ faults.inspectParent 0 [] _ stillPending ?_)
                  simp only [step, inspecting, inspectParentStep, parentStep, parts, inspected,
                    directory]
                  rfl
                simp only [directory, Bool.not_true, Bool.false_eq_true, if_false]
                rcases @inspectTarget_ends call target faults rfl with
                  ⟨error, failed, missing, run⟩ | ⟨error, failed, present, ends⟩ |
                  ⟨entry, found, ends⟩
                · rw [show attempt faults.inspectTarget (created.metadata call.path) =
                    .error error from failed]
                  exact .inl ⟨_, _, if_pos missing, checking.trans run, rfl, rfl, rfl⟩
                · rw [show attempt faults.inspectTarget (created.metadata call.path) =
                    .error error from failed]
                  exact .inr ⟨_, _, if_neg present, ends.after checking⟩
                · rw [show attempt faults.inspectTarget (created.metadata call.path) =
                    .ok entry from found]
                  exact .inr ⟨_, _, rfl, ends.after checking⟩
              · have file : metadata.isDir = false := by simpa using directory
                simp only [file]
                refine .inr ⟨_, _, rfl, Ends.after creating
                  (@run_fail _ _ faults.inspectParent _ stillPending ?_)⟩
                simp only [step, inspecting, inspectParentStep, parentStep, parts, inspected, file]
                rfl

/-- The sequential `write_json_atomic` is an execution in which nobody interferes. -/
theorem writeJsonAtomic_ends (faults : PublishFaults) (disk : Disk) (sequence : Nat) :
    ∃ result next after, writeJsonAtomic call.process faults call.path call.document sequence disk =
        (result, next, after) ∧ call.Ends (.initial disk sequence) result next after := by
  unfold writeJsonAtomic
  have start : (JsonState.initial disk sequence).disk = disk := rfl
  rcases @preflight_ends call (.initial disk sequence) faults rfl with
    ⟨created, allocating, checked, checking, phase, numbered, found⟩ |
    ⟨error, left, failed, ends⟩
  · rw [start] at checked
    rw [checked]
    have pending : allocating.Pending := fun _ other => by rw [phase] at other; cases other
    have number : allocating.sequence = sequence := numbered
    simp only
    cases parts : jsonOutputParent call.path with
    | error error =>
        have failing := @run_fail call allocating none error pending (by
          simp only [step, phase, allocateStep, allocationAttempts, parts])
        rw [number, found] at failing
        exact ⟨_, _, _, rfl, failing.after checking⟩
    | ok named =>
        obtain ⟨parent, name⟩ := named
        simp only
        rcases allocate_ends parts faults.allocate phase with
          ⟨temporary, next, opened, filling, allocated, run, writing, last, disk⟩ |
          ⟨error, next, left, failed, ends⟩
        · rw [number, found] at allocated
          rw [allocated]
          rcases fill_ends faults writing with
            ⟨published, filled, ends⟩ | ⟨error, left, filled, ends⟩
          · rw [disk] at filled
            rw [last] at ends
            simp only [filled]
            exact ⟨_, _, _, rfl, (ends.after run).after checking⟩
          · rw [disk] at filled
            rw [last] at ends
            simp only [filled]
            exact ⟨_, _, _, rfl, (ends.after run).after checking⟩
        · rw [number, found] at failed
          rw [failed]
          exact ⟨_, _, _, rfl, ends.after checking⟩
  · rw [start] at failed
    rw [failed]
    exact ⟨_, _, _, rfl, ends⟩

end JsonCall

/-! Every execution -/

/-- The next system call of the call leaves alone what the target names, the target
names the call's own file only when that is complete, and a call that has returned
succeeded exactly when it linked the complete document, and left no temporary file
but one it could not remove. -/
structure AllOrNothing (call : JsonCall) (state : JsonState) : Prop where
  keepsTarget : ∀ choice, call.KeepsTarget state.disk (call.step choice state).disk
  neverPartial : ∀ {temporary : String} {file : Nat}, state.own = some (temporary, file) →
    state.disk.links call.path = some file → state.disk.nodes file = call.complete
  returned : ∀ {result : Except TaskError Unit}, state.phase = .finished result →
    (result = .ok () ↔ state.linked ≠ none)
  published : ∀ {entry : Entry}, state.linked = some entry → entry = call.complete
  cleaned : ∀ {result : Except TaskError Unit}, state.phase = .finished result →
    ∀ {temporary : String} {file : Nat}, state.own = some (temporary, file) →
      JsonCall.Cleaned state temporary

private theorem JsonCall.Invariant.linked_cases (invariant : call.Invariant state) :
    state.linked = none ∨ state.linked = some call.complete := by
  obtain ⟨_, unlinked⟩ | ⟨_, _, unlinked, _⟩ | ⟨_, linked, _⟩ | ⟨result, _, known⟩ :=
    invariant.cases
  · exact .inl unlinked
  · exact .inl unlinked
  · exact .inr linked
  · cases result with
    | error error => exact .inl known.1
    | ok _ => exact .inr known.1

private theorem JsonCall.Invariant.neverPartial (invariant : call.Invariant state)
    {temporary : String} {file : Nat} (own : state.own = some (temporary, file))
    (linked : state.disk.links call.path = some file) :
    state.disk.nodes file = call.complete := by
  obtain ⟨unowned, _⟩ | ⟨other, content, _, different, otherFile, held⟩ |
    ⟨other, _, _, otherFile, held⟩ | ⟨result, _, known⟩ := invariant.cases
  · rw [unowned] at own
    cases own
  · obtain ⟨rfl, rfl⟩ := Prod.mk.inj (Option.some.inj (held.own.symm.trans own))
    exact absurd (List.mem_singleton.mp (held.named linked)).symm different
  · obtain ⟨rfl, rfl⟩ := Prod.mk.inj (Option.some.inj (held.own.symm.trans own))
    exact held.stored
  · cases result with
    | error error => exact absurd linked (known.2 own).1
    | ok _ =>
        obtain ⟨_, other, otherFile, otherOwn, stored, _⟩ := known
        obtain ⟨rfl, rfl⟩ := Prod.mk.inj (Option.some.inj (otherOwn.symm.trans own))
        exact stored

/-- Publishing a document is all or nothing in every execution, and never replaces
what others put at the target. The sequential program is one of these executions. -/
theorem jsonRun_allOrNothing {disk : Disk} {sequence : Nat} (faults : PublishFaults)
    (run : Transition.Run (JsonStep call) (.initial disk sequence) state) :
    AllOrNothing call state ∧ ∃ result next after,
      writeJsonAtomic call.process faults call.path call.document sequence disk =
          (result, next, after) ∧
        call.Ends (.initial disk sequence) result next after := by
  refine ⟨?_, JsonCall.writeJsonAtomic_ends faults disk sequence⟩
  have invariant := JsonCall.jsonRun_invariant run
  have known : call.PhaseInvariant state state.phase := invariant
  refine {
    keepsTarget := fun choice => JsonCall.step_keepsTarget choice invariant
    neverPartial := invariant.neverPartial
    returned := ?_
    published := ?_
    cleaned := ?_ }
  · intro result phase
    rw [phase] at known
    cases result with
    | error error => simp [known.1]
    | ok _ => simp [known.1]
  · intro entry linked
    rcases invariant.linked_cases with none | some
    · rw [none] at linked
      cases linked
    · exact Option.some.inj (linked.symm.trans some)
  · intro result phase temporary file own
    rw [phase] at known
    cases result with
    | error error => exact (known.2 own).2
    | ok _ =>
        obtain ⟨_, other, otherFile, otherOwn, _, cleaned⟩ := known
        obtain ⟨rfl, rfl⟩ := Prod.mk.inj (Option.some.inj (otherOwn.symm.trans own))
        exact cleaned

end Call

/-! An execution in which another party takes the target just before the link. -/

def sampleCall : JsonCall := ⟨1, "/out/r.json", [123, 125]⟩

/-- The call alone: after so many system calls that do not fail. -/
def sampleReached : Nat → JsonState
  | 0 => .initial (Disk.empty.create "/out" .directory) 0
  | steps + 1 => sampleCall.step ⟨none, 2, []⟩ (sampleReached steps)

private theorem sampleReached_run {steps : Nat}
    (pending : ∀ earlier < steps, (sampleReached earlier).Pending) :
    Transition.Run (JsonStep sampleCall) (sampleReached 0) (sampleReached steps) := by
  induction steps with
  | zero => exact .refl
  | succ steps ih =>
      have before := ih fun earlier less => pending earlier (Nat.lt_succ_of_lt less)
      exact .tail before (.advance _ (pending steps (Nat.lt_succ_self _)))

theorem jsonRun_allOrNothing_raced :
    ∃ state error, Transition.Run (JsonStep sampleCall) (sampleReached 0) state ∧
      state.phase = .finished (.error error) ∧
      state.disk.lookup "/out/r.json" = some (.file [120] none) ∧
      AllOrNothing sampleCall state := by
  have pending : ∀ earlier < 7, (sampleReached earlier).Pending := by
    intro earlier less result finished
    match earlier, less with
    | 0, _ | 1, _ | 2, _ | 3, _ | 4, _ | 5, _ | 6, _ => cases finished
  have run := sampleReached_run pending
  let raced : JsonState := { sampleReached 7 with
    disk := (sampleReached 7).disk.create "/out/r.json" (.file [120] none) }
  have taken : JsonStep sampleCall (sampleReached 7) raced :=
    JsonCall.others_create (JsonCall.jsonRun_invariant run) (fun _ finished => by cases finished) _
  let failed : JsonState := sampleCall.step ⟨none, 0, []⟩ raced
  have linking : JsonStep sampleCall raced failed := .advance _ fun _ finished => by cases finished
  have removing : JsonStep sampleCall failed (sampleCall.step ⟨none, 0, []⟩ failed) :=
    .advance _ fun _ finished => by cases finished
  have whole := ((run.tail taken).tail linking).tail removing
  exact ⟨_, _, whole, rfl, rfl, (jsonRun_allOrNothing .none whole).1⟩

end TaskAttest
