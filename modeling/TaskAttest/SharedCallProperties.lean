import TaskAttest.SharedStore

/-! The system calls of a run on a shared store: what each of them changes, and what it
leaves to the calls that follow, whatever the other processes do in between. -/

set_option autoImplicit false

namespace TaskAttest

open FileSystem Interleaving

section Calls

variable [Sha2] {store : StateStore} {process : Nat} {names wider : String → Prop}
  {pre : RunState → Prop} {Value : Type} {program : RunCalls Value}
  {returns : Value → RunState → Prop} {path temporary : String} {entry : Entry}

/-! Facts that others keep -/

private theorem stable_sole (owned : store.Owns process path) :
    Stable (RunState.sharing.Changes (store.Others process)) fun state =>
      state.disk.Sole path entry :=
  stable_others fun step sole => step.sole (fun foreign => foreign.1 owned) sole

/-- What depends on common names only. -/
def StateStore.Lasting (store : StateStore) (fact : Disk → Prop) : Prop :=
  ∀ before after, store.Retains before after → fact before → fact after

theorem lasting_others {fact : Disk → Prop} (lasting : store.Lasting fact) :
    Stable (RunState.sharing.Changes (store.Others process)) fun state => fact state.disk :=
  stable_others fun step =>
    lasting _ _ fun _ _ common => step.lookup fun foreign => foreign.2 common

private theorem lasting_names {fact : Disk → Prop} (lasting : store.Lasting fact)
    (apart : ∀ path, names path → ¬store.Common path) :
    Stable (RunState.sharing.On (Acts store.commons names)) fun state => fact state.disk :=
  stable_names fun step =>
    lasting _ _ fun _ _ common => step.lookup fun owned => apart _ owned common

private theorem lasting_rule : store.Lasting fun disk => store.Rule disk path entry :=
  fun _ _ retains rule => store.commons.kept (retains _ _) rule

omit [Sha2] in
theorem owned_apart {temporary : String} (owned : store.Owns process temporary) (path : String)
    (same : path = temporary) : ¬store.Common path := by
  rw [same]
  exact owned.not_common

/-! Programs -/

theorem keeps_mono (keeps : store.Keeps process names pre program returns)
    (wide : ∀ path, names path → wider path) : store.Keeps process wider pre program returns :=
  keeps.widen fun _ _ acts => acts.mono wide

/-- A program that touches no file there is fits everywhere. -/
theorem keeps_none (keeps : store.Keeps process (fun _ => False) pre program returns) :
    store.Keeps process names pre program returns := keeps_mono keeps fun _ never => never.elim

theorem keeps_beside {fact : Disk → Prop}
    (others : Stable (RunState.sharing.Changes (store.Others process)) fun state =>
      fact state.disk)
    (own : Stable (RunState.sharing.On (Acts store.commons names)) fun state => fact state.disk)
    (keeps : store.Keeps process names pre program returns) :
    store.Keeps process names (fun state => pre state ∧ fact state.disk) program
      fun value state => returns value state ∧ fact state.disk :=
  (keeps.frame others own).weaken (fun _ holds => holds) (fun _ _ holds => holds)
    fun _ _ _ => trivial

theorem keeps_lasting {fact : Disk → Prop} (lasting : store.Lasting fact)
    (apart : ∀ path, names path → ¬store.Common path)
    (keeps : store.Keeps process names pre program returns) :
    store.Keeps process names (fun state => pre state ∧ fact state.disk) program
      fun value state => returns value state ∧ fact state.disk :=
  keeps_beside (lasting_others lasting) (lasting_names lasting apart) keeps

/-- A lasting fact is carried through a program that needs nothing. -/
theorem keeps_carried {fact : Disk → Prop} (lasting : store.Lasting fact)
    (apart : ∀ path, names path → ¬store.Common path)
    (keeps : store.Keeps process names (fun _ => True) program returns) :
    store.Keeps process names (fun state => fact state.disk) program
      fun value state => returns value state ∧ fact state.disk :=
  (keeps_lasting lasting apart keeps).weaken (fun _ holds => ⟨trivial, holds⟩)
    (fun _ _ holds => holds) fun _ _ holds => holds

theorem keeps_error (error : TaskError) : store.Keeps process names pre (.lift (.error error))
    returns := by
  intro before after steps result initially executed
  obtain ⟨rfl, rfl, _⟩ := execution_lift executed
  exact ⟨List.forall_mem_nil _, (fun value same => by cases same), fun _ _ => trivial⟩

/-- What is computed without a call is known in what follows. -/
theorem keeps_lift {Other : Type} {next : Value → RunCalls Other}
    {finishes : Other → RunState → Prop} (result : Except TaskError Value)
    (later : ∀ value, result = .ok value → store.Keeps process names pre (next value) finishes) :
    store.Keeps process names pre (Calls.lift result >>= next) finishes := by
  cases result with
  | ok value => exact later value rfl
  | error error => exact keeps_error error

/-- A call that changes nothing on the disk takes nothing from what follows. -/
theorem keeps_still {Other : Type} {next : Value → RunCalls Other} {fact : Disk → Prop}
    {finishes : Other → RunState → Prop} {action : RunM Value}
    (still : ∀ state, (outcome action state).2.disk = state.disk)
    (others : Stable (RunState.sharing.Changes (store.Others process)) fun state =>
      fact state.disk)
    (later : ∀ value,
      store.Keeps process names (fun state => fact state.disk) (next value) finishes) :
    store.Keeps process names (fun state => fact state.disk) (.perform action >>= next)
      finishes := by
  have called : store.Keeps process names (fun state => fact state.disk) (.perform action)
      fun _ state => fact state.disk := by
    apply Guarantees.perform
    · exact others
    · exact fun _ => others
    · exact fun _ => .const _ _
    · intro state _
      change Acts store.commons names state.disk (outcome action state).2.disk
      rw [still]
      exact .refl
    · intro value before after holds ran
      have same := still before
      simp only [outcome, ran] at same
      rw [same]
      exact holds
    · exact fun _ _ _ _ _ => trivial
  exact called.bind later

/-! Looking -/

theorem keeps_inspect {look : Disk → Except TaskError Value} {fact : Value → Disk → Prop}
    (lasting : ∀ value, store.Lasting (fact value))
    (holds : ∀ disk value, look disk = .ok value → fact value disk) :
    store.Keeps process names (fun _ => True) (Among.inspect look) fun value state =>
      fact value state.disk := by
  apply Guarantees.perform
  · exact .const _ _
  · exact fun value => lasting_others (lasting value)
  · exact fun _ => .const _ _
  · intro state _
    simp only [outcome, Among.readDisk, ofExcept]
    cases look state.disk <;> exact .refl
  · intro value before after _ ran
    simp only [Among.readDisk, ofExcept] at ran
    split at ran
    · rename_i found
      cases ran
      exact holds _ _ found
    · cases ran
  · exact fun _ _ _ _ _ => trivial

theorem keeps_look {look : Disk → Except TaskError Value} :
    store.Keeps process names (fun _ => True) (Among.inspect look) fun _ _ => True :=
  @keeps_inspect _ store process names Value look (fun _ _ => True) (fun _ _ _ _ _ => trivial)
    fun _ _ _ => trivial

/-! Directories -/

private theorem createDirAll_acts (depth : Nat) {disk created : Disk}
    (plain : ∀ directory, Above directory path → ¬store.Common directory)
    (made : disk.createDirAll depth path = .ok created) :
    Acts store.commons names disk created := by
  have grows : Acts store.commons names disk created ∧ disk.next ≤ created.next := by
    apply createDirAll_keeps depth made
    · exact ⟨.refl, Nat.le_refl _⟩
    · intro between directory above missing kept
      have absent : disk.links directory = none := (lookup_eq_none_iff _).mp missing
      exact ⟨kept.1.grow kept.2 absent (plain directory above), Nat.le_succ_of_le kept.2⟩
  exact grows.1

theorem createDirectory_keeps {fault : Option IoError} {action reported directory : String}
    (plain : ∀ other, Above other directory → ¬store.Common other) :
    store.Keeps process names (fun _ => True)
      (Among.createDirectory fault action reported directory) fun _ _ => True := by
  apply Guarantees.perform
  · exact .const _ _
  · exact fun _ => .const _ _
  · exact fun _ => .const _ _
  · intro state _
    simp only [outcome, Among.updateDisk]
    cases made : attempt fault
        (state.disk.createDirAll ((components directory).length + 1) directory) with
    | error error => exact .refl
    | ok created => exact createDirAll_acts _ plain (attempt_ok made)
  · exact fun _ _ _ _ _ => trivial
  · exact fun _ _ _ _ _ => trivial

theorem preflightJsonOutput_keeps {faults : PublishFaults} (plain : store.PlainParents path) :
    store.Keeps process names (fun _ => True) (Among.preflightJsonOutput faults path)
      fun _ _ => True := by
  apply keeps_lift
  intro found parts
  obtain ⟨parent, name⟩ := found
  apply Guarantees.bind (createDirectory_keeps fun other above => plain parts above)
  intro _
  apply Guarantees.bind keeps_look
  intro metadata
  split
  · exact keeps_error _
  · exact keeps_look

/-! Temporary files -/

theorem discard_acts (fault : Option IoError) {disk : Disk} (own : names temporary) :
    Acts store.commons names disk (disk.discard fault temporary) := by
  unfold Disk.discard
  split
  · rename_i removed
    have removed := attempt_ok removed
    unfold Disk.removeFile at removed
    split at removed
    · cases removed
      exact .unlink own
    · cases removed
  · exact .refl

private theorem discardFile_keeps (fault : Option IoError) (own : names temporary) :
    store.Keeps process names (fun _ => True) (.perform (discardFile fault temporary))
      fun _ _ => True := by
  apply Guarantees.perform
  · exact .const _ _
  · exact fun _ => .const _ _
  · exact fun _ => .const _ _
  · exact fun state _ => discard_acts fault own
  · exact fun _ _ _ _ _ => trivial
  · exact fun _ _ _ _ _ => trivial

omit [Sha2] in
private theorem once_ok {allocation : Allocation} {faults : Nat → Option IoError} {sequence : Nat}
    {disk created : Disk}
    (made : allocation.once faults sequence disk = .ok (some (path, created))) :
    path = allocation.name sequence ∧ disk.links path = none ∧
      created = disk.create path (.file [] none) := by
  simp only [Allocation.once] at made
  split at made
  · rename_i opened
    have opened := attempt_ok opened
    cases made
    unfold Disk.createNew at opened
    split at opened
    · cases opened
    · rename_i absent
      cases opened
      exact ⟨rfl, by simpa [Disk.pathExists, FileSystem.lookup] using absent, rfl⟩
  · split at made <;> cases made

/-- A new temporary file has one name. -/
theorem attemptCreate_keeps {counter : Counter} {allocation : Allocation}
    {faults : Nat → Option IoError} (own : ∀ number, store.Owns process (allocation.name number)) :
    store.Keeps process names (fun _ => True)
      (.perform (Shared.attemptCreate counter allocation faults))
      fun created state => ∀ path, created = some path →
        (∃ number, path = allocation.name number) ∧ state.disk.Sole path (.file [] none) := by
  have same (number : Nat) (state : RunState) : (counter.write number state).disk = state.disk := by
    cases counter <;> rfl
  apply Guarantees.perform
  · exact .const _ _
  · intro created before after changes known path shape
    obtain ⟨⟨number, name⟩, sole⟩ := known path shape
    refine ⟨⟨number, name⟩, ?_⟩
    rw [name] at sole ⊢
    exact stable_sole (own number) before after changes sole
  · exact fun _ => .const _ _
  · intro state _
    change Acts store.commons names state.disk _
    simp only [outcome, Shared.attemptCreate]
    cases made : allocation.once faults (counter.read state) state.disk with
    | error error =>
        simp only [RunState.sharing, same]
        exact .refl
    | ok created =>
        cases created with
        | none =>
            simp only [RunState.sharing, same]
            exact .refl
        | some found =>
            obtain ⟨path, disk⟩ := found
            obtain ⟨shape, missing, rfl⟩ := once_ok made
            refine .create missing fun common => ?_
            rw [shape] at common
            exact absurd common (own _).not_common
  · intro created before after _ ran path shape
    simp only [Shared.attemptCreate] at ran
    split at ran
    · rename_i made
      cases ran
      cases shape
      obtain ⟨name, _, rfl⟩ := once_ok made
      exact ⟨⟨_, name⟩, .create _⟩
    · cases ran
      cases shape
    · cases ran
  · exact fun _ _ _ _ _ => trivial

theorem createFile_keeps {counter : Counter} {allocation : Allocation}
    {faults : Nat → Option IoError} (own : ∀ number, store.Owns process (allocation.name number))
    (attempts : Nat) :
    store.Keeps process names (fun _ => True)
      (Shared.createFile counter allocation faults attempts)
      fun path state => (∃ number, path = allocation.name number) ∧
        state.disk.Sole path (.file [] none) := by
  induction attempts with
  | zero => exact keeps_error _
  | succ attempts ih =>
      apply Guarantees.bind (attemptCreate_keeps own)
      intro created
      cases created with
      | none => exact ih.weaken (fun _ _ => trivial) (fun _ _ holds => holds) fun _ _ _ => trivial
      | some path =>
          apply Guarantees.pure
          · intro before after changes known
            obtain ⟨⟨number, name⟩, sole⟩ := known
            refine ⟨⟨number, name⟩, ?_⟩
            rw [name] at sole ⊢
            exact stable_sole (own number) before after changes sole
          · exact fun state known => known path rfl

/-! Publishing a document -/

section Documents

variable {faults : PublishFaults} {content later document : List UInt8}

private theorem keeps_document {target : String} (owned : store.Owns process temporary)
    (keeps : store.Keeps process (· = temporary) pre program returns) :
    store.Keeps process (· = temporary)
      (fun state => pre state ∧ (store.Common target → store.Rule state.disk target entry)) program
      fun value state => returns value state ∧
        (store.Common target → store.Rule state.disk target entry) := by
  apply @keeps_lasting _ _ _ _ _ _ _ _
    (fun disk => store.Common target → store.Rule disk target entry)
  · exact fun before after retains rule common => lasting_rule before after retains (rule common)
  · exact owned_apart owned
  · exact keeps

/-- A call that changes the content of a temporary file when it succeeds. -/
theorem changeSole_keeps {update : Disk → Except TaskError Disk}
    (owned : store.Owns process temporary)
    (updates : ∀ (disk next : Disk), disk.Sole temporary (.file content none) →
      update disk = .ok next → Acts store.commons (· = temporary) disk next ∧
        next.Sole temporary (.file later none)) :
    store.Keeps process (· = temporary)
      (fun state => state.disk.Sole temporary (.file content none)) (Among.change update)
      fun _ state => state.disk.Sole temporary (.file later none) := by
  apply Guarantees.perform
  · exact stable_sole owned
  · exact fun _ => stable_sole owned
  · exact fun _ => .const _ _
  · intro state sole
    simp only [outcome, Among.updateDisk]
    cases updated : update state.disk with
    | error error => exact .refl
    | ok next => exact (updates _ _ sole updated).1
  · intro _ before after sole ran
    obtain ⟨next, updated, rfl⟩ := updateDisk_ok ran
    exact (updates _ _ sole updated).2
  · exact fun _ _ _ _ _ => trivial

private theorem sole_append {disk : Disk} (sole : disk.Sole temporary (.file content none))
    (chunk : List UInt8) : Acts store.commons (· = temporary) disk
        (disk.modify temporary (Entry.append chunk)) ∧
      (disk.modify temporary (Entry.append chunk) : Disk).Sole temporary
        (.file (content ++ chunk) none) :=
  ⟨.modify _ sole rfl, sole.modify (Entry.append chunk)⟩

private theorem writeDocument_keeps (owned : store.Owns process temporary) :
    store.Keeps process (· = temporary) (fun state => state.disk.Sole temporary (.file [] none))
      (.perform (Among.writeDocument faults document temporary))
      fun _ state => state.disk.Sole temporary (.file document none) := by
  apply Guarantees.perform
  · exact stable_sole owned
  · exact fun _ => stable_sole owned
  · exact fun _ => .const _ _
  · intro state sole
    simp only [outcome, Among.writeDocument]
    cases faults.serialize <;> exact (sole_append sole _).1
  · intro _ before after sole ran
    simp only [Among.writeDocument] at ran
    split at ran
    · cases ran
    · cases ran
      exact sole.modify (Entry.append document)
  · exact fun _ _ _ _ _ => trivial

/-- A file of one's own appears under a name where nothing was. -/
theorem hardLink_acts {source target : String} {disk next : Disk} {fault : Option IoError}
    (sole : disk.Sole source (.file content none))
    (ruled : store.Common target → store.Rule disk target (.file content none))
    (linked : attempt fault (disk.hardLink source target) = .ok next) :
    Acts store.commons (· = source) disk next ∧
      next.lookup target = some (.file content none) := by
  obtain ⟨missing, rfl⟩ := hardLink_ok linked
  have absent : disk.lookup target = none := by simpa [Disk.pathExists] using missing
  refine ⟨.link sole rfl ((lookup_eq_none_iff _).mp absent) ?_, ?_⟩
  · intro common
    refine store.commons.kept ?_ (ruled common)
    intro other entry _ found
    have different : other ≠ target := by
      intro same
      rw [same, absent] at found
      cases found
    rw [lookup_link_other _ different, found]
  · rw [lookup_link_target, sole.found]

/-- The last call names the whole document. -/
theorem linkDocument_keeps (owned : store.Owns process temporary) :
    store.Keeps process (· = temporary)
      (fun state => state.disk.Sole temporary (.file content none) ∧
        (store.Common path → store.Rule state.disk path (.file content none)))
      (Among.change fun disk =>
        orElseFail (TaskError.io "publish JSON file without overwriting" path)
          (attempt faults.link (disk.hardLink temporary path)))
      fun _ state => store.Common path → state.disk.lookup path = some (.file content none) := by
  have ruled : store.Lasting fun disk =>
      store.Common path → store.Rule disk path (.file content none) :=
    fun before after retains rule common => lasting_rule before after retains (rule common)
  have named : store.Lasting fun disk =>
      store.Common path → disk.lookup path = some (.file content none) :=
    fun before after retains found common => retains _ _ common (found common)
  apply Guarantees.perform
  · intro before after changes holds
    exact ⟨stable_sole owned before after changes holds.1,
      lasting_others ruled before after changes holds.2⟩
  · exact fun _ => lasting_others named
  · exact fun _ => .const _ _
  · intro state holds
    simp only [outcome, Among.updateDisk]
    cases linked : attempt faults.link (state.disk.hardLink temporary path) with
    | error error => exact .refl
    | ok next => exact (hardLink_acts holds.1 holds.2 linked).1
  · intro _ before after holds ran _
    obtain ⟨next, linked, rfl⟩ := updateDisk_ok ran
    exact (hardLink_acts holds.1 holds.2 (orElseFail_ok linked)).2
  · exact fun _ _ _ _ _ => trivial

private theorem fillAndLink_keeps (owned : store.Owns process temporary) :
    store.Keeps process (· = temporary)
      (fun state => state.disk.Sole temporary (.file [] none) ∧
        (store.Common path → store.Rule state.disk path (.file (document ++ [10]) none)))
      (Among.fillAndLink faults document temporary path)
      fun _ state => store.Common path →
        state.disk.lookup path = some (.file (document ++ [10]) none) := by
  apply Guarantees.bind (keeps_document owned (writeDocument_keeps owned))
  intro _
  apply Guarantees.bind
  · apply keeps_document owned
    apply @changeSole_keeps _ _ _ _ document (document ++ [10]) _ owned
    intro disk next sole updated
    cases attempt_ok (orElseFail_ok updated)
    exact sole_append sole [10]
  intro _
  apply Guarantees.bind
  · apply keeps_document owned
    apply @changeSole_keeps _ _ _ _ (document ++ [10]) (document ++ [10]) _ owned
    intro disk next sole updated
    cases attempt_ok (orElseFail_ok updated)
    exact ⟨.refl, sole⟩
  intro _
  exact linkDocument_keeps owned

/-- A publication that returns has put the document under a common name for good. -/
theorem writeJsonAtomic_keeps (plain : store.PlainParents path) :
    store.Keeps process (store.Owns process)
      (fun state => store.Common path → store.Rule state.disk path (.file (document ++ [10]) none))
      (Shared.writeJsonAtomic process faults path document)
      fun _ state => store.Common path →
        state.disk.lookup path = some (.file (document ++ [10]) none) := by
  have ruled : store.Lasting fun disk =>
      store.Common path → store.Rule disk path (.file (document ++ [10]) none) :=
    fun before after retains rule common => lasting_rule before after retains (rule common)
  have named : store.Lasting fun disk =>
      store.Common path → disk.lookup path = some (.file (document ++ [10]) none) :=
    fun before after retains found common => retains _ _ common (found common)
  have apart (path : String) (owned : store.Owns process path) : ¬store.Common path :=
    owned.not_common
  apply Guarantees.bindCarrying (keeps_carried ruled apart (preflightJsonOutput_keeps plain))
  intro _ _
  apply keeps_lift
  intro found _
  obtain ⟨parent, name⟩ := found
  apply Guarantees.bind (keeps_carried ruled apart
    (createFile_keeps (fun number => .document parent name number) allocationAttempts))
  intro temporary
  have created (state : RunState)
      (known : ((∃ number, temporary = (jsonAllocation process parent name).name number) ∧
        state.disk.Sole temporary (.file [] none)) ∧
        (store.Common path → store.Rule state.disk path (.file (document ++ [10]) none))) :
      store.Owns process temporary := by
    obtain ⟨⟨⟨number, rfl⟩, _⟩, _⟩ := known
    exact .document parent name number
  apply Guarantees.assuming created
  intro owned
  have widened (path : String) (same : path = temporary) : store.Owns process path := by
    rw [same]
    exact owned
  have filled : store.Keeps process (· = temporary)
      (fun state => ((∃ number, temporary = (jsonAllocation process parent name).name number) ∧
        state.disk.Sole temporary (.file [] none)) ∧
        (store.Common path → store.Rule state.disk path (.file (document ++ [10]) none)))
      ((Among.fillAndLink faults document temporary path).onFailure
        (discardFile faults.remove temporary))
      fun _ state => store.Common path →
        state.disk.lookup path = some (.file (document ++ [10]) none) := by
    apply Guarantees.onFailure ((fillAndLink_keeps owned).weaken
      (fun _ known => ⟨known.1.2, known.2⟩) (fun _ _ holds => holds) fun _ _ holds => holds)
    · exact fun _ => .const _ _
    · exact fun _ state _ => ⟨discard_acts faults.remove rfl, trivial⟩
  apply Guarantees.bind (keeps_mono filled widened)
  intro _
  exact (keeps_carried named apart (discardFile_keeps faults.remove owned)).weaken
    (fun _ holds => holds) (fun _ _ holds => holds.2) fun _ _ holds => holds

end Documents

/-! Storing blobs -/

section Blobs

variable {call : BlobCall} {faults : BlobFaults} {content : List UInt8} {digest action : String}
  {bytes : UInt64}

private theorem lasting_blob (valid : isLowerHex 64 digest = true) :
    store.Lasting fun disk => disk.HasBlob (store.blobTarget digest) digest bytes := by
  intro before after retains blob
  obtain ⟨content, found, same, sized⟩ := blob
  exact ⟨content, retains _ _ (store.common_blob valid) found, same, sized⟩

/-- A file of one's own stays as it is through calls on other files. -/
theorem keeps_sole (owned : store.Owns process path) (apart : ¬names path)
    (keeps : store.Keeps process names pre program returns) :
    store.Keeps process names (fun state => pre state ∧ state.disk.Sole path entry) program
      fun value state => returns value state ∧ state.disk.Sole path entry :=
  keeps_beside (stable_sole owned) (stable_names fun step sole => step.sole apart sole) keeps

/-- The same where nothing else is needed and no file is touched. -/
theorem keeps_file (owned : store.Owns process path)
    (keeps : store.Keeps process (fun _ => False) (fun _ => True) program returns) :
    store.Keeps process names (fun state => state.disk.Sole path entry) program
      fun value state => returns value state ∧ state.disk.Sole path entry :=
  (keeps_none (keeps_sole owned (fun never => never) keeps)).weaken
    (fun _ sole => ⟨trivial, sole⟩) (fun _ _ holds => holds) fun _ _ holds => holds

private theorem removeTemporary_keeps {fault : Option IoError} :
    store.Keeps process (· = call.temporary) (fun _ => True)
      (Shared.removeTemporary store call action fault) fun _ _ => True := by
  have removes : store.Keeps process (· = call.temporary) (fun _ => True)
      (Among.change fun disk => orElseFail (TaskError.io action call.temporary)
        (attempt fault (disk.removeFile call.temporary))) fun _ _ => True := by
    apply Guarantees.perform
    · exact .const _ _
    · exact fun _ => .const _ _
    · exact fun _ => .const _ _
    · intro state _
      have acts := @discard_acts _ store (· = call.temporary) call.temporary fault state.disk rfl
      simp only [outcome, Among.updateDisk]
      unfold Disk.discard at acts
      cases removed : attempt fault (state.disk.removeFile call.temporary) with
      | error error => exact .refl
      | ok disk =>
          rw [removed] at acts
          exact acts
    · exact fun _ _ _ _ _ => trivial
    · exact fun _ _ _ _ _ => trivial
  apply Guarantees.bind removes
  intro _
  apply Guarantees.pure
  · exact .const _ _
  · exact fun _ _ => trivial

private theorem removeTemporary_blob {fault : Option IoError}
    (valid : isLowerHex 64 call.digest = true) (owned : store.Owns process call.temporary) :
    store.Keeps process (· = call.temporary)
      (fun state =>
        state.disk.HasBlob (store.blobTarget call.digest) call.digest call.expectedBytes)
      (Shared.removeTemporary store call action fault)
      fun _ state =>
        state.disk.HasBlob (store.blobTarget call.digest) call.digest call.expectedBytes :=
  (keeps_carried (lasting_blob valid) (owned_apart owned) removeTemporary_keeps).weaken
    (fun _ blob => blob) (fun _ _ holds => holds.2) fun _ _ holds => holds

/-- What is adopted has been checked, and stays. -/
theorem adoptBlob_keeps (valid : isLowerHex 64 call.digest = true)
    (owned : store.Owns process call.temporary) :
    store.Keeps process (· = call.temporary) (fun _ => True)
      (Shared.adoptBlob store call action faults)
      fun _ state =>
        state.disk.HasBlob (store.blobTarget call.digest) call.digest call.expectedBytes := by
  apply Guarantees.bind
  · apply @keeps_inspect _ _ _ _ _ _ fun _ disk =>
      disk.HasBlob (store.blobTarget call.digest) call.digest call.expectedBytes
    · exact fun _ => lasting_blob valid
    · exact fun disk _ verified => verifyBlobStep_ok verified
  · exact fun _ => removeTemporary_blob valid owned

private theorem hardLink_keeps (valid : isLowerHex 64 call.digest = true)
    (owned : store.Owns process call.temporary) (hashed : sha256Bytes content = call.digest)
    (sized : content.length = call.expectedBytes.toNat) :
    store.Keeps process (· = call.temporary)
      (fun state => state.disk.Sole call.temporary (.file content none))
      (.perform (Shared.hardLink faults.link call.temporary (store.blobTarget call.digest)))
      fun failed state => failed = none →
        state.disk.HasBlob (store.blobTarget call.digest) call.digest call.expectedBytes := by
  have named : store.blobPath call.digest = .ok (store.blobTarget call.digest) :=
    blobPath_eq_ok_iff.mpr ⟨valid, rfl⟩
  have linked {state : RunState} {next : Disk}
      (sole : state.disk.Sole call.temporary (.file content none))
      (done : attempt faults.link
        (state.disk.hardLink call.temporary (store.blobTarget call.digest)) = .ok next) :=
    hardLink_acts sole (fun _ => store.rule_blob named hashed) done
  apply Guarantees.perform
  · exact stable_sole owned
  · intro failed before after changes blob none
    exact lasting_others (lasting_blob valid) before after changes (blob none)
  · exact fun _ => .const _ _
  · intro state sole
    simp only [outcome, Shared.hardLink]
    cases done : attempt faults.link
        (state.disk.hardLink call.temporary (store.blobTarget call.digest)) with
    | error error => exact .refl
    | ok next => exact (linked sole done).1
  · intro failed before after sole ran none
    simp only [Shared.hardLink] at ran
    split at ran
    · rename_i done
      cases ran
      exact ⟨content, (linked sole done).2, hashed, sized⟩
    · cases ran
      cases none
  · exact fun _ _ _ _ _ => trivial

private theorem publishBlob_keeps (valid : isLowerHex 64 call.digest = true)
    (owned : store.Owns process call.temporary) (hashed : sha256Bytes content = call.digest)
    (sized : content.length = call.expectedBytes.toNat) :
    store.Keeps process (· = call.temporary)
      (fun state => state.disk.Sole call.temporary (.file content none))
      (Shared.publishBlob store call faults)
      fun _ state =>
        state.disk.HasBlob (store.blobTarget call.digest) call.digest call.expectedBytes := by
  apply Guarantees.bind (hardLink_keeps valid owned hashed sized)
  intro failed
  cases failed with
  | none =>
      exact (removeTemporary_blob valid owned).weaken (fun _ blob => blob rfl)
        (fun _ _ holds => holds) fun _ _ holds => holds
  | some error =>
      apply Guarantees.anywhere
      apply Guarantees.bind keeps_look
      intro raced
      split
      · exact adoptBlob_keeps valid owned
      · exact keeps_error _

/-- A call that returns leaves the blob in the store, whoever has put it there. -/
theorem storeBlob_keeps (owned : store.Owns process call.temporary)
    (hashed : sha256Bytes content = call.digest)
    (sized : content.length = call.expectedBytes.toNat) :
    store.Keeps process (· = call.temporary)
      (fun state => state.disk.Sole call.temporary (.file content none))
      (Shared.storeBlob store call faults)
      fun _ state =>
        state.disk.HasBlob (store.blobTarget call.digest) call.digest call.expectedBytes := by
  have valid : isLowerHex 64 call.digest = true := by
    rw [← hashed]
    exact isLowerHex_sha256Bytes content
  apply keeps_lift
  intro _ _
  have looked := @keeps_look _ store process (fun _ => False) _ fun disk =>
    .ok (!faults.lookup && disk.pathExists (store.blobTarget call.digest))
  apply Guarantees.bind (keeps_file owned looked)
  intro duplicate
  split
  · exact (adoptBlob_keeps valid owned).anywhere
  · exact (publishBlob_keeps valid owned hashed sized).weaken (fun _ known => known.2)
      (fun _ _ holds => holds) fun _ _ holds => holds

end Blobs

end Calls

end TaskAttest
