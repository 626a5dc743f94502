import TaskAttest.BlobStore
import TaskAttest.VerifyProperties

/-! The blob store under concurrency: what one system call may do to the disk,
the invariant of every process, and what holds in every reachable state. -/

set_option autoImplicit false

namespace TaskAttest

/-! What a process may do to the disk, given the temporary file it works on. -/

/-- Files named elsewhere keep their names and contents, and a name that is new
belongs to the process's own file or to a file just allocated. -/
structure Frame (temporary : String) (before after : Disk) : Prop where
  kept : ∀ {path : String} {file : Nat}, path ≠ temporary → before.links path = some file →
    after.links path = some file ∧ after.nodes file = before.nodes file
  fresh : ∀ {path : String} {file : Nat}, after.links path = some file →
    before.links path = some file ∨ before.links temporary = some file ∨ before.next ≤ file

namespace Frame

variable {temporary path : String} {disk before after : Disk}

theorem refl : Frame temporary disk disk :=
  ⟨fun _ linked => ⟨linked, rfl⟩, .inl⟩

theorem create {node : Entry} : Frame temporary disk (disk.create temporary node) where
  kept := by
    intro path file different linked
    have old : file ≠ disk.next := Nat.ne_of_lt (disk.allocated linked)
    exact ⟨by simp [FileSystem.create, different, linked], by simp [FileSystem.create, old]⟩
  fresh := by
    intro path file linked
    simp only [FileSystem.create] at linked
    split at linked
    · cases linked
      exact .inr (.inr (Nat.le_refl _))
    · exact .inl linked

theorem modify {change : Entry → Entry}
    (exclusive : ∀ {path : String}, disk.links path = disk.links temporary → path = temporary) :
    Frame temporary disk (disk.modify temporary change) where
  kept := by
    intro path file different linked
    refine ⟨linked, ?_⟩
    have other : disk.links temporary ≠ some file := fun same =>
      different (exclusive (linked.trans same.symm))
    simp [FileSystem.modify, other]
  fresh := .inl

theorem link (absent : disk.pathExists path = false) :
    Frame temporary disk (disk.link temporary path) where
  kept := by
    intro other file _ linked
    have different : other ≠ path := by
      intro same
      subst same
      simp [Disk.pathExists, FileSystem.lookup, linked] at absent
    exact ⟨by simp [FileSystem.link, different, linked], rfl⟩
  fresh := by
    intro other file linked
    simp only [FileSystem.link] at linked
    split at linked
    · exact .inr (.inl linked)
    · exact .inl linked

theorem unlink : Frame temporary disk (disk.unlink temporary) where
  kept := fun different linked => ⟨by simp [FileSystem.unlink, different, linked], rfl⟩
  fresh := by
    intro other file linked
    simp only [FileSystem.unlink] at linked
    split at linked
    · cases linked
    · exact .inl linked

private theorem lookup_eq {entry : Entry} (frame : Frame temporary before after)
    (different : path ≠ temporary) (found : before.lookup path = some entry) :
    after.lookup path = some entry := by
  obtain ⟨file, linked, rfl⟩ := Option.map_eq_some_iff.mp found
  obtain ⟨still, same⟩ := frame.kept different linked
  simp [FileSystem.lookup, still, same]

end Frame

/-- A path that only `create_capture_file` uses. -/
def StateStore.IsTemporary (store : StateStore) (path : String) : Prop :=
  ∃ name, path = joinPath store.temporaryDirectory name

theorem StateStore.IsTemporary.ne_blobTarget {store : StateStore} {path : String}
    (temporary : store.IsTemporary path) (digest : String) : store.blobTarget digest ≠ path := by
  obtain ⟨name, rfl⟩ := temporary
  exact store.blobTarget_ne_temporary digest name

section Calls

variable [Sha2] {store : StateStore} {call : BlobCall} {disk : Disk}

theorem verifyBlobStep_ok {fault : Option IoError}
    (verified : store.verifyBlobStep call fault disk = .ok ()) :
    disk.HasBlob (store.blobTarget call.digest) call.digest call.expectedBytes := by
  unfold StateStore.verifyBlobStep at verified
  cases fault with
  | some error => cases verified
  | none => exact verifyExistingBlob_eq_ok_iff.mp verified

omit [Sha2] in
theorem hardLink_ok {source target : String} {fault : Option IoError} {linked : Disk}
    (done : attempt fault (disk.hardLink source target) = .ok linked) :
    disk.pathExists target = false ∧ linked = disk.link source target := by
  have done := attempt_ok done
  unfold Disk.hardLink at done
  split at done
  · cases done
  · rename_i absent
    split at done
    · cases done
      exact ⟨by simpa using absent, rfl⟩
    · cases done

omit [Sha2] in
/-- Either the file was removed and the target is returned, or nothing changed. -/
theorem removeTemporary_cases (store : StateStore) (call : BlobCall) (action : String)
    (fault : Option IoError) (disk : Disk) :
    (store.removeTemporary call action fault disk =
        (.ok (store.blobTarget call.digest), disk.unlink call.temporary)) ∨
      ∃ error, store.removeTemporary call action fault disk = (.error error, disk) := by
  unfold StateStore.removeTemporary
  cases fault with
  | some error => exact .inr ⟨_, rfl⟩
  | none =>
      by_cases present : disk.pathExists call.temporary = true
      · exact .inl (by simp [attempt, Disk.removeFile, present])
      · exact .inr ⟨_, by simp [attempt, Disk.removeFile, present]; rfl⟩

/-- A system call of a call touches the disk only through its own temporary file. -/
theorem step_frame (fault : Option IoError) (phase : BlobPhase) :
    Frame call.temporary disk (call.step store fault phase disk).2 := by
  cases phase with
  | lookup =>
      simp only [BlobCall.step]
      split
      · exact .refl
      · split <;> exact .refl
  | verify action =>
      simp only [BlobCall.step]
      split <;> exact .refl
  | link =>
      simp only [BlobCall.step]
      split
      · rename_i linked done
        obtain ⟨absent, rfl⟩ := hardLink_ok done
        exact .link absent
      · exact .refl
  | relookup error =>
      simp only [BlobCall.step]
      split <;> exact .refl
  | remove action =>
      simp only [BlobCall.step]
      rcases removeTemporary_cases store call action fault disk with removed | ⟨error, failed⟩
      · rw [removed]
        exact .unlink
      · rw [failed]
        exact .refl
  | finished result => exact .refl

/-- The temporary file is there, unchanged, and is what the call says it is. -/
def BlobCall.Ready (call : BlobCall) (disk : Disk) : Prop :=
  disk.HasBlob call.temporary call.digest call.expectedBytes

/-- What is known of the disk in each phase. -/
def BlobCall.PhaseInvariant (store : StateStore) (call : BlobCall) (disk : Disk) :
    BlobPhase → Prop
  | .finished (.ok path) => path = store.blobTarget call.digest ∧
      disk.HasBlob path call.digest call.expectedBytes
  | .finished (.error _) => True
  | .remove _ => call.Ready disk ∧
      disk.HasBlob (store.blobTarget call.digest) call.digest call.expectedBytes
  | .lookup | .verify _ | .link | .relookup _ => call.Ready disk

theorem Disk.HasBlob.frame {temporary path digest : String} {bytes : UInt64} {before after : Disk}
    (stored : before.HasBlob path digest bytes) (frame : Frame temporary before after)
    (different : path ≠ temporary) : after.HasBlob path digest bytes := by
  obtain ⟨content, found, same, sized⟩ := stored
  exact ⟨content, frame.lookup_eq different found, same, sized⟩

private theorem step_phaseInvariant (fault : Option IoError) {phase : BlobPhase}
    (temporary : store.IsTemporary call.temporary)
    (invariant : call.PhaseInvariant store disk phase) :
    call.PhaseInvariant store (call.step store fault phase disk).2
      (call.step store fault phase disk).1 := by
  have separate := temporary.ne_blobTarget call.digest
  cases phase with
  | lookup =>
      simp only [BlobCall.step]
      split
      · trivial
      · split <;> exact invariant
  | verify action =>
      simp only [BlobCall.step]
      split
      · trivial
      · rename_i verified
        exact ⟨invariant, verifyBlobStep_ok verified⟩
  | link =>
      simp only [BlobCall.step]
      split
      · rename_i linked done
        obtain ⟨absent, rfl⟩ := hardLink_ok done
        obtain ⟨content, found, same, sized⟩ := invariant
        refine ⟨⟨content, ?_, same, sized⟩, ⟨content, ?_, same, sized⟩⟩
        · rw [FileSystem.lookup_link_other _ (Ne.symm separate)]
          exact found
        · rw [FileSystem.lookup_link_target]
          exact found
      · exact invariant
  | relookup error =>
      simp only [BlobCall.step]
      split
      · exact invariant
      · trivial
  | remove action =>
      simp only [BlobCall.step]
      rcases removeTemporary_cases store call action fault disk with removed | ⟨error, failed⟩
      · rw [removed]
        exact ⟨rfl, Disk.HasBlob.frame invariant.2 .unlink separate⟩
      · rw [failed]
        trivial
  | finished result => exact invariant

/-- A return of success comes with the removal of the temporary file. -/
theorem step_returns_ok {fault : Option IoError} {phase : BlobPhase} {path : String}
    (pending : ∀ result, phase ≠ .finished result)
    (returned : (call.step store fault phase disk).1 = .finished (.ok path)) :
    (call.step store fault phase disk).2.lookup call.temporary = none := by
  cases phase with
  | lookup =>
      simp only [BlobCall.step] at returned
      split at returned
      · cases returned
      · split at returned <;> cases returned
  | verify action =>
      simp only [BlobCall.step] at returned
      split at returned <;> cases returned
  | link =>
      simp only [BlobCall.step] at returned
      split at returned <;> cases returned
  | relookup error =>
      simp only [BlobCall.step] at returned
      split at returned <;> cases returned
  | remove action =>
      simp only [BlobCall.step] at returned ⊢
      rcases removeTemporary_cases store call action fault disk with removed | ⟨error, failed⟩
      · rw [removed]
        exact FileSystem.lookup_unlink_self _
      · rw [failed] at returned
        cases returned
  | finished result => exact absurd rfl (pending result)

/-- A blob that was not there before is the call's own file under its digest. -/
theorem step_published {fault : Option IoError} {phase : BlobPhase} {digest : String}
    {entry : Entry} (temporary : store.IsTemporary call.temporary)
    (invariant : call.PhaseInvariant store disk phase)
    (found : (call.step store fault phase disk).2.lookup (store.blobTarget digest) = some entry) :
    disk.lookup (store.blobTarget digest) = some entry ∨
      ∃ content, entry = .file content none ∧ sha256Bytes content = digest := by
  cases phase with
  | lookup =>
      simp only [BlobCall.step] at found
      split at found
      · exact .inl found
      · split at found <;> exact .inl found
  | verify action =>
      simp only [BlobCall.step] at found
      split at found <;> exact .inl found
  | link =>
      simp only [BlobCall.step] at found
      split at found
      · rename_i linked done
        obtain ⟨absent, rfl⟩ := hardLink_ok done
        by_cases own : store.blobTarget digest = store.blobTarget call.digest
        · obtain ⟨content, stored, same, _⟩ := invariant
          rw [own, FileSystem.lookup_link_target, stored] at found
          exact .inr ⟨content, (Option.some.inj found).symm,
            same.trans (store.blobTarget_injective own).symm⟩
        · rw [FileSystem.lookup_link_other _ own] at found
          exact .inl found
      · exact .inl found
  | relookup error =>
      simp only [BlobCall.step] at found
      split at found <;> exact .inl found
  | remove action =>
      simp only [BlobCall.step] at found
      rcases removeTemporary_cases store call action fault disk with removed | ⟨error, failed⟩
      · rw [removed, FileSystem.lookup_unlink_other _ (temporary.ne_blobTarget digest)] at found
        exact .inl found
      · rw [failed] at found
        exact .inl found
  | finished result => exact .inl found

/-! A call that runs alone is a run of its own steps. -/

def BlobCall.Steps (store : StateStore) (call : BlobCall) (before after : BlobPhase × Disk) : Prop :=
  ∃ fault, after = call.step store fault before.1 before.2

private theorem removeTemporary_steps (action : String) (fault : Option IoError) :
    call.Steps store (.remove action, disk)
      (.finished (store.removeTemporary call action fault disk).1,
        (store.removeTemporary call action fault disk).2) :=
  ⟨fault, rfl⟩

private theorem adoptBlob_steps (action : String) (faults : BlobFaults) :
    Transition.Run (call.Steps store) (.verify action, disk)
      (.finished (store.adoptBlob call action faults disk).1,
        (store.adoptBlob call action faults disk).2) := by
  unfold StateStore.adoptBlob
  cases verified : store.verifyBlobStep call faults.verify disk with
  | error error => exact .single ⟨faults.verify, by simp [BlobCall.step, verified]⟩
  | ok _ =>
      have checked : call.Steps store (.verify action, disk) (.remove action, disk) :=
        ⟨faults.verify, by simp [BlobCall.step, verified]⟩
      exact .tail (.single checked) (removeTemporary_steps action faults.remove)

/-- A failed existence test is one the environment failed with some error. -/
private def lookupFault (fails : Bool) : Option IoError := if fails then some missingFile else none

/-- The sequential `store_blob` takes exactly the steps of the concurrent one. -/
theorem storeBlob_steps (faults : BlobFaults) :
    Transition.Run (call.Steps store) (.lookup, disk)
      (.finished (store.storeBlob call faults disk).1, (store.storeBlob call faults disk).2) := by
  unfold StateStore.storeBlob
  cases valid : validateSha256 call.digest with
  | error error => exact .single ⟨none, by simp [BlobCall.step, valid]⟩
  | ok _ =>
      simp only
      split
      · rename_i found
        simp only [Bool.and_eq_true, Bool.not_eq_true'] at found
        have adopting : call.Steps store (.lookup, disk)
            (.verify "remove duplicate temporary log", disk) :=
          ⟨none, by simp [BlobCall.step, valid, found.2]⟩
        exact .head adopting (adoptBlob_steps _ faults)
      · rename_i notFound
        have linking : call.Steps store (.lookup, disk) (.link, disk) := by
          refine ⟨lookupFault faults.lookup, ?_⟩
          cases failed : faults.lookup <;>
            simp_all [BlobCall.step, lookupFault]
        refine .head linking ?_
        split
        · rename_i linked done
          have published : call.Steps store (.link, disk)
              (.remove "remove published temporary log", linked) :=
            ⟨faults.link, by simp [BlobCall.step, done]⟩
          exact .tail (.single published) (removeTemporary_steps _ faults.remove)
        · rename_i error failed
          have raced : call.Steps store (.link, disk) (.relookup error, disk) :=
            ⟨faults.link, by simp [BlobCall.step, failed]⟩
          refine .head raced ?_
          split
          · rename_i found
            simp only [Bool.and_eq_true, Bool.not_eq_true'] at found
            have adopting : call.Steps store (.relookup error, disk)
                (.verify "remove raced temporary log", disk) :=
              ⟨none, by simp [BlobCall.step, found.2]⟩
            exact .head adopting (adoptBlob_steps _ faults)
          · rename_i notFound
            refine .single ⟨lookupFault faults.relookup, ?_⟩
            cases missed : faults.relookup <;> simp_all [BlobCall.step, lookupFault]

/-- A successful call leaves a blob of its digest and length at its target. -/
theorem storeBlob_ok {faults : BlobFaults} {path : String} {after : Disk}
    (temporary : store.IsTemporary call.temporary) (ready : call.Ready disk)
    (stored : store.storeBlob call faults disk = (.ok path, after)) :
    path = store.blobTarget call.digest ∧ after.HasBlob path call.digest call.expectedBytes := by
  have known : call.PhaseInvariant store (store.storeBlob call faults disk).2
      (.finished (store.storeBlob call faults disk).1) :=
    @Transition.run_invariant _ _
      (fun current : BlobPhase × Disk => call.PhaseInvariant store current.2 current.1)
      (by
        intro before _ step invariant
        obtain ⟨fault, rfl⟩ := step
        exact step_phaseInvariant fault temporary invariant)
      _ _ (storeBlob_steps faults) ready
  rw [stored] at known
  exact known

/-- Whatever a call returns, no other name is disturbed. -/
theorem storeBlob_kept {faults : BlobFaults} {path : String} {file : Nat}
    (different : path ≠ call.temporary) (linked : disk.links path = some file) :
    (store.storeBlob call faults disk).2.links path = some file ∧
      (store.storeBlob call faults disk).2.nodes file = disk.nodes file := by
  exact @Transition.run_invariant _ _
    (fun current => current.2.links path = some file ∧ current.2.nodes file = disk.nodes file)
    (by
      intro before _ step kept
      obtain ⟨fault, rfl⟩ := step
      obtain ⟨still, same⟩ := kept
      obtain ⟨kept, unchanged⟩ := (step_frame fault before.1).kept different still
      exact ⟨kept, unchanged.trans same⟩)
    _ _ (@storeBlob_steps _ store call disk faults) ⟨linked, rfl⟩

/-- Without faults, a call whose blob is not there publishes it. -/
theorem storeBlob_publishes (wellFormed : validateSha256 call.digest = .ok ())
    (unpublished : disk.pathExists (store.blobTarget call.digest) = false)
    (captured : disk.pathExists call.temporary = true)
    (separate : call.temporary ≠ store.blobTarget call.digest) :
    store.storeBlob call .none disk = (.ok (store.blobTarget call.digest),
      (disk.link call.temporary (store.blobTarget call.digest)).unlink call.temporary) := by
  have stillThere : Disk.pathExists
      (disk.link call.temporary (store.blobTarget call.digest)) call.temporary = true := by
    rw [Disk.pathExists, FileSystem.lookup_link_other _ separate]
    exact captured
  simp [StateStore.storeBlob, wellFormed, BlobFaults.none, unpublished, captured, attempt,
    Disk.hardLink, StateStore.removeTemporary, Disk.removeFile, stillThere]

/-- Without faults, a call whose blob is there already adopts it. -/
theorem storeBlob_adopts (wellFormed : validateSha256 call.digest = .ok ())
    (published : disk.HasBlob (store.blobTarget call.digest) call.digest call.expectedBytes)
    (captured : disk.pathExists call.temporary = true) :
    store.storeBlob call .none disk =
      (.ok (store.blobTarget call.digest), disk.unlink call.temporary) := by
  have verified := verifyExistingBlob_eq_ok_iff.mpr published
  have present : disk.pathExists (store.blobTarget call.digest) = true := by
    obtain ⟨content, found, _⟩ := published
    rw [Disk.pathExists, found]
    rfl
  simp [StateStore.storeBlob, wellFormed, BlobFaults.none, present, StateStore.adoptBlob,
    StateStore.verifyBlobStep, verified, StateStore.removeTemporary, attempt, Disk.removeFile,
    captured]

end Calls

/-! The system of all processes. -/

section System

variable [Sha2] {store : StateStore}

/-- The temporary file a process will still use. -/
def BlobProcess.owned : BlobProcess → Option String
  | .capturing temporary _ => some temporary
  | .storing _ (.finished _) => none
  | .storing call (.lookup) | .storing call (.verify _) | .storing call (.link)
  | .storing call (.relookup _) | .storing call (.remove _) => some call.temporary
  | .abandoned => none

/-- A file being written has no second name, so writing it changes no blob. -/
structure Capturing (disk : Disk) (temporary : String) (hashed : List UInt8) : Prop where
  bounded : hashed.length ≤ maxFileBytes
  linked : ∃ file, disk.links temporary = some file ∧ disk.nodes file = .file hashed none
  exclusive : ∀ {path : String}, disk.links path = disk.links temporary → path = temporary

def BlobProcess.Invariant (store : StateStore) (disk : Disk) : BlobProcess → Prop
  | .capturing temporary hashed => store.IsTemporary temporary ∧ Capturing disk temporary hashed
  | .storing call phase => store.IsTemporary call.temporary ∧ call.PhaseInvariant store disk phase
  | .abandoned => True

structure BlobInvariant (store : StateStore) (state : BlobState) : Prop where
  each : ∀ {process : Nat} {doing : BlobProcess}, state.processes process = some doing →
    doing.Invariant store state.disk
  separate : ∀ {left right : Nat} {doing other : BlobProcess} {temporary : String},
    state.processes left = some doing → state.processes right = some other →
    doing.owned = some temporary → other.owned = some temporary → left = right

/-- Every blob was there initially or has the digest it is named by. -/
def Published (store : StateStore) (initial disk : Disk) : Prop :=
  ∀ digest entry, disk.lookup (store.blobTarget digest) = some entry →
    initial.lookup (store.blobTarget digest) = some entry ∨
      ∃ content, entry = .file content none ∧ sha256Bytes content = digest

private theorem owned_present {disk : Disk} {doing : BlobProcess} {temporary : String}
    (invariant : doing.Invariant store disk) (owned : doing.owned = some temporary) :
    disk.pathExists temporary = true := by
  cases doing with
  | capturing path hashed =>
      cases owned
      obtain ⟨file, linked, _⟩ := invariant.2.linked
      simp [Disk.pathExists, FileSystem.lookup, linked]
  | abandoned => cases owned
  | storing call phase =>
      have ready : call.Ready disk → call.temporary = temporary →
          disk.pathExists temporary = true := by
        intro there same
        obtain ⟨content, found, _⟩ := there
        subst same
        simp [Disk.pathExists, found]
      cases phase with
      | finished result => cases owned
      | remove action => exact ready invariant.2.1 (Option.some.inj owned)
      | lookup => exact ready invariant.2 (Option.some.inj owned)
      | verify action => exact ready invariant.2 (Option.some.inj owned)
      | link => exact ready invariant.2 (Option.some.inj owned)
      | relookup error => exact ready invariant.2 (Option.some.inj owned)

/-- A process is not disturbed by one that works on another temporary file. -/
theorem BlobProcess.Invariant.frame {temporary : String} {before after : Disk}
    {doing : BlobProcess} (invariant : doing.Invariant store before)
    (frame : Frame temporary before after) (isTemporary : store.IsTemporary temporary)
    (notOwned : doing.owned ≠ some temporary) : doing.Invariant store after := by
  cases doing with
  | abandoned => trivial
  | capturing path hashed =>
      obtain ⟨pathTemporary, bounded, ⟨file, linked, stored⟩, exclusive⟩ := invariant
      have different : path ≠ temporary := fun same => notOwned (congrArg some same)
      obtain ⟨still, same⟩ := frame.kept different linked
      refine ⟨pathTemporary, bounded, ⟨file, still, same.trans stored⟩, ?_⟩
      intro other named
      rw [still] at named
      rcases frame.fresh named with before | other | new
      · exact exclusive (before.trans linked.symm)
      · exact absurd (exclusive (other.trans linked.symm)) (Ne.symm different)
      · exact absurd (before.allocated linked) (Nat.not_lt.mpr new)
  | storing call phase =>
      refine ⟨invariant.1, ?_⟩
      have target := isTemporary.ne_blobTarget call.digest
      have ready : call.temporary ≠ temporary → call.Ready before → call.Ready after :=
        fun different stored => Disk.HasBlob.frame stored frame different
      have notSame : some call.temporary ≠ some temporary → call.temporary ≠ temporary :=
        fun different same => different (congrArg some same)
      cases phase with
      | finished result =>
          cases result with
          | error error => trivial
          | ok path =>
              obtain ⟨rfl, stored⟩ := invariant.2
              exact ⟨rfl, Disk.HasBlob.frame stored frame target⟩
      | remove action =>
          exact ⟨ready (notSame notOwned) invariant.2.1,
            Disk.HasBlob.frame invariant.2.2 frame target⟩
      | lookup => exact ready (notSame notOwned) invariant.2
      | verify action => exact ready (notSame notOwned) invariant.2
      | link => exact ready (notSame notOwned) invariant.2
      | relookup error => exact ready (notSame notOwned) invariant.2

/-- The invariant survives when one process moves within its own temporary file. -/
theorem BlobInvariant.become {state : BlobState} (invariant : BlobInvariant store state)
    {process : Nat} {doing : BlobProcess} {disk : Disk} {temporary : String}
    (frame : Frame temporary state.disk disk) (isTemporary : store.IsTemporary temporary)
    (alone : ∀ {other : Nat} {others : BlobProcess}, other ≠ process →
      state.processes other = some others → others.owned ≠ some temporary)
    (own : doing.Invariant store disk)
    (owns : ∀ {path : String}, doing.owned = some path → path = temporary) :
    BlobInvariant store (state.become process doing disk) where
  each := by
    intro other others running
    simp only [BlobState.become] at running
    split at running
    · cases running
      exact own
    · rename_i different
      exact (invariant.each running).frame frame isTemporary (alone different running)
  separate := by
    intro left right leftDoing rightDoing path leftRunning rightRunning leftOwned rightOwned
    simp only [BlobState.become] at leftRunning rightRunning
    split at leftRunning
    · rename_i leftSame
      cases leftRunning
      split at rightRunning
      · rename_i rightSame
        exact leftSame.trans rightSame.symm
      · rename_i rightOther
        rw [owns leftOwned] at rightOwned
        exact absurd rightOwned (alone rightOther rightRunning)
    · rename_i leftOther
      split at rightRunning
      · cases rightRunning
        rw [owns rightOwned] at leftOwned
        exact absurd leftOwned (alone leftOther leftRunning)
      · exact invariant.separate leftRunning rightRunning leftOwned rightOwned

/-- No other process uses the temporary file of one that still does. -/
theorem BlobInvariant.alone {state : BlobState} (invariant : BlobInvariant store state)
    {process : Nat} {doing : BlobProcess} {temporary : String}
    (running : state.processes process = some doing) (owned : doing.owned = some temporary)
    {other : Nat} {others : BlobProcess} (different : other ≠ process)
    (otherRunning : state.processes other = some others) : others.owned ≠ some temporary :=
  fun same => different (invariant.separate otherRunning running same owned)

omit [Sha2] in
private theorem owned_storing {call : BlobCall} {phase : BlobPhase} {path : String}
    (owned : (BlobProcess.storing call phase).owned = some path) : path = call.temporary := by
  cases phase <;> first | exact (Option.some.inj owned).symm | cases owned

omit [Sha2] in
private theorem owned_of_pending {call : BlobCall} {phase : BlobPhase}
    (pending : ∀ result, phase ≠ .finished result) :
    (BlobProcess.storing call phase).owned = some call.temporary := by
  cases phase with
  | finished result => exact absurd rfl (pending result)
  | _ => rfl

/-- The digest and the length handed to `store_blob` are those of the file. -/
theorem captureCall_ready {disk : Disk} {temporary : String} {hashed : List UInt8}
    (capturing : Capturing disk temporary hashed) :
    (captureCall temporary hashed).Ready disk := by
  obtain ⟨bounded, ⟨file, linked, stored⟩, _⟩ := capturing
  refine ⟨hashed, by simp [captureCall, FileSystem.lookup, linked, stored], rfl, ?_⟩
  have small : hashed.length < 2 ^ 64 := Nat.lt_of_le_of_lt bounded (by decide)
  simp only [captureCall, UInt64.toNat_ofNat']
  omega

private theorem blobInvariant_step {before after : BlobState} (step : BlobStep store before after)
    (invariant : BlobInvariant store before) : BlobInvariant store after := by
  cases step with
  | create process id sequence stream idle absent =>
      have isTemporary : store.IsTemporary (capturePath store id sequence stream) := ⟨_, rfl⟩
      refine invariant.become .create isTemporary ?_ ⟨isTemporary, Nat.zero_le _,
        ⟨before.disk.next, ?_, ?_⟩, ?_⟩ (fun owned => (Option.some.inj owned).symm)
      · intro other others _ running owned
        rw [owned_present (invariant.each running) owned] at absent
        cases absent
      · simp [FileSystem.create]
      · simp [FileSystem.create]
      · intro path named
        simp only [FileSystem.create, if_true] at named
        split at named
        · assumption
        · exact absurd (before.disk.allocated named) (Nat.lt_irrefl _)
  | @write process temporary hashed chunk running bounded =>
      obtain ⟨isTemporary, capturing⟩ := invariant.each running
      obtain ⟨_, ⟨file, linked, stored⟩, exclusive⟩ := capturing
      refine invariant.become (.modify exclusive) isTemporary
        (fun different => invariant.alone running rfl different)
        ⟨isTemporary, bounded, ⟨file, linked, ?_⟩, exclusive⟩
        (fun owned => (Option.some.inj owned).symm)
      simp [FileSystem.modify, linked, stored, Entry.append]
  | abandon running =>
      obtain ⟨isTemporary, _⟩ := invariant.each running
      exact invariant.become .refl isTemporary
        (fun different => invariant.alone running rfl different) trivial (by rintro _ ⟨⟩)
  | finish running =>
      obtain ⟨isTemporary, capturing⟩ := invariant.each running
      exact invariant.become .refl isTemporary
        (fun different => invariant.alone running rfl different)
        ⟨isTemporary, captureCall_ready capturing⟩ owned_storing
  | @advance process call phase fault running =>
      obtain ⟨isTemporary, known⟩ := invariant.each running
      by_cases pending : ∀ result, phase ≠ .finished result
      · exact invariant.become (step_frame fault phase) isTemporary
          (fun different => invariant.alone running (owned_of_pending pending) different)
          ⟨isTemporary, step_phaseInvariant fault isTemporary known⟩ owned_storing
      · simp only [not_forall, not_not] at pending
        obtain ⟨result, rfl⟩ := pending
        have unchanged : before.become process (.storing call (.finished result)) before.disk =
            before := by
          simp only [BlobState.become]
          congr 1
          funext other
          split
          · rename_i same
            rw [same, running]
          · rfl
        simpa only [BlobCall.step, unchanged] using invariant

/-- No step loses or changes a blob. -/
theorem blobStep_keepsBlobs {before after : BlobState} (step : BlobStep store before after)
    (invariant : BlobInvariant store before) : store.KeepsBlobs before.disk after.disk := by
  intro digest entry found
  cases step with
  | create process id sequence stream idle absent =>
      have isTemporary : store.IsTemporary (capturePath store id sequence stream) := ⟨_, rfl⟩
      exact Frame.create.lookup_eq (isTemporary.ne_blobTarget digest) found
  | write chunk running bounded =>
      obtain ⟨isTemporary, capturing⟩ := invariant.each running
      exact (Frame.modify capturing.exclusive).lookup_eq (isTemporary.ne_blobTarget digest) found
  | abandon running => exact found
  | finish running => exact found
  | advance fault running =>
      obtain ⟨isTemporary, _⟩ := invariant.each running
      exact (step_frame fault _).lookup_eq (isTemporary.ne_blobTarget digest) found

private theorem blobStep_published {initial : Disk} {before after : BlobState}
    (step : BlobStep store before after) (invariant : BlobInvariant store before)
    (published : Published store initial before.disk) :
    Published store initial after.disk := by
  intro digest entry found
  cases step with
  | create process id sequence stream idle absent =>
      have isTemporary : store.IsTemporary (capturePath store id sequence stream) := ⟨_, rfl⟩
      refine published digest entry ?_
      rwa [BlobState.become, FileSystem.lookup_create_other _ _ (isTemporary.ne_blobTarget digest)]
        at found
  | write chunk running bounded =>
      obtain ⟨isTemporary, capturing⟩ := invariant.each running
      refine published digest entry ?_
      rwa [BlobState.become, FileSystem.lookup_modify_other _ _ fun same =>
        isTemporary.ne_blobTarget digest (capturing.exclusive same)] at found
  | abandon running => exact published digest entry found
  | finish running => exact published digest entry found
  | advance fault running =>
      obtain ⟨isTemporary, known⟩ := invariant.each running
      rcases step_published isTemporary known found with earlier | valid
      · exact published digest entry earlier
      · exact .inr valid

/-! Runs of the system. -/

private theorem blobInvariant_initial (store : StateStore) {state : BlobState}
    (idle : ∀ process, state.processes process = none) : BlobInvariant store state where
  each := by
    intro process doing running
    rw [idle process] at running
    cases running
  separate := by
    intro left right doing other temporary running
    rw [idle left] at running
    cases running

private theorem blobRun_keepsBlobs {before after : BlobState}
    (run : Transition.Run (BlobStep store) before after) (invariant : BlobInvariant store before) :
    store.KeepsBlobs before.disk after.disk :=
  @Transition.run_monotone _ _ (BlobInvariant store)
    (fun first second => store.KeepsBlobs first.disk second.disk)
    (fun _ _ _ found => found)
    (fun earlier later digest entry found => later digest entry (earlier digest entry found))
    (fun step => blobInvariant_step step) (fun step => blobStep_keepsBlobs step) _ _ run invariant

private theorem blobRun_published {initial state : BlobState}
    (run : Transition.Run (BlobStep store) initial state)
    (invariant : BlobInvariant store initial) : Published store initial.disk state.disk :=
  (@Transition.run_invariant _ _
    (fun current => BlobInvariant store current ∧ Published store initial.disk current.disk)
    (fun step known => ⟨blobInvariant_step step known.1,
      blobStep_published step known.1 known.2⟩)
    _ _ run ⟨invariant, fun _ _ found => .inl found⟩).2

/-- The step with which a call returns success has removed its temporary file. -/
theorem blobStep_returns_ok {before after : BlobState} (step : BlobStep store before after)
    {process : Nat} {call : BlobCall} {phase : BlobPhase} {path : String}
    (running : before.processes process = some (.storing call phase))
    (pending : ∀ result, phase ≠ .finished result)
    (returned : after.processes process = some (.storing call (.finished (.ok path)))) :
    after.disk.lookup call.temporary = none := by
  have same : ∀ {other : Nat} {doing : BlobProcess} {disk : Disk},
      (before.become other doing disk).processes process =
        some (.storing call (.finished (.ok path))) →
      other = process ∧ doing = .storing call (.finished (.ok path)) := by
    intro other doing disk became
    simp only [BlobState.become] at became
    split at became
    · rename_i here
      exact ⟨here.symm, Option.some.inj became⟩
    · rw [running] at became
      cases became
      exact absurd rfl (pending _)
  cases step with
  | create other id sequence stream idle absent => cases (same returned).2
  | write chunk otherRunning bounded => cases (same returned).2
  | abandon otherRunning => cases (same returned).2
  | finish otherRunning => cases (same returned).2
  | advance fault otherRunning =>
      obtain ⟨rfl, became⟩ := same returned
      rw [running] at otherRunning
      cases otherRunning
      injection became with _ finished
      exact step_returns_ok pending finished

omit [Sha2] in
@[simp] theorem BlobState.become_processes (state : BlobState) (process : Nat)
    (doing : BlobProcess) (disk : Disk) :
    (state.become process doing disk).processes process = some doing := by
  simp [BlobState.become]

omit [Sha2] in
private theorem BlobState.become_other (state : BlobState) {process other : Nat}
    (doing : BlobProcess) (disk : Disk) (different : other ≠ process) :
    (state.become process doing disk).processes other = state.processes other :=
  if_neg different

/-- A run goes on with the next system call of a call. -/
theorem blobRun_advance {start state : BlobState} {process : Nat} {call : BlobCall}
    {phase next : BlobPhase} {fault : Option IoError} {disk : Disk}
    (run : Transition.Run (BlobStep store) start state)
    (running : state.processes process = some (.storing call phase))
    (moves : call.step store fault phase state.disk = (next, disk)) :
    Transition.Run (BlobStep store) start (state.become process (.storing call next) disk) := by
  have step : BlobStep store state _ := .advance fault running
  rw [moves] at step
  exact run.tail step

/-- Of two calls for one content that both find it missing, the first to link publishes it,
and the other adopts what it finds in its place. -/
theorem raced_publishes {state : BlobState} {winner loser : Nat} {temporary other : String}
    {hashed : List UInt8} (different : winner ≠ loser) (separate : temporary ≠ other)
    (isTemporary : store.IsTemporary temporary) (otherTemporary : store.IsTemporary other)
    (wins : state.processes winner = some (.storing (captureCall temporary hashed) .lookup))
    (loses : state.processes loser = some (.storing (captureCall other hashed) .lookup))
    (captured : state.disk.lookup temporary = some (.file hashed none))
    (otherCaptured : state.disk.lookup other = some (.file hashed none))
    (small : hashed.length < 2 ^ 64)
    (unpublished : state.disk.pathExists (store.blobTarget (sha256Bytes hashed)) = false) :
    ∃ final, Transition.Run (BlobStep store) state final ∧
      final.processes winner = some (.storing (captureCall temporary hashed)
        (.finished (.ok (store.blobTarget (sha256Bytes hashed))))) ∧
      final.processes loser = some (.storing (captureCall other hashed)
        (.finished (.ok (store.blobTarget (sha256Bytes hashed))))) := by
  let target := store.blobTarget (sha256Bytes hashed)
  let published := state.disk.link temporary target
  let removed := published.unlink temporary
  have apart : target ≠ temporary := isTemporary.ne_blobTarget _
  have otherApart : target ≠ other := otherTemporary.ne_blobTarget _
  have exists_of_lookup {disk : Disk} {path : String} {entry : Entry}
      (found : disk.lookup path = some entry) : disk.pathExists path = true := by
    rw [Disk.pathExists, found]
    rfl
  have publishedTarget : published.lookup target = some (.file hashed none) :=
    (FileSystem.lookup_link_target _).trans captured
  have stillCaptured : published.lookup temporary = some (.file hashed none) :=
    (FileSystem.lookup_link_other _ apart.symm).trans captured
  have removedTarget : removed.lookup target = some (.file hashed none) :=
    (FileSystem.lookup_unlink_other _ apart).trans publishedTarget
  have otherThere : removed.lookup other = some (.file hashed none) :=
    (FileSystem.lookup_unlink_other _ separate.symm).trans
      ((FileSystem.lookup_link_other _ otherApart.symm).trans otherCaptured)
  have looksUp (path : String) : (captureCall path hashed).step store none .lookup state.disk =
      (.link, state.disk) := by
    simp [BlobCall.step, captureCall, validateSha256_sha256Bytes, unpublished]
  have links : (captureCall temporary hashed).step store none .link state.disk =
      (.remove "remove published temporary log", published) := by
    simp [BlobCall.step, captureCall, attempt, Disk.hardLink, unpublished,
      exists_of_lookup captured, published, target]
  have fails : (captureCall other hashed).step store none .link published =
      (.relookup occupiedPath, published) := by
    have occupied : Disk.pathExists published (store.blobTarget (sha256Bytes hashed)) = true :=
      exists_of_lookup publishedTarget
    simp [BlobCall.step, captureCall, attempt, Disk.hardLink, occupied]
  have removes : (captureCall temporary hashed).step store none
      (.remove "remove published temporary log") published = (.finished (.ok target), removed) := by
    simp [BlobCall.step, StateStore.removeTemporary, captureCall, attempt, Disk.removeFile,
      exists_of_lookup stillCaptured, target, removed]
  have finds : (captureCall other hashed).step store none (.relookup occupiedPath) removed =
      (.verify "remove raced temporary log", removed) := by
    have there : Disk.pathExists removed (store.blobTarget (sha256Bytes hashed)) = true :=
      exists_of_lookup removedTarget
    simp [BlobCall.step, captureCall, there]
  have verifies : (captureCall other hashed).step store none
      (.verify "remove raced temporary log") removed =
      (.remove "remove raced temporary log", removed) := by
    have sized : hashed.length = (UInt64.ofNat hashed.length).toNat := by
      rw [UInt64.toNat_ofNat', Nat.mod_eq_of_lt small]
    have known : verifyExistingBlob removed (store.blobTarget (sha256Bytes hashed))
        (sha256Bytes hashed) (UInt64.ofNat hashed.length) = .ok () :=
      verifyExistingBlob_eq_ok_iff.mpr ⟨hashed, removedTarget, rfl, sized⟩
    simp [BlobCall.step, StateStore.verifyBlobStep, captureCall, known]
  have adopts : (captureCall other hashed).step store none
      (.remove "remove raced temporary log") removed =
      (.finished (.ok target), removed.unlink other) := by
    simp [BlobCall.step, StateStore.removeTemporary, captureCall, attempt, Disk.removeFile,
      exists_of_lookup otherThere, target]
  -- Both look before one of them links, and the other only verifies once that one is through.
  have first := blobRun_advance .refl loses (looksUp other)
  have second := blobRun_advance first
    ((BlobState.become_other _ _ _ different).trans wins) (looksUp temporary)
  have third := blobRun_advance second (BlobState.become_processes _ _ _ _) links
  have fourth := blobRun_advance third
    ((BlobState.become_other _ _ _ different.symm).trans
      ((BlobState.become_other _ _ _ different.symm).trans (BlobState.become_processes _ _ _ _)))
    fails
  have fifth := blobRun_advance fourth
    ((BlobState.become_other _ _ _ different).trans (BlobState.become_processes _ _ _ _)) removes
  have sixth := blobRun_advance fifth
    ((BlobState.become_other _ _ _ different.symm).trans (BlobState.become_processes _ _ _ _))
    finds
  have seventh := blobRun_advance sixth (BlobState.become_processes _ _ _ _) verifies
  have eighth := blobRun_advance seventh (BlobState.become_processes _ _ _ _) adopts
  refine ⟨_, eighth, ?_, BlobState.become_processes _ _ _ _⟩
  simp only [BlobState.become_other _ _ _ different, BlobState.become_processes]
  rfl

/-- The blob store is append-only and content-addressed under every
interleaving and every failure. -/
theorem blobStore_append_only_content_addressed {initial state : BlobState}
    (idle : ∀ process, initial.processes process = none)
    (run : Transition.Run (BlobStep store) initial state) :
    (∀ later, Transition.Run (BlobStep store) state later → ∀ digest entry,
      state.disk.lookup (store.blobTarget digest) = some entry →
      later.disk.lookup (store.blobTarget digest) = some entry) ∧
    (∀ digest entry, state.disk.lookup (store.blobTarget digest) = some entry →
      initial.disk.lookup (store.blobTarget digest) = some entry ∨
        ∃ content, entry = .file content none ∧ sha256Bytes content = digest) ∧
    (∀ process call path,
      state.processes process = some (.storing call (.finished (.ok path))) →
      path = store.blobTarget call.digest ∧
        state.disk.HasBlob path call.digest call.expectedBytes) ∧
    (∀ next process call phase path, BlobStep store state next →
      state.processes process = some (.storing call phase) →
      (∀ result, phase ≠ .finished result) →
      next.processes process = some (.storing call (.finished (.ok path))) →
      next.disk.lookup call.temporary = none) ∧
    ∀ receipt, Verifies store state.disk receipt →
      ∀ later, Transition.Run (BlobStep store) state later → Verifies store later.disk receipt := by
  have initially := blobInvariant_initial store idle
  have invariant := Transition.run_invariant (fun step => blobInvariant_step step) run initially
  refine ⟨fun later further => blobRun_keepsBlobs further invariant,
    blobRun_published run initially, ?_, ?_, ?_⟩
  · intro process call path finished
    exact (invariant.each finished).2
  · intro next process call phase path step running pending returned
    exact blobStep_returns_ok step running pending returned
  · intro receipt valid later further
    exact verifies_iff_sound.mpr
      ((verifies_iff_sound.mp valid).keepsBlobs (blobRun_keepsBlobs further invariant))

end System

/-- Two processes capture the same byte and both find no blob of it: one publishes it and the
other adopts it, and both have returned its path. -/
theorem blobStore_append_only_content_addressed_raced :
    ∃ final, Transition.Run (@BlobStep standardSha2 ⟨"/state"⟩) ⟨Disk.empty, fun _ => none⟩ final ∧
      (∀ process < 2, ∃ call, final.processes process =
        some (.storing call (.finished (.ok
          (StateStore.blobTarget ⟨"/state"⟩ (@sha256Bytes standardSha2 [120])))))) ∧
      @Disk.HasBlob standardSha2 final.disk
        (StateStore.blobTarget ⟨"/state"⟩ (@sha256Bytes standardSha2 [120]))
        (@sha256Bytes standardSha2 [120]) 1 := by
  let _ : Sha2 := standardSha2
  let store : StateStore := ⟨"/state"⟩
  let temporary := capturePath store 7 0 "stdout"
  let other := capturePath store 8 0 "stdout"
  have separate : other ≠ temporary := by decide
  have isTemporary : store.IsTemporary temporary := ⟨_, rfl⟩
  have otherTemporary : store.IsTemporary other := ⟨_, rfl⟩
  let initial : BlobState := ⟨Disk.empty, fun _ => none⟩
  let opened : Disk := Disk.empty.create temporary (.file [] none)
  let both : Disk := opened.create other (.file [] none)
  let full : Disk := (both.modify temporary (Entry.append [120])).modify other (Entry.append [120])
  have absent : opened.pathExists other = false := by
    rw [Disk.pathExists, FileSystem.lookup_create_other _ _ separate]
    rfl
  let first := initial.become 0 (.capturing temporary []) opened
  let second := first.become 1 (.capturing other []) both
  let third := second.become 0 (.capturing temporary [120])
    (both.modify temporary (Entry.append [120]))
  let fourth := third.become 1 (.capturing other [120]) full
  let fifth := fourth.become 0 (.storing (captureCall temporary [120]) .lookup) full
  let sixth := fifth.become 1 (.storing (captureCall other [120]) .lookup) full
  have creating : BlobStep store initial first := .create 0 7 0 "stdout" rfl rfl
  have creatingOther : BlobStep store first second := .create 1 8 0 "stdout" rfl absent
  have bounded : ([] ++ [120] : List UInt8).length ≤ maxFileBytes := by decide
  have writing : BlobStep store second third := .write [120] rfl bounded
  have writingOther : BlobStep store third fourth := .write [120] rfl bounded
  have finishing : BlobStep store fourth fifth := .finish rfl
  have finishingOther : BlobStep store fifth sixth := .finish rfl
  have start := ((((((Relation.ReflTransGen.single creating).tail creatingOther).tail
    writing).tail writingOther).tail finishing).tail finishingOther)
  have apart := isTemporary.ne_blobTarget (sha256Bytes [120])
  have otherApart := otherTemporary.ne_blobTarget (sha256Bytes [120])
  have captured : full.lookup temporary = some (.file [120] none) ∧
      full.lookup other = some (.file [120] none) ∧
      full.lookup (store.blobTarget (sha256Bytes [120])) = none := by
    simp [full, both, opened, FileSystem.lookup, FileSystem.modify, FileSystem.create, Disk.empty,
      FileSystem.empty, Ne.symm separate, apart, otherApart, Entry.append]
  obtain ⟨final, run, won, lost⟩ := @raced_publishes _ store sixth 0 1 temporary other [120]
    (by decide) (Ne.symm separate) isTemporary otherTemporary rfl rfl captured.1 captured.2.1
    (by decide) (congrArg Option.isSome captured.2.2)
  have whole := start.trans run
  refine ⟨final, whole, ?_, ((blobStore_append_only_content_addressed (fun _ => rfl) whole).2.2.1
    1 _ _ lost).2⟩
  intro process below
  obtain rfl | rfl : process = 0 ∨ process = 1 := by omega
  · exact ⟨_, won⟩
  · exact ⟨_, lost⟩

end TaskAttest
