import TaskAttest.ClockProperties
import TaskAttest.DiscoverProperties
import TaskAttest.RecoveryProperties

/-! In which order the run command makes its receipt durable: what the exit code says
about the receipt in the store and about the copy at the requested path. -/

set_option autoImplicit false

namespace TaskAttest

open Interleaving Program

/-! The copy at the requested path -/

/-- A file of this process alone, with this content. -/
structure Disk.Private (temporary : String) (content : List UInt8) (disk : Disk) : Prop where
  holds : disk.lookup temporary = some (.file content none)
  exclusive : disk.Exclusive (· ≠ temporary) temporary

/-- Calls that leave one path alone and keep what is at another. -/
structure SparesFile (path kept : String) (before after : RunState) : Prop where
  same : before.disk.Same path after.disk
  keeps : ∀ entry, before.disk.lookup kept = some entry → after.disk.lookup kept = some entry

/-- The call that names a file where nothing was, and keeps what is at another path. -/
structure PublishesFile (path kept : String) (content : List UInt8) (before after : RunState) :
    Prop where
  free : before.disk.lookup path = none
  published : after.disk.lookup path = some (.file content none)
  keeps : ∀ entry, before.disk.lookup kept = some entry → after.disk.lookup kept = some entry

section Copy

variable {mine : String → Prop} {path kept temporary parent name : String}
  {content document : List UInt8} {process : Nat} {faults : PublishFaults}

private theorem SparesFile.of_same {before after : RunState}
    (same : before.disk.Same path after.disk)
    (other : before.disk.Same kept after.disk) : SparesFile path kept before after :=
  ⟨same, fun _ found => other.lookup.trans found⟩

theorem SparesFile.refl (state : RunState) : SparesFile path kept state state :=
  .of_same .refl .refl

theorem Disk.Private.created {disk : Disk} :
    Disk.Private temporary [] (disk.create temporary (.file [] none)) where
  holds := FileSystem.lookup_create_self _ _
  exclusive := .created _ fun different => different rfl

theorem Disk.Private.append {disk : Disk} (private' : disk.Private temporary content)
    (chunk : List UInt8) :
    Disk.Private temporary (content ++ chunk) (disk.modify temporary (Entry.append chunk)) where
  holds := by
    rw [FileSystem.lookup_modify_self, private'.holds]
    rfl
  exclusive := private'.exclusive.modify _

theorem Disk.Private.spares {state : RunState} (private' : state.disk.Private temporary content)
    (apart : path ≠ temporary) (keptApart : kept ≠ temporary) (change : Entry → Entry) :
    SparesFile path kept state { state with disk := state.disk.modify temporary change } :=
  .of_same (private'.exclusive.same change apart) (private'.exclusive.same change keptApart)

private theorem private_stable (own : mine temporary) (apart : path ≠ temporary)
    (content : List UInt8) :
    Stable (CreatesOutput mine (some path)) fun state => state.disk.Private temporary content := by
  intro before after step private'
  refine ⟨step.present private'.holds, step.exclusive own ?_ private'.exclusive⟩
  intro same
  exact apart (Option.some.inj same)

/-- A call that changes the private file when it succeeds. -/
theorem changePrivate_guarantee {later : List UInt8} {update : Disk → Except TaskError Disk}
    (own : mine temporary) (apart : path ≠ temporary)
    (updates : ∀ (state : RunState) disk, state.disk.Private temporary content →
      update state.disk = .ok disk → SparesFile path kept state { state with disk } ∧
        disk.Private temporary later)
    (ordinary : ∀ disk : Disk, FailsWith Ordinary (update disk)) :
    Guarantees (CreatesOutput mine (some path)) (SparesFile path kept)
      (fun state => state.disk.Private temporary content) (Among.change update)
      (fun _ state => state.disk.Private temporary later) fun error _ => Ordinary error := by
  apply Guarantees.perform
  · exact private_stable own apart content
  · exact fun _ => private_stable own apart later
  · exact fun _ => .const _ _
  · intro state private'
    simp only [outcome, Among.updateDisk]
    cases updated : update state.disk with
    | error error => exact .refl state
    | ok disk => exact (updates state disk private' updated).1
  · intro _ before after private' ran
    obtain ⟨disk, updated, rfl⟩ := updateDisk_ok ran
    exact (updates before disk private' updated).2
  · exact fun error before after _ ran => ordinary before.disk error (updateDisk_error ran).1

private theorem createTemporary_guarantee (parts : jsonOutputParent path = .ok (parent, name))
    (own : ∀ number, mine ((jsonAllocation process parent name).name number))
    (keptApart : ∀ number, kept ≠ (jsonAllocation process parent name).name number) :
    Guarantees (CreatesOutput mine (some path)) (SparesFile path kept) (fun _ => True)
      (.perform (Among.createTemporary process faults parent name))
      (fun temporary state =>
        (∃ number, temporary = (jsonAllocation process parent name).name number) ∧
          state.disk.Private temporary [])
      fun error _ => Ordinary error := by
  have apart (number : Nat) : path ≠ (jsonAllocation process parent name).name number :=
    Ne.symm (jsonAllocation_name_ne process number parts)
  apply Guarantees.perform
  · exact .const _ _
  · intro temporary before after step known
    obtain ⟨⟨number, shape⟩, private'⟩ := known
    rw [shape] at private' ⊢
    exact ⟨⟨number, rfl⟩, private_stable (own number) (apart number) [] _ _ step private'⟩
  · exact fun _ => .const _ _
  · intro state _
    have same := @allocation_same state.disk path _ apart faults.allocate allocationAttempts
      state.jsonSequence
    have other := @allocation_same state.disk kept _ keptApart faults.allocate allocationAttempts
      state.jsonSequence
    rcases ran : (jsonAllocation process parent name).run faults.allocate allocationAttempts
      state.jsonSequence state.disk with ⟨result, next, disk⟩
    rw [ran] at same other
    cases result <;> simp only [outcome, Among.createTemporary, ran] <;>
      exact .of_same same other
  · intro temporary before after _ ran
    simp only [Among.createTemporary] at ran
    split at ran
    · rename_i allocated
      cases ran
      obtain ⟨⟨number, shape⟩, _, created⟩ := allocation_ok allocated
      rw [created]
      exact ⟨⟨number, shape⟩, .created⟩
    · cases ran
  · intro error before after _ ran
    simp only [Among.createTemporary] at ran
    split at ran
    · cases ran
    · rename_i failed
      cases ran
      exact (allocation_ordinary (ordinary_execution _) _ _ _).of_fst failed

private theorem writeDocument_guarantee (own : mine temporary) (apart : path ≠ temporary)
    (keptApart : kept ≠ temporary) :
    Guarantees (CreatesOutput mine (some path)) (SparesFile path kept)
      (fun state => state.disk.Private temporary [])
      (.perform (Among.writeDocument faults document temporary))
      (fun _ state => state.disk.Private temporary document) fun error _ => Ordinary error := by
  apply Guarantees.perform
  · exact private_stable own apart []
  · exact fun _ => private_stable own apart document
  · exact fun _ => .const _ _
  · intro state private'
    simp only [outcome, Among.writeDocument]
    cases faults.serialize <;> exact private'.spares apart keptApart _
  · intro _ before after private' ran
    simp only [Among.writeDocument] at ran
    split at ran
    · cases ran
    · cases ran
      exact private'.append document
  · intro error before after _ ran
    simp only [Among.writeDocument] at ran
    split at ran
    · cases ran
      exact ordinary_json _
    · cases ran

private theorem link_once (own : mine temporary) (apart : path ≠ temporary) :
    GuaranteesOnce (CreatesOutput mine (some path)) (SparesFile path kept)
      (PublishesFile path kept content)
      (fun state => state.disk.Private temporary content)
      (Among.change fun disk =>
        orElseFail (TaskError.io "publish JSON file without overwriting" path)
          (attempt faults.link (disk.hardLink temporary path)))
      (fun _ _ => True) fun error _ => Ordinary error := by
  apply GuaranteesOnce.perform
  · exact private_stable own apart content
  · exact fun _ => .const _ _
  · exact fun _ => .const _ _
  · intro _ before after private' ran
    obtain ⟨disk, linked, rfl⟩ := updateDisk_ok ran
    obtain ⟨missing, shape⟩ := hardLink_ok (orElseFail_ok linked)
    have free : before.disk.lookup path = none := by
      simpa [Disk.pathExists] using missing
    rw [shape]
    refine ⟨trivial, free, ?_, ?_⟩
    · rw [FileSystem.lookup_link_target, private'.holds]
    · intro entry found
      have different : kept ≠ path := by
        intro same
        rw [same, free] at found
        cases found
      rw [FileSystem.lookup_link_other _ different, found]
  · intro error before after _ ran
    obtain ⟨failed, rfl⟩ := updateDisk_error ran
    exact ⟨orElseFail_ordinary (fun _ => ordinary_io _ _ _) _ failed, .refl after⟩

/-- The link is the only call that touches the path. -/
theorem fillAndLink_once (own : mine temporary) (apart : path ≠ temporary)
    (keptApart : kept ≠ temporary) :
    GuaranteesOnce (CreatesOutput mine (some path)) (SparesFile path kept)
      (PublishesFile path kept (document ++ [10]))
      (fun state => state.disk.Private temporary [])
      (Among.fillAndLink faults document temporary path) (fun _ _ => True)
      fun error _ => Ordinary error := by
  have newline : Guarantees (CreatesOutput mine (some path)) (SparesFile path kept)
      (fun state => state.disk.Private temporary document)
      (Among.change fun disk => orElseFail (TaskError.io "finish temporary JSON file" temporary)
        (attempt faults.newline (.ok (disk.modify temporary (Entry.append [10])))))
      (fun _ state => state.disk.Private temporary (document ++ [10]))
      fun error _ => Ordinary error := by
    apply changePrivate_guarantee own apart
    · intro state disk private' updated
      cases attempt_ok (orElseFail_ok updated)
      exact ⟨private'.spares apart keptApart _, private'.append [10]⟩
    · exact fun _ => orElseFail_ordinary fun _ => ordinary_io _ _ _
  have sync : Guarantees (CreatesOutput mine (some path)) (SparesFile path kept)
      (fun state => state.disk.Private temporary (document ++ [10]))
      (Among.change fun disk => orElseFail (TaskError.io "sync temporary JSON file" temporary)
        (attempt faults.sync (.ok disk)))
      (fun _ state => state.disk.Private temporary (document ++ [10]))
      fun error _ => Ordinary error := by
    apply changePrivate_guarantee own apart
    · intro state disk private' updated
      cases attempt_ok (orElseFail_ok updated)
      exact ⟨.refl state, private'⟩
    · exact fun _ => orElseFail_ordinary fun _ => ordinary_io _ _ _
  apply GuaranteesOnce.after (writeDocument_guarantee own apart keptApart)
  intro _
  apply GuaranteesOnce.after newline
  intro _
  apply GuaranteesOnce.after sync
  intro _
  exact link_once own apart

/-- A publication that returns has made one call that named the document, and one that
fails has left the path alone. -/
theorem writeJsonAtomic_once
    (own : ∀ parent name number, jsonOutputParent path = .ok (parent, name) →
      mine ((jsonAllocation process parent name).name number))
    (keptApart : ∀ parent name number, jsonOutputParent path = .ok (parent, name) →
      kept ≠ (jsonAllocation process parent name).name number) :
    GuaranteesOnce (CreatesOutput mine (some path)) (SparesFile path kept)
      (PublishesFile path kept (document ++ [10])) (fun _ => True)
      (Among.writeJsonAtomic process faults path document) (fun _ _ => True)
      fun error _ => Ordinary error := by
  have prepares : Guarantees (CreatesOutput mine (some path)) (SparesFile path kept)
      (fun _ => True) (Among.preflightJsonOutput faults path) (fun _ _ => True)
      fun error _ => Ordinary error := by
    apply Guarantees.widen preflightJsonOutput_guarantee
    intro before after step
    obtain ⟨parent, name, parts, made⟩ := step
    exact ⟨made.same path (not_above_outputParent parts), fun _ found => made.extends'.lookup found⟩
  apply GuaranteesOnce.afterKnowing prepares
  intro _ _
  apply GuaranteesOnce.afterKnowing (guarantees_lift jsonOutputParent_ordinary)
  intro found parts
  obtain ⟨parent, name⟩ := found
  apply GuaranteesOnce.after (createTemporary_guarantee parts (fun number => own _ _ number parts)
    fun number => keptApart _ _ number parts)
  intro temporary before after steps result known executed
  obtain ⟨⟨number, shape⟩, private'⟩ := known
  have ownTemporary : mine temporary := shape ▸ own parent name number parts
  have apart : path ≠ temporary := shape ▸ Ne.symm (jsonAllocation_name_ne process number parts)
  have keptTemporary : kept ≠ temporary := shape ▸ keptApart parent name number parts
  have discards (state : RunState) :
      SparesFile path kept state (outcome (discardFile faults.remove temporary) state).2 :=
    .of_same (.discard apart) (.discard keptTemporary)
  have filled : GuaranteesOnce (CreatesOutput mine (some path)) (SparesFile path kept)
      (PublishesFile path kept (document ++ [10]))
      (fun state => state.disk.Private temporary [])
      ((Among.fillAndLink faults document temporary path).onFailure
        (discardFile faults.remove temporary)) (fun _ _ => True) fun error _ => Ordinary error := by
    apply GuaranteesOnce.onFailure (fillAndLink_once ownTemporary apart keptTemporary)
    · exact fun _ => .const _ _
    · exact fun _ state ordinary => ⟨discards state, ordinary⟩
  have removed : Guarantees (CreatesOutput mine (some path)) (SparesFile path kept)
      (fun _ => True) (.perform (discardFile faults.remove temporary)) (fun _ _ => True)
      fun _ _ => False := by
    apply Guarantees.perform
    · exact .const _ _
    · exact fun _ => .const _ _
    · exact fun _ => .const _ _
    · exact fun state _ => discards state
    · exact fun _ _ _ _ _ => trivial
    · intro error before after _ ran
      cases ran
  exact GuaranteesOnce.before filled (fun _ => removed) private' executed

end Copy

/-! The command -/

/-- The call that names a file of this content where nothing was. -/
def Publishes (path : String) (content : List UInt8) (step : RunState × RunState) : Prop :=
  step.1.disk.lookup path = none ∧ step.2.disk.lookup path = some (.file content none)

section Command

variable [Sha2] [Packages] [JsonDiagnostics] {world : CommandWorld} {arguments : RunArguments}
  {store : StateStore} {receipt : Receipt} {start before after : RunState}
  {steps : List (RunState × RunState)}

/-- What the command does once the receipt is stored. -/
structure CopiesReceipt (world : CommandWorld) (arguments : RunArguments) (start : RunState)
    (store : StateStore) (receipt : Receipt) (steps : List (RunState × RunState))
    (result : Except TaskError Unit) (after : RunState) : Prop where
  attested : world.Attested arguments start store receipt after
  published : result = .ok () → ∀ path, arguments.receiptOut = some path →
    ∃ step ∈ steps, Publishes path (receiptFile receipt) step
  storedFirst : ∀ path, arguments.receiptOut = some path → ∀ step ∈ steps,
    step.1.disk.Same path step.2.disk ∨
      world.Attested arguments start store receipt step.1 ∧
        Publishes path (receiptFile receipt) step
  failed : ∀ error, result = .error error → error.exitCode = 7 ∧
    ∃ path, arguments.receiptOut = some path ∧ ∀ step ∈ steps, step.1.disk.Same path step.2.disk

omit [Sha2] [Packages] [JsonDiagnostics] in
private theorem mem_middle {step other : RunState × RunState}
    {front back : List (RunState × RunState)}
    (member : other ∈ front ++ step :: back) : other = step ∨ other ∈ front ++ back := by
  simp only [List.mem_append, List.mem_cons] at member ⊢
  rcases member with inFront | same | inBack
  · exact .inr (.inl inFront)
  · exact .inl same
  · exact .inr (.inr inBack)

omit [Sha2] [Packages] [JsonDiagnostics] in
/-- A receipt is no temporary file of a document. -/
theorem receiptPath_ne_jsonAllocation {receiptId path parent name : String} {process number : Nat}
    (named : store.receiptPath receiptId = .ok path) :
    path ≠ (jsonAllocation process parent name).name number := by
  obtain ⟨_, shape⟩ := receiptPath_eq_ok_iff.mp named
  obtain ⟨_, joined⟩ := joinPath_toList store.receiptsDirectory
  obtain ⟨_, temporary⟩ := joinPath_toList parent
  intro same
  have last := congrArg (fun text : String => text.toList.reverse.head?) (shape.symm.trans same)
  simp [jsonAllocation, joined, temporary, String.toList_append] at last

omit [JsonDiagnostics] in
theorem publishReceipt_copies {result : Except TaskError Unit}
    (attested : world.Attested arguments start store receipt before)
    (executed : Execution (CreatesOutput (world.Temporary arguments) arguments.receiptOut)
      (publishReceipt world store receipt arguments.receiptOut) before steps result after) :
    CopiesReceipt world arguments start store receipt steps result after := by
  obtain ⟨kept, named, _⟩ := attested.stored
  -- The receipt stays stored throughout, whoever moves.
  have stays : Stable (fun first second : RunState => ∀ entry,
      first.disk.lookup kept = some entry → second.disk.lookup kept = some entry)
      (world.Attested arguments start store receipt) := by
    intro first second step holds
    apply holds.kept
    intro path entry found
    rw [named] at found
    cases found
    exact step entry
  have stable : Stable (CreatesOutput (world.Temporary arguments) arguments.receiptOut)
      (world.Attested arguments start store receipt) := attested_stable store receipt
  cases requested : arguments.receiptOut with
  | none =>
      rw [requested] at executed stable
      obtain ⟨rfl, rfl, idle⟩ := execution_lift executed
      refine ⟨stable.run idle attested, ?_, ?_, ?_⟩
      · intro _ path same
        rw [requested] at same
        cases same
      · exact fun _ _ => List.forall_mem_nil _
      · intro error failed
        cases failed
  | some path =>
      rw [requested] at executed stable
      have once : GuaranteesOnce (CreatesOutput (world.Temporary arguments) (some path))
          (SparesFile path kept) (PublishesFile path kept (receiptFile receipt)) (fun _ => True)
          (Among.writeJsonAtomic world.run.process world.publish path (toVecPretty receipt))
          (fun _ _ => True) fun error _ => Ordinary error :=
        writeJsonAtomic_once (fun _ _ number parts => .output number requested parts)
          fun _ _ _ _ => receiptPath_ne_jsonAllocation named
      rcases execution_handle executed with ⟨value, ran, rfl⟩ | ⟨error, ran, rfl⟩
      · obtain ⟨_, front, step, back, rfl, event, quiet⟩ := (once trivial ran).1 value rfl
        have keeps : ∀ other ∈ front ++ step :: back, ∀ entry,
            other.1.disk.lookup kept = some entry → other.2.disk.lookup kept = some entry := by
          intro other member
          rcases mem_middle member with rfl | elsewhere
          · exact event.keeps
          · exact (quiet other elsewhere).keeps
        have throughout := execution_holds ran keeps stable stays attested
        have publishes : Publishes path (receiptFile receipt) step :=
          ⟨event.free, event.published⟩
        refine ⟨execution_stable ran keeps stable stays attested, ?_, ?_, ?_⟩
        · intro _ other same
          rw [requested] at same
          cases same
          exact ⟨step, by simp, publishes⟩
        · intro other same found member
          rw [requested] at same
          cases same
          rcases mem_middle member with rfl | elsewhere
          · exact .inr ⟨(throughout _ member).1, publishes⟩
          · exact .inl (quiet found elsewhere).same
        · intro error failed
          cases failed
      · obtain ⟨_, quiet⟩ := (once trivial ran).2 error rfl
        have still := execution_stable ran (fun step member => (quiet step member).keeps) stable
          stays attested
        have answer : publicationFailure store receipt path error =
            .error (.postExecutionReceiptPublication receipt.receiptId kept path error) := by
          simp only [publicationFailure, named]
          rfl
        rw [answer]
        refine ⟨still, ?_, ?_, ?_⟩
        · intro returned
          cases returned
        · intro other same step member
          rw [requested] at same
          cases same
          exact .inl (quiet step member).same
        · intro fault failed
          cases failed
          exact ⟨rfl, path, requested, fun step member => (quiet step member).same⟩

end Command

/-! A run with one check, which the configuration declares -/

section Sample

/-- A repository without a commit or a file, at `/repo`. -/
def emptyRepository : Repository :=
  { unbornRepository [] [] with
    git := fun root arguments =>
      if arguments = ["rev-parse", "--show-toplevel"] then
        .ok ⟨true, "", utf8 "/repo\n".toList, []⟩
      else if arguments = ["rev-parse", "--absolute-git-dir"] then
        .ok ⟨true, "", utf8 "/repo/.git\n".toList, []⟩
      else (unbornRepository [] []).git root arguments }

def passingConfig : String :=
  "version = 1\n[[checks]]\nid = \"unit\"\nlabel = \"Unit tests\"\nkind = \"test\"\n" ++
    "command = [\"make\", \"test\"]\nreason = \"declared\"\n"

@[reducible] def passingPackages : Packages where
  config _ := .ok {
    version := 1
    disableChecks := none
    checks := some [{
      id := "unit"
      label := "Unit tests"
      kind := .test
      command := ["make", "test"]
      workingDirectory := none
      reason := "declared"
      coveragePaths := none
      passEnvironment := none
      nonHermeticInputs := none
      replacesWorkflowSteps := none }] }
  packageScripts _ := .ok none
  toml _ := .ok .other
  yaml _ := .ok (.mapping [])
  split _ := none
  glob _ := .ok ()
  globSet _ := .ok fun _ => false

def passingWorkspace : Workspace where
  root := "/repo"
  isFile path := path == "/repo/.taskattest.toml"
  isDir _ := true
  length _ := .ok 100
  readToString _ := .ok passingConfig
  read _ := .ok (textBytes passingConfig)
  readDir _ := .ok []
  canonicalize _ := .ok "/repo"

attribute [local instance] standardSha2 endOfInputDiagnostics passingPackages

def passingCommand : CommandWorld where
  before := emptyRepository
  canonicalize path := .ok path
  workspace := passingWorkspace
  preflight := .none
  receiptsFault := none
  blobsFault := none
  temporaryFault := none
  handler := none
  run := passing.world fun _ => 1
  publish := .none
  output := ⟨none, none⟩

def copyingTo (output : Option String) : RunArguments where
  workspace := "."
  stateDir := some "/state"
  format := .human
  changed := false
  check := []
  failFast := false
  maxRuntimeMsPerCheck := 1000
  maxLogBytesPerCheck := 1000
  receiptOut := output

/-- Nothing is copied out of the store. -/
def unpublished : RunArguments := copyingTo none

def passingSource : DiscoverySource where
  path := ".taskattest.toml"
  sha256 := sha256Bytes (textBytes passingConfig)
  evidence := "explicit TaskAttest configuration"

def passingCheck : CheckDefinition := { quietCheck with sources := [passingSource] }

def passingDiscovery : DiscoveryReport where
  schemaVersion := discoverySchemaVersion
  source := emptySource
  checks := [passingCheck]
  selection := [{
    checkId := "unit"
    selected := true
    reason := "full verification selects every discovered check" }]
  coverageGaps := []
  configurationFiles := [passingSource]
  workflowObservations := []

def passingPayload : ReceiptPayload :=
  passing.payload (fun _ => 1) passingDiscovery quietInvocation passingCheck []

def passingReceipt : Receipt := buildReceipt passingPayload

private theorem passingReceipt_passed : passingReceipt.payload.outcome = .passed := by
  decide +kernel

private theorem discoverRun_passing (output : Option String) :
    discoverRun passingCommand (copyingTo output) =
      .ok (⟨"/repo", "/repo/.git"⟩, passingDiscovery) := by
  have discovers : ((discoverRun passingCommand unpublished).toOption.any fun found =>
      found == (⟨"/repo", "/repo/.git"⟩, passingDiscovery)) = true := by
    decide +kernel
  obtain ⟨found, discovered, same⟩ := exists_ok_of_any discovers
  rw [show discoverRun passingCommand (copyingTo output) = discoverRun passingCommand unpublished
    from rfl, discovered, beq_iff_eq.mp same]

def parentDisk : Disk := (Disk.empty.create "/" .directory).create "/state" .directory

def storeDisk : Disk :=
  (((parentDisk.create "/state/receipts" .directory).create "/state/blobs" .directory).create
    "/state/blobs/sha256" .directory).create "/state/tmp" .directory

private theorem createStore_passing (state : RunState) (made : state.disk = parentDisk) :
    (createStore passingCommand "/state").alone state =
      .ok quietStore { state with disk := storeDisk } := by
  cases state
  cases made
  rfl

theorem storeDisk_free {name : String} (nonempty : name ≠ "") :
    storeDisk.links (joinPath quietStore.receiptsDirectory name) = none := by
  obtain ⟨separator, joined⟩ := joinPath_toList quietStore.receiptsDirectory
  have begins : (joinPath quietStore.receiptsDirectory name).toList.take 15 =
      "/state/receipts".toList := by
    rw [joined, List.append_assoc, List.take_append_of_le_length (by decide)]
    rfl
  have different {other : String} (apart : other.toList.take 15 ≠ "/state/receipts".toList) :
      joinPath quietStore.receiptsDirectory name ≠ other := by
    intro same
    rw [same] at begins
    exact apart begins
  have inside : joinPath quietStore.receiptsDirectory name ≠ "/state/receipts" :=
    receipts_ne nonempty
  simp only [storeDisk, parentDisk, FileSystem.create, if_neg inside,
    if_neg (different (by decide : "/state/tmp".toList.take 15 ≠ _)),
    if_neg (different (by decide : "/state/blobs/sha256".toList.take 15 ≠ _)),
    if_neg (different (by decide : "/state/blobs".toList.take 15 ≠ _)),
    if_neg (different (by decide : "/state".toList.take 15 ≠ _)),
    if_neg (different (by decide : "/".toList.take 15 ≠ _))]
  rfl

private theorem roomMembers_passingPayload_le :
    4 * Json.Value.roomMembers .pretty 1 passingPayload.fields ≤ 4000000 := by
  decide +kernel

private theorem storeDisk_blob (content : List UInt8) :
    storeDisk.links (quietStore.blobTarget (sha256Bytes content)) = none := by
  obtain ⟨separator, joined⟩ := joinPath_toList quietStore.blobsDirectory
  have long : 64 ≤ (quietStore.blobTarget (sha256Bytes content)).toList.length := by
    rw [StateStore.blobTarget, joined, List.length_append, sha256Bytes_length]
    omega
  have different {other : String} (short : other.toList.length < 64) :
      quietStore.blobTarget (sha256Bytes content) ≠ other := by
    intro same
    rw [same] at long
    omega
  simp only [storeDisk, parentDisk, FileSystem.create,
    if_neg (different (by decide : "/state/tmp".toList.length < 64)),
    if_neg (different (by decide : "/state/blobs/sha256".toList.length < 64)),
    if_neg (different (by decide : "/state/blobs".toList.length < 64)),
    if_neg (different (by decide : "/state/receipts".toList.length < 64)),
    if_neg (different (by decide : "/state".toList.length < 64)),
    if_neg (different (by decide : "/".toList.length < 64))]
  rfl

private theorem passing_fresh : passing.Fresh storeDisk where
  stdout := rfl
  stderr := rfl
  blob := storeDisk_blob _

/-- The run itself, in the store's new directories. -/
theorem runChecks_passing : ∃ stored,
    (Among.runChecks (passingCommand.running ⟨"/repo", "/repo/.git"⟩) quietStore passingDiscovery
        quietInvocation).alone (.start storeDisk 0 0 false) = .ok passingReceipt stored ∧
      storeDisk.Extends stored.disk := by
  have selected : selectedChecks passingDiscovery = [passingCheck] := rfl
  obtain ⟨stored, ran, _, _, grown⟩ := @Chunk.runChecks_returns _ passing (fun _ => 1) passingCheck
    [] quietInvocation _ passingDiscovery storeDisk passingPayload selected rfl (.inl rfl)
    passing_fresh rfl storeDisk_free rfl (length_document_le roomMembers_passingPayload_le)
  refine ⟨stored, ?_, grown⟩
  rw [Among.alone_runChecks]
  exact ran

/-- A run whose copy has passed the preflight stores its receipt. -/
theorem attest_alone_passing {output : Option String} {disk : Disk}
    (checked : (preflightReceiptOut passingCommand output).alone (.start disk 0 0 false) =
      .ok () (.start parentDisk 0 0 false)) : ∃ stored,
    (attest passingCommand (copyingTo output)).alone (.start disk 0 0 false) =
        .ok (quietStore, passingReceipt) stored ∧ storeDisk.Extends stored.disk := by
  obtain ⟨stored, ran, grown⟩ := runChecks_passing
  refine ⟨stored, ?_, grown⟩
  have made : (createStore passingCommand
      (stateRoot ⟨"/repo", "/repo/.git"⟩ (copyingTo output))).alone
        (.start parentDisk 0 0 false) = .ok quietStore (.start storeDisk 0 0 false) :=
    createStore_passing _ rfl
  have asked : (copyingTo output).invocation = quietInvocation := rfl
  simp only [attest, Calls.alone_bind]
  rw [show (copyingTo output).receiptOut = output from rfl, bind_of_ok checked]
  simp only [discoverRun_passing, Calls.alone_lift_ok, pure_bind]
  rw [bind_of_ok made, show installCancellationHandler passingCommand.handler = .ok () from rfl]
  simp only [Calls.alone_lift_ok, pure_bind]
  rw [asked, bind_of_ok ran]
  rfl

/-- Without a copy the run ends as its check does, whatever it prints. -/
theorem run_alone_unpublished {arguments : RunArguments}
    (asked : attest passingCommand arguments = attest passingCommand unpublished)
    (uncopied : arguments.receiptOut = none) : ∃ stored,
    (run passingCommand arguments).alone (.start parentDisk 0 0 false) = .ok 0 stored := by
  obtain ⟨stored, attested, _⟩ := @attest_alone_passing none parentDisk rfl
  have published : (publishReceipt passingCommand quietStore passingReceipt none).alone stored =
      .ok () stored := rfl
  have reported : (Calls.lift (emitReceipt arguments.format ⟨none, none⟩)).alone stored =
      .ok () stored := by
    cases arguments.format <;> rfl
  refine ⟨stored, ?_⟩
  simp only [run, Calls.alone_bind, uncopied]
  rw [asked, unpublished, bind_of_ok attested]
  refine (bind_of_ok published).trans ((bind_of_ok reported).trans ?_)
  rw [if_pos passingReceipt_passed]
  rfl

end Sample

end TaskAttest
