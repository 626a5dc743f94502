import TaskAttest.Publish
import TaskAttest.BlobStoreProperties

/-! Publication never disturbs what is already named: it works in files of its
own and links them only where nothing is. -/

set_option autoImplicit false

namespace TaskAttest

/-- Every name of the first disk still names the same file with the same content. -/
structure Disk.Extends (before after : Disk) : Prop where
  kept : ∀ {path : String} {file : Nat}, before.links path = some file →
    after.links path = some file ∧ after.nodes file = before.nodes file

/-- A file that was not there before, under a name that was not there before. -/
structure Disk.Scratch (base current : Disk) (path : String) (file : Nat)
    (content : List UInt8) : Prop where
  absent : base.links path = none
  linked : current.links path = some file
  fresh : base.next ≤ file
  stored : current.nodes file = .file content none

section Extension

variable {base disk before after : Disk} {path other : String} {file : Nat}
  {content : List UInt8}

namespace Disk

theorem pathExists_eq_false_iff : disk.pathExists path = false ↔ disk.links path = none := by
  simp [pathExists, FileSystem.lookup_eq_none_iff]

private theorem discard_cases (disk : Disk) (fault : Option IoError) (path : String) :
    disk.discard fault path = disk.unlink path ∨ disk.discard fault path = disk := by
  cases fault with
  | some error => exact .inr rfl
  | none =>
      simp only [Disk.discard, attempt, removeFile]
      cases disk.pathExists path
      · exact .inr rfl
      · exact .inl rfl

namespace Extends

theorem refl : disk.Extends disk := ⟨fun linked => ⟨linked, rfl⟩⟩

theorem trans (first : base.Extends before) (second : before.Extends after) :
    base.Extends after where
  kept linked := by
    obtain ⟨still, same⟩ := first.kept linked
    obtain ⟨later, unchanged⟩ := second.kept still
    exact ⟨later, unchanged.trans same⟩

theorem lookup {entry : Entry} (extends' : before.Extends after)
    (found : before.lookup path = some entry) : after.lookup path = some entry := by
  obtain ⟨file, linked, rfl⟩ := Option.map_eq_some_iff.mp found
  obtain ⟨still, same⟩ := extends'.kept linked
  simp [FileSystem.lookup, still, same]

theorem absent (extends' : before.Extends after) (missing : after.links path = none) :
    before.links path = none := by
  cases linked : before.links path with
  | none => rfl
  | some file =>
      rw [(extends'.kept linked).1] at missing
      cases missing

private theorem ne_of_missing (missing : base.links path = none)
    (linked : base.links other = some file) :
    other ≠ path := by
  intro same
  subst same
  rw [linked] at missing
  cases missing

theorem create {node : Entry} (extends' : base.Extends disk) (missing : base.links path = none) :
    base.Extends (disk.create path node) where
  kept := by
    intro other file linked
    obtain ⟨still, same⟩ := extends'.kept linked
    have different : other ≠ path := ne_of_missing missing linked
    have old : file ≠ disk.next := Nat.ne_of_lt (disk.allocated still)
    exact ⟨by simp [FileSystem.create, different, still], by simp [FileSystem.create, old, same]⟩

theorem modify {change : Entry → Entry} (extends' : base.Extends disk)
    (scratch : base.Scratch disk path file content) : base.Extends (disk.modify path change) where
  kept := by
    intro other otherFile linked
    obtain ⟨still, same⟩ := extends'.kept linked
    have different : file ≠ otherFile :=
      Nat.ne_of_gt (Nat.lt_of_lt_of_le (base.allocated linked) scratch.fresh)
    exact ⟨still, by simp [FileSystem.modify, scratch.linked, different, same]⟩

theorem link {target : String} (extends' : base.Extends disk)
    (missing : base.links target = none) : base.Extends (disk.link path target) where
  kept := by
    intro other file linked
    obtain ⟨still, same⟩ := extends'.kept linked
    have different : other ≠ target := ne_of_missing missing linked
    exact ⟨by simp [FileSystem.link, different, still], same⟩

theorem unlink (extends' : base.Extends disk) (missing : base.links path = none) :
    base.Extends (disk.unlink path) where
  kept := by
    intro other file linked
    obtain ⟨still, same⟩ := extends'.kept linked
    have different : other ≠ path := ne_of_missing missing linked
    exact ⟨by simp [FileSystem.unlink, different, still], same⟩

theorem discard {fault : Option IoError} (extends' : base.Extends disk)
    (missing : base.links path = none) : base.Extends (disk.discard fault path) := by
  rcases disk.discard_cases fault path with removed | kept
  · rw [removed]
    exact extends'.unlink missing
  · rw [kept]
    exact extends'

end Extends

namespace Scratch

theorem lookup (scratch : base.Scratch disk path file content) :
    disk.lookup path = some (.file content none) := by
  simp [FileSystem.lookup, scratch.linked, scratch.stored]

theorem created (extends' : base.Extends disk) (missing : disk.links path = none)
    (grown : base.next ≤ disk.next) :
    base.Scratch (disk.create path (.file [] none)) path disk.next [] where
  absent := extends'.absent missing
  linked := by simp [FileSystem.create]
  fresh := grown
  stored := by simp [FileSystem.create]

/-- Another new file does not disturb it. -/
theorem create {node : Entry} (scratch : base.Scratch disk path file content)
    (missing : disk.links other = none) :
    base.Scratch (disk.create other node) path file content where
  absent := scratch.absent
  linked := by
    have different : path ≠ other := by
      intro same
      subst same
      rw [scratch.linked] at missing
      cases missing
    simp [FileSystem.create, different, scratch.linked]
  fresh := scratch.fresh
  stored := by
    have old : file ≠ disk.next := Nat.ne_of_lt (disk.allocated scratch.linked)
    simp [FileSystem.create, old, scratch.stored]

theorem append (scratch : base.Scratch disk path file content) (chunk : List UInt8) :
    base.Scratch (disk.modify path (Entry.append chunk)) path file (content ++ chunk) where
  absent := scratch.absent
  linked := scratch.linked
  fresh := scratch.fresh
  stored := by simp [FileSystem.modify, scratch.linked, scratch.stored, Entry.append]

/-- Writing another file does not disturb it. -/
theorem modify {otherFile : Nat} {otherContent : List UInt8} {change : Entry → Entry}
    (scratch : base.Scratch disk path file content)
    (changed : base.Scratch disk other otherFile otherContent) (different : otherFile ≠ file) :
    base.Scratch (disk.modify other change) path file content where
  absent := scratch.absent
  linked := scratch.linked
  fresh := scratch.fresh
  stored := by simp [FileSystem.modify, changed.linked, different, scratch.stored]

end Scratch

end Disk

theorem createNew_ok {fault : Option IoError} {created : Disk}
    (done : attempt fault (disk.createNew path) = .ok created) :
    disk.links path = none ∧ created = disk.create path (.file [] none) := by
  have done := attempt_ok done
  unfold Disk.createNew at done
  split at done
  · cases done
  · rename_i missing
    cases done
    exact ⟨Disk.pathExists_eq_false_iff.mp (by simpa using missing), rfl⟩

/-- Either a new empty file was created under one of the names, or nothing changed. -/
theorem allocation_cases (allocation : Allocation) (faults : Nat → Option IoError)
    (attempts sequence : Nat) (disk : Disk) :
    (∃ number next, disk.links (allocation.name number) = none ∧
      allocation.run faults attempts sequence disk = (.ok (allocation.name number), next,
        disk.create (allocation.name number) (.file [] none))) ∨
      ∃ error next, allocation.run faults attempts sequence disk = (.error error, next, disk) := by
  induction attempts generalizing sequence with
  | zero => exact .inr ⟨_, _, rfl⟩
  | succ attempts ih =>
      simp only [Allocation.run]
      cases opened : attempt (faults sequence) (disk.createNew (allocation.name sequence)) with
      | ok created =>
          obtain ⟨missing, rfl⟩ := createNew_ok opened
          exact .inl ⟨sequence, sequence + 1, missing, rfl⟩
      | error error =>
          simp only
          split
          · exact ih (sequence + 1)
          · exact .inr ⟨_, _, rfl⟩

theorem allocation_ok {allocation : Allocation} {faults : Nat → Option IoError}
    {attempts sequence next : Nat} {created : Disk}
    (ran : allocation.run faults attempts sequence disk = (.ok path, next, created)) :
    (∃ number, path = allocation.name number) ∧ disk.links path = none ∧
      created = disk.create path (.file [] none) := by
  rcases allocation_cases allocation faults attempts sequence disk with
    ⟨number, later, missing, done⟩ | ⟨error, later, failed⟩
  · rw [done] at ran
    cases ran
    exact ⟨⟨number, rfl⟩, missing, rfl⟩
  · rw [failed] at ran
    cases ran

/-- A path, or a directory that `create_dir_all` would make for it. -/
inductive Above : String → String → Prop where
  | self {path : String} : Above path path
  | up {other path parent : String} : parent? path = some parent → Above other parent →
      Above other path

theorem Above.length_le {other : String} (above : Above other path) :
    other.toList.length ≤ path.toList.length := by
  induction above with
  | self => exact Nat.le_refl _
  | up found _ ih => exact Nat.le_trans ih (length_parent?_le found)

/-- What one new directory above the path keeps, `create_dir_all` keeps. -/
theorem createDirAll_keeps {Kept : Disk → Prop} (depth : Nat) {created : Disk}
    (made : disk.createDirAll depth path = .ok created) (start : Kept disk)
    (grows : ∀ between directory, Above directory path → disk.lookup directory = none →
      Kept between → Kept (between.create directory .directory)) : Kept created := by
  induction depth generalizing path created with
  | zero =>
      cases made
      exact start
  | succ depth ih =>
      unfold Disk.createDirAll at made
      split at made
      · cases made
        exact start
      · cases made
      · rename_i missing _
        cases made
        exact grows _ _ .self missing start
      · rename_i parent missing up
        split at made
        · cases made
        · cases nested : disk.createDirAll depth parent with
          | error error =>
              rw [nested] at made
              cases made
          | ok outer =>
              rw [nested] at made
              cases made
              refine grows _ _ .self missing (ih nested ?_)
              intro between directory above
              exact grows between directory (.up up above)

theorem createDirAll_extends (depth : Nat) {created : Disk}
    (made : disk.createDirAll depth path = .ok created) : disk.Extends created := by
  refine createDirAll_keeps depth made .refl ?_
  intro between directory _ missing extends'
  exact extends'.create (disk.lookup_eq_none_iff.mp missing)

end Extension

/-! What does not change under a name -/

/-- A name means the same on two disks. -/
structure Disk.Same (path : String) (before after : Disk) : Prop where
  links : after.links path = before.links path
  lookup : after.lookup path = before.lookup path

section Unchanged

variable {disk before after : Disk} {path other : String}

namespace Disk.Same

theorem refl : disk.Same other disk := ⟨rfl, rfl⟩

theorem trans {between : Disk} (first : Disk.Same other before between)
    (second : Disk.Same other between after) : Disk.Same other before after :=
  ⟨second.links.trans first.links, second.lookup.trans first.lookup⟩

theorem create (node : Entry) (different : other ≠ path) :
    disk.Same other (disk.create path node) :=
  ⟨by simp [FileSystem.create, different], disk.lookup_create_other node different⟩

theorem modify (change : Entry → Entry) (apart : disk.links other ≠ disk.links path) :
    disk.Same other (disk.modify path change) :=
  ⟨rfl, disk.lookup_modify_other change apart⟩

theorem link {target : String} (different : other ≠ target) :
    disk.Same other (disk.link path target) :=
  ⟨by simp [FileSystem.link, different], disk.lookup_link_other different⟩

theorem unlink (different : other ≠ path) : disk.Same other (disk.unlink path) :=
  ⟨by simp [FileSystem.unlink, different], disk.lookup_unlink_other different⟩

theorem discard {fault : Option IoError} (different : other ≠ path) :
    disk.Same other (disk.discard fault path) := by
  rcases disk.discard_cases fault path with removed | kept
  · rw [removed]
    exact .unlink different
  · rw [kept]
    exact .refl

end Disk.Same

/-- A directory above the path is none of the names that are not. -/
theorem Disk.Same.directory {directory : String} (same : before.Same other after)
    (apart : ¬Above other path) (above : Above directory path) :
    before.Same other (after.create directory .directory) := by
  refine same.trans (.create _ ?_)
  intro found
  rw [found] at apart
  exact apart above

theorem createDirAll_same (depth : Nat) {created : Disk} (apart : ¬Above other path)
    (made : disk.createDirAll depth path = .ok created) : disk.Same other created :=
  createDirAll_keeps depth made .refl fun _ _ above _ same => same.directory apart above

end Unchanged

/-! Temporary names of documents -/

section Names

variable {path parent name : String}

theorem jsonOutputParent_ok (parts : jsonOutputParent path = .ok (parent, name)) :
    fileName? path = some name.toList := by
  unfold jsonOutputParent at parts
  split at parts
  · cases parts
  · rename_i found named
    split at parts
    · cases parts
    · cases parts
      rw [named, String.toList_ofList]

private theorem noSeparator_toDigits (number : Nat) : '/' ∉ Nat.toDigits 10 number := fun member =>
  absurd (Nat.isDigit_of_mem_toDigits (by decide) (by decide) member) (by decide)

/-- A temporary name is one component, and longer than the name it is made for. -/
theorem jsonAllocation_plain (process number : Nat)
    (parts : jsonOutputParent path = .ok (parent, name)) : ∃ temporary,
      (jsonAllocation process parent name).name number = joinPath parent temporary ∧
      PlainName temporary ∧ temporary.toList.head? = some '.' ∧
      name.toList.length < temporary.toList.length := by
  let temporary := "." ++ name ++ "." ++ toString process ++ "." ++ toString number ++ ".tmp"
  have longer : name.toList.length + 2 < temporary.toList.length := by
    simp only [temporary, String.toList_append, List.length_append]
    have suffix : ".tmp".toList.length = 4 := by decide
    omega
  refine ⟨temporary, rfl, plainName_of_length ?_ (by omega), ?_, by omega⟩
  · have separate := noSeparator_of_fileName? (jsonOutputParent_ok parts)
    simp [temporary, String.toList_append, separate, noSeparator_toDigits]
  · simp [temporary, String.toList_append]

theorem jsonAllocation_name_ne (process number : Nat)
    (parts : jsonOutputParent path = .ok (parent, name)) :
    (jsonAllocation process parent name).name number ≠ path := by
  have named := jsonOutputParent_ok parts
  obtain ⟨temporary, shape, plain, _, longer⟩ := jsonAllocation_plain process number parts
  rw [shape]
  intro same
  have sameName := congrArg fileName? same
  have last : fileName? (joinPath parent temporary) = some temporary.toList := by
    simp [fileName?, components_joinPath plain]
  rw [named] at sameName
  have sameLength := congrArg List.length (Option.some.inj (last.symm.trans sameName))
  omega

end Names

/-! Documents -/

section Documents

variable {disk : Disk} {faults : PublishFaults} {path : String}

/-- What one new directory above the parent keeps, the preflight of an output keeps. -/
theorem preflight_keeps {Kept : Disk → Prop} (start : Kept disk)
    (grows : ∀ parent name, jsonOutputParent path = .ok (parent, name) →
      ∀ between directory, Above directory parent → disk.lookup directory = none →
        Kept between → Kept (between.create directory .directory)) :
    Kept (preflightJsonOutput faults path disk).2 := by
  unfold preflightJsonOutput
  split
  · exact start
  · rename_i parent name parts
    split
    · exact start
    · rename_i created made
      have kept := createDirAll_keeps _ (attempt_ok made) start (grows parent name parts)
      split
      · exact kept
      · split
        · exact kept
        · split
          · exact kept
          · split <;> exact kept

private theorem preflight_extends : disk.Extends (preflightJsonOutput faults path disk).2 := by
  refine preflight_keeps .refl ?_
  intro _ _ _ between directory _ missing extends'
  exact extends'.create (disk.lookup_eq_none_iff.mp missing)

theorem preflight_same {other parent name : String}
    (parts : jsonOutputParent path = .ok (parent, name)) (apart : ¬Above other parent) :
    disk.Same other (preflightJsonOutput faults path disk).2 := by
  refine preflight_keeps .refl ?_
  intro _ _ found between directory above _ same
  rw [parts] at found
  cases found
  exact same.directory apart above

private theorem fillAndLink_extends {base : Disk} {file : Nat} {temporary : String}
    {document : List UInt8} (extends' : base.Extends disk)
    (scratch : base.Scratch disk temporary file []) :
    base.Extends (fillAndLink faults document temporary path disk).2 := by
  have written : base.Extends (disk.modify temporary (Entry.append document)) :=
    extends'.modify scratch
  have finished : base.Extends
      ((disk.modify temporary (Entry.append document)).modify temporary (Entry.append [10])) :=
    written.modify (scratch.append document)
  unfold fillAndLink
  split
  · exact extends'.modify scratch
  · simp only
    split
    · exact written
    · split
      · exact finished
      · split
        · exact finished
        · rename_i linked done
          obtain ⟨missing, rfl⟩ := hardLink_ok done
          exact (finished.link (finished.absent (Disk.pathExists_eq_false_iff.mp missing))).discard
            scratch.absent

/-- A publication leaves the disk of its preflight, or what became there of a temporary
file, which is removed when that fails. -/
theorem writeJsonAtomic_disk {process sequence : Nat} {document : List UInt8} :
    (writeJsonAtomic process faults path document sequence disk).2.2 =
        (preflightJsonOutput faults path disk).2 ∨
      ∃ parent name number created, jsonOutputParent path = .ok (parent, name) ∧
        created = (preflightJsonOutput faults path disk).2 ∧
        created.links ((jsonAllocation process parent name).name number) = none ∧
        ∃ filled, filled = (fillAndLink faults document
            ((jsonAllocation process parent name).name number) path
            (created.create ((jsonAllocation process parent name).name number)
              (.file [] none))).2 ∧
          ((writeJsonAtomic process faults path document sequence disk).2.2 = filled ∨
            (writeJsonAtomic process faults path document sequence disk).2.2 =
              filled.discard faults.remove ((jsonAllocation process parent name).name number)) := by
  unfold writeJsonAtomic
  split
  · rename_i preflight
    rw [preflight]
    exact .inl rfl
  · rename_i created preflight
    rw [preflight]
    split
    · exact .inl rfl
    · rename_i parent name parts
      rcases allocation_cases (jsonAllocation process parent name) faults.allocate
        allocationAttempts sequence created with
        ⟨number, next, missing, done⟩ | ⟨error, next, failed⟩
      · refine .inr ⟨parent, name, number, created, parts, rfl, missing, _, rfl, ?_⟩
        rw [done]
        simp only
        split
        · rename_i published filling
          rw [filling]
          exact .inl rfl
        · rename_i error failed filling
          rw [filling]
          exact .inr rfl
      · rw [failed]
        exact .inl rfl

/-- Whether it succeeds or fails, publishing a document disturbs no other file. -/
theorem writeJsonAtomic_extends {process sequence : Nat} {document : List UInt8} :
    disk.Extends (writeJsonAtomic process faults path document sequence disk).2.2 := by
  have checked := @preflight_extends disk faults path
  rcases @writeJsonAtomic_disk disk faults path process sequence document with
    left | ⟨parent, name, number, created, _, rfl, missing, filled, filling, left⟩
  · rw [left]
    exact checked
  · have scratch := Disk.Scratch.created .refl missing (Nat.le_refl _)
    have extended := @fillAndLink_extends _ faults path _ _ _ document
      (Disk.Extends.refl.create missing) scratch
    rw [← filling] at extended
    rcases left with left | left <;> rw [left]
    · exact checked.trans extended
    · exact checked.trans (extended.discard missing)

/-- A receipt is published like any document, unless that is refused before. -/
theorem writeReceipt_disk [JsonDiagnostics] {store : StateStore} {process sequence : Nat}
    {receipt : Receipt} :
    (store.writeReceipt process faults receipt sequence disk).2.2 = disk ∨
      ∃ path, store.receiptPath receipt.receiptId = .ok path ∧
        (store.writeReceipt process faults receipt sequence disk).2.2 =
          (writeJsonAtomic process faults path (toVecPretty receipt) sequence disk).2.2 := by
  unfold StateStore.writeReceipt
  split
  · exact .inl rfl
  · rename_i path named
    split
    · exact .inl rfl
    · split
      · split
        · exact .inl rfl
        · split <;> exact .inl rfl
      · refine .inr ⟨path, named, ?_⟩
        split <;> rename_i result <;> rw [result]

theorem writeReceipt_extends [JsonDiagnostics] {store : StateStore} {process sequence : Nat}
    {receipt : Receipt} :
    disk.Extends (store.writeReceipt process faults receipt sequence disk).2.2 := by
  rcases @writeReceipt_disk disk faults _ store process sequence receipt with
    left | ⟨path, _, left⟩ <;> rw [left]
  · exact .refl
  · exact writeJsonAtomic_extends

/-- A blob call on a file that was not there before disturbs no other file. -/
theorem storeBlob_extends [Sha2] {store : StateStore} {base : Disk} {call : BlobCall}
    {blobFaults : BlobFaults} (extends' : base.Extends disk)
    (absent : base.links call.temporary = none) :
    base.Extends (store.storeBlob call blobFaults disk).2 where
  kept := by
    intro other file linked
    have different : other ≠ call.temporary := by
      intro same
      subst same
      rw [linked] at absent
      cases absent
    obtain ⟨still, same⟩ := extends'.kept linked
    obtain ⟨kept, unchanged⟩ := @storeBlob_kept _ store call disk blobFaults _ _ different still
    exact ⟨kept, unchanged.trans same⟩

end Documents

/-! What a publication that succeeded says -/

section Published

variable {disk : Disk} {faults : PublishFaults} {path : String}

/-- A removal that may fail leaves every other name. -/
theorem lookup_discard {fault : Option IoError} {other : String} (different : other ≠ path) :
    (disk.discard fault path).lookup other = disk.lookup other := by
  rcases disk.discard_cases fault path with removed | kept
  · rw [removed]
    exact disk.lookup_unlink_other different
  · rw [kept]

/-- The document was linked where nothing was, and it is whole. -/
theorem fillAndLink_ok {base published : Disk} {file : Nat} {temporary : String}
    {document : List UInt8} (scratch : base.Scratch disk temporary file [])
    (filled : fillAndLink faults document temporary path disk = (.ok (), published)) :
    disk.links path = none ∧ published.lookup path = some (.file (document ++ [10]) none) := by
  have written := (scratch.append document).append [10]
  unfold fillAndLink at filled
  split at filled
  · cases filled
  · simp only at filled
    split at filled
    · cases filled
    · split at filled
      · cases filled
      · split at filled
        · cases filled
        · rename_i linked done
          cases filled
          obtain ⟨missing, rfl⟩ := hardLink_ok done
          have free := Disk.pathExists_eq_false_iff.mp missing
          have different : path ≠ temporary := by
            intro same
            rw [same, written.linked] at free
            cases free
          refine ⟨free, ?_⟩
          rw [lookup_discard different, FileSystem.lookup_link_target]
          simpa using written.lookup

theorem writeJsonAtomic_ok {process sequence next : Nat} {document : List UInt8}
    {published : Disk}
    (written : writeJsonAtomic process faults path document sequence disk =
      (.ok (), next, published)) :
    disk.links path = none ∧ published.lookup path = some (.file (document ++ [10]) none) := by
  have checked := @preflight_extends disk faults path
  unfold writeJsonAtomic at written
  split at written
  · cases written
  · rename_i created preflight
    rw [preflight] at checked
    split at written
    · cases written
    · rename_i parent name _
      rcases allocation_cases (jsonAllocation process parent name) faults.allocate
        allocationAttempts sequence created with
        ⟨number, next, missing, done⟩ | ⟨error, next, failed⟩
      · rw [done] at written
        have allocated : created.Extends (created.create _ (.file [] none)) :=
          Disk.Extends.refl.create missing
        simp only at written
        split at written
        · rename_i filling
          cases written
          obtain ⟨free, stored⟩ :=
            fillAndLink_ok (Disk.Scratch.created .refl missing (Nat.le_refl _)) filling
          exact ⟨checked.absent (allocated.absent free), stored⟩
        · cases written
      · rw [failed] at written
        cases written

theorem readReceiptFile_receiptFile [JsonDiagnostics] {receipt : Receipt}
    (fits : (toVecPretty receipt).length + 1 ≤ maxReceiptBytes)
    (stored : disk.lookup path = some (.file (receiptFile receipt) none)) :
    readReceiptFile disk path = .ok receipt := by
  refine readReceiptFile_eq_ok_iff.mpr ⟨_, stored, ?_⟩
  have newline : utf8 ['\n'] = [10] := by decide
  rw [receiptFile, ← newline]
  refine parseReceiptDocument_toVecPretty receipt (by simp [Json.isWhitespace]) ?_
  rw [newline, List.length_append]
  exact fits

/-- A write that succeeds has published the receipt, or found one with its digest. -/
theorem writeReceipt_cases [JsonDiagnostics] {store : StateStore} {process sequence next : Nat}
    {receipt : Receipt} {after : Disk}
    (written : store.writeReceipt process faults receipt sequence disk = (.ok path, next, after)) :
    store.receiptPath receipt.receiptId = .ok path ∧
      (toVecPretty receipt).length + 1 ≤ maxReceiptBytes ∧
      ((disk.links path = none ∧ after.lookup path = some (.file (receiptFile receipt) none)) ∨
        ∃ existing, readReceiptFile disk path = .ok existing ∧
          existing.canonicalDigest = receipt.canonicalDigest ∧ after = disk) := by
  unfold StateStore.writeReceipt at written
  split at written
  · cases written
  · rename_i target named
    split at written
    · cases written
    · rename_i fits
      have small := Nat.le_of_not_lt fits
      split at written
      · split at written
        · cases written
        · rename_i existing read
          split at written
          · rename_i same
            cases written
            exact ⟨named, small, .inr ⟨existing, read, same, rfl⟩⟩
          · cases written
      · split at written
        · cases written
        · rename_i published wrote
          cases written
          exact ⟨named, small, .inl (writeJsonAtomic_ok wrote)⟩

/-- A receipt that was written is new and can be read back, or one with its
digest was there. -/
theorem writeReceipt_ok [JsonDiagnostics] {store : StateStore} {process sequence next : Nat}
    {receipt : Receipt} {after : Disk}
    (written : store.writeReceipt process faults receipt sequence disk = (.ok path, next, after)) :
    store.receiptPath receipt.receiptId = .ok path ∧
      ((disk.links path = none ∧ readReceiptFile after path = .ok receipt) ∨
        ∃ existing, readReceiptFile disk path = .ok existing ∧
          existing.canonicalDigest = receipt.canonicalDigest ∧ after = disk) := by
  obtain ⟨named, small, ⟨free, stored⟩ | found⟩ := writeReceipt_cases written
  · exact ⟨named, .inl ⟨free, readReceiptFile_receiptFile small stored⟩⟩
  · exact ⟨named, .inr found⟩

end Published

/-! What is enough for a publication to succeed -/

section Success

variable {disk : Disk}

theorem allocation_first (allocation : Allocation) {attempts sequence : Nat}
    (free : disk.links (allocation.name sequence) = none) :
    allocation.run (fun _ => none) (attempts + 1) sequence disk =
      (.ok (allocation.name sequence), sequence + 1,
        disk.create (allocation.name sequence) (.file [] none)) := by
  simp [Allocation.run, attempt, Disk.createNew, Disk.pathExists_eq_false_iff.mpr free]

/-- Without faults an allocation succeeds when one of the names it tries is free. -/
theorem allocation_succeeds (allocation : Allocation) {attempts sequence offset : Nat}
    (tried : offset < attempts) (free : disk.links (allocation.name (sequence + offset)) = none) :
    ∃ number next, disk.links (allocation.name number) = none ∧
      allocation.run (fun _ => none) attempts sequence disk = (.ok (allocation.name number), next,
        disk.create (allocation.name number) (.file [] none)) := by
  induction attempts generalizing sequence offset with
  | zero => exact absurd tried (Nat.not_lt_zero _)
  | succ attempts ih =>
      by_cases taken : disk.pathExists (allocation.name sequence) = true
      · have later : offset ≠ 0 := by
          intro same
          subst same
          rw [Nat.add_zero] at free
          rw [Disk.pathExists_eq_false_iff.mpr free] at taken
          cases taken
        have next : sequence + 1 + (offset - 1) = sequence + offset := by omega
        obtain ⟨number, last, missing, done⟩ :=
          @ih (sequence + 1) (offset - 1) (by omega) (by rw [next]; exact free)
        refine ⟨number, last, missing, ?_⟩
        simpa [Allocation.run, attempt, Disk.createNew, taken, occupiedPath] using done
      · have missing : disk.pathExists (allocation.name sequence) = false := by simpa using taken
        have free := Disk.pathExists_eq_false_iff.mp missing
        exact ⟨sequence, sequence + 1, free, allocation_first allocation free⟩

/-- A document that is filled in without faults appears under a name that is free. -/
theorem fillAndLink_succeeds {base : Disk} {file : Nat} {temporary path : String}
    {document : List UInt8} (scratch : base.Scratch disk temporary file [])
    (different : path ≠ temporary) (free : disk.links path = none) :
    ∃ published, fillAndLink .none document temporary path disk = (.ok (), published) ∧
      published.lookup path = some (.file (document ++ [10]) none) := by
  have written := (scratch.append document).append [10]
  let finished : Disk :=
    (disk.modify temporary (Entry.append document)).modify temporary (Entry.append [10])
  have absent : finished.pathExists path = false := by
    rw [Disk.pathExists_eq_false_iff]
    exact free
  have present : finished.pathExists temporary = true := by
    rw [Disk.pathExists, written.lookup]
    rfl
  have linked : finished.hardLink temporary path = .ok (finished.link temporary path) := by
    simp [Disk.hardLink, absent, present]
  have stillPresent : Disk.pathExists (finished.link temporary path) temporary = true := by
    rw [Disk.pathExists, FileSystem.lookup_link_other _ (Ne.symm different)]
    exact present
  refine ⟨(finished.link temporary path).unlink temporary, ?_, ?_⟩
  · simp only [fillAndLink, PublishFaults.none]
    rw [show attempt none (finished.hardLink temporary path) = .ok (finished.link temporary path)
      from linked]
    simp [Disk.discard, attempt, Disk.removeFile, stillPresent]
  · rw [FileSystem.lookup_unlink_other _ different, FileSystem.lookup_link_target]
    simpa using written.lookup

theorem jsonOutputParent_joinPath {base name : String} (plain : PlainName name)
    (named : components base ≠ []) (text : directoryText (components base) ≠ "") :
    jsonOutputParent (joinPath base name) = .ok (directoryText (components base), name) := by
  have last : fileName? (joinPath base name) = some name.toList := by
    simp [fileName?, components_joinPath plain]
  simp [jsonOutputParent, last, parent?_joinPath plain named, text]

private theorem writeJsonAtomic_succeeds {process sequence offset : Nat} {path parent name : String}
    {document : List UInt8} (parts : jsonOutputParent path = .ok (parent, name))
    (directory : disk.lookup parent = some .directory) (free : disk.links path = none)
    (tried : offset < allocationAttempts)
    (temporaryFree :
      disk.links ((jsonAllocation process parent name).name (sequence + offset)) = none) :
    ∃ next published, writeJsonAtomic process .none path document sequence disk =
        (.ok (), next, published) ∧
      published.lookup path = some (.file (document ++ [10]) none) := by
  have missing : disk.lookup path = none := disk.lookup_eq_none_iff.mpr free
  have separate : ∀ number, path ≠ (jsonAllocation process parent name).name number :=
    fun number => Ne.symm (jsonAllocation_name_ne process number parts)
  have checked : preflightJsonOutput .none path disk = (.ok (), disk) := by
    simp [preflightJsonOutput, parts, PublishFaults.none, attempt, Disk.createDirAll, directory,
      Disk.metadata, Entry.isDir, missing, missingFile]
  obtain ⟨number, next, absent, allocated⟩ :=
    allocation_succeeds (jsonAllocation process parent name) tried temporaryFree
  have scratch := Disk.Scratch.created .refl absent (Nat.le_refl _)
  have stillFree : (disk.create ((jsonAllocation process parent name).name number)
      (.file [] none)).links path = none := by
    simp [FileSystem.create, separate number, free]
  obtain ⟨published, filled, stored⟩ :=
    @fillAndLink_succeeds _ _ _ _ path document scratch (separate number) stillFree
  refine ⟨next, published, ?_, stored⟩
  simp only [writeJsonAtomic, checked, parts]
  rw [show PublishFaults.none.allocate = fun _ => none from rfl, allocated]
  simp only [filled]

/-- The store can take a receipt: its directory is there under its canonical name,
a temporary name is free, and so is the receipt's name unless that receipt is there. -/
structure StoreReady [JsonDiagnostics] (store : StateStore) (process sequence : Nat) (disk : Disk)
    (receipt : Receipt) : Prop where
  canonical : directoryText (components store.receiptsDirectory) = store.receiptsDirectory
  directory : disk.lookup store.receiptsDirectory = some .directory
  temporary : ∃ offset < allocationAttempts,
    disk.links ((jsonAllocation process store.receiptsDirectory
      (receipt.receiptId ++ ".json")).name (sequence + offset)) = none
  vacant : ∀ path, store.receiptPath receipt.receiptId = .ok path → disk.links path = none ∨
    ∃ existing, readReceiptFile disk path = .ok existing ∧
      existing.canonicalDigest = receipt.canonicalDigest

theorem plainName_receipt {receiptId : String} (valid : validateReceiptId receiptId = .ok ()) :
    PlainName (receiptId ++ ".json") := by
  obtain ⟨digest, rfl, lower⟩ := validateReceiptId_eq_ok_iff.mp valid
  refine ⟨?_, ?_⟩
  · rw [String.toList_append, String.toList_append, List.mem_append, List.mem_append]
    intro member
    rcases member with (inPrefix | inDigest) | inSuffix
    · exact absurd inPrefix (by decide)
    · exact not_mem_of_isLowerHex 47 rfl (by decide) lower inDigest
    · exact absurd inSuffix (by decide)
  · have shape : ("rcpt_" ++ digest ++ ".json").toList =
        'r' :: ("cpt_".toList ++ digest.toList ++ ".json".toList) := by
      simp [String.toList_append]
    rw [shape]
    simp [componentOf]

theorem receiptsDirectory_named (store : StateStore) :
    components store.receiptsDirectory ≠ [] := by
  have plain : PlainName "receipts" := ⟨by decide, by decide⟩
  rw [StateStore.receiptsDirectory, components_joinPath plain]
  simp

/-- A receipt within the bound is stored when the store can take it. -/
theorem writeReceipt_succeeds [JsonDiagnostics] {store : StateStore} {process sequence : Nat}
    {receipt : Receipt} (valid : validateReceiptId receipt.receiptId = .ok ())
    (ready : StoreReady store process sequence disk receipt)
    (fits : (toVecPretty receipt).length + 1 ≤ maxReceiptBytes) :
    ∃ path next after stored,
      store.writeReceipt process .none receipt sequence disk = (.ok path, next, after) ∧
      store.receiptPath receipt.receiptId = .ok path ∧
      readReceiptFile after path = .ok stored ∧
      stored.canonicalDigest = receipt.canonicalDigest := by
  have named : store.receiptPath receipt.receiptId =
      .ok (joinPath store.receiptsDirectory (receipt.receiptId ++ ".json")) := by
    simp [StateStore.receiptPath, valid, bind, Except.bind, pure, Except.pure]
  have small : ¬(toVecPretty receipt).length + 1 > maxReceiptBytes := Nat.not_lt.mpr fits
  rcases ready.vacant _ named with free | ⟨existing, read, same⟩
  · have plain := plainName_receipt valid
    have text : directoryText (components store.receiptsDirectory) ≠ "" := by
      rw [ready.canonical]
      intro empty
      have named := receiptsDirectory_named store
      rw [empty] at named
      exact named (by decide)
    have parts := jsonOutputParent_joinPath plain (receiptsDirectory_named store) text
    rw [ready.canonical] at parts
    obtain ⟨offset, tried, temporaryFree⟩ := ready.temporary
    obtain ⟨next, published, written, stored⟩ :=
      @writeJsonAtomic_succeeds disk process sequence offset _ _ _ (toVecPretty receipt) parts
        ready.directory free tried temporaryFree
    refine ⟨_, next, published, receipt, ?_, named, ?_, rfl⟩
    · have missing := Disk.pathExists_eq_false_iff.mpr free
      simp only [StateStore.writeReceipt, named, if_neg small, missing, written, Bool.and_false,
        Bool.false_eq_true, if_false]
    · exact readReceiptFile_receiptFile fits stored
  · refine ⟨_, sequence, disk, existing, ?_, named, read, same⟩
    obtain ⟨content, found, _⟩ := readReceiptFile_eq_ok_iff.mp read
    have present : disk.pathExists
        (joinPath store.receiptsDirectory (receipt.receiptId ++ ".json")) = true := by
      rw [Disk.pathExists, found]
      rfl
    simp [StateStore.writeReceipt, named, small, present, PublishFaults.none, read, same]

end Success

end TaskAttest
