import TaskAttest.Source

/-! How far the workspace digest binds the workspace: everything but the content
of regular files is framed, and only such content can hide what follows it. -/

set_option autoImplicit false

namespace TaskAttest

/-- Fields no longer than their length prefix can say. -/
def SnapshotEntry.Framed : SnapshotEntry → Prop
  | .file _ _ => True
  | .symlink target => (textBytes target).length < 2 ^ 64
  | .submodule head status => head.length < 2 ^ 64 ∧ status.length < 2 ^ 64

/-- A workspace as it is hashed: distinct paths in order, each with its entry. -/
structure Snapshot where
  entries : List (String × SnapshotEntry)
  ordered : entries.Pairwise fun left right => left.1 < right.1
  framed : ∀ entry ∈ entries, (textBytes entry.1).length < 2 ^ 64 ∧ entry.2.Framed

def executableByte (executable : Bool) : UInt8 := if executable then 1 else 0

private theorem executableByte_injective {left right : Bool}
    (same : executableByte left = executableByte right) : left = right := by
  cases left <;> cases right <;> first | rfl | cases same

private theorem lengthPrefixed_eq_framed {bytes : List UInt8} (short : bytes.length < 2 ^ 64) :
    lengthPrefixed bytes = Framing.framed 8 bytes := by
  rw [lengthPrefixed, Framing.framed, Nat.min_eq_left (by omega)]

private theorem lengthPrefixed_append_inj {left right leftRest rightRest : List UInt8}
    (leftShort : left.length < 2 ^ 64) (rightShort : right.length < 2 ^ 64)
    (same : lengthPrefixed left ++ leftRest = lengthPrefixed right ++ rightRest) :
    left = right ∧ leftRest = rightRest := by
  rw [lengthPrefixed_eq_framed leftShort, lengthPrefixed_eq_framed rightShort] at same
  exact Framing.framed_append_inj leftShort rightShort same

private theorem textBytes_injective {left right : String}
    (same : textBytes left = textBytes right) :
    left = right :=
  String.toList_injective (utf8_injective same)

/-- One workspace's file ends early, and the other's content goes on with the
executable byte and with a part of what follows that file. -/
inductive Swallows : List (String × SnapshotEntry) → List (String × SnapshotEntry) → Prop where
  | here (path : String) (content swallowed : List UInt8) (executable other : Bool)
      {rest others : List (String × SnapshotEntry)} :
      entriesBytes rest = swallowed ++ executableByte other :: entriesBytes others →
      Swallows ((path, .file content executable) :: rest)
        ((path, .file (content ++ executableByte executable :: swallowed) other) :: others)
  | there (entry : String × SnapshotEntry) {rest others : List (String × SnapshotEntry)} :
      Swallows rest others → Swallows (entry :: rest) (entry :: others)

private theorem entriesBytes_cons (path : String) (entry : SnapshotEntry)
    (rest : List (String × SnapshotEntry)) :
    entriesBytes ((path, entry) :: rest) =
      lengthPrefixed (textBytes path) ++ (entry.bytes ++ entriesBytes rest) := by
  simp [entriesBytes, pathBytes]

private theorem file_bytes (content : List UInt8) (executable : Bool) :
    (SnapshotEntry.file content executable).bytes =
      tag "file" ++ content ++ [executableByte executable] := rfl

/-- The second byte of an entry's tag tells its kind. -/
def SnapshotEntry.mark : SnapshotEntry → UInt8
  | .file _ _ => 105
  | .symlink _ => 121
  | .submodule _ _ => 117

private theorem tags : tag "file" = [102, 105, 108, 101, 0] ∧
    tag "symlink" = [115, 121, 109, 108, 105, 110, 107, 0] ∧
    tag "submodule" = [115, 117, 98, 109, 111, 100, 117, 108, 101, 0] := by
  decide

private theorem mark_eq_of_bytes {entry other : SnapshotEntry} {rest others : List UInt8}
    (same : entry.bytes ++ rest = other.bytes ++ others) : entry.mark = other.mark := by
  have marked : ∀ (entry : SnapshotEntry) (rest : List UInt8),
      (entry.bytes ++ rest)[1]? = some entry.mark := by
    intro entry rest
    cases entry <;> simp [SnapshotEntry.bytes, SnapshotEntry.mark, tags]
  have found := marked entry rest
  rw [same, marked other others] at found
  exact (Option.some.inj found).symm

theorem Swallows.sameBytes {left right : List (String × SnapshotEntry)}
    (swallows : Swallows left right) : entriesBytes left = entriesBytes right := by
  induction swallows with
  | here path content swallowed executable other continues =>
      simp [entriesBytes_cons, file_bytes, continues]
  | there entry _ ih =>
      obtain ⟨path, entry⟩ := entry
      rw [entriesBytes_cons, entriesBytes_cons, ih]

theorem Swallows.ne {left right : List (String × SnapshotEntry)}
    (swallows : Swallows left right) : left ≠ right := by
  induction swallows with
  | here path content swallowed executable other continues => simp
  | there entry _ ih => simp [ih]

private theorem entriesBytes_cons_ne_nil (entry : String × SnapshotEntry)
    (rest : List (String × SnapshotEntry)) : entriesBytes (entry :: rest) ≠ [] := by
  obtain ⟨path, entry⟩ := entry
  intro empty
  have size := congrArg List.length empty
  simp [entriesBytes_cons, lengthPrefixed] at size

/-- Two files of one path with equal streams behind them: either they are the
same, or one content swallows what follows the other. -/
theorem file_bytes_cases {path : String} {left right : List UInt8}
    {leftExecutable rightExecutable : Bool} {rest others : List (String × SnapshotEntry)}
    (same : (SnapshotEntry.file left leftExecutable).bytes ++ entriesBytes rest =
      (SnapshotEntry.file right rightExecutable).bytes ++ entriesBytes others) :
    (left = right ∧ leftExecutable = rightExecutable ∧ entriesBytes rest = entriesBytes others) ∨
      Swallows ((path, .file left leftExecutable) :: rest)
        ((path, .file right rightExecutable) :: others) ∨
      Swallows ((path, .file right rightExecutable) :: others)
        ((path, .file left leftExecutable) :: rest) := by
  simp only [file_bytes, List.append_assoc, List.append_cancel_left_eq, List.singleton_append]
    at same
  rcases List.append_eq_append_iff.mp same with ⟨more, longer, tail⟩ | ⟨more, longer, tail⟩
  · cases more with
    | nil =>
        simp only [List.nil_append, List.cons.injEq] at tail
        exact .inl ⟨by simpa using longer.symm, executableByte_injective tail.1, tail.2⟩
    | cons byte swallowed =>
        simp only [List.cons_append, List.cons.injEq] at tail
        obtain ⟨rfl, continues⟩ := tail
        rw [longer]
        exact .inr (.inl (.here path left swallowed leftExecutable rightExecutable continues))
  · cases more with
    | nil =>
        simp only [List.nil_append, List.cons.injEq] at tail
        exact .inl ⟨by simpa using longer, (executableByte_injective tail.1).symm, tail.2.symm⟩
    | cons byte swallowed =>
        simp only [List.cons_append, List.cons.injEq] at tail
        obtain ⟨rfl, continues⟩ := tail
        rw [longer]
        exact .inr (.inr (.here path right swallowed rightExecutable leftExecutable continues))

private theorem entriesBytes_cases {left right : List (String × SnapshotEntry)}
    (leftFramed : ∀ entry ∈ left, (textBytes entry.1).length < 2 ^ 64 ∧ entry.2.Framed)
    (rightFramed : ∀ entry ∈ right, (textBytes entry.1).length < 2 ^ 64 ∧ entry.2.Framed)
    (same : entriesBytes left = entriesBytes right) :
    left = right ∨ Swallows left right ∨ Swallows right left := by
  induction left generalizing right with
  | nil =>
      cases right with
      | nil => exact .inl rfl
      | cons entry rest => exact absurd same.symm (entriesBytes_cons_ne_nil entry rest)
  | cons entry rest ih =>
      cases right with
      | nil => exact absurd same (entriesBytes_cons_ne_nil entry rest)
      | cons other others =>
          obtain ⟨path, entry⟩ := entry
          obtain ⟨otherPath, other⟩ := other
          obtain ⟨⟨pathShort, entryFramed⟩, restFramed⟩ := List.forall_mem_cons.mp leftFramed
          obtain ⟨⟨otherShort, otherFramed⟩, othersFramed⟩ := List.forall_mem_cons.mp rightFramed
          rw [entriesBytes_cons, entriesBytes_cons] at same
          obtain ⟨samePath, sameTail⟩ := lengthPrefixed_append_inj pathShort otherShort same
          obtain rfl := textBytes_injective samePath
          -- Once the entries agree, the rest decides.
          have agree : entriesBytes rest = entriesBytes others → entry = other →
              (path, entry) :: rest = (path, other) :: others ∨
                Swallows ((path, entry) :: rest) ((path, other) :: others) ∨
                Swallows ((path, other) :: others) ((path, entry) :: rest) := by
            intro sameRest same
            subst same
            rcases ih restFramed othersFramed sameRest with rfl | forward | backward
            · exact .inl rfl
            · exact .inr (.inl (.there _ forward))
            · exact .inr (.inr (.there _ backward))
          cases entry with
          | file content executable =>
              cases other with
              | file otherContent otherExecutable =>
                  rcases @file_bytes_cases path _ _ _ _ _ _ sameTail with
                    ⟨rfl, rfl, sameRest⟩ | forward | backward
                  · exact agree sameRest rfl
                  · exact .inr (.inl forward)
                  · exact .inr (.inr backward)
              | symlink target => cases mark_eq_of_bytes sameTail
              | submodule head status => cases mark_eq_of_bytes sameTail
          | symlink target =>
              cases other with
              | symlink otherTarget =>
                  simp only [SnapshotEntry.bytes, List.append_assoc,
                    List.append_cancel_left_eq] at sameTail
                  obtain ⟨sameTarget, sameRest⟩ :=
                    lengthPrefixed_append_inj entryFramed otherFramed sameTail
                  exact agree sameRest (congrArg _ (textBytes_injective sameTarget))
              | file otherContent otherExecutable => cases mark_eq_of_bytes sameTail
              | submodule head status => cases mark_eq_of_bytes sameTail
          | submodule head status =>
              cases other with
              | submodule otherHead otherStatus =>
                  simp only [SnapshotEntry.bytes, List.append_assoc,
                    List.append_cancel_left_eq] at sameTail
                  obtain ⟨sameHead, statusTail⟩ :=
                    lengthPrefixed_append_inj entryFramed.1 otherFramed.1 sameTail
                  obtain ⟨sameStatus, sameRest⟩ :=
                    lengthPrefixed_append_inj entryFramed.2 otherFramed.2 statusTail
                  exact agree sameRest (by rw [sameHead, sameStatus])
              | file otherContent otherExecutable => cases mark_eq_of_bytes sameTail
              | symlink target => cases mark_eq_of_bytes sameTail

/-- The stream of a workspace determines it, except where the content of one
regular file imitates the encoding of what follows that file in the other. -/
theorem workspaceStream_determines_iff (left right : Snapshot) :
    (workspaceStream left.entries = workspaceStream right.entries → left = right) ↔
      ¬Swallows left.entries right.entries ∧ ¬Swallows right.entries left.entries := by
  have sameEntries : left = right ↔ left.entries = right.entries := by
    cases left
    cases right
    simp
  rw [sameEntries, workspaceStream, workspaceStream, List.append_cancel_left_eq]
  constructor
  · intro determined
    exact ⟨fun swallows => swallows.ne (determined swallows.sameBytes),
      fun swallows => swallows.ne (determined swallows.sameBytes.symm).symm⟩
  · intro none same
    obtain ⟨noForward, noBackward⟩ := none
    rcases entriesBytes_cases left.framed right.framed same with equal | forward | backward
    · exact equal
    · exact absurd forward noForward
    · exact absurd backward noBackward

/-- The encoding that lies between the contents of the files `a` and `b`. -/
def betweenFiles : List UInt8 := lengthPrefixed (textBytes "b") ++ tag "file"

def twoFiles (first second : List UInt8) : Snapshot where
  entries := [("a", .file first false), ("b", .file second false)]
  ordered := List.pairwise_pair.mpr (by decide : "a" < "b")
  framed := by simp [SnapshotEntry.Framed]; decide

/-- Moving bytes from the second file into the first leaves the stream unchanged. -/
theorem workspaceStream_collision :
    workspaceStream (twoFiles [] (0 :: betweenFiles)).entries =
        workspaceStream (twoFiles (0 :: betweenFiles) []).entries ∧
      (twoFiles [] (0 :: betweenFiles)).entries.length =
        (twoFiles (0 :: betweenFiles) []).entries.length ∧
      twoFiles [] (0 :: betweenFiles) ≠ twoFiles (0 :: betweenFiles) [] := by
  refine ⟨by decide, rfl, ?_⟩
  intro same
  have contents := congrArg Snapshot.entries same
  simp [twoFiles] at contents

/-- A path that can be hashed. -/
def Repository.Hashable (repository : Repository) (relative : String) : Prop :=
  ∃ entry, repository.inspectPath relative = .ok entry

/-- The paths that can be hashed are what decides whether a workspace can be. -/
theorem snapshot_ok_iff {repository : Repository} {paths : List String} :
    (∃ entries, repository.snapshot paths = .ok entries) ↔
      ∀ relative ∈ paths, repository.Hashable relative := by
  induction paths with
  | nil => simp [Repository.snapshot]
  | cons relative rest ih =>
      rw [List.forall_mem_cons, ← ih]
      simp only [Repository.snapshot, Repository.Hashable]
      cases repository.inspectPath relative with
      | error error => simp [bind, Except.bind]
      | ok entry =>
          cases repository.snapshot rest <;> simp [bind, Except.bind, pure, Except.pure]

end TaskAttest
