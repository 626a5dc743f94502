import TaskAttest.LossyProperties
import TaskAttest.ScriptProperties
import TaskAttest.WorkflowIdProperties

/-! Which package scripts get distinct and valid identifiers. -/

set_option autoImplicit false

namespace TaskAttest

open Program

/-! The characters of an identifier -/

/-- A byte that an identifier may have behind its first. -/
def isIdByte (byte : UInt8) : Bool := isCheckIdByte byte || byte == 45 || byte == 95

def isIdCharacter (character : Char) : Bool :=
  character.isLower || character.isDigit || character == '-'

private theorem utf8EncodeChar_idCharacter {character : Char}
    (allowed : isIdCharacter character = true) :
    ∃ byte, String.utf8EncodeChar character = [byte] ∧ isIdByte byte = true := by
  have letters : character.isLower =
      (decide (character.val ≥ 'a'.val) && decide (character.val ≤ 'z'.val)) := rfl
  have digits : character.isDigit =
      (decide (character.val ≥ '0'.val) && decide (character.val ≤ '9'.val)) := rfl
  simp only [isIdCharacter, letters, digits, Bool.or_eq_true, Bool.and_eq_true,
    decide_eq_true_eq, beq_iff_eq, ge_iff_le, UInt32.le_iff_toNat_le] at allowed
  have small : character.val.toNat ≤ 127 := by
    rcases allowed with (⟨_, high⟩ | ⟨_, high⟩) | same
    · exact high.trans (by decide)
    · exact high.trans (by decide)
    · rw [same]
      decide
  refine ⟨UInt8.ofNat character.val.toNat, ?_, ?_⟩
  · simp only [String.utf8EncodeChar, if_pos small]
  · have code : (UInt8.ofNat character.val.toNat).toNat = character.val.toNat :=
      toNat_ofNat_small (by omega)
    rcases allowed with plain | same
    · have range : (97 ≤ character.val.toNat ∧ character.val.toNat ≤ 122) ∨
          48 ≤ character.val.toNat ∧ character.val.toNat ≤ 57 := plain
      have accepted : isCheckIdByte (UInt8.ofNat character.val.toNat) = true := by
        simp only [isCheckIdByte, code, Bool.or_eq_true, Bool.and_eq_true, decide_eq_true_eq]
        exact range
      rw [isIdByte, accepted]
      rfl
    · rw [same]
      decide

private theorem utf8_idCharacters {text : List Char}
    (allowed : ∀ character ∈ text, isIdCharacter character = true) :
    (utf8 text).length = text.length ∧ ∀ byte ∈ utf8 text, isIdByte byte = true := by
  induction text with
  | nil => simp
  | cons first rest ih =>
      obtain ⟨firstAllowed, restAllowed⟩ := List.forall_mem_cons.mp allowed
      obtain ⟨byte, encoded, fits⟩ := utf8EncodeChar_idCharacter firstAllowed
      obtain ⟨sameLength, all⟩ := ih restAllowed
      have shape : utf8 (first :: rest) = byte :: utf8 rest := by
        have step : utf8 (first :: rest) = String.utf8EncodeChar first ++ utf8 rest := rfl
        rw [step, encoded]
        rfl
      rw [shape]
      exact ⟨by simp [sameLength], List.forall_mem_cons.mpr ⟨fits, all⟩⟩

/-- What is collected of a name: characters of identifiers, and at most 55. -/
structure Collected (result : List Char) : Prop where
  allowed : ∀ character ∈ result, isIdCharacter character = true
  short : result.length ≤ 55

theorem Collected.sublist {result other : List Char} (collected : Collected result)
    (sublist : other.Sublist result) : Collected other where
  allowed character member := collected.allowed character (sublist.subset member)
  short := sublist.length_le.trans collected.short

private theorem Collected.push {result : List Char} {character : Char}
    (allowed : ∀ character ∈ result, isIdCharacter character = true) (room : result.length < 55)
    (accepted : isIdCharacter character = true) : Collected (result ++ [character]) := by
  constructor
  · intro other member
    rcases List.mem_append.mp member with old | new
    · exact allowed other old
    · rw [List.mem_singleton.mp new]
      exact accepted
  · rw [List.length_append]
    exact room

private theorem portableIdBytes_collected {bytes : List UInt8} {result : List Char}
    {separator : Bool}
    (allowed : ∀ character ∈ result, isIdCharacter character = true) (room : result.length < 55) :
    Collected (portableIdBytes bytes result separator) := by
  induction bytes generalizing result separator with
  | nil => exact ⟨allowed, room.le⟩
  | cons byte rest ih =>
      -- The loop stops when the text has 55 characters, so there is room as long as it goes on.
      have next : ∀ result separator, Collected result →
          Collected (if result.length = 55 then result
            else portableIdBytes rest result separator) := by
        intro result separator collected
        split
        · exact collected
        · rename_i unfilled
          exact ih collected.allowed (lt_of_le_of_ne collected.short unfilled)
      simp only [portableIdBytes]
      apply next
      split
      · rename_i plain
        apply Collected.push allowed room
        rw [isIdCharacter, plain, Bool.true_or]
      · split
        · exact ⟨allowed, room.le⟩
        · exact Collected.push allowed room (by decide)

private theorem trimMatches_sublist (character : Char) (text : List Char) :
    (trimMatches character text).Sublist text := by
  rw [trimMatches]
  have front := List.dropWhile_sublist (l := text) (· = character)
  have back := List.dropWhile_sublist
    (l := (text.dropWhile (· = character)).reverse) (· = character)
  exact (List.reverse_sublist.mpr back).trans (by rwa [List.reverse_reverse])

/-! The identifiers of scripts -/

section Identifiers

variable [Sha2]

private theorem portableIdFragment_fits (value : String) :
    (textBytes (portableIdFragment value)).length ≤ 55 ∧
      ∀ byte ∈ textBytes (portableIdFragment value), isIdByte byte = true := by
  rw [portableIdFragment]
  split
  · have lower := isLowerHex_slice_sha256Bytes (textBytes value) (by decide : 12 ≤ 64)
    simp only [isLowerHex, Bool.and_eq_true, beq_iff_eq, List.all_eq_true] at lower
    refine ⟨by omega, ?_⟩
    intro byte member
    rw [isIdByte, isCheckIdByte_of_isLowerHexByte (lower.2 byte member)]
    rfl
  · have collected : Collected (portableIdBytes (textBytes value) [] false) :=
      portableIdBytes_collected (List.forall_mem_nil _) (by decide)
    have trimmed := collected.sublist (trimMatches_sublist '-' _)
    obtain ⟨sameLength, all⟩ := utf8_idCharacters trimmed.allowed
    rw [textBytes, String.toList_ofList, sameLength]
    exact ⟨trimmed.short, all⟩

/-- The identifier of a script when no other script has it. -/
def plainId (script : String) : String := "js-" ++ portableIdFragment script

def suffixedId (script : String) : String :=
  plainId script ++ "-" ++ sliceTo (sha256Bytes (textBytes script)) 8

omit [Sha2] in
private theorem validCheckId_js {text : String}
    (all : ∀ byte ∈ textBytes text, isIdByte byte = true) :
    validCheckId ("js-" ++ text) = true ↔ (textBytes text).length ≤ 61 := by
  have start : textBytes "js-" = [106, 115, 45] := by decide
  have bytes : textBytes ("js-" ++ text) = 106 :: 115 :: 45 :: textBytes text := by
    rw [textBytes_append, start]
    rfl
  have rest : (textBytes text).all isIdByte = true := List.all_eq_true.mpr all
  have each : (106 :: 115 :: 45 :: textBytes text).all isIdByte = true := by
    rw [List.all_cons, List.all_cons, List.all_cons, rest]
    rfl
  have unfolded : validCheckId ("js-" ++ text) =
      ((decide (1 ≤ (textBytes text).length + 3) && decide ((textBytes text).length + 3 ≤ 64)) &&
        (106 :: 115 :: 45 :: textBytes text).all isIdByte && isCheckIdByte 106) := by
    rw [validCheckId, bytes]
    rfl
  have first : isCheckIdByte 106 = true := by decide
  rw [unfolded, each, first]
  simp

private theorem validCheckId_plainId (script : String) : validCheckId (plainId script) = true := by
  obtain ⟨short, all⟩ := portableIdFragment_fits script
  rw [plainId, validCheckId_js all]
  omega

/-- The suffix needs nine bytes of the 64, and the start takes three. -/
theorem validCheckId_suffixedId {script : String} :
    validCheckId (suffixedId script) = true ↔
      (textBytes (portableIdFragment script)).length ≤ 52 := by
  obtain ⟨_, all⟩ := portableIdFragment_fits script
  have lower := isLowerHex_slice_sha256Bytes (textBytes script) (by decide : 8 ≤ 64)
  simp only [isLowerHex, Bool.and_eq_true, beq_iff_eq, List.all_eq_true] at lower
  have separator : textBytes "-" = [45] := by decide
  have allBytes : ∀ byte ∈ textBytes (portableIdFragment script ++
      ("-" ++ sliceTo (sha256Bytes (textBytes script)) 8)), isIdByte byte = true := by
    intro byte member
    rw [textBytes_append, textBytes_append, separator] at member
    rcases List.mem_append.mp member with front | back
    · exact all byte front
    · rcases List.mem_append.mp back with hyphen | digit
      · rw [List.mem_singleton.mp hyphen]
        decide
      · rw [isIdByte, isCheckIdByte_of_isLowerHexByte (lower.2 byte digit)]
        rfl
  rw [suffixedId, plainId, String.append_assoc, String.append_assoc, validCheckId_js allBytes,
    textBytes_append, textBytes_append, separator, List.length_append, List.length_append, lower.1]
  simp only [List.length_cons, List.length_nil]
  omega

/-- Does one of the earlier scripts, the last one first, have the identifier? A
script is suffixed when its plain identifier is taken by a script before it. -/
def taken : List String → String → Bool
  | [], _ => false
  | last :: earlier, id =>
      decide (plainId last = id) ||
        (taken earlier (plainId last) && decide (suffixedId last = id)) || taken earlier id

/-- A script whose plain identifier is taken is short enough to be suffixed, and
nobody has the suffixed identifier. -/
def NamesFit : List String → List String → Prop
  | _, [] => True
  | earlier, script :: later =>
      (taken earlier (plainId script) = true →
        (textBytes (portableIdFragment script)).length ≤ 52 ∧
          taken earlier (suffixedId script) = false) ∧
      NamesFit (script :: earlier) later

/-- The scripts that become checks, in the order of their names. -/
def verificationScripts (entries : List (String × String)) : List String :=
  (entries.filter fun entry => (javascriptScriptKind entry.1 entry.2).isSome).map Prod.fst

private theorem javascriptId_eq (script : String) (ids : List String) :
    javascriptId script ids =
      if plainId script ∈ ids then suffixedId script else plainId script := by
  rw [javascriptId, plainId, suffixedId, plainId]

/-- The identifiers given so far are those that the scripts so far have. -/
theorem mem_javascriptId_iff {script : String} {ids earlier : List String}
    (known : ∀ id, id ∈ ids ↔ taken earlier id = true) (id : String) :
    id ∈ javascriptId script ids :: ids ↔ taken (script :: earlier) id = true := by
  rw [List.mem_cons, taken, javascriptId_eq, Bool.or_eq_true, Bool.or_eq_true, Bool.and_eq_true,
    decide_eq_true_eq, decide_eq_true_eq, ← known, ← known]
  by_cases repeated : plainId script ∈ ids
  · rw [if_pos repeated]
    constructor
    · intro member
      rcases member with same | old
      · exact .inl (.inr ⟨repeated, same.symm⟩)
      · exact .inr old
    · intro member
      rcases member with (same | ⟨_, same⟩) | old
      · exact .inr (same ▸ repeated)
      · exact .inl same.symm
      · exact .inr old
  · rw [if_neg repeated]
    constructor
    · intro member
      rcases member with same | old
      · exact .inl (.inl same.symm)
      · exact .inr old
    · intro member
      rcases member with (same | ⟨present, _⟩) | old
      · exact .inl same.symm
      · exact absurd present repeated
      · exact .inr old

private theorem javascriptId_fits_iff {script : String} {ids earlier : List String}
    (known : ∀ id, id ∈ ids ↔ taken earlier id = true) :
    (validCheckId (javascriptId script ids) = true ∧ javascriptId script ids ∉ ids) ↔
      (taken earlier (plainId script) = true →
        (textBytes (portableIdFragment script)).length ≤ 52 ∧
          taken earlier (suffixedId script) = false) := by
  rw [javascriptId_eq, ← known, ← Bool.not_eq_true, ← known]
  by_cases repeated : plainId script ∈ ids
  · rw [if_pos repeated, validCheckId_suffixedId]
    exact ⟨fun fits _ => fits, fun fits => fits repeated⟩
  · rw [if_neg repeated]
    exact ⟨fun _ present => absurd present repeated,
      fun _ => ⟨validCheckId_plainId script, repeated⟩⟩

omit [Sha2] in
/-- The identifiers are accepted, and none of them was given before. -/
theorem idsAccepted_cons_iff {check : CheckDefinition} {rest : List CheckDefinition}
    {ids : List String} :
    (IdsAccepted (check :: rest) ∧ ∀ other ∈ check :: rest, other.id ∉ ids) ↔
      (validCheckId check.id = true ∧ check.id ∉ ids) ∧
        (IdsAccepted rest ∧ ∀ other ∈ rest, other.id ∉ check.id :: ids) := by
  constructor
  · intro accepted
    obtain ⟨⟨distinct, valid⟩, fresh⟩ := accepted
    obtain ⟨unrepeated, restDistinct⟩ := List.nodup_cons.mp distinct
    obtain ⟨checkValid, restValid⟩ := List.forall_mem_cons.mp valid
    obtain ⟨checkFresh, restFresh⟩ := List.forall_mem_cons.mp fresh
    refine ⟨⟨checkValid, checkFresh⟩, ⟨restDistinct, restValid⟩, ?_⟩
    intro other member included
    rcases List.mem_cons.mp included with same | old
    · exact unrepeated (List.mem_map.mpr ⟨other, member, same⟩)
    · exact restFresh other member old
  · intro accepted
    obtain ⟨⟨checkValid, checkFresh⟩, ⟨restDistinct, restValid⟩, fresh⟩ := accepted
    refine ⟨⟨?_, List.forall_mem_cons.mpr ⟨checkValid, restValid⟩⟩,
      List.forall_mem_cons.mpr ⟨checkFresh, ?_⟩⟩
    · apply List.nodup_cons.mpr
      refine ⟨?_, restDistinct⟩
      intro repeated
      obtain ⟨other, member, same⟩ := List.mem_map.mp repeated
      exact fresh other member (same ▸ List.mem_cons_self ..)
    · intro other member old
      exact fresh other member (List.mem_cons_of_mem _ old)

private theorem javascriptChecks_idsAccepted_iff {manager : String} {sources : List DiscoverySource}
    {entries : List (String × String)} {ids earlier : List String}
    (known : ∀ id, id ∈ ids ↔ taken earlier id = true) :
    (IdsAccepted (javascriptChecks manager sources entries ids) ∧
      ∀ check ∈ javascriptChecks manager sources entries ids, check.id ∉ ids) ↔
      NamesFit earlier (verificationScripts entries) := by
  induction entries generalizing ids earlier with
  | nil => exact ⟨fun _ => trivial,
      fun _ => ⟨⟨List.nodup_nil, List.forall_mem_nil _⟩, List.forall_mem_nil _⟩⟩
  | cons entry rest ih =>
      obtain ⟨script, commandText⟩ := entry
      cases kind : javascriptScriptKind script commandText with
      | none =>
          have skipped : verificationScripts ((script, commandText) :: rest) =
              verificationScripts rest := by
            simp [verificationScripts, kind]
          rw [javascriptChecks, kind, skipped]
          exact ih known
      | some found =>
          have listed : verificationScripts ((script, commandText) :: rest) =
              script :: verificationScripts rest := by
            simp [verificationScripts, kind]
          rw [javascriptChecks, kind, listed, NamesFit]
          refine idsAccepted_cons_iff.trans ?_
          exact and_congr (javascriptId_fits_iff known) (ih (mem_javascriptId_iff known))

end Identifiers

/-! The manifest -/

section Manifest

variable [Sha2] [Packages] {workspace : Workspace} {checks : List CheckDefinition}
  {text : String} {scripts : Option (SortedMap String String)}

/-- The identifiers are accepted when, and only when, the names of the verification
scripts leave room for the suffixes and do not imitate them. -/
theorem discoverJavascript_idsAccepted_iff
    (read : workspace.readBoundedProjectFile "package.json" = .ok text)
    (parsed : Packages.packageScripts text = .ok scripts)
    (found : discoverJavascript workspace = .ok checks) :
    (IdsAccepted checks ↔ NamesFit [] (verificationScripts (scripts.getD .empty).entries)) ∧
      (IdsAccepted checks → ∀ error, validateChecks checks [] = .error error →
        ∃ check ∈ checks, compileCoverage check.coveragePaths = .error error) := by
  obtain ⟨_, _, _, _, readAgain, parsedAgain, rfl⟩ := discoverJavascript_cases found
  obtain rfl := Except.ok.inj (read.symm.trans readAgain)
  rw [parsed] at parsedAgain
  obtain rfl := Except.ok.inj parsedAgain
  have unknown : ∀ id, id ∈ ([] : List String) ↔ taken [] id = true := by simp [taken]
  constructor
  · rw [← javascriptChecks_idsAccepted_iff unknown]
    exact ⟨fun accepted => ⟨accepted, fun _ _ => List.not_mem_nil⟩, And.left⟩
  · intro accepted error rejected
    exact validateChecks_error accepted (fun _ _ => List.not_mem_nil) rejected

end Manifest

/-! Two scripts with long names, and a script with the name of another's suffix -/

def scriptWorkspace (manifest : String) : Workspace :=
  storedWorkspace [("/r/package.json", manifest)] []

def longScripts : SortedMap String String :=
  .ofList [("test:the-payment-service-against-the-staging-database-slow-part-1", "vitest"),
    ("test:the-payment-service-against-the-staging-database-slow-part-2", "vitest")]

def longManifest : String :=
  "\x7b\"scripts\":\x7b" ++
    "\"test:the-payment-service-against-the-staging-database-slow-part-1\":\"vitest\"," ++
    "\"test:the-payment-service-against-the-staging-database-slow-part-2\":\"vitest\"\x7d\x7d"

/-- The digest of the name `test` starts with the digits of the second script. -/
def imitatingScripts : SortedMap String String :=
  .ofList [("TEST", "vitest"), ("TEST:9f86d081", "vitest"), ("test", "vitest")]

def imitatingManifest : String :=
  "\x7b\"scripts\":\x7b\"TEST\":\"vitest\",\"TEST:9f86d081\":\"vitest\"," ++
    "\"test\":\"vitest\"\x7d\x7d"

@[reducible] def scriptPackages (scripts : SortedMap String String) : Packages where
  config _ := .error "missing field"
  packageScripts _ := .ok (some scripts)
  toml _ := .ok .other
  yaml _ := .error "missing field"
  split _ := none
  glob _ := .ok ()
  globSet _ := .ok fun _ => false

/-- The identifiers of the scripts are not usable, and discovery fails for it. -/
def ScriptsRejected [Sha2] [Packages] (workspace : Workspace) (message : String) : Prop :=
  ∃ checks error, discoverJavascript workspace = .ok checks ∧ ¬IdsAccepted checks ∧
    discoverChecks workspace cleanSource false [] = .error error ∧
    message.toList <+: error.message.toList

private theorem scriptsRejected_of_decide [Sha2] [Packages] {workspace : Workspace}
    {message : String} (unusable : ((discoverJavascript workspace).toOption.any fun checks =>
      !decide (checks.map CheckDefinition.id).Nodup ||
        checks.any fun check => !validCheckId check.id) = true)
    (fails : ((failureMessage? (discoverChecks workspace cleanSource false [])).any
      fun found => message.toList.isPrefixOf found.toList) = true) :
    ScriptsRejected workspace message := by
  obtain ⟨checks, found, unaccepted⟩ := exists_ok_of_any unusable
  cases rejected : discoverChecks workspace cleanSource false [] with
  | ok report =>
      rw [rejected] at fails
      cases fails
  | error error =>
      rw [rejected] at fails
      refine ⟨checks, error, found, ?_, rejected, List.isPrefixOf_iff_prefix.mp fails⟩
      intro accepted
      have invalid : (checks.any fun check => !validCheckId check.id) = true := by
        simpa [accepted.distinct] using unaccepted
      obtain ⟨check, member, refused⟩ := List.any_eq_true.mp invalid
      rw [accepted.valid check member] at refused
      cases refused

theorem scriptNames_rejected :
    @ScriptsRejected standardSha2 (scriptPackages longScripts) (scriptWorkspace longManifest)
        "invalid check id " ∧
      @ScriptsRejected standardSha2 (scriptPackages imitatingScripts)
        (scriptWorkspace imitatingManifest) "duplicate check id: " := by
  constructor
  · apply @scriptsRejected_of_decide standardSha2 (scriptPackages longScripts)
    · decide +kernel
    · decide +kernel
  · apply @scriptsRejected_of_decide standardSha2 (scriptPackages imitatingScripts)
    · decide +kernel
    · decide +kernel

section Imitating

attribute [local instance] standardSha2

theorem discoverJavascript_idsAccepted_iff_imitating :
    ∃ checks, @discoverJavascript standardSha2 (scriptPackages imitatingScripts)
        (scriptWorkspace imitatingManifest) = .ok checks ∧
      (IdsAccepted checks ↔ NamesFit [] (verificationScripts imitatingScripts.entries)) := by
  obtain ⟨checks, found⟩ := @exists_discoverJavascript standardSha2
    (scriptPackages imitatingScripts) (scriptWorkspace imitatingManifest) imitatingManifest
    (some imitatingScripts) rfl rfl discoverySource_stored
  exact ⟨checks, found, (@discoverJavascript_idsAccepted_iff standardSha2
    (scriptPackages imitatingScripts) (scriptWorkspace imitatingManifest) checks
    imitatingManifest (some imitatingScripts) rfl rfl found).1⟩

end Imitating

end TaskAttest
