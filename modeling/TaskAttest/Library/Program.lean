/-! Programs that may fail: what a successful run of a composition says, with and
without a state that is kept on failure, and what a loop over a list preserves. -/

set_option autoImplicit false

namespace Program

variable {Fault State First Second : Type}

theorem bind_ok_iff {program : EStateM Fault State First}
    {next : First → EStateM Fault State Second} {before after : State} {value : Second} :
    (program >>= next) before = .ok value after ↔
      ∃ result between, program before = .ok result between ∧
        next result between = .ok value after := by
  simp only [bind, EStateM.bind]
  cases program before with
  | ok result between =>
      constructor
      · intro ran
        exact ⟨result, between, rfl, ran⟩
      · intro ran
        obtain ⟨_, _, ⟨⟩, ran⟩ := ran
        exact ran
  | error fault between => simp

@[simp] theorem pure_apply (value : First) (state : State) :
    (pure value : EStateM Fault State First) state = .ok value state := rfl

@[simp] theorem modify_apply (update : State → State) (state : State) :
    (modify update : EStateM Fault State Unit) state = .ok () (update state) := rfl

@[simp] theorem throw_apply (fault : Fault) (state : State) :
    (throw fault : EStateM Fault State First) state = .error fault state := rfl

theorem bind_of_ok {program : EStateM Fault State First}
    {next : First → EStateM Fault State Second} {before between : State} {result : First}
    (ran : program before = .ok result between) :
    (program >>= next) before = next result between := by
  simp only [bind, EStateM.bind, ran]

theorem bind_of_error {program : EStateM Fault State First}
    {next : First → EStateM Fault State Second} {before between : State} {fault : Fault}
    (failed : program before = .error fault between) :
    (program >>= next) before = .error fault between := by
  simp only [bind, EStateM.bind, failed]

/-! What a program keeps, however it ends -/

/-- The state a program ends in. -/
def finalState (program : EStateM Fault State First) (before : State) : State :=
  match program before with
  | .ok _ after => after
  | .error _ after => after

theorem finalState_of_ok {program : EStateM Fault State First} {before after : State}
    {value : First} (ran : program before = .ok value after) :
    finalState program before = after := by rw [finalState, ran]

theorem finalState_of_error {program : EStateM Fault State First} {before after : State}
    {fault : Fault} (ran : program before = .error fault after) :
    finalState program before = after := by rw [finalState, ran]

/-- The state a program ends in is related to the one it starts in. -/
def Framed (Kept : State → State → Prop) (program : EStateM Fault State First) : Prop :=
  ∀ before, Kept before (finalState program before)

namespace Framed

variable {Kept : State → State → Prop}

theorem pure (reflexive : ∀ state, Kept state state) (value : First) :
    Framed Kept (Pure.pure value : EStateM Fault State First) := fun before => reflexive before

theorem throw (reflexive : ∀ state, Kept state state) (fault : Fault) :
    Framed Kept (MonadExcept.throw fault : EStateM Fault State First) :=
  fun before => reflexive before

theorem bind (transitive : ∀ {first second third}, Kept first second → Kept second third →
      Kept first third) {program : EStateM Fault State First}
    {next : First → EStateM Fault State Second} (framed : Framed Kept program)
    (later : ∀ value, Framed Kept (next value)) : Framed Kept (program >>= next) := by
  intro before
  have first := framed before
  cases ran : program before with
  | ok value between =>
      rw [finalState_of_ok ran] at first
      have second := later value between
      rw [finalState, bind_of_ok ran]
      exact transitive first second
  | error fault between =>
      rw [finalState_of_error ran] at first
      rw [finalState_of_error (bind_of_error ran)]
      exact first

theorem mono {Weaker : State → State → Prop} {program : EStateM Fault State First}
    (framed : Framed Kept program)
    (weaker : ∀ {before after}, Kept before after → Weaker before after) :
    Framed Weaker program := fun before => weaker (framed before)

theorem ite {condition : Prop} [Decidable condition] {yes no : EStateM Fault State First}
    (whenTrue : Framed Kept yes) (whenFalse : Framed Kept no) :
    Framed Kept (if condition then yes else no) := by
  split
  · exact whenTrue
  · exact whenFalse

end Framed

/-! Two programs side by side -/

section Related

variable {Same : State → State → Prop} {Third Fourth : Type} {Alike : First → Second → Prop}

/-- Ends of two runs: both returned alike values, or both failed in one way. -/
inductive Ends (Same : State → State → Prop) (Alike : First → Second → Prop) :
    EStateM.Result Fault State First → EStateM.Result Fault State Second → Prop where
  | ok {value : First} {other : Second} {after beside : State} : Alike value other →
      Same after beside → Ends Same Alike (.ok value after) (.ok other beside)
  | error {fault : Fault} {after beside : State} : Same after beside →
      Ends Same Alike (.error fault after) (.error fault beside)

/-- From states that are the same in some respect, two programs end alike. -/
def Related (Same : State → State → Prop) (Alike : First → Second → Prop)
    (program : EStateM Fault State First) (other : EStateM Fault State Second) : Prop :=
  ∀ before beside, Same before beside → Ends Same Alike (program before) (other beside)

theorem Related.pure {value : First} {other : Second} (alike : Alike value other) :
    Related Same Alike (pure value : EStateM Fault State First) (pure other) :=
  fun _ _ same => .ok alike same

theorem Related.throw (fault : Fault) :
    Related Same Alike (throw fault : EStateM Fault State First) (throw fault) :=
  fun _ _ same => .error same

theorem Related.bind {program : EStateM Fault State First} {other : EStateM Fault State Second}
    {next : First → EStateM Fault State Third} {otherNext : Second → EStateM Fault State Fourth}
    {AlikeNext : Third → Fourth → Prop} (related : Related Same Alike program other)
    (continued : ∀ value otherValue, Alike value otherValue →
      Related Same AlikeNext (next value) (otherNext otherValue)) :
    Related Same AlikeNext (program >>= next) (other >>= otherNext) := by
  intro before beside same
  have ends := related before beside same
  simp only [Bind.bind, EStateM.bind]
  cases ran : program before <;> cases otherRan : other beside <;> rw [ran, otherRan] at ends <;>
    cases ends
  · rename_i alike after
    exact continued _ _ alike _ _ after
  · rename_i after
    exact .error after

end Related

/-! Without a state -/

variable {Input : Type}

theorem except_bind_ok_iff {program : Except Fault First} {next : First → Except Fault Second}
    {value : Second} :
    (program >>= next) = .ok value ↔ ∃ result, program = .ok result ∧ next result = .ok value := by
  cases program with
  | ok result => simp [bind, Except.bind]
  | error fault => simp [bind, Except.bind]

@[simp] theorem except_pure_ok_iff {result value : First} :
    (pure result : Except Fault First) = .ok value ↔ result = value := by
  simp [pure, Except.pure]

/-- A computation whose value passes a test has a value. -/
theorem exists_ok_of_any {result : Except Fault First} {test : First → Bool}
    (passes : result.toOption.any test = true) :
    ∃ value, result = .ok value ∧ test value = true := by
  cases result with
  | ok value => exact ⟨value, rfl, passes⟩
  | error fault => cases passes

/-! Failures of one kind -/

/-- Every failure of a computation is of one kind. -/
def FailsWith (kind : Fault → Prop) (result : Except Fault First) : Prop :=
  ∀ fault, result = .error fault → kind fault

namespace FailsWith

variable {kind : Fault → Prop} {Cause : Type}

theorem ok (value : First) : FailsWith kind (.ok value : Except Fault First) :=
  fun _ failed => by cases failed

theorem pure (value : First) : FailsWith kind (Pure.pure value : Except Fault First) := ok value

theorem error {fault : Fault} (holds : kind fault) :
    FailsWith kind (.error fault : Except Fault First) := fun _ failed => by
  cases failed
  exact holds

theorem throw {fault : Fault} (holds : kind fault) :
    FailsWith kind (MonadExcept.throw fault : Except Fault First) := error holds

theorem bind {program : Except Fault First} {next : First → Except Fault Second}
    (first : FailsWith kind program) (later : ∀ value, FailsWith kind (next value)) :
    FailsWith kind (program >>= next) := by
  cases program with
  | ok value => exact later value
  | error fault => exact error (first fault rfl)

theorem map {program : Except Fault First} (convert : First → Second)
    (first : FailsWith kind program) : FailsWith kind (program.map convert) := by
  cases program with
  | ok value => exact ok _
  | error fault => exact error (first fault rfl)

theorem mapError {program : Except Cause First} {convert : Cause → Fault}
    (converted : ∀ cause, kind (convert cause)) : FailsWith kind (program.mapError convert) := by
  cases program with
  | ok value => exact ok _
  | error cause => exact error (converted cause)

theorem ite {condition : Prop} [Decidable condition] {yes no : Except Fault First}
    (whenTrue : FailsWith kind yes) (whenFalse : FailsWith kind no) :
    FailsWith kind (if condition then yes else no) := by
  split
  · exact whenTrue
  · exact whenFalse

/-- The same of a result that comes with something else. -/
theorem of_fst {Rest : Type} {result : Except Fault First × Rest} {fault : Fault} {rest : Rest}
    (kinds : FailsWith kind result.1) (failed : result = (.error fault, rest)) : kind fault :=
  kinds fault (congrArg Prod.fst failed)

theorem mapM {program : Input → Except Fault First} (each : ∀ input, FailsWith kind (program input))
    (inputs : List Input) : FailsWith kind (inputs.mapM program) := by
  induction inputs with
  | nil => exact pure []
  | cons input rest ih =>
      rw [List.mapM_cons]
      exact bind (each input) fun _ => bind ih fun _ => pure _

end FailsWith

/-- A relation that each turn extends is extended by the whole loop. -/
theorem foldlM_extend {turn : State → Input → Except Fault State}
    (Relates : List Input → State → State → Prop)
    (extend : ∀ {input rest first second third}, turn first input = .ok second →
      Relates rest second third → Relates (input :: rest) first third)
    {inputs rest : List Input} {first second third : State}
    (ran : inputs.foldlM turn first = .ok second) (later : Relates rest second third) :
    Relates (inputs ++ rest) first third := by
  induction inputs generalizing first with
  | nil =>
      rw [List.foldlM_nil, except_pure_ok_iff] at ran
      rw [ran]
      exact later
  | cons input inputs ih =>
      rw [List.foldlM_cons, except_bind_ok_iff] at ran
      obtain ⟨between, turned, others⟩ := ran
      exact extend turned (ih others)

end Program
