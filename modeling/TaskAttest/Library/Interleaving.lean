import TaskAttest.Library.Transition

/-! Programs made of atomic calls, run alone or among others. Between two calls the
others take any number of steps; what each call guarantees composes. -/

set_option autoImplicit false

namespace Interleaving

/-- A program as a tree of calls. What comes after a call depends on how it ended. -/
inductive Calls (Fault State Value : Type) : Type 1 where
  | done (result : Except Fault Value)
  | call {Answer : Type} (action : EStateM Fault State Answer)
      (next : Except Fault Answer → Calls Fault State Value)

variable {Fault State Value Other Answer : Type}

/-- How a call ended, and the state it left. -/
def outcome (action : EStateM Fault State Answer) (state : State) : Except Fault Answer × State :=
  match action state with
  | .ok answer after => (.ok answer, after)
  | .error fault after => (.error fault, after)

namespace Calls

/-- What comes after a program that returns. -/
def andThen : Calls Fault State Value → (Value → Calls Fault State Other) →
    Calls Fault State Other
  | .done (.ok value), next => next value
  | .done (.error fault), _ => .done (.error fault)
  | .call action rest, next => .call action fun answer => (rest answer).andThen next

instance : Monad (Calls Fault State) where
  pure value := .done (.ok value)
  bind := andThen

def lift (result : Except Fault Value) : Calls Fault State Value := .done result

def perform (action : EStateM Fault State Value) : Calls Fault State Value := .call action .done

/-- Make one more call when a program fails, and fail all the same. -/
def onFailure : Calls Fault State Value → EStateM Fault State Unit → Calls Fault State Value
  | .done (.ok value), _ => .done (.ok value)
  | .done (.error fault), cleanup => .call cleanup fun _ => .done (.error fault)
  | .call action rest, cleanup => .call action fun answer => (rest answer).onFailure cleanup

/-- Answer a failure by another result. -/
def handle : Calls Fault State Value → (Fault → Except Fault Value) → Calls Fault State Value
  | .done (.ok value), _ => .done (.ok value)
  | .done (.error fault), answer => .done (answer fault)
  | .call action rest, answer => .call action fun ended => (rest ended).handle answer

/-- A program that nobody interferes with. -/
def alone : Calls Fault State Value → EStateM Fault State Value
  | .done (.ok value) => pure value
  | .done (.error fault) => throw fault
  | .call action next => fun state =>
      (next (outcome action state).1).alone (outcome action state).2

end Calls

/-- An execution among others: the states before and after each call of the program,
its result and the final state. -/
inductive Execution (others : State → State → Prop) : Calls Fault State Value → State →
    List (State × State) → Except Fault Value → State → Prop where
  | done {result : Except Fault Value} {before after : State} :
      Transition.Run others before after → Execution others (.done result) before [] result after
  | call {Answer : Type} {action : EStateM Fault State Answer}
      {next : Except Fault Answer → Calls Fault State Value} {before during after : State}
      {steps : List (State × State)} {result : Except Fault Value} :
      Transition.Run others before during →
      Execution others (next (outcome action during).1) (outcome action during).2 steps result
        after →
      Execution others (.call action next) before ((during, (outcome action during).2) :: steps)
        result after

/-- A fact that a relation never makes false. -/
def Stable (relation : State → State → Prop) (fact : State → Prop) : Prop :=
  ∀ before after, relation before after → fact before → fact after

theorem Stable.run {relation : State → State → Prop} {fact : State → Prop}
    (stable : Stable relation fact) {before after : State}
    (run : Transition.Run relation before after) (initially : fact before) : fact after := by
  apply Transition.run_invariant _ run initially
  intro first second step holds
  exact stable first second step holds

theorem Stable.const (relation : State → State → Prop) (fact : Prop) :
    Stable relation fun _ => fact := fun _ _ _ holds => holds

/-- Started where the condition holds, and whatever the others do, every call of the
program is of one kind, and its result and the final state fit together. -/
def Guarantees (others own : State → State → Prop) (pre : State → Prop)
    (program : Calls Fault State Value) (returns : Value → State → Prop)
    (fails : Fault → State → Prop) : Prop :=
  ∀ ⦃before after : State⦄ ⦃steps : List (State × State)⦄ ⦃result : Except Fault Value⦄,
    pre before → Execution others program before steps result after →
      (∀ step ∈ steps, own step.1 step.2) ∧ (∀ value, result = .ok value → returns value after) ∧
        ∀ fault, result = .error fault → fails fault after

/-- As `Guarantees`, but a program that returns has made one call of a kind of its own. -/
def GuaranteesOnce (others own event : State → State → Prop) (pre : State → Prop)
    (program : Calls Fault State Value) (returns : Value → State → Prop)
    (fails : Fault → State → Prop) : Prop :=
  ∀ ⦃before after : State⦄ ⦃steps : List (State × State)⦄ ⦃result : Except Fault Value⦄,
    pre before → Execution others program before steps result after →
      (∀ value, result = .ok value → returns value after ∧ ∃ first step rest,
        steps = first ++ step :: rest ∧ event step.1 step.2 ∧
          ∀ other ∈ first ++ rest, own other.1 other.2) ∧
        ∀ fault, result = .error fault → fails fault after ∧ ∀ step ∈ steps, own step.1 step.2

section Executions

variable {others own : State → State → Prop}

/-! Programs that run alone -/

namespace Calls

@[simp] theorem alone_pure (value : Value) :
    (pure value : Calls Fault State Value).alone = pure value := rfl

@[simp] theorem alone_lift_ok (value : Value) :
    (lift (.ok value) : Calls Fault State Value).alone = pure value := rfl

@[simp] theorem alone_lift_error (fault : Fault) :
    (lift (.error fault) : Calls Fault State Value).alone = throw fault := rfl

@[simp] theorem alone_perform (action : EStateM Fault State Value) :
    (perform action).alone = action := by
  funext state
  simp only [perform, alone, outcome]
  cases action state <;> rfl

@[simp] theorem alone_onFailure (program : Calls Fault State Value)
    (cleanup : EStateM Fault State Unit) (state : State) :
    (program.onFailure cleanup).alone state =
      match program.alone state with
      | .ok value after => .ok value after
      | .error fault after => .error fault (outcome cleanup after).2 := by
  induction program generalizing state with
  | done result =>
      cases result with
      | ok value => rfl
      | error fault => rfl
  | call action rest ih => exact ih (outcome action state).1 (outcome action state).2

@[simp] theorem alone_handle (program : Calls Fault State Value)
    (answer : Fault → Except Fault Value) (state : State) :
    (program.handle answer).alone state =
      match program.alone state with
      | .ok value after => .ok value after
      | .error fault after => (lift (answer fault)).alone after := by
  induction program generalizing state with
  | done result =>
      cases result with
      | ok value => rfl
      | error fault => rfl
  | call action rest ih => exact ih (outcome action state).1 (outcome action state).2

@[simp] theorem alone_bind (program : Calls Fault State Value)
    (next : Value → Calls Fault State Other) :
    (program >>= next).alone = program.alone >>= fun value => (next value).alone := by
  induction program with
  | done result =>
      cases result with
      | ok value => rfl
      | error fault => rfl
  | call action rest ih =>
      funext state
      exact congrFun (ih (outcome action state).1) (outcome action state).2

end Calls

/-- A program that runs alone is an execution in which the others do nothing. -/
theorem execution_alone (program : Calls Fault State Value) (state : State) : ∃ steps,
    Execution others program state steps (outcome program.alone state).1
      (outcome program.alone state).2 := by
  induction program generalizing state with
  | done result =>
      cases result with
      | ok value => exact ⟨[], .done .refl⟩
      | error fault => exact ⟨[], .done .refl⟩
  | call action next ih =>
      obtain ⟨steps, executed⟩ := ih (outcome action state).1 (outcome action state).2
      exact ⟨_, .call .refl executed⟩

theorem execution_bind {program : Calls Fault State Value}
    {next : Value → Calls Fault State Other} {before after : State}
    {steps : List (State × State)} {result : Except Fault Other}
    (executed : Execution others (program >>= next) before steps result after) :
    (∃ value between first rest, Execution others program before first (.ok value) between ∧
      Execution others (next value) between rest result after ∧ steps = first ++ rest) ∨
    ∃ fault, Execution others program before steps (.error fault) after ∧
      result = .error fault := by
  induction program generalizing before steps with
  | done outcome =>
      cases outcome with
      | ok value => exact .inl ⟨value, before, [], steps, .done .refl, executed, rfl⟩
      | error fault =>
          cases executed with
          | done idle => exact .inr ⟨fault, .done idle, rfl⟩
  | call action rest ih =>
      cases executed with
      | call idle continued =>
          rcases ih _ continued with ⟨value, between, first, later, ran, others, rfl⟩ |
            ⟨fault, ran, failed⟩
          · exact .inl ⟨value, between, _ :: first, later, .call idle ran, others, rfl⟩
          · exact .inr ⟨fault, .call idle ran, failed⟩

theorem execution_perform {action : EStateM Fault State Value} {before after : State}
    {steps : List (State × State)} {result : Except Fault Value}
    (executed : Execution others (.perform action) before steps result after) :
    ∃ during, Transition.Run others before during ∧ result = (outcome action during).1 ∧
      steps = [(during, (outcome action during).2)] ∧
      Transition.Run others (outcome action during).2 after := by
  cases executed with
  | call idle ended =>
      cases ended with
      | done later => exact ⟨_, idle, rfl, rfl, later⟩

theorem execution_lift {result outcome : Except Fault Value} {before after : State}
    {steps : List (State × State)}
    (executed : Execution others (.lift outcome) before steps result after) :
    result = outcome ∧ steps = [] ∧ Transition.Run others before after := by
  cases executed with
  | done idle => exact ⟨rfl, rfl, idle⟩

private theorem execution_onFailure {program : Calls Fault State Value}
    {cleanup : EStateM Fault State Unit}
    {before after : State} {steps : List (State × State)} {result : Except Fault Value}
    (executed : Execution others (program.onFailure cleanup) before steps result after) :
    (∃ value, Execution others program before steps (.ok value) after ∧ result = .ok value) ∨
    ∃ fault during first, Execution others program before first (.error fault) during ∧
      steps = first ++ [(during, (outcome cleanup during).2)] ∧
      Transition.Run others (outcome cleanup during).2 after ∧ result = .error fault := by
  induction program generalizing before steps with
  | done ended =>
      cases ended with
      | ok value =>
          cases executed with
          | done idle => exact .inl ⟨value, .done idle, rfl⟩
      | error fault =>
          cases executed with
          | call idle ended =>
              cases ended with
              | done later => exact .inr ⟨fault, _, [], .done idle, rfl, later, rfl⟩
  | call action rest ih =>
      cases executed with
      | call idle continued =>
          rcases ih _ continued with ⟨value, ran, returned⟩ |
            ⟨fault, during, first, ran, rfl, later, failed⟩
          · exact .inl ⟨value, .call idle ran, returned⟩
          · exact .inr ⟨fault, during, _ :: first, .call idle ran, rfl, later, failed⟩

theorem execution_handle {program : Calls Fault State Value} {answer : Fault → Except Fault Value}
    {before after : State} {steps : List (State × State)} {result : Except Fault Value}
    (executed : Execution others (program.handle answer) before steps result after) :
    (∃ value, Execution others program before steps (.ok value) after ∧ result = .ok value) ∨
    ∃ fault, Execution others program before steps (.error fault) after ∧
      result = answer fault := by
  induction program generalizing before steps with
  | done ended =>
      cases ended with
      | ok value =>
          cases executed with
          | done idle => exact .inl ⟨value, .done idle, rfl⟩
      | error fault =>
          cases executed with
          | done idle => exact .inr ⟨fault, .done idle, rfl⟩
  | call action rest ih =>
      cases executed with
      | call idle continued =>
          rcases ih _ continued with ⟨value, ran, returned⟩ | ⟨fault, ran, answered⟩
          · exact .inl ⟨value, .call idle ran, returned⟩
          · exact .inr ⟨fault, .call idle ran, answered⟩

/-- A fact that neither the calls nor the others make false holds to the end. -/
theorem execution_stable {fact : State → Prop} {program : Calls Fault State Value}
    {before after : State} {steps : List (State × State)} {result : Except Fault Value}
    (executed : Execution others program before steps result after)
    (guaranteed : ∀ step ∈ steps, own step.1 step.2) (stable : Stable others fact)
    (kept : Stable own fact) (initially : fact before) : fact after := by
  induction executed with
  | done idle => exact stable.run idle initially
  | call idle _ ih =>
      have during := stable.run idle initially
      have called := kept _ _ (guaranteed _ (List.mem_cons_self ..)) during
      exact ih (fun step member => guaranteed step (List.mem_cons_of_mem _ member)) called

/-- Such a fact holds before and after every call. -/
theorem execution_holds {fact : State → Prop} {program : Calls Fault State Value}
    {before after : State} {steps : List (State × State)} {result : Except Fault Value}
    (executed : Execution others program before steps result after)
    (guaranteed : ∀ step ∈ steps, own step.1 step.2) (stable : Stable others fact)
    (kept : Stable own fact) (initially : fact before) :
    ∀ step ∈ steps, fact step.1 ∧ fact step.2 := by
  induction executed with
  | done idle => exact List.forall_mem_nil _
  | call idle _ ih =>
      have during := stable.run idle initially
      have called := kept _ _ (guaranteed _ (List.mem_cons_self ..)) during
      intro step member
      rcases List.mem_cons.mp member with first | later
      · rw [first]
        exact ⟨during, called⟩
      · exact ih (fun step member => guaranteed step (List.mem_cons_of_mem _ member)) called step
          later

/-- What happens among some parties may happen among more. -/
theorem Execution.widen {wider : State → State → Prop} {program : Calls Fault State Value}
    {before after : State} {steps : List (State × State)} {result : Except Fault Value}
    (executed : Execution others program before steps result after)
    (wide : ∀ before after, others before after → wider before after) :
    Execution wider program before steps result after := by
  induction executed with
  | done idle => exact .done (Relation.ReflTransGen.mono wide _ _ idle)
  | call idle _ ih => exact .call (Relation.ReflTransGen.mono wide _ _ idle) ih

/-- The others may act before a program does. -/
theorem Execution.after {program : Calls Fault State Value} {earlier before after : State}
    {steps : List (State × State)} {result : Except Fault Value}
    (idle : Transition.Run others earlier before)
    (executed : Execution others program before steps result after) :
    Execution others program earlier steps result after := by
  cases executed with
  | done rest => exact .done (idle.trans rest)
  | call rest continued => exact .call (idle.trans rest) continued

/-- An execution of one program is continued by an execution of the next. -/
theorem Execution.bind {program : Calls Fault State Value} {value : Value}
    {next : Value → Calls Fault State Other} {before between after : State}
    {first rest : List (State × State)} {result : Except Fault Other}
    (executed : Execution others program before first (.ok value) between)
    (continued : Execution others (next value) between rest result after) :
    Execution others (program >>= next) before (first ++ rest) result after := by
  induction program generalizing before first with
  | done outcome =>
      cases executed with
      | done idle => exact continued.after idle
  | call action later ih =>
      cases executed with
      | call idle ran => exact .call idle (ih _ ran)

/-! Rules -/

namespace Guarantees

variable {pre between : State → Prop} {program : Calls Fault State Value}
  {returns : Value → State → Prop} {fails : Fault → State → Prop}

theorem pure (value : Value) (stable : Stable others (returns value))
    (holds : ∀ state, pre state → returns value state) :
    Guarantees others own pre (Pure.pure value) returns fails := by
  intro before after steps result initially executed
  obtain ⟨rfl, rfl, idle⟩ := execution_lift executed
  refine ⟨List.forall_mem_nil _, ?_, (fun fault failed => by cases failed)⟩
  intro other same
  cases same
  exact stable.run idle (holds _ initially)

theorem lift (result : Except Fault Value) (stable : ∀ value, Stable others (returns value))
    (stableFails : ∀ fault, Stable others (fails fault))
    (holds : ∀ value state, result = .ok value → pre state → returns value state)
    (failing : ∀ fault state, result = .error fault → pre state → fails fault state) :
    Guarantees others own pre (.lift result) returns fails := by
  intro before after steps outcome initially executed
  obtain ⟨rfl, rfl, idle⟩ := execution_lift executed
  refine ⟨List.forall_mem_nil _, ?_, ?_⟩
  · intro value same
    exact (stable value).run idle (holds value _ same initially)
  · intro fault same
    exact (stableFails fault).run idle (failing fault _ same initially)

theorem perform {action : EStateM Fault State Value} (stablePre : Stable others pre)
    (stable : ∀ value, Stable others (returns value))
    (stableFails : ∀ fault, Stable others (fails fault))
    (called : ∀ state, pre state → own state (outcome action state).2)
    (holds : ∀ value before after, pre before → action before = .ok value after →
      returns value after)
    (failing : ∀ fault before after, pre before → action before = .error fault after →
      fails fault after) :
    Guarantees others own pre (.perform action) returns fails := by
  intro before after steps result initially executed
  obtain ⟨during, idle, rfl, rfl, later⟩ := execution_perform executed
  have ready := stablePre.run idle initially
  refine ⟨?_, ?_, ?_⟩
  · intro step member
    rw [List.mem_singleton.mp member]
    exact called during ready
  · intro value returned
    refine (stable value).run later ?_
    cases ran : action during with
    | ok answer left =>
        simp only [outcome, ran, Except.ok.injEq] at returned ⊢
        subst returned
        exact holds answer during left ready ran
    | error fault left =>
        simp only [outcome, ran, reduceCtorEq] at returned
  · intro fault failed
    refine (stableFails fault).run later ?_
    cases ran : action during with
    | ok answer left =>
        simp only [outcome, ran, reduceCtorEq] at failed
    | error found left =>
        simp only [outcome, ran, Except.error.injEq] at failed ⊢
        subst failed
        exact failing found during left ready ran

theorem bind {next : Value → Calls Fault State Other} {finishes : Other → State → Prop}
    (first : Guarantees others own pre program returns fails)
    (later : ∀ value, Guarantees others own (returns value) (next value) finishes fails) :
    Guarantees others own pre (program >>= next) finishes fails := by
  intro before after steps result initially executed
  rcases execution_bind executed with ⟨value, state, earlier, rest, ran, continued, rfl⟩ |
    ⟨fault, ran, rfl⟩
  · obtain ⟨calls, returned, _⟩ := first initially ran
    obtain ⟨others, ends⟩ := later value (returned value rfl) continued
    refine ⟨?_, ends⟩
    intro step member
    rcases List.mem_append.mp member with inFirst | inRest
    · exact calls step inFirst
    · exact others step inRest
  · obtain ⟨calls, _, failed⟩ := first initially ran
    refine ⟨calls, (fun value same => by cases same), ?_⟩
    intro other same
    cases same
    exact failed fault rfl

theorem widen {wider : State → State → Prop}
    (guarantee : Guarantees others own pre program returns fails)
    (wide : ∀ before after, own before after → wider before after) :
    Guarantees others wider pre program returns fails := by
  intro before after steps result initially executed
  obtain ⟨calls, ends⟩ := guarantee initially executed
  exact ⟨fun step member => wide _ _ (calls step member), ends⟩

theorem weaken {weaker : State → Prop} {claims : Value → State → Prop}
    {faults : Fault → State → Prop} (guarantee : Guarantees others own pre program returns fails)
    (implies : ∀ state, weaker state → pre state)
    (holds : ∀ value state, returns value state → claims value state)
    (failing : ∀ fault state, fails fault state → faults fault state) :
    Guarantees others own weaker program claims faults := by
  intro before after steps result initially executed
  obtain ⟨calls, returned, failed⟩ := guarantee (implies before initially) executed
  exact ⟨calls, fun value same => holds value after (returned value same),
    fun fault same => failing fault after (failed fault same)⟩

theorem anywhere (guarantee : Guarantees others own (fun _ => True) program returns fails) :
    Guarantees others own pre program returns fails :=
  fun _ _ _ _ _ executed => guarantee trivial executed

/-- What the condition implies whatever the state may be used from the start. -/
theorem assuming {fact : Prop} (implied : ∀ state, pre state → fact)
    (guarantee : fact → Guarantees others own pre program returns fails) :
    Guarantees others own pre program returns fails :=
  fun _ _ _ _ initially executed => guarantee (implied _ initially) initially executed

/-- A condition that holds for some index may be used for each. -/
theorem choose {Index : Type} {condition : Index → State → Prop}
    (each : ∀ index, Guarantees others own (condition index) program returns fails) :
    Guarantees others own (fun state => ∃ index, condition index state) program returns fails := by
  intro before after steps result initially executed
  obtain ⟨index, holds⟩ := initially
  exact each index holds executed

/-- What is known of the value whatever the state is known in what follows. -/
theorem bindKnowing {next : Value → Calls Fault State Other} {finishes : Other → State → Prop}
    {claims : Value → Prop}
    (first : Guarantees others own pre program (fun value _ => claims value) fails)
    (later : ∀ value, claims value →
      Guarantees others own (fun _ => True) (next value) finishes fails) :
    Guarantees others own pre (program >>= next) finishes fails := by
  apply bind first
  intro value before after steps result known executed
  exact later value known trivial executed

/-- The same beside a fact that is carried along. -/
theorem bindCarrying {next : Value → Calls Fault State Other} {finishes : Other → State → Prop}
    {claims : Value → Prop}
    (first : Guarantees others own pre program (fun value state => claims value ∧ pre state) fails)
    (later : ∀ value, claims value → Guarantees others own pre (next value) finishes fails) :
    Guarantees others own pre (program >>= next) finishes fails := by
  apply bind first
  intro value before after steps result known executed
  exact later value known.1 known.2 executed

/-- What neither the calls nor the others make false may be carried along. -/
theorem frame {fact : State → Prop} (stable : Stable others fact) (kept : Stable own fact)
    (guarantee : Guarantees others own pre program returns fails) :
    Guarantees others own (fun state => pre state ∧ fact state) program
      (fun value state => returns value state ∧ fact state)
      (fun fault state => fails fault state ∧ fact state) := by
  intro before after steps result initially executed
  obtain ⟨calls, returned, failed⟩ := guarantee initially.1 executed
  have still : fact after := execution_stable executed calls stable kept initially.2
  exact ⟨calls, fun value same => ⟨returned value same, still⟩,
    fun fault same => ⟨failed fault same, still⟩⟩

theorem onFailure {cleanup : EStateM Fault State Unit} {failing : Fault → State → Prop}
    (first : Guarantees others own pre program returns failing)
    (stable : ∀ fault, Stable others (fails fault))
    (cleaned : ∀ fault state, failing fault state →
      own state (outcome cleanup state).2 ∧ fails fault (outcome cleanup state).2) :
    Guarantees others own pre (program.onFailure cleanup) returns fails := by
  intro before after steps result initially executed
  rcases execution_onFailure executed with ⟨value, ran, rfl⟩ |
    ⟨fault, during, earlier, ran, rfl, later, rfl⟩
  · obtain ⟨calls, returned, _⟩ := first initially ran
    exact ⟨calls, returned, fun fault same => by cases same⟩
  · obtain ⟨calls, _, failed⟩ := first initially ran
    obtain ⟨called, left⟩ := cleaned fault during (failed fault rfl)
    refine ⟨?_, (fun value same => by cases same), ?_⟩
    · intro step member
      rcases List.mem_append.mp member with inFirst | inLast
      · exact calls step inFirst
      · rw [List.mem_singleton.mp inLast]
        exact called
    · intro other same
      cases same
      exact (stable fault).run later left

/-- A failure may be answered by another, but not by a value. -/
theorem handle {answer : Fault → Except Fault Value}
    (first : Guarantees others own pre program returns fun _ _ => True)
    (failing : ∀ fault, ∃ other, answer fault = .error other) :
    Guarantees others own pre (program.handle answer) returns fun _ _ => True := by
  intro before after steps result initially executed
  rcases execution_handle executed with ⟨value, ran, rfl⟩ | ⟨fault, ran, rfl⟩
  · exact first initially ran
  · obtain ⟨calls, _, _⟩ := first initially ran
    obtain ⟨other, answered⟩ := failing fault
    refine ⟨calls, ?_, fun _ _ => trivial⟩
    intro value same
    rw [answered] at same
    cases same

end Guarantees

namespace GuaranteesOnce

variable {event : State → State → Prop} {pre between : State → Prop}
  {program : Calls Fault State Value} {returns : Value → State → Prop}
  {fails : Fault → State → Prop}

/-- One call, which is the event when it returns. -/
theorem perform {action : EStateM Fault State Value} (stablePre : Stable others pre)
    (stable : ∀ value, Stable others (returns value))
    (stableFails : ∀ fault, Stable others (fails fault))
    (holds : ∀ value before after, pre before → action before = .ok value after →
      returns value after ∧ event before after)
    (failing : ∀ fault before after, pre before → action before = .error fault after →
      fails fault after ∧ own before after) :
    GuaranteesOnce others own event pre (.perform action) returns fails := by
  intro before after steps result initially executed
  obtain ⟨during, idle, rfl, rfl, later⟩ := execution_perform executed
  have ready := stablePre.run idle initially
  cases ran : action during with
  | ok answer left =>
      obtain ⟨returned, happened⟩ := holds answer during left ready ran
      simp only [outcome, ran] at later ⊢
      refine ⟨?_, (fun fault same => by cases same)⟩
      intro value same
      cases same
      exact ⟨(stable answer).run later returned, [], _, [], rfl, happened, List.forall_mem_nil _⟩
  | error found left =>
      obtain ⟨failed, called⟩ := failing found during left ready ran
      simp only [outcome, ran] at later ⊢
      refine ⟨(fun value same => by cases same), ?_⟩
      intro fault same
      cases same
      refine ⟨(stableFails found).run later failed, ?_⟩
      intro step member
      rw [List.mem_singleton.mp member]
      exact called

/-- The event comes in the second program. -/
theorem after {next : Value → Calls Fault State Other} {finishes : Other → State → Prop}
    (first : Guarantees others own pre program returns fails)
    (later : ∀ value, GuaranteesOnce others own event (returns value) (next value) finishes fails) :
    GuaranteesOnce others own event pre (program >>= next) finishes fails := by
  intro before after steps result initially executed
  rcases execution_bind executed with ⟨value, state, earlier, rest, ran, continued, rfl⟩ |
    ⟨fault, ran, rfl⟩
  · obtain ⟨calls, returned, _⟩ := first initially ran
    obtain ⟨finished, failed⟩ := later value (returned value rfl) continued
    refine ⟨?_, ?_⟩
    · intro other same
      obtain ⟨finishes, front, step, back, rfl, happened, quiet⟩ := finished other same
      refine ⟨finishes, earlier ++ front, step, back, by simp, happened, ?_⟩
      intro found member
      rw [List.append_assoc] at member
      rcases List.mem_append.mp member with inEarlier | inRest
      · exact calls found inEarlier
      · exact quiet found inRest
    · intro fault same
      obtain ⟨fails, quiet⟩ := failed fault same
      refine ⟨fails, ?_⟩
      intro found member
      rcases List.mem_append.mp member with inEarlier | inRest
      · exact calls found inEarlier
      · exact quiet found inRest
  · obtain ⟨calls, _, failed⟩ := first initially ran
    refine ⟨(fun value same => by cases same), ?_⟩
    intro other same
    cases same
    exact ⟨failed fault rfl, calls⟩

/-- What is known of the value whatever the state is known in what follows. -/
theorem afterKnowing {next : Value → Calls Fault State Other} {finishes : Other → State → Prop}
    {claims : Value → Prop}
    (first : Guarantees others own pre program (fun value _ => claims value) fails)
    (later : ∀ value, claims value →
      GuaranteesOnce others own event (fun _ => True) (next value) finishes fails) :
    GuaranteesOnce others own event pre (program >>= next) finishes fails := by
  apply after first
  intro value before after steps result known executed
  exact later value known trivial executed

/-- The event comes in the first program, and the second always returns. -/
theorem before {next : Value → Calls Fault State Other} {finishes : Other → State → Prop}
    (first : GuaranteesOnce others own event pre program returns fails)
    (later : ∀ value, Guarantees others own (returns value) (next value) finishes
      fun _ _ => False) :
    GuaranteesOnce others own event pre (program >>= next) finishes fails := by
  intro before after steps result initially executed
  rcases execution_bind executed with ⟨value, state, earlier, rest, ran, continued, rfl⟩ |
    ⟨fault, ran, rfl⟩
  · obtain ⟨returned, _⟩ := first initially ran
    obtain ⟨holds, front, step, back, rfl, happened, quiet⟩ := returned value rfl
    obtain ⟨calls, finished, never⟩ := later value holds continued
    refine ⟨?_, fun fault same => (never fault same).elim⟩
    intro other same
    refine ⟨finished other same, front, step, back ++ rest, by simp, happened, ?_⟩
    intro found member
    rw [← List.append_assoc] at member
    rcases List.mem_append.mp member with inFirst | inRest
    · exact quiet found inFirst
    · exact calls found inRest
  · obtain ⟨_, failed⟩ := first initially ran
    refine ⟨(fun value same => by cases same), ?_⟩
    intro other same
    cases same
    exact failed fault rfl

theorem onFailure {cleanup : EStateM Fault State Unit} {failing : Fault → State → Prop}
    (first : GuaranteesOnce others own event pre program returns failing)
    (stable : ∀ fault, Stable others (fails fault))
    (cleaned : ∀ fault state, failing fault state →
      own state (outcome cleanup state).2 ∧ fails fault (outcome cleanup state).2) :
    GuaranteesOnce others own event pre (program.onFailure cleanup) returns fails := by
  intro before after steps result initially executed
  rcases execution_onFailure executed with ⟨value, ran, rfl⟩ |
    ⟨fault, during, earlier, ran, rfl, later, rfl⟩
  · obtain ⟨returned, _⟩ := first initially ran
    exact ⟨returned, fun fault same => by cases same⟩
  · obtain ⟨_, failed⟩ := first initially ran
    obtain ⟨holds, quiet⟩ := failed fault rfl
    obtain ⟨called, left⟩ := cleaned fault during holds
    refine ⟨(fun value same => by cases same), ?_⟩
    intro other same
    cases same
    refine ⟨(stable fault).run later left, ?_⟩
    intro step member
    rcases List.mem_append.mp member with inFirst | inLast
    · exact quiet step inFirst
    · rw [List.mem_singleton.mp inLast]
      exact called

end GuaranteesOnce

end Executions

end Interleaving
