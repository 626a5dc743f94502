import TaskAttest.Library.Interleaving

/-! Any number of programs over one shared part of their states, one call at a time and
in any order. Each may stop for ever between two calls. -/

set_option autoImplicit false

namespace Interleaving

variable {Fault State Value Shared Index : Type}

/-- How far a program has come among others: the states before and after each call it has
made, what is left of it, and the state now. -/
inductive Progress (others : State → State → Prop) : Calls Fault State Value → State →
    List (State × State) → Calls Fault State Value → State → Prop where
  | waiting {program : Calls Fault State Value} {before now : State} :
      Transition.Run others before now → Progress others program before [] program now
  | call {Answer : Type} {action : EStateM Fault State Answer}
      {next : Except Fault Answer → Calls Fault State Value} {before during now : State}
      {steps : List (State × State)} {rest : Calls Fault State Value} :
      Transition.Run others before during →
      Progress others (next (outcome action during).1) (outcome action during).2 steps rest now →
      Progress others (.call action next) before ((during, (outcome action during).2) :: steps)
        rest now

namespace Progress

variable {others own : State → State → Prop} {program rest : Calls Fault State Value}
  {before now after : State} {steps later : List (State × State)}

private theorem interfere (progress : Progress others program before steps rest now)
    (step : others now after) : Progress others program before steps rest after := by
  induction progress with
  | waiting idle => exact .waiting (idle.tail step)
  | call idle _ ih => exact .call idle (ih step)

theorem step {Answer : Type} {action : EStateM Fault State Answer}
    {next : Except Fault Answer → Calls Fault State Value}
    (progress : Progress others program before steps (.call action next) now) :
    Progress others program before (steps ++ [(now, (outcome action now).2)])
      (next (outcome action now).1) (outcome action now).2 := by
  generalize left : Calls.call action next = rest at progress
  induction progress with
  | waiting idle =>
      rw [← left]
      exact .call idle (.waiting .refl)
  | call idle _ ih => exact .call idle (ih left)

/-- What is left of a program continues what it has done. -/
theorem continued (progress : Progress others program before steps rest now)
    {result : Except Fault Value} (executed : Execution others rest now later result after) :
    Execution others program before (steps ++ later) result after := by
  induction progress with
  | waiting idle =>
      cases executed with
      | done more => exact .done (idle.trans more)
      | call more continued => exact .call (idle.trans more) continued
  | call idle _ ih => exact .call idle (ih executed)

/-- The calls that a program has made are of the kind that it guarantees. -/
theorem guaranteed {pre : State → Prop} {returns : Value → State → Prop}
    {fails : Fault → State → Prop} (guarantees : Guarantees others own pre program returns fails)
    (initially : pre before) (progress : Progress others program before steps rest now) :
    ∀ step ∈ steps, own step.1 step.2 := by
  obtain ⟨more, executed⟩ := @execution_alone _ _ _ others rest now
  intro step member
  exact (guarantees initially (progress.continued executed)).1 step
    (List.mem_append_left _ member)

/-- A program that has returned keeps its promise. -/
theorem returned {pre : State → Prop} {returns : Value → State → Prop}
    {fails : Fault → State → Prop} (guarantees : Guarantees others own pre program returns fails)
    (initially : pre before) {value : Value}
    (progress : Progress others program before steps (.done (.ok value)) now) :
    returns value now := by
  have executed := progress.continued (.done .refl)
  exact (guarantees initially executed).2.1 value rfl

end Progress

/-! Parties -/

/-- How a state holds the part that it shares. -/
structure Sharing (State Shared : Type) where
  shared : State → Shared
  place : Shared → State → State
  shared_place : ∀ part state, shared (place part state) = part
  place_place : ∀ first second state, place first (place second state) = place first state
  place_shared : ∀ state, place (shared state) state = state

/-- A program that is running, and its state, of which the shared part may be out of date. -/
structure Party (Fault State Value : Type) : Type 1 where
  program : Calls Fault State Value
  state : State

structure System (Index Fault State Value Shared : Type) : Type 1 where
  shared : Shared
  parties : Index → Party Fault State Value

namespace System

/-- What a party is about to see. -/
def view (sharing : Sharing State Shared) (system : System Index Fault State Value Shared)
    (index : Index) : State :=
  sharing.place system.shared (system.parties index).state

/-- One party makes its next call. -/
def advance [DecidableEq Index] (sharing : Sharing State Shared)
    (system : System Index Fault State Value Shared) (index : Index) {Answer : Type}
    (action : EStateM Fault State Answer)
    (next : Except Fault Answer → Calls Fault State Value) :
    System Index Fault State Value Shared where
  shared := sharing.shared (outcome action (system.view sharing index)).2
  parties other :=
    if other = index then
      { program := next (outcome action (system.view sharing index)).1
        state := (outcome action (system.view sharing index)).2 }
    else system.parties other

section Advance

variable [DecidableEq Index] {sharing : Sharing State Shared}
  {system : System Index Fault State Value Shared} {index other : Index} {Answer : Type}
  {action : EStateM Fault State Answer} {next : Except Fault Answer → Calls Fault State Value}

private theorem advance_program :
    ((system.advance sharing index action next).parties index).program =
    next (outcome action (system.view sharing index)).1 := by
  simp [advance]

private theorem advance_view : (system.advance sharing index action next).view sharing index =
    (outcome action (system.view sharing index)).2 := by
  rw [view]
  simp [advance, sharing.place_shared]

private theorem advance_other (different : other ≠ index) :
    (system.advance sharing index action next).parties other = system.parties other :=
  if_neg different

end Advance

end System

/-- A step of the system: a call of one party, or a change that is made outside of it. -/
inductive System.Step [DecidableEq Index] (sharing : Sharing State Shared)
    (outside : Shared → Shared → Prop) :
    System Index Fault State Value Shared → System Index Fault State Value Shared → Prop where
  | call {system : System Index Fault State Value Shared} {index : Index} {Answer : Type}
      {action : EStateM Fault State Answer}
      {next : Except Fault Answer → Calls Fault State Value} :
      (system.parties index).program = .call action next →
      System.Step sharing outside system (system.advance sharing index action next)
  | outside {system : System Index Fault State Value Shared} {shared : Shared} :
      outside system.shared shared →
      System.Step sharing outside system { system with shared }

/-- Any number of steps. -/
abbrev System.Run [DecidableEq Index] (sharing : Sharing State Shared)
    (outside : Shared → Shared → Prop) : System Index Fault State Value Shared →
      System Index Fault State Value Shared → Prop :=
  Relation.ReflTransGen (System.Step sharing outside)

/-- No party waits for another: each may run to its end from any state of the system. -/
theorem System.runs_to_end [DecidableEq Index] (sharing : Sharing State Shared)
    (outside : Shared → Shared → Prop) (system : System Index Fault State Value Shared)
    (index : Index) : ∃ ended, System.Run sharing outside system ended ∧
      (ended.parties index).program =
        .done (outcome (system.parties index).program.alone (system.view sharing index)).1 ∧
      ended.view sharing index =
        (outcome (system.parties index).program.alone (system.view sharing index)).2 := by
  generalize left : (system.parties index).program = program
  induction program generalizing system with
  | done result =>
      refine ⟨system, .refl, ?_, ?_⟩ <;> cases result <;> first | exact left | rfl
  | call action next ih =>
      obtain ⟨ended, run, finished, view⟩ := ih _ (system.advance sharing index action next)
        System.advance_program
      rw [System.advance_view] at finished view
      exact ⟨ended, .head (.call left) run, finished, view⟩

/-- What a party sees of the steps of the others. -/
def Sharing.Changes (sharing : Sharing State Shared) (relies : Shared → Shared → Prop)
    (before after : State) : Prop :=
  ∃ part, relies (sharing.shared before) part ∧ after = sharing.place part before

/-- The calls of a party, seen from the shared part. -/
def Sharing.On (sharing : Sharing State Shared) (acts : Shared → Shared → Prop)
    (before after : State) : Prop := acts (sharing.shared before) (sharing.shared after)

/-- The parties of a system keep what they guarantee, and each may rely on what the
others and the outside do. -/
structure Compatible (sharing : Sharing State Shared) (outside : Shared → Shared → Prop)
    (acts relies : Index → Shared → Shared → Prop) (pre : Index → State → Prop)
    (returns : Index → Value → State → Prop) (fails : Index → Fault → State → Prop)
    (initial : System Index Fault State Value Shared) : Prop where
  guarantees : ∀ index, Guarantees (sharing.Changes (relies index)) (sharing.On (acts index))
    (pre index) (initial.parties index).program (returns index) (fails index)
  ready : ∀ index, pre index (initial.view sharing index)
  apart : ∀ {index other before after}, index ≠ other → acts index before after →
    relies other before after
  beside : ∀ {index before after}, outside before after → relies index before after

namespace Compatible

variable [DecidableEq Index] {sharing : Sharing State Shared} {outside : Shared → Shared → Prop}
  {acts relies : Index → Shared → Shared → Prop} {pre : Index → State → Prop}
  {returns : Index → Value → State → Prop} {fails : Index → Fault → State → Prop}
  {initial system : System Index Fault State Value Shared} {index : Index}

omit [DecidableEq Index] in
/-- A change of the shared part is a step of the others for a party that waits. -/
theorem changed {shared : Shared} {before after : System Index Fault State Value Shared}
    (same : (after.parties index).state = (before.parties index).state)
    (part : after.shared = shared) (relied : relies index before.shared shared) :
    sharing.Changes (relies index) (before.view sharing index) (after.view sharing index) := by
  refine ⟨shared, ?_, ?_⟩
  · rw [System.view, sharing.shared_place]
    exact relied
  · rw [System.view, System.view, sharing.place_place, same, part]

/-- The call that a party is about to make is of its kind. -/
theorem acts_of_progress (compatible : Compatible sharing outside acts relies pre returns fails
      initial) {Answer : Type} {action : EStateM Fault State Answer}
    {next : Except Fault Answer → Calls Fault State Value} {steps : List (State × State)}
    (progress : Progress (sharing.Changes (relies index)) (initial.parties index).program
      (initial.view sharing index) steps (.call action next) (system.view sharing index)) :
    acts index system.shared (system.advance sharing index action next).shared := by
  have called := progress.step.guaranteed (compatible.guarantees index) (compatible.ready index)
    _ (List.mem_append_right _ (List.mem_singleton.mpr rfl))
  rw [Sharing.On, System.view, sharing.shared_place] at called
  exact called

/-- Every party has progressed among steps that it relies on. -/
theorem progress (compatible : Compatible sharing outside acts relies pre returns fails initial)
    (run : System.Run sharing outside initial system) (index : Index) :
    ∃ steps, Progress (sharing.Changes (relies index)) (initial.parties index).program
      (initial.view sharing index) steps (system.parties index).program
      (system.view sharing index) := by
  induction run generalizing index with
  | refl => exact ⟨[], .waiting .refl⟩
  | @tail before after _ step ih =>
      obtain ⟨steps, progress⟩ := ih index
      cases step with
      | outside changes =>
          exact ⟨steps, progress.interfere (changed rfl rfl (compatible.beside changes))⟩
      | @call moving _ action next calling =>
          obtain ⟨_, moved⟩ := ih moving
          rw [calling] at moved
          by_cases same : index = moving
          · subst same
            rw [calling] at progress
            rw [System.advance_program, System.advance_view]
            exact ⟨_, progress.step⟩
          · have left := @System.advance_other _ _ _ _ _ _ sharing before moving index _ action next
              same
            refine ⟨steps, ?_⟩
            rw [left]
            refine progress.interfere (changed (by rw [left]) rfl ?_)
            exact compatible.apart (Ne.symm same) (compatible.acts_of_progress moved)

/-- The shared part changes only by what the parties and the outside do. -/
theorem run_shared (compatible : Compatible sharing outside acts relies pre returns fails initial)
    {earlier : System Index Fault State Value Shared}
    (before : System.Run sharing outside initial earlier)
    (run : System.Run sharing outside earlier system) :
    Transition.Run (fun before after => outside before after ∨ ∃ index, acts index before after)
      earlier.shared system.shared := by
  induction run with
  | refl => exact .refl
  | @tail between after reached step ih =>
      refine ih.tail ?_
      cases step with
      | outside changes => exact .inl changes
      | @call moving _ action next calling =>
          obtain ⟨_, moved⟩ := compatible.progress (before.trans reached) moving
          rw [calling] at moved
          exact .inr ⟨moving, compatible.acts_of_progress moved⟩

/-- A party that has returned keeps its promise from then on. -/
theorem returned (compatible : Compatible sharing outside acts relies pre returns fails initial)
    (run : System.Run sharing outside initial system) {value : Value}
    (done : (system.parties index).program = .done (.ok value)) :
    returns index value (system.view sharing index) := by
  obtain ⟨_, progress⟩ := compatible.progress run index
  rw [done] at progress
  exact progress.returned (compatible.guarantees index) (compatible.ready index)

end Compatible

end Interleaving
