import Mathlib.Logic.Relation

/-! Runs of a transition relation and the two ways to carry a fact along them. -/

set_option autoImplicit false

namespace Transition

variable {State : Type} {Step : State → State → Prop}

/-- Any number of steps. -/
abbrev Run (Step : State → State → Prop) : State → State → Prop := Relation.ReflTransGen Step

/-- A fact that every step preserves holds after every run that starts with it. -/
theorem run_invariant {Invariant : State → Prop}
    (preserved : ∀ {before after : State}, Step before after → Invariant before → Invariant after)
    {start finish : State} (run : Run Step start finish) (initially : Invariant start) :
    Invariant finish := by
  induction run with
  | refl => exact initially
  | tail _ step ih => exact preserved step ih

/-- A preorder that relates the ends of every step, wherever an invariant holds,
relates the ends of every run. -/
theorem run_monotone {Invariant : State → Prop} {Below : State → State → Prop}
    (reflexive : ∀ state, Below state state)
    (transitive : ∀ {first second third : State}, Below first second → Below second third →
      Below first third)
    (preserved : ∀ {before after : State}, Step before after → Invariant before → Invariant after)
    (monotone : ∀ {before after : State}, Step before after → Invariant before →
      Below before after)
    {start finish : State} (run : Run Step start finish) (initially : Invariant start) :
    Below start finish := by
  induction run with
  | refl => exact reflexive start
  | tail earlier step ih =>
      exact transitive ih (monotone step (run_invariant @preserved earlier initially))

/-! Counted steps -/

/-- Runs of two parties in which the steps of the first are counted. -/
inductive CountedRun (Own Other : State → State → Prop) (start : State) :
    Nat → State → Prop where
  | refl : CountedRun Own Other start 0 start
  | own {count : Nat} {before after : State} :
      CountedRun Own Other start count before → Own before after →
      CountedRun Own Other start (count + 1) after
  | other {count : Nat} {before after : State} :
      CountedRun Own Other start count before → Other before after →
      CountedRun Own Other start count after

section Counted

variable {Own Other : State → State → Prop} {count : Nat} {start finish : State}

theorem CountedRun.run (counted : CountedRun Own Other start count finish) :
    Run (fun before after => Own before after ∨ Other before after) start finish := by
  induction counted with
  | refl => exact .refl
  | own _ step ih => exact ih.tail (.inl step)
  | other _ step ih => exact ih.tail (.inr step)

/-- A rank that every own step lowers, and no step of the others raises, bounds the number
of own steps. -/
theorem CountedRun.count_le {Invariant : State → Prop} {rank : State → Nat}
    (preserved : ∀ {before after : State}, Own before after ∨ Other before after →
      Invariant before → Invariant after)
    (lowers : ∀ {before after : State}, Own before after → Invariant before →
      rank after < rank before)
    (keeps : ∀ {before after : State}, Other before after → Invariant before →
      rank after ≤ rank before)
    (counted : CountedRun Own Other start count finish) (initially : Invariant start) :
    count + rank finish ≤ rank start := by
  induction counted with
  | refl => omega
  | own earlier step ih =>
      have lower := lowers step (run_invariant @preserved earlier.run initially)
      omega
  | other earlier step ih =>
      have kept := keeps step (run_invariant @preserved earlier.run initially)
      omega

end Counted

end Transition
