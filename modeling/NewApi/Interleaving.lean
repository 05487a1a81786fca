import NewApi.GuardedRuns

/-!
# Processes that share a state

Any number of processes, each with a state of its own, act one at a time on a
shared state.
-/

namespace NewApi.Interleaving

open GuardedRuns

/-- A shared state and the states of the processes. -/
structure System (Shared Local : Type*) where
  shared : Shared
  locals : Nat → Local

inductive Event (Choice Change : Type*) where
  | act (process : Nat) (choice : Choice)
  | change (change : Change)
deriving DecidableEq, Repr

variable {Shared Local Choice Change : Type*}

def step (act : Nat → Shared → Local → Choice → Shared × Local) (surroundings : Shared → Change → Shared)
    (system : System Shared Local) : Event Choice Change → System Shared Local
  | .act process choice =>
    let result := act process system.shared (system.locals process) choice
    ⟨result.1, Function.update system.locals process result.2⟩
  | .change change => ⟨surroundings system.shared change, system.locals⟩

/-- The shared state is sound and so is the knowledge of every process. -/
structure Sound (Global : Shared → Prop) (Knows : Nat → Shared → Local → Prop)
    (system : System Shared Local) : Prop where
  shared : Global system.shared
  locals : ∀ process, Knows process system.shared (system.locals process)

variable {act : Nat → Shared → Local → Choice → Shared × Local}
  {surroundings : Shared → Change → Shared} {Global : Shared → Prop}
  {Knows : Nat → Shared → Local → Prop}

/-- An action keeps the invariant when it keeps its own part of it and disturbs the
others no more than they allow. -/
theorem sound_step (guard : System Shared Local → Event Choice Change → Prop)
    (Allows : Nat → Shared → Shared → Prop)
    (stable : ∀ process {before after : Shared} {known : Local}, Allows process before after →
      Knows process before known → Knows process after known)
    (acts : ∀ system process choice, Sound Global Knows system → guard system (.act process choice) →
      let result := act process system.shared (system.locals process) choice
      Global result.1 ∧ Knows process result.1 result.2 ∧
        ∀ other, other ≠ process → Allows other system.shared result.1)
    (changes : ∀ system change, Sound Global Knows system → guard system (.change change) →
      Global (surroundings system.shared change) ∧
        ∀ process, Allows process system.shared (surroundings system.shared change))
    (system : System Shared Local) (event : Event Choice Change)
    (sound : Sound Global Knows system) (guarded : guard system event) :
    Sound Global Knows (step act surroundings system event) := by
  cases event with
  | act process choice =>
    obtain ⟨shared,own,allowed⟩ := acts system process choice sound guarded
    refine ⟨shared,fun other => ?_⟩
    by_cases same : other = process
    · subst same
      simpa [step] using own
    · simp only [step,Function.update_of_ne same]
      exact stable other (allowed other same) (sound.locals other)
  | change change =>
    obtain ⟨shared,allowed⟩ := changes system change sound guarded
    exact ⟨shared,fun process => stable process (allowed process) (sound.locals process)⟩

end NewApi.Interleaving
