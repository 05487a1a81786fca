import Mathlib.Data.List.Induction

/-!
# Runs of a step function, and runs whose steps meet a guard

A run folds a total step function over a list of events. A guarded run meets a
condition, read in the state before it, at each of its events.
-/

namespace NewApi.GuardedRuns

open List

variable {State Event Output : Type*}

def run (step : State → Event → State) (start : State) (events : List Event) : State :=
  events.foldl step start

@[simp]
theorem run_nil (step : State → Event → State) (start : State) : run step start [] = start := rfl

@[simp]
theorem run_cons (step : State → Event → State) (start : State) (event : Event)
    (events : List Event) :
    run step start (event :: events) = run step (step start event) events := rfl

theorem run_append (step : State → Event → State) (start : State) (first second : List Event) :
    run step start (first ++ second) = run step (run step start first) second := by
  simp [run]

def outputs {Output : Type*} (step : State → Event → State)
    (output : State → Event → List Output) : State → List Event → List Output
  | _, [] => []
  | start, event :: events => output start event ++ outputs step output (step start event) events

theorem outputs_append (step : State → Event → State)
    (output : State → Event → List Output) (start : State) (first second : List Event) :
    outputs step output start (first ++ second) =
      outputs step output start first ++ outputs step output (run step start first) second := by
  induction first generalizing start with
  | nil => rfl
  | cons event events ih => simp [outputs,ih]

theorem outputs_singleton (step : State → Event → State)
    (output : State → Event → List Output) (start : State) (event : Event) :
    outputs step output start [event] = output start event :=
  append_nil _

def Guarded (step : State → Event → State) (guard : State → Event → Prop) :
    State → List Event → Prop
  | _, [] => True
  | start, event :: events => guard start event ∧ Guarded step guard (step start event) events

variable {step : State → Event → State} {guard : State → Event → Prop}

instance decidableGuarded [∀ state event, Decidable (guard state event)] :
    ∀ (start : State) (events : List Event), Decidable (Guarded step guard start events)
  | _, [] => isTrue trivial
  | start, event :: events =>
    have := decidableGuarded (step start event) events
    inferInstanceAs (Decidable (guard start event ∧ Guarded step guard (step start event) events))

variable {start : State} {events : List Event} {Property : State → Prop}

theorem guarded_append {first second : List Event} :
    Guarded step guard start (first ++ second) ↔
      Guarded step guard start first ∧ Guarded step guard (run step start first) second := by
  induction first generalizing start with
  | nil => simp [Guarded]
  | cons event events ih => simp [Guarded,ih,and_assoc]

theorem guarded_true (start : State) (events : List Event) :
    Guarded step (fun _ _ => True) start events := by
  induction events generalizing start with
  | nil => trivial
  | cons event events ih => exact ⟨trivial,ih _⟩

variable (Invariant : State → Prop)

theorem run_invariant
    (keeps : ∀ state event, Invariant state → guard state event → Invariant (step state event))
    (initially : Invariant start) (guarded : Guarded step guard start events)
    : Invariant (run step start events) := by
  induction events generalizing start with
  | nil => exact initially
  | cons event events ih => exact ih (keeps start event initially guarded.1) guarded.2

/-- A property holds in every state that a run passes through. -/
def Always (step : State → Event → State) (Property : State → Prop) (start : State)
    (events : List Event) : Prop :=
  ∀ seen, seen <+: events → Property (run step start seen)

theorem always_cons {event : Event} :
    Always step Property start (event :: events) ↔
      Property start ∧ Always step Property (step start event) events := by
  constructor
  · intro always
    refine ⟨always [] nil_prefix,fun seen seenPrefix => ?_⟩
    exact always (event :: seen) (cons_prefix_cons.mpr ⟨rfl,seenPrefix⟩)
  · rintro ⟨initially,later⟩ seen seenPrefix
    cases seen with
    | nil => exact initially
    | cons first rest =>
      obtain ⟨rfl,restPrefix⟩ := cons_prefix_cons.mp seenPrefix
      exact later rest restPrefix

/-- An invariant may speak of the run it is proved along: a step is known to be the
next one after a prefix of that run. -/
theorem prefix_invariant
    (keeps : ∀ seen event, seen ++ [event] <+: events → guard (run step start seen) event →
      Invariant (run step start seen) → Invariant (step (run step start seen) event))
    (initially : Invariant start) (guarded : Guarded step guard start events) :
    Always step Invariant start events := by
  intro seen
  induction seen using reverseRecOn with
  | nil => exact fun _ => initially
  | append_singleton seen event ih =>
    intro isPrefix
    have earlier : seen <+: events := (prefix_append seen [event]).trans isPrefix
    obtain ⟨rest,whole⟩ := isPrefix
    have guardedHere : guard (run step start seen) event := by
      rw [← whole,guarded_append,guarded_append] at guarded
      exact guarded.1.2.1
    rw [run_append]
    exact keeps seen event ⟨rest,whole⟩ guardedHere (ih earlier)

/-- A property that follows from an invariant of the guarded steps holds all along
a guarded run. -/
theorem always_of_guarded
    (suffices_ : ∀ state, Invariant state → Property state)
    (keeps : ∀ state event, Invariant state → guard state event → Invariant (step state event))
    (initially : Invariant start) (guarded : Guarded step guard start events)
    : Always step Property start events := by
  rintro seen ⟨rest,rfl⟩
  have seenGuarded := (guarded_append.mp guarded).1
  exact suffices_ _ (run_invariant Invariant keeps initially seenGuarded)

/-- When the guard is exactly what keeps the property alive, the runs that keep
it throughout are the guarded runs. -/
theorem always_iff_guarded {Invariant : State → Prop}
    (suffices_ : ∀ state, Invariant state → Property state)
    (keeps : ∀ state event, Invariant state → guard state event → Invariant (step state event))
    (breaks : ∀ state event, Invariant state → ¬ guard state event → ¬ Property (step state event))
    (initially : Invariant start) (events : List Event) :
    Always step Property start events ↔ Guarded step guard start events := by
  induction events generalizing start with
  | nil =>
    refine ⟨fun _ => trivial,fun _ seen seenPrefix => ?_⟩
    rw [prefix_nil.mp seenPrefix]
    exact suffices_ start initially
  | cons event events ih =>
    rw [always_cons]
    by_cases holds : guard start event
    · have later := ih (keeps start event initially holds)
      simp [Guarded,holds,later,suffices_ start initially]
    · have broken := breaks start event initially holds
      constructor
      · rintro ⟨-,later⟩
        exact absurd (later [] nil_prefix) broken
      · rintro ⟨guarded,-⟩
        exact absurd guarded holds

end NewApi.GuardedRuns
