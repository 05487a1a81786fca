import Mathlib.Data.List.Basic

/-!
# Runs that emit

A step reads an input, changes the state and emits some outputs, or fails. A run takes the
inputs one after another and puts the outputs together; it fails at the first failing step.
-/

namespace NewApi.EmittingRuns

variable {State Input Output : Type*} (step : State → Input → Option (State × List Output))

def emitAll : State → List Input → Option (State × List Output)
  | state, [] => some (state, [])
  | state, input :: inputs => do
      let (next, emitted) ← step state input
      let (last, more) ← emitAll next inputs
      some (last, emitted ++ more)

variable {step} {inputs : List Input} {sent : List Output}

theorem emitAll_cons_of {state next last : State} {input : Input} {emitted more : List Output}
    (first : step state input = some (next, emitted))
    (rest : emitAll step next inputs = some (last, more)) :
    emitAll step state (input :: inputs) = some (last, emitted ++ more) := by
  simp [emitAll,first,rest]

theorem emitAll_append_of {state middle last : State} {first second : List Input}
    {emitted more : List Output} (before : emitAll step state first = some (middle, emitted))
    (after : emitAll step middle second = some (last, more)) :
    emitAll step state (first ++ second) = some (last, emitted ++ more) := by
  induction first generalizing state emitted with
  | nil =>
    obtain ⟨rfl,rfl⟩ := Prod.mk.inj (Option.some.inj before)
    exact after
  | cons input inputs induction =>
    simp only [emitAll,Option.bind_eq_bind,Option.bind_eq_some_iff,Prod.exists] at before
    obtain ⟨next,some,taken,end_,rest,later,result⟩ := before
    obtain ⟨rfl,rfl⟩ := Prod.mk.inj (Option.some.inj result)
    rw [List.append_assoc]
    exact emitAll_cons_of taken (induction later)

theorem emitAll_map {Other : Type*} (convert : Other → Input) (state : State)
    (inputs : List Other) :
    emitAll step state (inputs.map convert) =
      emitAll (fun state input => step state (convert input)) state inputs := by
  induction inputs generalizing state with
  | nil => rfl
  | cons input inputs induction => simp only [List.map_cons,emitAll,induction]

/-- A run fails only at a step that fails. -/
theorem emitAll_isSome (total : ∀ state input, (step state input).isSome) (start : State)
    (inputs : List Input) : (emitAll step start inputs).isSome := by
  induction inputs generalizing start with
  | nil => rfl
  | cons input inputs induction =>
    obtain ⟨⟨next,emitted⟩,first⟩ := Option.isSome_iff_exists.mp (total start input)
    obtain ⟨⟨last,more⟩,rest⟩ := Option.isSome_iff_exists.mp (induction next)
    rw [emitAll_cons_of first rest]
    rfl

/-- An invariant of the inputs read, the state and the outputs emitted so far, that every step
of the run succeeds with and keeps, holds at the end of the run. -/
theorem emitAll_invariant (Invariant : List Input → State → List Output → Prop)
    (keeps : ∀ seen input rest, inputs = seen ++ input :: rest → ∀ state sent,
      Invariant seen state sent → ∃ next emitted, step state input = some (next, emitted) ∧
        Invariant (seen ++ [input]) next (sent ++ emitted)) {start : State}
    (initially : Invariant [] start sent) :
    ∃ last emitted, emitAll step start inputs = some (last, emitted) ∧
      Invariant inputs last (sent ++ emitted) := by
  -- The part that was read grows to the whole list of inputs.
  suffices run : ∀ rest seen, inputs = seen ++ rest → ∀ state sent, Invariant seen state sent →
      ∃ last emitted, emitAll step state rest = some (last, emitted) ∧
        Invariant inputs last (sent ++ emitted) by
    exact run inputs [] rfl start sent initially
  intro rest
  induction rest with
  | nil =>
    intro seen whole state sent holds
    exact ⟨state,[],rfl,by simpa [whole] using holds⟩
  | cons input rest induction =>
    intro seen whole state sent holds
    obtain ⟨next,emitted,first,kept⟩ := keeps seen input rest whole state sent holds
    obtain ⟨last,more,later,atEnd⟩ :=
      induction (seen ++ [input]) (by simpa using whole) next (sent ++ emitted) kept
    exact ⟨last,emitted ++ more,emitAll_cons_of first later,by simpa using atEnd⟩

/-- The rule for an invariant that does not depend on what was read. -/
theorem emitAll_keeps (Invariant : State → List Output → Prop)
    (keeps : ∀ input ∈ inputs, ∀ state sent, Invariant state sent →
      ∃ next emitted, step state input = some (next, emitted) ∧ Invariant next (sent ++ emitted))
    {start : State} (initially : Invariant start sent) :
    ∃ last emitted, emitAll step start inputs = some (last, emitted) ∧
      Invariant last (sent ++ emitted) :=
  emitAll_invariant (fun _ => Invariant)
    (fun _ input _ whole => keeps input (by simp [whole])) initially

end NewApi.EmittingRuns
