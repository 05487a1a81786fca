import Mathlib.Order.Basic

/-!
# Loops with a rank

Each round of a loop either stops, after at most a few outputs, or puts out one
value and goes on.
-/

namespace NewApi.RankedLoops

inductive Round (State Output Result : Type*)
  | stop (outputs : List Output) (result : Result)
  | next (output : Output) (state : State)

variable {State Output Result : Type*}

def loop (round : Nat → State → Round State Output Result) :
    (fuel number : Nat) → State → List Output × Option Result
  | 0, _, _ => ([], none)
  | fuel + 1, number, state =>
    match round number state with
    | .stop outputs result => (outputs, some result)
    | .next output next =>
      let rest := loop round fuel (number + 1) next
      (output :: rest.1, rest.2)

variable {round : Nat → State → Round State Output Result}

theorem loop_of_stop {number : Nat} {state : State} {outputs : List Output} {result : Result}
    (stops : round number state = .stop outputs result) (fuel : Nat) :
    loop round (fuel + 1) number state = (outputs, some result) := by
  simp [loop,stops]

theorem loop_of_next {number : Nat} {state next : State} {output : Output}
    (continues : round number state = .next output next) (fuel : Nat) :
    loop round (fuel + 1) number state =
      (output :: (loop round fuel (number + 1) next).1,
        (loop round fuel (number + 1) next).2) := by
  simp [loop,continues]

/-- What the rounds of a loop keep: a rank that bounds the outputs still to come. -/
structure Ranked (round : Nat → State → Round State Output Result) (Invariant : State → Prop)
    (rank : State → Nat) : Prop where
  stop : ∀ {number state outputs result}, Invariant state →
    round number state = .stop outputs result → outputs.length ≤ rank state
  next : ∀ {number state output next}, Invariant state →
    round number state = .next output next → Invariant next ∧ rank next < rank state

section

variable {Invariant : State → Prop} {rank : State → Nat}

theorem Ranked.length_le (ranked : Ranked round Invariant rank) (fuel : Nat) {number : Nat}
    {state : State} (holds : Invariant state) :
    (loop round fuel number state).1.length ≤ rank state := by
  induction fuel generalizing number state with
  | zero => exact Nat.zero_le _
  | succ fuel ih =>
    cases turn : round number state with
    | stop =>
      rw [loop_of_stop turn]
      exact ranked.stop holds turn
    | next output next =>
      obtain ⟨kept,falls⟩ := ranked.next holds turn
      rw [loop_of_next turn,List.length_cons]
      have later : (loop round fuel (number + 1) next).1.length ≤ rank next := ih kept
      omega

theorem Ranked.ends (ranked : Ranked round Invariant rank) {fuel number : Nat} {state : State}
    (holds : Invariant state) (enough : rank state < fuel) :
    ∃ result, (loop round fuel number state).2 = some result := by
  induction fuel generalizing number state with
  | zero => omega
  | succ fuel ih =>
    cases turn : round number state with
    | stop outputs result => exact ⟨result,by rw [loop_of_stop turn]⟩
    | next =>
      obtain ⟨kept,falls⟩ := ranked.next holds turn
      rw [loop_of_next turn]
      exact ih kept (by omega)

end

/-- Outputs that never fall below a floor which every round raises to its output. -/
structure Rising {Level : Type*} [Preorder Level]
    (round : Nat → State → Round State Output Result) (Invariant : State → Prop)
    (level : Output → Level) (floor : State → Level) : Prop where
  stop : ∀ {number state outputs result}, Invariant state →
    round number state = .stop outputs result →
      outputs.Pairwise (fun first second => level first ≤ level second) ∧
        ∀ output ∈ outputs, floor state ≤ level output
  next : ∀ {number state output next}, Invariant state →
    round number state = .next output next →
      Invariant next ∧ floor state ≤ level output ∧ level output ≤ floor next

section

variable {Level : Type*} [Preorder Level] {Invariant : State → Prop} {level : Output → Level}
  {floor : State → Level}

theorem Rising.floor_le (rising : Rising round Invariant level floor) (fuel : Nat) {number : Nat}
    {state : State} (holds : Invariant state) :
    ∀ output ∈ (loop round fuel number state).1, floor state ≤ level output := by
  induction fuel generalizing number state with
  | zero => intro output member; cases member
  | succ fuel ih =>
    intro output member
    cases turn : round number state with
    | stop =>
      rw [loop_of_stop turn] at member
      exact (rising.stop holds turn).2 output member
    | next =>
      obtain ⟨kept,above,raised⟩ := rising.next holds turn
      rw [loop_of_next turn] at member
      rcases List.mem_cons.mp member with rfl | later
      · exact above
      · exact above.trans (raised.trans (ih kept output later))

/-- The outputs of the loop do not fall. -/
theorem Rising.pairwise (rising : Rising round Invariant level floor) (fuel : Nat) {number : Nat}
    {state : State} (holds : Invariant state) :
    (loop round fuel number state).1.Pairwise fun first second => level first ≤ level second := by
  induction fuel generalizing number state with
  | zero => exact List.Pairwise.nil
  | succ fuel ih =>
    cases turn : round number state with
    | stop =>
      rw [loop_of_stop turn]
      exact (rising.stop holds turn).1
    | next =>
      obtain ⟨kept,-,raised⟩ := rising.next holds turn
      rw [loop_of_next turn]
      refine List.Pairwise.cons ?_ (ih kept)
      intro second later
      exact raised.trans (rising.floor_le fuel kept second later)

end

end NewApi.RankedLoops
