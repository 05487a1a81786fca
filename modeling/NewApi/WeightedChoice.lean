import Mathlib.Data.Nat.Count
import NewApi.PriorityLookup

/-!
# How often a weighted choice falls on a candidate

Counted over all values that the random number may take.
-/

namespace NewApi

open List

def RandomDraw.fixed (value : Nat) : RandomDraw where
  intn bound := if value < bound then value else 0
  below bound positive := by
    split
    next inside => exact inside
    next => exact positive

/-- Every random value below the total finds a candidate, and each candidate is found for as many
values as it has weight, once for each time that it is listed. -/
structure ExactChoice {Candidate : Type} [DecidableEq Candidate] (candidates : List Candidate)
    (weight : Candidate → Nat) (choose : Nat → Option Candidate) : Prop where
  found : ∀ random < (candidates.map weight).sum, choose random ≠ none
  exactly : ∀ candidate ∈ candidates,
    Nat.count (fun random => choose random = some candidate) (candidates.map weight).sum =
      candidates.count candidate * weight candidate

section

variable {Candidate : Type} [DecidableEq Candidate] (weight : Candidate → Nat)

theorem count_weightedPick (candidates : List Candidate) (candidate : Candidate) :
    Nat.count (fun random : Nat => weightedPick (fun left => decide (left < 0)) weight candidates
        random = some candidate) (candidates.map weight).sum =
      candidates.count candidate * weight candidate := by
  induction candidates with
  | nil => simp
  | cons first rest ih =>
    have here : Nat.count (fun random : Nat => weightedPick (fun left => decide (left < 0)) weight
        (first :: rest) random = some candidate) (weight first) =
        if first = candidate then weight first else 0 := by
      have onFirst (random : Nat) (below : random < weight first) :
          weightedPick (fun left => decide (left < 0)) weight (first :: rest) random =
            some first := by
        have negative : (random : Int) - weight first < 0 := by omega
        simp [weightedPick,negative]
      split
      next same =>
        exact Nat.count_of_forall fun random below => same ▸ onFirst random below
      next other =>
        apply Nat.count_of_forall_not
        intro random below
        rw [onFirst random below]
        exact fun same => other (Option.some.inj same)
    have later (random : Nat) : weightedPick (fun left => decide (left < 0)) weight
        (first :: rest) (weight first + random : Nat) =
          weightedPick (fun left => decide (left < 0)) weight rest random := by
      simp [weightedPick]
    rw [map_cons,sum_cons,Nat.count_add,here]
    simp only [later]
    rw [ih,count_cons]
    by_cases same : first = candidate
    · simp only [same,if_true,beq_self_eq_true,Nat.add_mul]
      omega
    · simp [same]

end

theorem fixed_intn {value bound : Nat} (below : value < bound) :
    (RandomDraw.fixed value).intn bound = value := if_pos below

theorem pickByWeight_exact {channels : List Channel} (nonempty : channels ≠ []) :
    ExactChoice channels (effectiveWeight channels) fun random =>
      pickByWeight (.fixed random) channels where
  found random _ := by
    obtain ⟨channel,-,picked⟩ := pickByWeight_isSome (.fixed random) nonempty
    simp [picked]
  exactly channel _ := by
    rw [← count_weightedPick (effectiveWeight channels),Nat.count_eq_card_filter_range,
      Nat.count_eq_card_filter_range]
    congr 1
    apply Finset.filter_congr
    intro random below
    rw [pickByWeight_eq,fixed_intn (Finset.mem_range.mp below)]

/-- The first row is chosen also when its weight is all that was drawn. -/
theorem pickAbility_first {first : Ability} {rest : List Ability} {random : Nat}
    (early : random ≤ first.weight + 10) (below : random <
      ((first :: rest).map fun ability => ability.weight + 10).sum) :
    pickAbility (.fixed random) (first :: rest) = some first := by
  have stops : (random : Int) - ((first.weight + 10 : Nat) : Int) ≤ 0 := by omega
  rw [pickAbility,fixed_intn below,weightedPick,if_pos (decide_eq_true stops)]

/-- Exact only where there is no choice: the first of several rows has one value too many. -/
theorem pickAbility_exact_iff {abilities : List Ability} (nonempty : abilities ≠ [])
    (distinct : abilities.Nodup) :
    ExactChoice abilities (fun ability => ability.weight + 10) (fun random =>
      pickAbility (.fixed random) abilities) ↔ abilities.length = 1 := by
  match abilities, nonempty with
  | [only], _ =>
    have always : ∀ random < ([only].map fun ability => ability.weight + 10).sum,
        pickAbility (.fixed random) [only] = some only :=
      fun random below => pickAbility_first (by simpa using below.le) below
    refine iff_of_true ⟨fun random below => ?_,fun ability member => ?_⟩ rfl
    · rw [always random below]
      exact Option.some_ne_none _
    · obtain rfl := mem_singleton.mp member
      rw [Nat.count_of_forall always]
      simp
  | first :: second :: rest, _ =>
    refine iff_of_false (fun exact_ => ?_) (by simp)
    have more : first.weight + 10 + 1 ≤
        ((first :: second :: rest).map fun ability => ability.weight + 10).sum := by
      simp only [map_cons,sum_cons]
      omega
    have once := exact_.exactly first mem_cons_self
    rw [count_eq_one_of_mem distinct mem_cons_self] at once
    have tooMany := Nat.count_monotone
      (fun random => pickAbility (.fixed random) (first :: second :: rest) = some first) more
    have early : ∀ random < first.weight + 10 + 1,
        pickAbility (.fixed random) (first :: second :: rest) = some first :=
      fun random below => pickAbility_first (by omega) (by omega)
    rw [Nat.count_of_forall early] at tooMany
    exact absurd (tooMany.trans once.le) (by omega)

/-- Both choices together. The rows of a group and model are of distinct channels. -/
theorem weighted_choice_exact_iff (channels : List Channel) (someChannel : channels ≠ [])
    (abilities : List Ability) (someAbility : abilities ≠ []) (distinct : abilities.Nodup) :
    (ExactChoice channels (effectiveWeight channels) (fun random =>
        pickByWeight (.fixed random) channels) ∧
      ExactChoice abilities (fun ability => ability.weight + 10) fun random =>
        pickAbility (.fixed random) abilities) ↔ abilities.length = 1 := by
  rw [pickAbility_exact_iff someAbility distinct]
  exact and_iff_right (pickByWeight_exact someChannel)

theorem single_row_exact :
    let channel (id : Int) (weight : Nat) : Channel :=
      { id, status := 1, group := "default", models := "gpt-4o", priority := some 0,
        weight := some weight, tag := none }
    let row : Ability :=
      { group := "default", model := "gpt-4o", channelId := 1, enabled := true,
        priority := some 0, weight := 5, tag := none }
    ExactChoice [channel 1 1, channel 2 3] (effectiveWeight [channel 1 1, channel 2 3])
        (fun random => pickByWeight (.fixed random) [channel 1 1, channel 2 3]) ∧
      ExactChoice [row] (fun ability => ability.weight + 10) fun random =>
        pickAbility (.fixed random) [row] :=
  (weighted_choice_exact_iff _ (by simp) _ (by simp) (by simp)).mpr rfl

/-- Two rows of one weight: the first is chosen for eleven values of twenty. -/
theorem equal_rows_unequal_choice :
    let row (channelId : Int) : Ability :=
      { group := "default", model := "gpt-4o", channelId, enabled := true, priority := some 0,
        weight := 0, tag := none }
    let chosen (channelId : Int) : Nat := Nat.count
      (fun random => pickAbility (.fixed random) [row 1, row 2] = some (row channelId)) 20
    chosen 1 = 11 ∧ chosen 2 = 9 := by decide +kernel

end NewApi
