import Mathlib.Data.List.Nodup

/-!
# Numbers that start again

Groups of things are numbered one after another, and the numbers start again with every
group. They are distinct only when at most one of the groups has anything to number.
-/

namespace NewApi

open List

variable {Label : Type}

def restartedLabels (label : Nat → Label) (sizes : List Nat) : List Label :=
  sizes.flatMap fun size => (range size).map label

variable {label : Nat → Label} {sizes : List Nat}

theorem mem_restartedLabels {value : Label} :
    value ∈ restartedLabels label sizes ↔ ∃ size ∈ sizes, ∃ number < size, label number = value := by
  simp [restartedLabels]

theorem restartedLabels_cons (size : Nat) (sizes : List Nat) :
    restartedLabels label (size :: sizes) =
      (range size).map label ++ restartedLabels label sizes := rfl

theorem restartedLabels_eq_nil :
    restartedLabels label sizes = [] ↔ ∀ size ∈ sizes, size = 0 := by
  simp [restartedLabels]

theorem nodup_restartedLabels_iff (injective : Function.Injective label) (sizes : List Nat) :
    (restartedLabels label sizes).Nodup ↔ (sizes.filter (0 < ·)).length ≤ 1 := by
  induction sizes with
  | nil => simp [restartedLabels]
  | cons size sizes induction =>
    rw [restartedLabels_cons]
    by_cases empty : size = 0
    · rw [filter_cons_of_neg (by simp [empty]),← induction,empty]
      rfl
    · rw [filter_cons_of_pos (by simp; omega)]
      constructor
      · intro distinct
        have alone : sizes.filter (0 < ·) = [] := by
          apply filter_eq_nil_iff.mpr
          intro other member positive
          have own : label 0 ∈ (range size).map label :=
            mem_map_of_mem (mem_range.mpr (by omega))
          have again : label 0 ∈ restartedLabels label sizes :=
            mem_restartedLabels.mpr ⟨other,member,0,by simpa using positive,rfl⟩
          exact (disjoint_of_nodup_append distinct) own again
        simp [alone]
      · intro single
        have alone : ∀ other ∈ sizes, other = 0 := by
          simpa using single
        rw [restartedLabels_eq_nil.mpr alone,append_nil]
        exact List.Nodup.map injective nodup_range

end NewApi
