import Mathlib.Algebra.BigOperators.Group.List.Basic
import Mathlib.Tactic.Abel

/-!
# A counter and a copy of it

Operations change the counter and its copy by the same amount, but in two writes
and in either order.
-/

namespace NewApi

/-- A counter with its copy, as the operations under way leave them. -/
structure CachedCounter (Amount : Type*) where
  value : Amount
  copy : Option Amount
  ahead : Amount

namespace CachedCounter

variable {Amount : Type*} [AddCommGroup Amount] {counter : CachedCounter Amount}

/-- The copy differs from the value by the operations under way. -/
def Accounted (counter : CachedCounter Amount) : Prop :=
  ∀ copied, counter.copy = some copied → copied = counter.value + counter.ahead

theorem Accounted.write (accounted : counter.Accounted) (delta : Amount) :
    Accounted ⟨counter.value + delta, counter.copy, counter.ahead - delta⟩ := by
  intro copied present
  rw [accounted copied present]
  dsimp only
  abel

/-- A copy that is missing misses the write, and is none the worse for it. -/
theorem Accounted.forward (accounted : counter.Accounted) (delta : Amount) :
    Accounted ⟨counter.value, counter.copy.map (· + delta), counter.ahead + delta⟩ := by
  intro copied present
  obtain ⟨before,found,rfl⟩ := Option.map_eq_some_iff.mp present
  rw [accounted before found]
  abel

theorem Accounted.of_missing (value ahead : Amount) : Accounted ⟨value, none, ahead⟩ := by
  intro copied present
  cases present

theorem Accounted.eq_value (accounted : counter.Accounted) (settled : counter.ahead = 0)
    {copied : Amount} (present : counter.copy = some copied) : copied = counter.value := by
  rw [accounted copied present,settled,add_zero]

theorem sum_map_set {Entry : Type*} (measure : Entry → Amount) (replacement : Entry)
    {entries : List Entry} {index : Nat} {entry : Entry} (found : entries[index]? = some entry) :
    ((entries.set index replacement).map measure).sum =
      (entries.map measure).sum - measure entry + measure replacement := by
  obtain ⟨inRange,rfl⟩ := List.getElem?_eq_some_iff.mp found
  rw [List.map_set,List.sum_set',dif_pos (by simpa using inRange),List.getElem_map]
  abel

end CachedCounter

end NewApi
