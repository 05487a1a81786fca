import Mathlib.Data.List.AList
import Mathlib.Data.List.Sort
import NewApi.KeyedFragments

/-! # The groups that automatic routing tries for a user -/

namespace NewApi

open List

abbrev EffectiveGroups := AList fun _ : String => String

variable (autoGroups : List String) (groups : EffectiveGroups)

/-- `GetAutoGroupsForUser`; a negative capacity panics, which is `none`. -/
def getAutoGroupsForUser :
    Option (List String) :=
  let result := autoGroups.filter (· ∈ groups.keys)
  if groups.keys.length < result.length then none
  else
    let remaining := groups.keys.filter (· ∉ result)
    some (result ++ remaining.insertionSort (· ≤ ·))

/-- Every group once: the configured ones in the order of their first occurrence, then the others in
ascending order. -/
def PreferredOrder (result : List String) :
    Prop :=
  result.Perm groups.keys ∧ ∃ others,
    result = (autoGroups.filter (· ∈ groups.keys)).eraseDups ++ others ∧ others.Pairwise (· ≤ ·)

theorem perm_append_filter_notMem {listed all : List String} (distinct : listed.Nodup)
    (known : ∀ group ∈ listed, group ∈ all) (once : all.Nodup) :
    (listed ++ all.filter (· ∉ listed)).Perm all := by
  have apart : listed.Disjoint (all.filter (· ∉ listed)) := by
    intro group isListed other
    simp [isListed] at other
  apply (perm_ext_iff_of_nodup (distinct.append (once.filter _) apart) once).mpr
  simp only [mem_append,mem_filter,decide_eq_true_eq]
  tauto

/-- A user gets each of their groups once, in the preferred order, exactly when no group of theirs
is configured twice. -/
theorem auto_groups_ordered_iff :
    (∃ result, getAutoGroupsForUser autoGroups groups = some result ∧
        PreferredOrder autoGroups groups result) ↔
      (autoGroups.filter (· ∈ groups.keys)).Nodup := by
  unfold getAutoGroupsForUser
  constructor
  · rintro ⟨result,returned,once,-⟩
    dsimp only at returned
    split_ifs at returned
    obtain rfl := Option.some.inj returned
    exact (nodup_append.mp (once.nodup_iff.mpr groups.keys_nodup)).1
  · intro distinct
    have whole := perm_append_filter_notMem distinct
      (fun group listed => of_decide_eq_true (mem_filter.mp listed).2) groups.keys_nodup
    have fits := whole.length_eq
    rw [length_append] at fits
    refine ⟨_,if_neg (by omega),?_,_,by rw [eraseDups_of_nodup distinct],
      pairwise_insertionSort _ _⟩
    exact ((perm_insertionSort _ _).append_left _).trans whole

def vipGroup : EffectiveGroups := (∅ : EffectiveGroups).insert "vip" "VIP"

/-- A group that is configured twice is returned twice, or makes the capacity negative. -/
theorem configured_twice :
    getAutoGroupsForUser ["vip", "vip"] vipGroup = none ∧
      getAutoGroupsForUser ["vip", "vip"] (vipGroup.insert "default" "") =
        some ["vip", "vip", "default"] := by
  decide

end NewApi
