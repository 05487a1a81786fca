import Mathlib.Data.List.Dedup
import Mathlib.Data.List.Nodup

/-!
# Fragments grouped by key

A stream carries the fragments of several things, each with the key of the thing
it belongs to.
-/

namespace NewApi

open List

variable {Key Fragment : Type} [DecidableEq Key]

/-- The keys in the order in which they first appear. -/
def fragmentKeys (fragments : List (Key × Fragment)) : List Key :=
  (fragments.map Prod.fst).eraseDups

def fragmentsOf (key : Key) (fragments : List (Key × Fragment)) : List Fragment :=
  (fragments.filter fun fragment => fragment.1 = key).map Prod.snd

def grouped (fragments : List (Key × Fragment)) : List (Key × List Fragment) :=
  (fragmentKeys fragments).map fun key => (key, fragmentsOf key fragments)

variable {key : Key} {fragments : List (Key × Fragment)}

theorem mem_fragmentKeys :
    key ∈ fragmentKeys fragments ↔ ∃ fragment ∈ fragments, fragment.1 = key := by
  simp [fragmentKeys]

theorem fragmentKeys_concat (fragments : List (Key × Fragment)) (fragment : Key × Fragment) :
    fragmentKeys (fragments ++ [fragment]) =
      if fragment.1 ∈ fragmentKeys fragments then fragmentKeys fragments
      else fragmentKeys fragments ++ [fragment.1] := by
  have known : fragment.1 ∈ fragmentKeys fragments ↔ fragment.1 ∈ fragments.map Prod.fst := by
    simp [fragmentKeys]
  rw [fragmentKeys,map_append,eraseDups_append,← fragmentKeys]
  by_cases seen : fragment.1 ∈ fragmentKeys fragments
  · have nothing : (map Prod.fst [fragment]).removeAll (fragments.map Prod.fst) = [] := by
      simpa [removeAll] using known.mp seen
    rw [nothing,if_pos seen,eraseDups_nil,append_nil]
  · have kept : (map Prod.fst [fragment]).removeAll (fragments.map Prod.fst) =
        [fragment.1] := by
      simpa [removeAll] using mt known.mpr seen
    rw [kept,if_neg seen]
    rfl

@[simp]
theorem fragmentsOf_append (key : Key) (first second : List (Key × Fragment)) :
    fragmentsOf key (first ++ second) = fragmentsOf key first ++ fragmentsOf key second := by
  simp [fragmentsOf]

theorem mem_fragmentsOf {fragment : Fragment} :
    fragment ∈ fragmentsOf key fragments ↔ (key, fragment) ∈ fragments := by
  simp [fragmentsOf]

theorem fragmentsOf_eq_nil (absent : ∀ fragment ∈ fragments, fragment.1 ≠ key)
    : fragmentsOf key fragments = [] := by
  have none : (fragments.filter fun fragment => fragment.1 = key) = [] := by
    apply filter_eq_nil_iff.mpr
    intro fragment member
    simpa using absent fragment member
  rw [fragmentsOf,none]
  rfl

section

variable {first second : List (Key × Fragment)}
  (disjoint : ∀ fragment ∈ first, ∀ other ∈ second, fragment.1 ≠ other.1)

include disjoint

theorem fragmentKeys_append :
    fragmentKeys (first ++ second) = fragmentKeys first ++ fragmentKeys second := by
  have kept : (second.map Prod.fst).removeAll (first.map Prod.fst) = second.map Prod.fst := by
    apply filter_eq_self.mpr
    intro key member
    obtain ⟨other,otherMember,rfl⟩ := mem_map.mp member
    have fresh : other.1 ∉ first.map Prod.fst := by
      intro common
      obtain ⟨fragment,fragmentMember,same⟩ := mem_map.mp common
      exact disjoint fragment fragmentMember other otherMember same
    simpa using fresh
  rw [fragmentKeys,map_append,eraseDups_append,kept]
  rfl

theorem grouped_append : grouped (first ++ second) = grouped first ++ grouped second := by
  rw [grouped,fragmentKeys_append disjoint,map_append]
  congr 1
  · apply map_congr_left
    intro key member
    obtain ⟨fragment,fragmentMember,rfl⟩ := mem_fragmentKeys.mp member
    have none : fragmentsOf fragment.1 second = [] :=
      fragmentsOf_eq_nil fun other otherMember same =>
        disjoint fragment fragmentMember other otherMember same.symm
    rw [fragmentsOf_append,none,append_nil]
  · apply map_congr_left
    intro key member
    obtain ⟨other,otherMember,rfl⟩ := mem_fragmentKeys.mp member
    have none : fragmentsOf other.1 first = [] :=
      fragmentsOf_eq_nil fun fragment fragmentMember =>
        disjoint fragment fragmentMember other otherMember
    rw [fragmentsOf_append,none,nil_append]

end

section

def tagged (key : Key) (fragments : List Fragment) : List (Key × Fragment) :=
  fragments.map (Prod.mk key)

omit [DecidableEq Key] in
theorem key_of_mem_tagged {fragments : List Fragment} {fragment : Key × Fragment}
    (member : fragment ∈ tagged key fragments) : fragment.1 = key := by
  obtain ⟨value,-,rfl⟩ := mem_map.mp member
  rfl

theorem fragmentsOf_tagged (key : Key) (fragments : List Fragment) :
    fragmentsOf key (tagged key fragments) = fragments := by
  induction fragments with
  | nil => rfl
  | cons fragment fragments induction =>
    simpa [fragmentsOf,tagged] using induction

theorem fragmentKeys_tagged {fragments : List Fragment} (some : fragments ≠ []) :
    fragmentKeys (tagged key fragments) = [key] := by
  induction fragments with
  | nil => exact absurd rfl some
  | cons fragment fragments induction =>
    cases fragments with
    | nil => rfl
    | cons next rest =>
      have tail := induction (cons_ne_nil next rest)
      simp only [fragmentKeys,tagged,map_cons,eraseDups_cons] at tail ⊢
      simpa using tail

theorem grouped_tagged {fragments : List Fragment} (some : fragments ≠ []) :
    grouped (tagged key fragments) = [(key, fragments)] := by
  rw [grouped,fragmentKeys_tagged some,map_singleton,fragmentsOf_tagged]

theorem grouped_flatMap_tagged {groups : List (Key × List Fragment)}
    (distinct : (groups.map Prod.fst).Nodup) (some : ∀ group ∈ groups, group.2 ≠ []) :
    grouped (groups.flatMap fun group => tagged group.1 group.2) = groups := by
  induction groups with
  | nil => rfl
  | cons group groups induction =>
    obtain ⟨fresh,distinctTail⟩ := nodup_cons.mp distinct
    have tail := induction distinctTail fun other member => some other (by simp [member])
    have disjoint : ∀ fragment ∈ tagged group.1 group.2,
        ∀ other ∈ groups.flatMap fun group => tagged group.1 group.2,
          fragment.1 ≠ other.1 := by
      intro fragment member other otherMember same
      obtain ⟨owner,ownerMember,otherTagged⟩ := mem_flatMap.mp otherMember
      rw [key_of_mem_tagged member,key_of_mem_tagged otherTagged] at same
      exact fresh (same ▸ mem_map_of_mem ownerMember)
    rw [flatMap_cons,grouped_append disjoint,tail,
      grouped_tagged (some group mem_cons_self)]
    rfl

end

theorem length_eraseDups_le (keys : List Key) : keys.eraseDups.length ≤ keys.length := by
  induction size : keys.length using Nat.strongRecOn generalizing keys with
  | ind size induction =>
    cases keys with
    | nil => exact Nat.zero_le _
    | cons key keys =>
      rw [length_cons] at size
      have shorter := length_filter_le (fun other => !other == key) keys
      have := induction _ (by omega) (keys.filter fun other => !other == key) rfl
      rw [eraseDups_cons,length_cons]
      omega

theorem eraseDups_of_nodup {keys : List Key} (distinct : keys.Nodup) : keys.eraseDups = keys := by
  induction keys with
  | nil => rfl
  | cons key keys induction =>
    obtain ⟨fresh,restDistinct⟩ := nodup_cons.mp distinct
    have kept : (keys.filter fun other => !other == key) = keys := by
      apply filter_eq_self.mpr
      intro other member
      have : other ≠ key := fun isKey => fresh (isKey ▸ member)
      simpa using this
    rw [eraseDups_cons,kept,induction restDistinct]

theorem length_eraseDups_eq_iff (keys : List Key) :
    keys.eraseDups.length = keys.length ↔ keys.Nodup := by
  refine ⟨fun same => ?_,fun distinct => by rw [eraseDups_of_nodup distinct]⟩
  induction keys with
  | nil => exact nodup_nil
  | cons key keys induction =>
    rw [eraseDups_cons,length_cons,length_cons] at same
    have bound := length_eraseDups_le (keys.filter fun other => !other == key)
    have shorter := length_filter_le (fun other => !other == key) keys
    have kept : (keys.filter fun other => !other == key) = keys :=
      filter_eq_self.mpr (length_filter_eq_length_iff.mp (by omega))
    have fresh : key ∉ keys := fun member => by
      have := filter_eq_self.mp kept key member
      simp at this
    rw [kept] at same
    exact nodup_cons.mpr ⟨fresh,induction (by omega)⟩

theorem length_grouped_eq_iff (fragments : List (Key × Fragment)) :
    (grouped fragments).length = fragments.length ↔ (fragments.map Prod.fst).Nodup := by
  rw [← length_eraseDups_eq_iff,length_map,grouped,length_map]
  rfl

theorem grouped_of_nodup (distinct : (fragments.map Prod.fst).Nodup) :
    grouped fragments = fragments.map fun fragment => (fragment.1, [fragment.2]) := by
  have whole : fragments = (fragments.map fun fragment => (fragment.1, [fragment.2])).flatMap
      fun group => tagged group.1 group.2 := by
    simp [flatMap_map,tagged]
  have keys : ((fragments.map fun fragment => (fragment.1, [fragment.2])).map Prod.fst).Nodup := by
    simpa [Function.comp_def] using distinct
  have some : ∀ group ∈ fragments.map fun fragment => (fragment.1, [fragment.2]),
      group.2 ≠ [] := by
    intro group member
    obtain ⟨fragment,-,rfl⟩ := mem_map.mp member
    exact cons_ne_nil _ _
  conv => lhs; rw [whole]
  exact grouped_flatMap_tagged keys some

end NewApi
