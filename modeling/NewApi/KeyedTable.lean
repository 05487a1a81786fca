import Mathlib.Algebra.Order.BigOperators.Group.List
import Mathlib.Algebra.Ring.Int.Defs
import Mathlib.Data.List.Nodup

/-! # Tables with a primary key -/

namespace NewApi

open List

/-- Rows of a database table, distinguished by a primary key. -/
structure KeyedTable {Row Key : Type*} (key : Row → Key) where
  rows : List Row
  keysNodup : (rows.map key).Nodup

namespace KeyedTable

variable {Row Key : Type*} [DecidableEq Key] {key : Row → Key}

def find? (table : KeyedTable key) (wanted : Key) : Option Row :=
  table.rows.find? (fun row => key row = wanted)

variable {wanted : Key} {row updated stored : Row} {table : KeyedTable key}

theorem find?_eq_some_iff (table : KeyedTable key) :
    table.find? wanted = some row ↔ row ∈ table.rows ∧ key row = wanted := by
  constructor
  · intro found
    exact ⟨mem_of_find?_eq_some found,by simpa using find?_some found⟩
  · rintro ⟨member,rfl⟩
    obtain ⟨rows,nodup⟩ := table
    simp only [find?] at member ⊢
    induction rows with
    | nil => simp at member
    | cons first rest ih =>
      simp only [map_cons,nodup_cons,mem_map,not_exists,not_and] at nodup
      rcases mem_cons.mp member with rfl | later
      · simp
      · have different : key first ≠ key row := fun same => nodup.1 row later same.symm
        simpa [different] using ih nodup.2 later

theorem key_of_find? (found : table.find? wanted = some row) : key row = wanted :=
  (table.find?_eq_some_iff.mp found).2

theorem find?_of_mem (member : row ∈ table.rows) :
    table.find? (key row) = some row :=
  table.find?_eq_some_iff.mpr ⟨member,rfl⟩

theorem eq_of_key_eq {first second : Row} (firstMember : first ∈ table.rows)
    (secondMember : second ∈ table.rows) (same : key first = key second) : first = second := by
  have found := find?_of_mem firstMember
  rw [same,find?_of_mem secondMember] at found
  exact (Option.some.inj found).symm

def save (table : KeyedTable key) (updated : Row) : KeyedTable key where
  rows := table.rows.map (fun row => if key row = key updated then updated else row)
  keysNodup := by
    have sameKeys : (table.rows.map fun row =>
        if key row = key updated then updated else row).map key = table.rows.map key := by
      rw [map_map]
      refine map_congr_left fun row _ => ?_
      by_cases same : key row = key updated <;> simp [same]
    rw [sameKeys]
    exact table.keysNodup

theorem mem_save (table : KeyedTable key) :
    row ∈ (table.save updated).rows ↔
      (row ∈ table.rows ∧ key row ≠ key updated) ∨
        (row = updated ∧ ∃ stored ∈ table.rows, key stored = key updated) := by
  simp only [save,mem_map]
  constructor
  · rintro ⟨stored,member,rfl⟩
    by_cases same : key stored = key updated
    · exact .inr ⟨by simp [same],stored,member,same⟩
    · exact .inl ⟨by simpa [same] using member,by simp [same]⟩
  · rintro (⟨member,different⟩ | ⟨rfl,stored,member,same⟩)
    · exact ⟨row,member,by simp [different]⟩
    · exact ⟨stored,member,by simp [same]⟩

/-- Items that name the row they belong to are the same for all rows together exactly when they are
for each row. -/
theorem forall_exists_iff {Item : Type*} {owner : Item → Key} {first second : Row → Item → Prop}
    (table : KeyedTable key) (firstOwned : ∀ row item, first row item → owner item = key row)
    (secondOwned : ∀ row item, second row item → owner item = key row) :
    (∀ item, (∃ row ∈ table.rows, first row item) ↔ ∃ row ∈ table.rows, second row item) ↔
      ∀ row ∈ table.rows, ∀ item, first row item ↔ second row item := by
  constructor
  · intro same row member item
    constructor
    · intro isFirst
      obtain ⟨other,otherMember,isSecond⟩ := (same item).mp ⟨row,member,isFirst⟩
      rwa [eq_of_key_eq member otherMember
        ((firstOwned _ _ isFirst).symm.trans (secondOwned _ _ isSecond))]
    · intro isSecond
      obtain ⟨other,otherMember,isFirst⟩ := (same item).mpr ⟨row,member,isSecond⟩
      rwa [eq_of_key_eq member otherMember
        ((secondOwned _ _ isSecond).symm.trans (firstOwned _ _ isFirst))]
  · intro same item
    exact exists_congr fun row => and_congr_right fun member => same row member item

theorem find?_save_of_ne (table : KeyedTable key) (different : wanted ≠ key updated)
    : (table.save updated).find? wanted = table.find? wanted := by
  ext row
  rw [find?_eq_some_iff,find?_eq_some_iff,mem_save]
  constructor
  · rintro ⟨⟨member,-⟩ | ⟨rfl,-⟩,same⟩
    · exact ⟨member,same⟩
    · exact absurd same.symm different
  · rintro ⟨member,rfl⟩
    exact ⟨.inl ⟨member,different⟩,rfl⟩

theorem find?_save_self (table : KeyedTable key) (found : table.find? (key updated) = some stored) :
    (table.save updated).find? (key updated) = some updated := by
  rw [find?_eq_some_iff] at found ⊢
  exact ⟨table.mem_save.mpr (.inr ⟨rfl,stored,found⟩),rfl⟩

theorem sum_le_of_single (table : KeyedTable key) (wanted : Key) {weight : Row → Int} {bound : Int}
    (nonneg : 0 ≤ bound) (single : ∀ row ∈ table.rows, key row = wanted → weight row ≤ bound)
    (others : ∀ row ∈ table.rows, key row ≠ wanted → weight row ≤ 0) :
    (table.rows.map weight).sum ≤ bound := by
  obtain ⟨rows,nodup⟩ := table
  dsimp only at single others ⊢
  induction rows with
  | nil => simpa using nonneg
  | cons first rest ih =>
    simp only [map_cons,nodup_cons,mem_map,not_exists,not_and] at nodup
    simp only [forall_mem_cons] at single others
    rw [map_cons,sum_cons]
    by_cases same : key first = wanted
    · have restZero : (rest.map weight).sum ≤ 0 := by
        refine (sum_le_card_nsmul (rest.map weight) 0 fun value member => ?_).trans (by simp)
        obtain ⟨row,rowMember,rfl⟩ := mem_map.mp member
        exact others.2 row rowMember fun rowKey => nodup.1 row rowMember (rowKey.trans same.symm)
      have := single.1 same
      omega
    · have := others.1 same
      have := ih nodup.2 single.2 others.2
      omega

theorem find?_eq_none_iff (table : KeyedTable key) :
    table.find? wanted = none ↔ ∀ row ∈ table.rows, key row ≠ wanted := by
  simp [find?]

def insert (table : KeyedTable key) (row : Row) (free : table.find? (key row) = none) :
    KeyedTable key where
  rows := table.rows ++ [row]
  keysNodup := by
    have unused : key row ∉ table.rows.map key := by
      rw [mem_map]
      rintro ⟨stored, member, same⟩
      exact table.find?_eq_none_iff.mp free stored member same
    simp only [map_append, nodup_append, table.keysNodup, map_cons, map_nil,
      nodup_singleton, mem_singleton, forall_eq, true_and]
    intro stored member same
    exact unused (same ▸ member)

/-- `ON CONFLICT DO NOTHING`. -/
def insertOrIgnore (table : KeyedTable key) (row : Row) : KeyedTable key :=
  if free : table.find? (key row) = none then table.insert row free else table

theorem mem_insertOrIgnore (table : KeyedTable key) (free : table.find? (key row) = none) :
    stored ∈ (table.insertOrIgnore row).rows ↔ stored ∈ table.rows ∨ stored = row := by
  simp [insertOrIgnore,free,insert]

theorem mem_foldl_insertOrIgnore (table : KeyedTable key) {rows : List Row}
    (distinct : (rows.map key).Nodup) (free : ∀ row ∈ rows, table.find? (key row) = none) :
    stored ∈ (rows.foldl insertOrIgnore table).rows ↔ stored ∈ table.rows ∨ stored ∈ rows := by
  induction rows generalizing table with
  | nil => simp
  | cons row rest ih =>
    simp only [map_cons,nodup_cons,mem_map,not_exists,not_and] at distinct
    have rowFree := free row (by simp)
    have restFree : ∀ later ∈ rest, (table.insertOrIgnore row).find? (key later) = none := by
      intro later member
      rw [find?_eq_none_iff]
      intro other otherMember
      rcases (table.mem_insertOrIgnore rowFree).mp otherMember with old | rfl
      · exact table.find?_eq_none_iff.mp (free later (by simp [member])) other old
      · exact fun same => distinct.1 later member same.symm
    rw [foldl_cons,ih _ distinct.2 restFree,table.mem_insertOrIgnore rowFree]
    simp [or_assoc]

def updateAll (table : KeyedTable key) (change : Row → Row)
    (sameKey : ∀ row, key (change row) = key row) : KeyedTable key where
  rows := table.rows.map change
  keysNodup := by
    have sameKeys : (table.rows.map change).map key = table.rows.map key := by
      rw [map_map]
      exact map_congr_left fun row _ => sameKey row
    rw [sameKeys]
    exact table.keysNodup

def deleteWhere (table : KeyedTable key) (doomed : Row → Bool) : KeyedTable key where
  rows := table.rows.filter (fun row => !doomed row)
  keysNodup := table.keysNodup.sublist (filter_sublist.map key)

omit [DecidableEq Key] in
theorem mem_deleteWhere (table : KeyedTable key) {doomed : Row → Bool} :
    row ∈ (table.deleteWhere doomed).rows ↔ row ∈ table.rows ∧ doomed row = false := by
  simp [deleteWhere]

end KeyedTable

end NewApi
