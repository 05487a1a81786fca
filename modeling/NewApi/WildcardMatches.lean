import NewApi.KeyedFragments
import NewApi.WildcardOverride

/-! # What a wildcard path matches -/

namespace NewApi

open GoStrings JsonValue List

def reach (node : JsonValue) (segment : String) : Option JsonValue :=
  match node with
  | .array items => itemAt items segment
  | .object entries => entries.lookup segment
  | _ => none

/-- The labels that a segment of a pattern stands for. The name of an entry need not exist. -/
def labels (segment : String) (node : JsonValue) : List String :=
  if segment = "" then []
  else if segment = "*" then
    match node with
    | .array items => (List.range items.length).map toString
    | .object entries => sortedNames entries
    | _ => []
  else
    match node with
    | .array items => if (itemAt items segment).isSome then [segment] else []
    | .object _ => [segment]
    | _ => []

/-- The places that a pattern matches. Only the last label may lead to nothing yet. -/
def places : List String → JsonValue → List (List String)
  | [], _ => [[]]
  | [segment], node => (labels (trimSpace segment) node).map fun label => [label]
  | segment :: next :: more, node =>
    (labels (trimSpace segment) node).flatMap fun label =>
      match reach node label with
      | some child => (places (next :: more) child).map (label :: ·)
      | none => []

/-- All labels of the place are plain, and all but the last one lead to a child. -/
def PlainPlace : JsonValue → List String → Prop
  | _, [] => False
  | node, [label] => node.PlainLabel PlainName label
  | node, label :: next :: more =>
    node.PlainLabel PlainName label ∧
      ∃ child, node.child label = some child ∧ PlainPlace child (next :: more)

section

variable {items : List JsonValue} {entries : List (String × JsonValue)} {segment label : String}
  {node child : JsonValue} {Plain : String → Prop}

theorem itemAt_toString (index : Nat) : itemAt items (toString index) = items[index]? := by
  rw [itemAt,atoi_toString]
  simp

theorem mem_sortedNames : label ∈ sortedNames entries ↔ label ∈ entries.map Prod.fst :=
  (perm_insertionSort _ _).mem_iff

theorem exists_lookup (member : label ∈ entries.map Prod.fst) :
    ∃ value, entries.lookup label = some value := by
  rw [← Option.isSome_iff_exists,lookup_isSome_iff]
  obtain ⟨entry,entryMember,rfl⟩ := mem_map.mp member
  exact ⟨entry,entryMember,beq_self_eq_true _⟩

theorem reach_of_plain (plain : node.PlainLabel Plain label) :
    reach node label = node.child label := by
  cases node with
  | array =>
    obtain ⟨index,isIndex⟩ := Option.isSome_iff_exists.mp plain
    rw [child,isIndex,← (position_eq_some isIndex).2]
    exact itemAt_toString index
  | object => rfl
  | _ => exact plain.elim

end

section

variable {node : JsonValue} {segment : String}

def collectBelow (node : JsonValue) (rest before : List String) (label : String) : List String :=
  if rest = [] then [joinDots (before ++ [label])]
  else
    match reach node label with
    | some child => collectWildcardPaths child rest (before ++ [label])
    | none => []

theorem collectBelow_of_reach {child : JsonValue} {label : String} (rest before : List String)
    (found : reach node label = some child) :
    collectBelow node rest before label = collectWildcardPaths child rest (before ++ [label]) := by
  cases rest with
  | nil => cases child <;> rfl
  | cons => simp [collectBelow,found]

theorem collectWildcardPaths_cons (rest before : List String) :
    collectWildcardPaths node (segment :: rest) before =
      (labels (trimSpace segment) node).flatMap (collectBelow node rest before) := by
  by_cases blank : trimSpace segment = ""
  · cases node <;> simp [collectWildcardPaths,labels,blank]
  · by_cases star : trimSpace segment = "*"
    · cases node with
      | array items =>
        rw [collectWildcardPaths,if_neg blank,if_pos star]
        rw [labels,if_neg blank,if_pos star,flatMap_map]
        apply flatMap_congr
        intro index member
        have found : reach (.array items) (toString index) = items[index]? := itemAt_toString index
        have isItem := getElem?_eq_getElem (mem_range.mp member)
        rw [collectBelow_of_reach rest before (found.trans isItem)]
        simp only [isItem]
      | object entries =>
        rw [collectWildcardPaths,if_neg blank,if_pos star,labels,if_neg blank,if_pos star]
        apply flatMap_congr
        intro name member
        obtain ⟨value,found⟩ := exists_lookup (mem_sortedNames.mp member)
        have reached : reach (.object entries) name = some value := found
        rw [collectBelow_of_reach rest before reached]
        simp only [found]
      | _ =>
        simp [collectWildcardPaths,labels,star]
    · cases node with
      | array items =>
        rw [collectWildcardPaths,if_neg blank,if_neg star,labels,if_neg blank,if_neg star]
        cases found : itemAt items (trimSpace segment) with
        | none => simp
        | some next =>
          have reached : reach (.array items) (trimSpace segment) = some next := found
          cases rest <;> simp [collectBelow,reached]
      | object =>
        rw [collectWildcardPaths,if_neg blank,if_neg star,labels,if_neg blank,if_neg star]
        rw [flatMap_singleton]
        rfl
      | _ =>
        simp [collectWildcardPaths,labels,blank,star]

theorem collectWildcardPaths_eq (segments before : List String) :
    collectWildcardPaths node segments before =
      (places segments node).map fun place => joinDots (before ++ place) := by
  induction segments generalizing node before with
  | nil => cases node <;> simp [collectWildcardPaths,places]
  | cons segment rest induction =>
    rw [collectWildcardPaths_cons]
    cases rest with
    | nil =>
      rw [places,map_map,map_eq_flatMap]
      rfl
    | cons =>
      rw [places,map_flatMap]
      apply flatMap_congr
      intro label _
      cases found : reach node label with
      | none => simp [collectBelow,found]
      | some => simp [collectBelow_of_reach _ _ found,induction]

end

section

variable {node child : JsonValue} {segment label : String} {place : List String}

theorem JsonValue.DistinctNames.reach (distinct : node.DistinctNames) (found : reach node label = some child) :
    child.DistinctNames := by
  cases node with
  | array items =>
    obtain ⟨index,-,isItem⟩ := Option.bind_eq_some_iff.mp found
    split at isItem
    · cases isItem
    · have inRange := (List.getElem?_eq_some_iff.mp isItem).1
      have isChild : (JsonValue.array items).child (toString index.toNat) = some child := by
        rwa [JsonValue.child,position_toString inRange]
      exact distinct.child isChild
  | object => exact distinct.child found
  | _ => cases found

theorem labels_nodup (distinct : node.names.Nodup) : (labels segment node).Nodup := by
  unfold labels
  split
  · exact nodup_nil
  · split
    · cases node with
      | array => exact nodup_range.map toString_injective
      | object =>
        exact (perm_insertionSort _ _).nodup_iff.mpr distinct
      | _ => exact nodup_nil
    · cases node with
      | array =>
        change (if _ then [segment] else []).Nodup
        split
        · exact nodup_singleton _
        · exact nodup_nil
      | object => exact nodup_singleton _
      | _ => exact nodup_nil

theorem places_nodup (segments : List String) (distinct : node.DistinctNames) :
    (places segments node).Nodup := by
  induction segments generalizing node with
  | nil => exact nodup_singleton _
  | cons segment rest induction =>
    cases rest with
    | nil =>
      exact (labels_nodup distinct.names_nodup).map fun first second same => (List.cons.inj same).1
    | cons next more =>
      rw [places,nodup_flatMap]
      constructor
      · intro label _
        cases found : reach node label with
        | none => exact nodup_nil
        | some =>
          exact (induction (distinct.reach found)).map (cons_injective)
      · refine (labels_nodup distinct.names_nodup).imp ?_
        intro first second different place firstMember secondMember
        have starts : ∀ {label}, place ∈ (match reach node label with
            | some child => (places (next :: more) child).map (label :: ·)
            | none => []) → place.head? = some label := by
          intro label member
          cases found : reach node label with
          | none => simp [found] at member
          | some =>
            simp only [found,mem_map] at member
            obtain ⟨rest,-,rfl⟩ := member
            rfl
        exact different (Option.some.inj ((starts firstMember).symm.trans (starts secondMember)))

theorem PlainName.no_dot (plain : PlainName label) : '.' ∉ label.toList := by
  intro member
  have := all_eq_true.mp plain.2.1 '.' member
  simp [isPathSyntax] at this

theorem no_dot_of_plainLabel (plain : node.PlainLabel PlainName label) : '.' ∉ label.toList := by
  cases node with
  | array =>
    obtain ⟨index,isIndex⟩ := Option.isSome_iff_exists.mp plain
    rw [← (position_eq_some isIndex).2]
    intro member
    exact absurd (isDigit_of_mem_toString member) (by decide)
  | object => exact plain.1.no_dot
  | _ => exact plain.elim

theorem PlainPlace.ne_nil (plain : PlainPlace node place) : place ≠ [] := by
  rintro rfl
  exact plain

theorem PlainPlace.tail (plain : PlainPlace node (label :: place))
    (found : reach node label = some child) (more : place ≠ []) :
    node.PlainLabel PlainName label ∧ PlainPlace child place := by
  cases place with
  | nil => exact absurd rfl more
  | cons next =>
    obtain ⟨labelPlain,next,isNext,restPlain⟩ := plain
    rw [reach_of_plain labelPlain,isNext] at found
    cases found
    exact ⟨labelPlain,restPlain⟩

theorem ne_nil_of_mem_places {rest : List String}
    (member : place ∈ places (segment :: rest) node) : place ≠ [] := by
  rintro rfl
  cases rest with
  | nil => simp [places] at member
  | cons =>
    obtain ⟨label,-,below⟩ := mem_flatMap.mp member
    cases found : reach node label with
    | none | some child => simp [found] at below

theorem PlainPlace.no_dots (plain : PlainPlace node place) : ∀ label ∈ place, '.' ∉ label.toList := by
  induction place generalizing node with
  | nil => simp
  | cons label rest induction =>
    cases rest with
    | nil => simpa using no_dot_of_plainLabel plain
    | cons =>
      obtain ⟨labelPlain,child,-,childPlain⟩ := plain
      rw [forall_mem_cons]
      exact ⟨no_dot_of_plainLabel labelPlain,induction childPlain⟩

theorem expandWildcardPaths_eq (path : String) (distinct : node.DistinctNames)
    (plain : ∀ place ∈ places (split path '.') node, PlainPlace node place) :
    expandWildcardPaths node path = (places (split path '.') node).map joinDots := by
  have paths : collectWildcardPaths node (split path '.') [] =
      (places (split path '.') node).map joinDots := collectWildcardPaths_eq _ []
  have apart : ((places (split path '.') node).map joinDots).Nodup := by
    refine (places_nodup _ distinct).map_on ?_
    intro first firstMember second secondMember same
    have firstPlain := plain first firstMember
    have secondPlain := plain second secondMember
    rw [← split_joinDots firstPlain.ne_nil firstPlain.no_dots,
      ← split_joinDots secondPlain.ne_nil secondPlain.no_dots,same]
  rw [expandWildcardPaths,paths,eraseDups_of_nodup apart]

end

end NewApi
