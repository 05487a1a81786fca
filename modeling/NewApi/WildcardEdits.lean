import NewApi.WildcardMatches

/-!
# Editing what a wildcard path matches

Editing the matched places one after another is the same as one pass over the body.
-/

namespace NewApi

open GoStrings JsonValue List

def matchesLabel (segment label : String) : Bool :=
  segment ≠ "" ∧ (segment = "*" ∨ label = segment)

namespace JsonValue

def mapMatched (segment : String) (change : JsonValue → JsonValue) : JsonValue → JsonValue
  | .array items =>
    .array (items.mapIdx fun index item =>
      if matchesLabel segment (toString index) then change item else item)
  | .object entries =>
    .object (entries.map fun entry =>
      (entry.1, if matchesLabel segment entry.1 then change entry.2 else entry.2))
  | leaf => leaf

def removeMatched (segment : String) : JsonValue → JsonValue
  | .array items =>
    .array ((items.zipIdx.filter fun item => !matchesLabel segment (toString item.2)).map Prod.fst)
  | .object entries => .object (entries.filter fun entry => !matchesLabel segment entry.1)
  | leaf => leaf

/-- The node with the value at every matched child, kept values apart, and at a name that it does
not have yet. -/
def setMatched (keepOrigin : Bool) (value : JsonValue) (segment : String) (node : JsonValue) :
    JsonValue :=
  match node.mapMatched segment fun old => if keepOrigin then old else value with
  | .object entries =>
    if segment = "" ∨ segment = "*" ∨ segment ∈ entries.map Prod.fst then .object entries
    else .object (entries ++ [(segment, value)])
  | other => other

end JsonValue

/-- One pass over the body: the pattern leads to the nodes whose children are changed. -/
def editMatches (last : String → JsonValue → JsonValue) : List String → JsonValue → JsonValue
  | [], node => node
  | [segment], node => last (trimSpace segment) node
  | segment :: next :: more, node =>
    node.mapMatched (trimSpace segment) (editMatches last (next :: more))

def AtLast (Fits : String → JsonValue → Prop) : List String → JsonValue → Prop
  | [], _ => True
  | [segment], node => Fits (trimSpace segment) node
  | segment :: next :: more, node =>
    ∀ label ∈ labels (trimSpace segment) node, ∀ child, reach node label = some child →
      AtLast Fits (next :: more) child

def SingleItem (segment : String) : JsonValue → Prop
  | .array items => (labels segment (.array items)).length ≤ 1
  | _ => True

section

variable {node child : JsonValue} {segment label : String} {items : List JsonValue}
  {entries : List (String × JsonValue)} {change : JsonValue → JsonValue}

theorem matchesLabel_iff :
    matchesLabel segment label ↔ segment ≠ "" ∧ (segment = "*" ∨ label = segment) := by
  simp [matchesLabel]

theorem mem_labels_array {index : Nat} (inRange : index < items.length) :
    toString index ∈ labels segment (.array items) ↔ matchesLabel segment (toString index) := by
  rw [matchesLabel_iff,labels]
  by_cases blank : segment = ""
  · simp [blank]
  · by_cases star : segment = "*"
    · rw [if_neg blank,if_pos star]
      refine iff_of_true ?_ ⟨blank,.inl star⟩
      exact mem_map_of_mem (mem_range.mpr inRange)
    · rw [if_neg blank,if_neg star]
      constructor
      · intro member
        split at member
        · exact ⟨blank,.inr (mem_singleton.mp member)⟩
        · cases member
      · rintro ⟨-,isStar | rfl⟩
        · exact absurd isStar star
        · have found : (itemAt items (toString index)).isSome := by
            rw [itemAt_toString,getElem?_eq_getElem inRange]
            rfl
          simp only [found,if_true,mem_singleton]

theorem mem_labels_object (member : label ∈ entries.map Prod.fst) :
    label ∈ labels segment (.object entries) ↔ matchesLabel segment label := by
  rw [matchesLabel_iff,labels]
  by_cases blank : segment = ""
  · simp [blank]
  · by_cases star : segment = "*"
    · rw [if_neg blank,if_pos star]
      exact iff_of_true (mem_sortedNames.mpr member) ⟨blank,.inl star⟩
    · simp [star]

def putReached (change : JsonValue → JsonValue) (node current : JsonValue) (label : String) :
    JsonValue :=
  match reach node label with
  | some child => current.putChild label (change child)
  | none => current

theorem foldl_putReached_array (chosen : List String) :
    chosen.foldl (putReached change (.array items)) (.array items) =
      .array (items.mapIdx fun index item =>
        if toString index ∈ chosen then change item else item) := by
  induction chosen using reverseRecOn with
  | nil =>
    refine congrArg array (ext_getElem (by simp) ?_)
    simp
  | append_singleton chosen label induction =>
    rw [foldl_concat,induction]
    cases isIndex : position items.length label with
    | none =>
      -- No item has this label, so nothing is put.
      have unchanged : ∀ current : List JsonValue, current.length = items.length →
          putReached change (.array items) (.array current) label = .array current := by
        intro current sameLength
        unfold putReached
        split
        · simp [putChild,sameLength,isIndex]
        · rfl
      rw [unchanged _ length_mapIdx]
      refine congrArg array (ext_getElem (by simp) ?_)
      intro index inRange _
      have other : toString index ≠ label := by
        rintro rfl
        rw [position_toString (by simpa using inRange)] at isIndex
        cases isIndex
      simp [-Nat.toString_eq_repr,other]
    | some index =>
      obtain ⟨inRange,rfl⟩ := position_eq_some isIndex
      have reached : reach (.array items) (toString index) = some items[index] :=
        (itemAt_toString index).trans (getElem?_eq_getElem inRange)
      simp only [putReached,reached,putChild,length_mapIdx,isIndex]
      refine congrArg array (ext_getElem (by simp) ?_)
      intro other _ _
      by_cases same : index = other
      · subst same
        simp
      · have apart : toString other ≠ toString index := fun named =>
          same (toString_injective named).symm
        simp only [getElem_set,getElem_mapIdx,mem_append,mem_singleton,
          same,apart,if_false,or_false]

theorem foldl_putReached_object (chosen : List String) (distinct : (entries.map Prod.fst).Nodup) :
    chosen.foldl (putReached change (.object entries)) (.object entries) =
      .object (entries.map fun entry =>
        (entry.1, if entry.1 ∈ chosen then change entry.2 else entry.2)) := by
  induction chosen using reverseRecOn with
  | nil => simp
  | append_singleton chosen label induction =>
    rw [foldl_concat,induction]
    have valueOf : ∀ entry ∈ entries, entry.1 = label → reach (.object entries) label = some entry.2 := by
      rintro entry member rfl
      exact lookup_of_mem distinct member
    unfold putReached
    split
    · rename_i child found
      rw [putChild,map_map]
      congr 1
      apply map_congr_left
      intro entry member
      by_cases same : entry.1 = label
      · have isChild : entry.2 = child := Option.some.inj ((valueOf entry member same).symm.trans found)
        simp [same,isChild]
      · simp [same]
    · rename_i missing
      congr 1
      apply map_congr_left
      intro entry member
      have other : entry.1 ≠ label := fun same => by
        rw [valueOf entry member same] at missing
        cases missing
      simp [other]

/-- The pass over the children of one node, child by child. -/
theorem mapMatched_eq_foldl (distinct : node.names.Nodup) :
    node.mapMatched segment change =
      (labels segment node).foldl (putReached change node) node := by
  cases node with
  | array =>
    rw [foldl_putReached_array]
    refine congrArg array (ext_getElem (by simp) ?_)
    intro index inRange _
    simp only [getElem_mapIdx,mem_labels_array (by simpa using inRange)]
  | object =>
    rw [foldl_putReached_object _ distinct]
    refine congrArg object (map_congr_left ?_)
    intro entry member
    simp only [mem_labels_object (mem_map_of_mem member)]
  | _ => simp [mapMatched,labels]

/-- A label leads where the segment leads, or nowhere. -/
theorem child_eq_none_or_reach (node : JsonValue) (label : String) :
    node.child label = none ∨ node.child label = reach node label := by
  cases node with
  | array items =>
    cases isIndex : position items.length label with
    | none => exact .inl (by simp [child,isIndex])
    | some =>
      have plain : (array items).PlainLabel PlainName label := by
        simp [PlainLabel,isIndex]
      exact .inr (reach_of_plain plain).symm
  | object => exact .inr rfl
  | _ => exact .inl rfl

theorem putChild_reached {current : JsonValue} (distinct : current.names.Nodup)
    (sameChild : current.child label = node.child label) (found : reach node label = some child) :
    current.putChild label child = current := by
  rcases child_eq_none_or_reach node label with missing | isReach
  · exact putChild_of_child_eq_none (sameChild.trans missing) child
  · exact putChild_self distinct (sameChild.trans (isReach.trans found))

end

section

variable {edit : JsonValue → String → Except OverrideError JsonValue}
  {change : JsonValue → String → JsonValue} {last : String → JsonValue → JsonValue}
  {Fits : String → JsonValue → Prop}

/-- The labels stay plain while the children before them are changed. -/
def StaysPlain (change : JsonValue → String → JsonValue) : JsonValue → List String → Prop
  | _, [] => True
  | node, label :: rest =>
    node.PlainLabel PlainName label ∧ StaysPlain change (change node label) rest

/-- The edit of a path changes one child of a node. Changing the children that a segment stands
for, one after another, is one pass over the node. -/
structure OnePassEdit (edit : JsonValue → String → Except OverrideError JsonValue)
    (change : JsonValue → String → JsonValue) (last : String → JsonValue → JsonValue)
    (Fits : String → JsonValue → Prop) : Prop where
  law : ∀ {root node : JsonValue} {place : List String} {label : String},
    root.PlainPath PlainName place → root.getAt place = some node →
    node.PlainLabel PlainName label →
    edit root (joinDots (place ++ [label])) = .ok (root.putAt place (change node label))
  stays : ∀ {node : JsonValue} {segment : String}, Fits segment node →
    (∀ label ∈ labels segment node, node.PlainLabel PlainName label) →
    StaysPlain change node (labels segment node)
  whole : ∀ {node : JsonValue} {segment : String}, Fits segment node → node.names.Nodup →
    (∀ label ∈ labels segment node, node.PlainLabel PlainName label) →
    (labels segment node).foldl change node = last segment node

variable {node : JsonValue} {label : String} {chosen : List String}

theorem edit_children (one : OnePassEdit edit change last Fits) {root : JsonValue}
    {place : List String} (plain : StaysPlain change node chosen)
    (path : root.PlainPath PlainName place) (here : root.getAt place = some node) :
    (chosen.map fun label => joinDots (place ++ [label])).foldlM edit root =
      .ok (root.putAt place (chosen.foldl change node)) := by
  induction chosen generalizing root node with
  | nil =>
    rw [foldl_nil,path.putAt_self here]
    rfl
  | cons label chosen induction =>
    obtain ⟨labelPlain,restPlain⟩ := plain
    rw [map_cons,foldlM_cons,one.law path here labelPlain]
    have rest := induction restPlain (path.putAt _) (path.getAt_putAt _)
    rw [path.putAt_putAt] at rest
    exact rest

theorem mem_places_cons {child : JsonValue} {segment next : String} {more place : List String}
    (member : label ∈ labels (trimSpace segment) node) (found : reach node label = some child)
    (placeMember : place ∈ places (next :: more) child) :
    label :: place ∈ places (segment :: next :: more) node := by
  rw [places,mem_flatMap]
  refine ⟨label,member,?_⟩
  rw [found]
  exact mem_map_of_mem placeMember

theorem editMatches_of_no_places (one : OnePassEdit edit change last Fits) {segments : List String}
    (fits : AtLast Fits segments node) (distinct : node.DistinctNames)
    (nothing : places segments node = []) : editMatches last segments node = node := by
  induction segments generalizing node with
  | nil => rfl
  | cons segment rest induction =>
    cases rest with
    | nil =>
      have noLabels : labels (trimSpace segment) node = [] := map_eq_nil_iff.mp nothing
      have whole := one.whole fits distinct.names_nodup (by simp [noLabels])
      rw [noLabels] at whole
      exact whole.symm
    | cons next more =>
      rw [editMatches,mapMatched_eq_foldl distinct.names_nodup]
      have idle : ∀ label ∈ labels (trimSpace segment) node,
          putReached (editMatches last (next :: more)) node node label = node := by
        intro label member
        unfold putReached
        split
        · rename_i child found
          have below : places (next :: more) child = [] := by
            rw [eq_nil_iff_forall_not_mem]
            intro place placeMember
            have := mem_places_cons member found placeMember
            simp [nothing] at this
          rw [induction (fits label member child found) (distinct.reach found) below]
          exact putChild_reached distinct.names_nodup rfl found
        · rfl
      refine foldlRecOn (motive := fun current => current = node) _ _ rfl ?_
      rintro current rfl label member
      exact idle label member

/-- The node after edits below other labels: the chosen labels still lead to the same children. -/
structure SameBelow (node current : JsonValue) (chosen : List String) : Prop where
  child : ∀ label ∈ chosen, current.child label = node.child label
  plain : ∀ label, node.PlainLabel PlainName label → current.PlainLabel PlainName label
  distinct : current.names.Nodup

theorem SameBelow.putChild {current new : JsonValue}
    (same : SameBelow node current (label :: chosen)) (fresh : label ∉ chosen) :
    SameBelow node (current.putChild label new) chosen where
  child other member := by
    have different : other ≠ label := fun isLabel => fresh (isLabel ▸ member)
    rw [child_putChild_other different,same.child other (mem_cons_of_mem _ member)]
  plain other plain := plainLabel_putChild.mpr (same.plain other plain)
  distinct := by
    rw [names_putChild]
    exact same.distinct

theorem SameBelow.putReached {current : JsonValue} (same : SameBelow node current (label :: chosen))
    (fresh : label ∉ chosen) (change : JsonValue → JsonValue) :
    SameBelow node (putReached change node current label) chosen := by
  unfold NewApi.putReached
  split
  · exact same.putChild fresh
  · exact ⟨(forall_mem_cons.mp same.child).2,same.plain,
      same.distinct⟩

def placesBelow (node : JsonValue) (rest : List String) (label : String) : List (List String) :=
  match reach node label with
  | some child => (places rest child).map (label :: ·)
  | none => []

/-- What is known of the places below one label: wherever the child stands, editing them is one
pass over the child. -/
structure EditedBelow (edit : JsonValue → String → Except OverrideError JsonValue)
    (last : String → JsonValue → JsonValue) (Fits : String → JsonValue → Prop) (node : JsonValue)
    (rest : List String) (label : String) : Prop where
  fits : ∀ child, reach node label = some child → AtLast Fits rest child
  plain : ∀ child suffix, reach node label = some child → suffix ∈ places rest child →
    node.PlainLabel PlainName label
  edited : ∀ {child root : JsonValue} {place : List String}, reach node label = some child →
    root.PlainPath PlainName place → root.getAt place = some child →
    ((places rest child).map fun suffix => joinDots (place ++ suffix)).foldlM edit root =
      .ok (root.putAt place (editMatches last rest child))

variable {root node current : JsonValue} {place rest chosen : List String} {label : String}
  (one : OnePassEdit edit change last Fits)

include one

theorem EditedBelow.run (below : EditedBelow edit last Fits node rest label)
    (distinct : node.DistinctNames) (same : SameBelow node current (label :: chosen))
    (path : root.PlainPath PlainName place) (here : root.getAt place = some current) :
    ((placesBelow node rest label).map fun suffix => joinDots (place ++ suffix)).foldlM edit root =
      .ok (root.putAt place (putReached (editMatches last rest) node current label)) := by
  cases found : reach node label with
  | none =>
    simp only [placesBelow,putReached,found,path.putAt_self here]
    rfl
  | some child =>
    simp only [placesBelow,putReached,found]
    cases suffixes : places rest child with
    | nil =>
      have unchanged :=
        editMatches_of_no_places one (below.fits child found) (distinct.reach found) suffixes
      have sameChild := same.child label mem_cons_self
      rw [unchanged,putChild_reached same.distinct sameChild found,path.putAt_self here]
      rfl
    | cons suffix =>
      have labelPlain := below.plain child suffix found (by simp [suffixes])
      have isChild : current.child label = some child := by
        rw [same.child label mem_cons_self,← reach_of_plain labelPlain,found]
      have childPath := path.concat here (same.plain label labelPlain) isChild
      have childHere : root.getAt (place ++ [label]) = some child :=
        (getAt_concat here).trans isChild
      have edited := below.edited found childPath childHere
      rw [putAt_concat here isChild,suffixes] at edited
      simpa [Function.comp_def] using edited

theorem edit_below_all (below : ∀ label ∈ chosen, EditedBelow edit last Fits node rest label)
    (distinct : node.DistinctNames) (apart : chosen.Nodup) (same : SameBelow node current chosen)
    (path : root.PlainPath PlainName place) (here : root.getAt place = some current) :
    ((chosen.flatMap (placesBelow node rest)).map fun suffix =>
        joinDots (place ++ suffix)).foldlM edit root =
      .ok (root.putAt place (chosen.foldl (putReached (editMatches last rest) node) current)) := by
  induction chosen generalizing root current with
  | nil =>
    rw [foldl_nil,path.putAt_self here]
    rfl
  | cons label chosen induction =>
    obtain ⟨fresh,restApart⟩ := nodup_cons.mp apart
    have first := (below label mem_cons_self).run one distinct same path here
    have others := induction (forall_mem_cons.mp below).2
      restApart (same.putReached fresh (editMatches last rest)) (path.putAt _)
      (path.getAt_putAt _)
    rw [path.putAt_putAt] at others
    rwa [flatMap_cons,map_append,foldlM_append,first]

theorem edit_places (segments : List String)
    (some_ : segments ≠ []) (fits : AtLast Fits segments node) (distinct : node.DistinctNames)
    (plain : ∀ suffix ∈ places segments node, PlainPlace node suffix)
    (path : root.PlainPath PlainName place) (here : root.getAt place = some node) :
    ((places segments node).map fun suffix => joinDots (place ++ suffix)).foldlM edit root =
      .ok (root.putAt place (editMatches last segments node)) := by
  induction segments generalizing root node place with
  | nil => exact absurd rfl some_
  | cons segment rest induction =>
    cases rest with
    | nil =>
      have labelsPlain : ∀ label ∈ labels (trimSpace segment) node,
          node.PlainLabel PlainName label := by
        intro label member
        exact plain [label] (mem_map_of_mem member)
      have edited := edit_children one (one.stays fits labelsPlain) path here
      rw [one.whole fits distinct.names_nodup labelsPlain] at edited
      rwa [places,map_map,editMatches]
    | cons next more =>
      have below : ∀ label ∈ labels (trimSpace segment) node,
          EditedBelow edit last Fits node (next :: more) label := by
        intro label member
        have plainBelow : ∀ child suffix, reach node label = some child →
            suffix ∈ places (next :: more) child →
            node.PlainLabel PlainName label ∧ PlainPlace child suffix :=
          fun child suffix found suffixMember =>
            (plain _ (mem_places_cons member found suffixMember)).tail found
              (ne_nil_of_mem_places suffixMember)
        refine ⟨fits label member,fun child suffix found suffixMember =>
          (plainBelow child suffix found suffixMember).1,?_⟩
        intro child root place found childPath childHere
        exact induction (cons_ne_nil _ _) (fits label member child found)
          (distinct.reach found)
          (fun suffix suffixMember => (plainBelow child suffix found suffixMember).2)
          childPath childHere
      rw [editMatches,mapMatched_eq_foldl distinct.names_nodup]
      exact edit_below_all one below distinct (labels_nodup distinct.names_nodup)
        ⟨fun _ _ => rfl,fun _ plain => plain,distinct.names_nodup⟩ path here

end

end NewApi
