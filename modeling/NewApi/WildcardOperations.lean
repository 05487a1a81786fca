import NewApi.WildcardEdits

/-! # Deleting and setting what a wildcard path matches -/

namespace NewApi

open GoStrings JsonValue List

section

variable {root node : JsonValue} {place : List String} {label : String}

theorem exists_nonspace_of_plainLabel (plain : node.PlainLabel PlainName label) :
    ∃ c ∈ label.toList, isSpace c = false := by
  cases node with
  | array =>
    obtain ⟨index,isIndex⟩ := Option.isSome_iff_exists.mp plain
    rw [← (position_eq_some isIndex).2]
    have some_ : (toString index).toList ≠ [] := by
      rw [toList_toString]
      exact Nat.toDigits_ne_nil
    have digit := isDigit_of_mem_toString (head_mem some_)
    refine ⟨_,head_mem some_,?_⟩
    generalize (toString index).toList.head some_ = c at digit
    simp only [Char.isDigit,Bool.and_eq_true,decide_eq_true_eq] at digit
    have range : 48 ≤ c.toNat ∧ c.toNat ≤ 57 := digit
    simp [isSpace]
    omega
  | object =>
    have notBlank := plain.1.1
    rw [Ne,trimSpace_eq_empty_iff] at notBlank
    simpa using notBlank
  | _ => exact plain.elim

theorem path_not_blank (plain : node.PlainLabel PlainName label) :
    trimSpace (joinDots (place ++ [label])) ≠ "" := by
  rw [Ne,trimSpace_eq_empty_iff]
  intro blank
  obtain ⟨c,member,notSpace⟩ := exists_nonspace_of_plainLabel plain
  have isBlank := blank c (mem_joinDots (by simp) member)
  rw [notSpace] at isBlank
  cases isBlank

end

section

variable {node : JsonValue} {segment : String}
  (segment : String) (entries : List (String × JsonValue)) (items : List JsonValue)

theorem foldl_removeChild_object (chosen : List String) :
    chosen.foldl removeChild (.object entries) =
      .object (entries.filter fun entry => entry.1 ∉ chosen) := by
  induction chosen using reverseRecOn with
  | nil => simp
  | append_singleton chosen label induction =>
    rw [foldl_concat,induction,removeChild,filter_filter]
    refine congrArg object (filter_congr ?_)
    simp [and_comm]

variable {chosen : List String}

theorem staysPlain_removeChild_object {entries : List (String × JsonValue)}
    (plain : ∀ label ∈ chosen, (object entries).PlainLabel PlainName label) :
    StaysPlain removeChild (.object entries) chosen := by
  induction chosen generalizing entries with
  | nil => trivial
  | cons label chosen induction =>
    refine ⟨plain label mem_cons_self,induction ?_⟩
    intro other member
    obtain ⟨otherPlain,distinct⟩ := plain other (mem_cons_of_mem _ member)
    exact ⟨otherPlain,distinct.sublist (filter_sublist.map _)⟩

theorem filter_zipIdx_ne (start index : Nat) :
    ((items.zipIdx start).filter fun item => item.2 ≠ start + index).map Prod.fst =
      items.eraseIdx index := by
  induction items generalizing start index with
  | nil => rfl
  | cons item items induction =>
    cases index with
    | zero =>
      have later : ∀ other ∈ items.zipIdx (start + 1), other.2 ≠ start := by
        intro other member
        have := le_snd_of_mem_zipIdx member
        omega
      rw [zipIdx_cons,filter_cons_of_neg (by simp),filter_eq_self.mpr]
      · simp
      · simpa using later
    | succ index =>
      rw [zipIdx_cons,filter_cons_of_pos (by simp),map_cons,
        eraseIdx_cons_succ,← induction (start + 1) index]
      simp only [Nat.add_assoc,Nat.add_comm 1]

theorem removeMatched_array :
    removeMatched segment (.array items) =
      .array ((items.zipIdx.filter fun item =>
        toString item.2 ∉ labels segment (.array items)).map Prod.fst) := by
  refine congrArg (fun kept : List (JsonValue × Nat) => array (kept.map Prod.fst)) (filter_congr ?_)
  intro item member
  have inRange : item.2 < items.length := by
    have := snd_lt_of_mem_zipIdx member
    simpa using this
  rw [decide_not,Bool.decide_congr (mem_labels_array inRange)]
  simp

theorem removeMatched_object :
    removeMatched segment (.object entries) =
      .object (entries.filter fun entry => entry.1 ∉ labels segment (.object entries)) := by
  refine congrArg object (filter_congr ?_)
  intro entry member
  rw [decide_not,Bool.decide_congr (mem_labels_object (mem_map_of_mem member))]
  simp

theorem removeChild_array {items : List JsonValue} {label : String}
    (plain : (array items).PlainLabel PlainName label) :
    (array items).removeChild label =
      .array ((items.zipIdx.filter fun item => toString item.2 ∉ [label]).map Prod.fst) := by
  obtain ⟨index,isIndex⟩ := Option.isSome_iff_exists.mp plain
  have atIndex := (position_eq_some isIndex).2
  rw [removeChild]
  simp only [isIndex]
  rw [← filter_zipIdx_ne items 0 index]
  refine congrArg (fun kept : List (JsonValue × Nat) => array (kept.map Prod.fst)) (filter_congr ?_)
  intro item _
  refine Bool.decide_congr (not_congr ?_)
  rw [← atIndex,mem_singleton,toString_injective.eq_iff,Nat.zero_add]

theorem deleteValue_onePass {editor : JsonEditor} (documented : editor.Documented) :
    OnePassEdit (deleteValue editor) removeChild removeMatched SingleItem where
  law path here plain := by
    rw [deleteValue,if_neg (path_not_blank plain)]
    exact documented.delete path here plain
  stays {node segment} single plain := by
    cases node with
    | object => exact staysPlain_removeChild_object plain
    | array items =>
      have short : (labels segment (.array items)).length ≤ 1 := single
      match chosen : labels segment (.array items), short with
      | [], _ => trivial
      | [label], _ => exact ⟨plain label (by simp [chosen]),trivial⟩
    | _ => simp [labels,StaysPlain]
  whole {node segment} single distinct plain := by
    cases node with
    | object => rw [foldl_removeChild_object,removeMatched_object]
    | array items =>
      have short : (labels segment (.array items)).length ≤ 1 := single
      rw [removeMatched_array]
      match chosen : labels segment (.array items), short with
      | [], _ => simp
      | [label], _ => exact removeChild_array (plain label (by simp [chosen]))
    | _ => simp [labels,removeMatched]

end

section

variable {keepOrigin : Bool} {value : JsonValue}

def setOrKeep (keepOrigin : Bool) (value node : JsonValue) (label : String) : JsonValue :=
  if keepOrigin ∧ (node.child label).isSome then node else node.setChild label value

variable {node : JsonValue} {label segment : String}

theorem plainLabel_setChild {other : String} (plain : node.PlainLabel PlainName other) :
    (node.setChild label value).PlainLabel PlainName other := by
  cases node with
  | object =>
    rw [setChild]
    split
    · exact plainLabel_putChild.mpr plain
    · rename_i fresh
      refine ⟨plain.1,?_⟩
      rw [map_append,nodup_append]
      refine ⟨plain.2,nodup_singleton _,?_⟩
      rintro name member _ isNew rfl
      obtain rfl := mem_singleton.mp isNew
      exact fresh member
  | array => exact plainLabel_putChild.mpr plain
  | _ => exact plain.elim

theorem staysPlain_setOrKeep (plain : ∀ label ∈ chosen, node.PlainLabel PlainName label) :
    StaysPlain (setOrKeep keepOrigin value) node chosen := by
  induction chosen generalizing node with
  | nil => trivial
  | cons label chosen induction =>
    refine ⟨plain label mem_cons_self,induction ?_⟩
    intro other member
    have otherPlain := plain other (mem_cons_of_mem _ member)
    unfold setOrKeep
    split
    · exact otherPlain
    · exact plainLabel_setChild otherPlain

theorem setOrKeep_of_child {old : JsonValue} (distinct : node.names.Nodup)
    (found : node.child label = some old) :
    setOrKeep keepOrigin value node label =
      node.putChild label (if keepOrigin then old else value) := by
  cases keepOrigin with
  | true => simp [setOrKeep,found,putChild_self distinct found]
  | false =>
    cases node with
    | object => simp [setOrKeep,setChild,mem_names_of_lookup found]
    | array => rfl
    | _ => rfl

theorem foldl_setOrKeep {current : JsonValue} (apart : chosen.Nodup)
    (same : SameBelow node current chosen)
    (present : ∀ label ∈ chosen, ∃ old, node.child label = some old) :
    chosen.foldl (setOrKeep keepOrigin value) current =
      chosen.foldl (putReached (fun old => if keepOrigin then old else value) node) current := by
  induction chosen generalizing current with
  | nil => rfl
  | cons label chosen induction =>
    obtain ⟨fresh,restApart⟩ := nodup_cons.mp apart
    obtain ⟨old,found⟩ := present label mem_cons_self
    have reached : reach node label = some old := by
      rcases child_eq_none_or_reach node label with missing | isReach
      · rw [missing] at found
        cases found
      · exact isReach.symm.trans found
    have first : setOrKeep keepOrigin value current label =
        putReached (fun old => if keepOrigin then old else value) node current label := by
      have here := (same.child label mem_cons_self).trans found
      rw [setOrKeep_of_child same.distinct here,putReached,reached]
    rw [foldl_cons,first]
    exact induction restApart (same.putReached fresh _)
      (forall_mem_cons.mp present).2

theorem names_mapMatched (segment : String) (change : JsonValue → JsonValue) (node : JsonValue) :
    (node.mapMatched segment change).names = node.names := by
  cases node <;> simp [mapMatched,names]

theorem labels_of_missing (member : label ∈ labels segment node)
    (plain : node.PlainLabel PlainName label) (missing : node.child label = none) :
    ∃ entries, node = .object entries ∧ segment ≠ "" ∧ segment ≠ "*" ∧ label = segment ∧
      segment ∉ entries.map Prod.fst := by
  cases node with
  | array =>
    obtain ⟨index,isIndex⟩ := Option.isSome_iff_exists.mp plain
    simp [child,isIndex,(position_eq_some isIndex).1] at missing
  | object entries =>
    have absent : label ∉ entries.map Prod.fst := by
      intro isName
      obtain ⟨old,found⟩ := exists_lookup isName
      rw [child,found] at missing
      cases missing
    rw [labels] at member
    split at member
    · cases member
    · rename_i notBlank
      split at member
      · exact absurd (mem_sortedNames.mp member) absent
      · rename_i notStar
        obtain rfl := mem_singleton.mp member
        exact ⟨entries,rfl,notBlank,notStar,rfl,absent⟩
  | _ => exact plain.elim

theorem setMatched_of_missing {entries : List (String × JsonValue)} (notBlank : segment ≠ "")
    (notStar : segment ≠ "*") (absent : segment ∉ entries.map Prod.fst) :
    setMatched keepOrigin value segment (.object entries) =
      .object (entries ++ [(segment, value)]) := by
  have unmatched : (object entries).mapMatched segment
      (fun old => if keepOrigin then old else value) = .object entries := by
    refine congrArg object ?_
    conv => rhs; rw [← map_id entries]
    apply map_congr_left
    intro entry member
    have other : entry.1 ≠ segment := fun isSegment =>
      absent (isSegment ▸ mem_map_of_mem member)
    simp [matchesLabel,notStar,other]
  rw [setMatched,unmatched]
  simp only [notBlank,notStar,absent,or_self,if_false]

theorem setMatched_of_present
    (present : ∀ label ∈ labels segment node, ∃ old, node.child label = some old) :
    setMatched keepOrigin value segment node =
      node.mapMatched segment fun old => if keepOrigin then old else value := by
  cases node with
  | object entries =>
    have known : segment = "" ∨ segment = "*" ∨ segment ∈ (object entries).names := by
      by_contra unknown
      push Not at unknown
      obtain ⟨notBlank,notStar,absent⟩ := unknown
      obtain ⟨old,found⟩ := present segment (by simp [labels,notBlank,notStar])
      exact absent (mem_names_of_lookup found)
    rw [← names_mapMatched segment fun old => if keepOrigin then old else value] at known
    exact if_pos known
  | array => rfl
  | _ => rfl

theorem setValue_onePass {editor : JsonEditor} (documented : editor.Documented)
    (operation : ParamOperation) :
    OnePassEdit (setValue editor operation) (setOrKeep operation.keepOrigin operation.value)
      (setMatched operation.keepOrigin operation.value) fun _ _ => True where
  law {root node place label} path here plain := by
    rw [setValue,setOrKeep,documented.has path here plain]
    split
    · rw [path.putAt_self here]
    · exact documented.set path here plain operation.value
  stays _ plain := staysPlain_setOrKeep plain
  whole {node segment} _ distinct plain := by
    by_cases present : ∀ label ∈ labels segment node, ∃ old, node.child label = some old
    · rw [foldl_setOrKeep (labels_nodup distinct) ⟨fun _ _ => rfl,fun _ plain => plain,distinct⟩
        present,setMatched_of_present present,mapMatched_eq_foldl distinct]
    · push Not at present
      obtain ⟨label,member,missing⟩ := present
      have isMissing : node.child label = none := Option.eq_none_iff_forall_ne_some.mpr missing
      obtain ⟨entries,rfl,notBlank,notStar,rfl,absent⟩ :=
        labels_of_missing member (plain label member) isMissing
      have chosen : labels label (.object entries) = [label] := by simp [labels,notBlank,notStar]
      rw [setMatched_of_missing notBlank notStar absent,chosen,foldl_cons,foldl_nil,
        setOrKeep,isMissing,if_neg (by simp),setChild,if_neg absent]

end

section

theorem contains_star_iff {text : String} : contains text "*" ↔ '*' ∈ text.toList := by
  rw [GoStrings.contains,any_eq_true]
  constructor
  · rintro ⟨suffix,isTail,starts⟩
    have isSuffix := (mem_tails _ _).mp isTail
    obtain ⟨rest,rfl⟩ := isPrefixOf_iff_prefix.mp starts
    exact isSuffix.subset (by simp)
  · intro member
    obtain ⟨before,after,split⟩ := append_of_mem member
    refine ⟨'*' :: after,(mem_tails _ _).mpr ⟨before,split.symm⟩,?_⟩
    simp

theorem mem_replaceFirst {c : Char} {part new text : List Char} (other : c ∉ part)
    (member : c ∈ text) : c ∈ replaceFirst part new text := by
  induction text with
  | nil => cases member
  | cons first rest induction =>
    rw [replaceFirst]
    split
    · rename_i starts
      obtain ⟨after,whole⟩ := isPrefixOf_iff_prefix.mp starts
      rw [← whole,drop_left]
      rw [← whole] at member
      exact mem_append_right _ ((mem_append.mp member).resolve_left other)
    · rcases mem_cons.mp member with rfl | later
      · exact mem_cons_self
      · exact mem_cons_of_mem _ (induction later)

theorem star_not_mem_negativeIndexes {path negIndex : String}
    (member : negIndex ∈ negativeIndexes path) : '*' ∉ negIndex.toList := by
  obtain ⟨suffix,-,isIndex⟩ := mem_filterMap.mp member
  split at isIndex
  · dsimp only at isIndex
    split at isIndex
    · cases isIndex
    · obtain rfl := Option.some.inj isIndex
      intro star
      rw [String.toList_ofList] at star
      rcases mem_cons.mp star with dash | digit
      · exact absurd dash (by decide)
      · exact absurd (mem_takeWhile_imp digit) (by decide)
  · cases isIndex

theorem contains_star_processNegativeIndex (editor : JsonEditor) (body : JsonValue) {path : String}
    (wildcard : contains path "*") : contains (processNegativeIndex editor body path) "*" := by
  rw [contains_star_iff] at wildcard ⊢
  refine foldlRecOn (motive := fun result => '*' ∈ String.toList result) _ _ wildcard ?_
  intro result kept negIndex member
  have other : '*' ∉ '.' :: negIndex.toList := by
    simpa using star_not_mem_negativeIndexes member
  dsimp only
  split
  · split
    · rw [String.toList_ofList]
      exact mem_replaceFirst other kept
    · exact kept
  · exact kept

theorem atLast_true (segments : List String) (node : JsonValue) :
    AtLast (fun _ _ => True) segments node := by
  induction segments generalizing node with
  | nil => trivial
  | cons segment rest induction =>
    cases rest with
    | nil => trivial
    | cons => exact fun label _ child _ => induction child

theorem length_labels_le_one {segment : String} (notStar : segment ≠ "*") (node : JsonValue) :
    (labels segment node).length ≤ 1 := by
  unfold labels
  split
  · exact Nat.zero_le _
  · cases node with
    | array items =>
      change (if (itemAt items segment).isSome then [segment] else []).length ≤ 1
      split <;> simp
    | object => exact le_rfl
    | _ => exact Nat.zero_le _

theorem atLast_singleItem {segments : List String}
    (notStar : ∀ segment, segments.getLast? = some segment → trimSpace segment ≠ "*")
    (node : JsonValue) : AtLast SingleItem segments node := by
  induction segments generalizing node with
  | nil => trivial
  | cons segment rest induction =>
    cases rest with
    | nil =>
      have short := length_labels_le_one (notStar segment rfl) node
      cases node with
      | array => exact short
      | object => trivial
      | _ => trivial
    | cons =>
      intro label _ child _
      exact induction (fun last isLast => notStar last (by simpa using isLast)) child

variable {editor : JsonEditor} {operation : ParamOperation} {body : JsonValue}

/-- The pattern of an operation, with its negative positions resolved. -/
def operationPattern (editor : JsonEditor) (operation : ParamOperation) (body : JsonValue) :
    List String :=
  split (processNegativeIndex editor body operation.path) '.'

theorem editPaths_eq {edit : JsonValue → String → Except OverrideError JsonValue}
    {change : JsonValue → String → JsonValue} {last : String → JsonValue → JsonValue}
    {Fits : String → JsonValue → Prop} (one : OnePassEdit edit change last Fits) (mode : BodyMode)
    (distinct : body.DistinctNames) (wildcard : contains operation.path "*")
    (plain : ∀ place ∈ places (operationPattern editor operation body) body, PlainPlace body place)
    (fits : AtLast Fits (operationPattern editor operation body) body) :
    editPaths editor edit mode operation body =
      .ok (editMatches last (operationPattern editor operation body) body) := by
  have paths : resolveOperationPaths body (processNegativeIndex editor body operation.path) =
      (places (operationPattern editor operation body) body).map joinDots := by
    rw [resolveOperationPaths,if_pos (contains_star_processNegativeIndex editor body wildcard)]
    exact expandWildcardPaths_eq _ distinct plain
  have start : body.PlainPath PlainName [] := trivial
  have edited := edit_places one (operationPattern editor operation body) (split_ne_nil _ _) fits
    distinct plain start rfl
  simp only [nil_append] at edited
  rw [editPaths,paths,edited]
  rfl

/-- Operations on a wildcard path, on the places that it matches in the body before the operation.
When the labels of these places are plain, `set` puts the value at each of them and changes
nothing else, and `delete` removes each of them and changes nothing else, unless two of them are
items of one array. -/
theorem wildcard_operations_edit_matches (documented : editor.Documented)
    (distinct : body.DistinctNames) (wildcard : contains operation.path "*")
    (plain : ∀ place ∈ places (operationPattern editor operation body) body,
      PlainPlace body place) :
    (AtLast SingleItem (operationPattern editor operation body) body →
      deleteOperation editor operation body =
        .ok (editMatches removeMatched (operationPattern editor operation body) body)) ∧
    setOperation editor operation body =
      .ok (editMatches (setMatched operation.keepOrigin operation.value)
        (operationPattern editor operation body) body) :=
  ⟨editPaths_eq (deleteValue_onePass documented) .delete distinct wildcard plain,
    editPaths_eq (setValue_onePass documented operation) .set distinct wildcard plain
      (atLast_true _ _)⟩

end

def treeEditor : JsonEditor where
  setBytes root path value :=
    let parts := split path '.'
    match root.getAt parts.dropLast, parts.getLast? with
    | some node, some label => .ok (root.putAt parts.dropLast (node.setChild label value))
    | _, _ => .ok root
  deleteBytes root path :=
    let parts := split path '.'
    match root.getAt parts.dropLast, parts.getLast? with
    | some node, some label => .ok (root.putAt parts.dropLast (node.removeChild label))
    | _, _ => .ok root
  hasValue root path := (root.getAt (split path '.')).isSome
  arrayLength root path :=
    match root.getAt (split path '.') with
    | some (.array items) => some items.length
    | _ => none

theorem split_plainPath {root node : JsonValue} {place : List String} {label : String}
    (path : root.PlainPath PlainName place) (here : root.getAt place = some node)
    (plain : node.PlainLabel PlainName label) :
    split (joinDots (place ++ [label])) '.' = place ++ [label] := by
  apply split_joinDots (by simp)
  induction place generalizing root with
  | nil => simpa using no_dot_of_plainLabel plain
  | cons first rest induction =>
    obtain ⟨firstPlain,next,isNext,restPath⟩ := path
    rw [cons_append,forall_mem_cons]
    refine ⟨no_dot_of_plainLabel firstPlain,induction restPath ?_⟩
    simpa [getAt,isNext] using here

theorem treeEditor_documented : treeEditor.Documented where
  set path here plain value := by simp [treeEditor,split_plainPath path here plain,here]
  delete path here plain := by simp [treeEditor,split_plainPath path here plain,here]
  has path here plain := by simp [treeEditor,split_plainPath path here plain,getAt_concat here]

def toolsBody : JsonValue :=
  .object [("tools", .array [.object [("limit", .number "1")], .object [("size", .number "2")]])]

def limitOperation : ParamOperation where
  path := "tools.*.limit"
  mode := .body .set
  value := .number "9"
  keepOrigin := false
  origin := ""
  target := ""
  conditions := []
  logic := ""

theorem toolsBody_distinctNames : toolsBody.DistinctNames := by
  refine .object (by simp) ?_
  simp only [forall_mem_singleton]
  refine .array ?_
  simp only [forall_mem_cons,not_mem_nil,false_implies,implies_true,and_true]
  exact ⟨.object (by simp) (by simpa using .number "1"),
    .object (by simp) (by simpa using .number "2")⟩

theorem limitPattern :
    operationPattern treeEditor limitOperation toolsBody = ["tools", "*", "limit"] := by
  rfl

theorem toolsBody_places_plain :
    ∀ place ∈ places (operationPattern treeEditor limitOperation toolsBody) toolsBody,
      PlainPlace toolsBody place := by
  have matched : places (operationPattern treeEditor limitOperation toolsBody) toolsBody =
      [["tools", "0", "limit"], ["tools", "1", "limit"]] := by rfl
  have tools : PlainName "tools" := ⟨by decide,by decide,by decide⟩
  have limit : PlainName "limit" := ⟨by decide,by decide,by decide⟩
  rw [matched]
  simp only [forall_mem_cons,not_mem_nil,false_implies,implies_true,and_true]
  exact ⟨⟨⟨tools,by simp⟩,_,rfl,rfl,_,rfl,limit,by simp⟩,
    ⟨⟨tools,by simp⟩,_,rfl,rfl,_,rfl,limit,by simp⟩⟩

theorem toolsBody_limits_edited :
    deleteOperation treeEditor limitOperation toolsBody =
        .ok (.object [("tools", .array [.object [], .object [("size", .number "2")]])]) ∧
      setOperation treeEditor limitOperation toolsBody =
        .ok (.object [("tools", .array [.object [("limit", .number "9")],
          .object [("size", .number "2"), ("limit", .number "9")]])]) := by
  obtain ⟨deleted,set⟩ := wildcard_operations_edit_matches treeEditor_documented
    toolsBody_distinctNames (by decide) toolsBody_places_plain
  refine ⟨deleted (atLast_singleItem ?_ _),set⟩
  intro segment isLast
  cases isLast
  decide

/-- The second tool has no limit, yet it gets one. Of the items of one array, the second one is
not deleted: the first deletion has moved it. -/
theorem wildcard_set_adds_missing_name :
    toolsBody.getAt ["tools", "1", "limit"] = none ∧
    (∃ changed, setOperation treeEditor limitOperation toolsBody = .ok changed ∧
      changed.getAt ["tools", "1", "limit"] = some (.number "9")) ∧
    deleteOperation treeEditor { limitOperation with path := "*" }
        (.array [.number "1", .number "2", .number "3"]) =
      .ok (.array [.number "2"]) :=
  ⟨rfl,⟨_,rfl,rfl⟩,rfl⟩

end NewApi
