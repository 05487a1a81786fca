import NewApi.GoStrings

/-!
# Places in a JSON document

A document is a tree. A label leads from a node to a child: the name of an entry
or the decimal position of an item.
-/

namespace NewApi

open List

/-- A decoded JSON value. A number keeps the text that `%v` prints. -/
inductive JsonValue where
  | null
  | boolean (value : Bool)
  | number (printed : String)
  | text (value : String)
  | array (items : List JsonValue)
  | object (entries : List (String × JsonValue))

namespace JsonValue

section

def position (length : Nat) (label : String) : Option Nat :=
  (List.range length).find? fun index => toString index = label

def child (node : JsonValue) (label : String) : Option JsonValue :=
  match node with
  | .array items => (position items.length label).bind fun index => items[index]?
  | .object entries => entries.lookup label
  | _ => none

def names : JsonValue → List String
  | .object entries => entries.map Prod.fst
  | _ => []

def putChild (node : JsonValue) (label : String) (new : JsonValue) : JsonValue :=
  match node with
  | .array items =>
    match position items.length label with
    | some index => .array (items.set index new)
    | none => .array items
  | .object entries =>
    .object (entries.map fun entry => if entry.1 = label then (label, new) else entry)
  | leaf => leaf

def setChild (node : JsonValue) (label : String) (new : JsonValue) : JsonValue :=
  match node with
  | .object entries =>
    if label ∈ entries.map Prod.fst then (JsonValue.object entries).putChild label new
    else .object (entries ++ [(label, new)])
  | other => other.putChild label new

def removeChild (node : JsonValue) (label : String) : JsonValue :=
  match node with
  | .array items =>
    match position items.length label with
    | some index => .array (items.eraseIdx index)
    | none => .array items
  | .object entries => .object (entries.filter fun entry => entry.1 ≠ label)
  | leaf => leaf

variable {length index : Nat} {label other : String}

theorem position_toString (inRange : index < length) :
    position length (toString index) = some index := by
  rw [position,find?_eq_some_iff_getElem]
  refine ⟨by simp,index,by simpa using inRange,by simp,?_⟩
  intro earlier before
  have different : toString earlier ≠ toString index := fun same =>
    absurd (GoStrings.toString_injective same) (Nat.ne_of_lt before)
  simpa using different

theorem position_eq_some (found : position length label = some index) :
    index < length ∧ toString index = label := by
  have member := mem_of_find?_eq_some found
  have named := find?_some found
  exact ⟨mem_range.mp member,by simpa using named⟩

variable {entries : List (String × JsonValue)}

theorem lookup_map_other {new : JsonValue} (different : other ≠ label) :
    (entries.map fun entry => if entry.1 = label then (label, new) else entry).lookup other =
      entries.lookup other := by
  induction entries with
  | nil => rfl
  | cons entry entries induction =>
    obtain ⟨name,value⟩ := entry
    by_cases same : name = label
    · subst same
      have skipped : (other == name) = false := by simpa using different
      simp [lookup_cons,skipped,induction]
    · simp [lookup_cons,same,induction]

theorem lookup_map_self {old new : JsonValue} (found : entries.lookup label = some old) :
    (entries.map fun entry => if entry.1 = label then (label, new) else entry).lookup label =
      some new := by
  induction entries with
  | nil => simp at found
  | cons entry entries induction =>
    obtain ⟨name,value⟩ := entry
    by_cases same : name = label
    · simp [same]
    · have skipped : (label == name) = false := by simpa using Ne.symm same
      rw [lookup_cons,skipped] at found
      simpa [lookup_cons,same,skipped] using induction found

variable {node old new : JsonValue}

theorem child_putChild_self (found : node.child label = some old) (new : JsonValue) :
    (node.putChild label new).child label = some new := by
  cases node with
  | array =>
    obtain ⟨index,isIndex,-⟩ := Option.bind_eq_some_iff.mp found
    have inRange := (position_eq_some isIndex).1
    simp [putChild,child,isIndex,inRange]
  | object => exact lookup_map_self found
  | _ => simp [child] at found

theorem child_putChild_other (different : other ≠ label) (new : JsonValue) :
    (node.putChild label new).child other = node.child other := by
  cases node with
  | array items =>
    cases isIndex : position items.length label with
    | none => simp [putChild,isIndex]
    | some index =>
      cases isOther : position items.length other with
      | none => simp [putChild,child,isIndex,isOther]
      | some otherIndex =>
        have elsewhere : index ≠ otherIndex := by
          rintro rfl
          exact different
            ((position_eq_some isOther).2.symm.trans (position_eq_some isIndex).2)
        simp [putChild,child,isIndex,isOther,elsewhere]
  | object => exact lookup_map_other different
  | _ => rfl

theorem putChild_putChild (first second : JsonValue) :
    (node.putChild label first).putChild label second = node.putChild label second := by
  cases node with
  | array items =>
    cases isIndex : position items.length label with
    | none | some index => simp [putChild,isIndex]
  | object =>
    simp only [putChild,map_map,object.injEq]
    apply map_congr_left
    intro entry _
    by_cases same : entry.1 = label <;> simp [same]
  | _ => rfl

theorem lookup_of_mem {entry : String × JsonValue} (distinct : (entries.map Prod.fst).Nodup)
    (member : entry ∈ entries) :
    entries.lookup entry.1 = some entry.2 := by
  obtain ⟨before,after,rfl⟩ := append_of_mem member
  refine lookup_eq_some_iff.mpr ⟨before,after,rfl,?_⟩
  intro earlier earlierMember
  rw [map_append] at distinct
  have apart := (nodup_append.mp distinct).2.2 earlier.1 (mem_map_of_mem earlierMember)
    entry.1 mem_cons_self
  exact bne_iff_ne.mpr (Ne.symm apart)

theorem names_putChild : (node.putChild label new).names = node.names := by
  cases node with
  | array items => cases isIndex : position items.length label <;> simp [putChild,names,isIndex]
  | object =>
    rw [putChild,names,map_map]
    apply map_congr_left
    intro entry _
    by_cases same : entry.1 = label <;> simp [same]
  | _ => rfl

theorem putChild_self (distinct : node.names.Nodup) (found : node.child label = some old) :
    node.putChild label old = node := by
  cases node with
  | array =>
    obtain ⟨index,isIndex,isItem⟩ := Option.bind_eq_some_iff.mp found
    obtain ⟨inRange,isNext⟩ := List.getElem?_eq_some_iff.mp isItem
    subst isNext
    simp [putChild,isIndex]
  | object entries =>
    have same : (entries.map fun entry => if entry.1 = label then (label, old) else entry) =
        entries := by
      conv => rhs; rw [← map_id entries]
      apply map_congr_left
      intro entry member
      by_cases isLabel : entry.1 = label
      · have value := lookup_of_mem distinct member
        rw [isLabel] at value
        have isOld : entry.2 = old := Option.some.inj (value.symm.trans found)
        rw [if_pos isLabel,← isLabel,← isOld]
        rfl
      · rw [if_neg isLabel]
        rfl
    rw [putChild,same]
  | _ => rfl

theorem putChild_of_child_eq_none (missing : node.child label = none) (new : JsonValue) :
    node.putChild label new = node := by
  cases node with
  | array items =>
    cases isIndex : position items.length label with
    | none => simp [putChild,isIndex]
    | some =>
      have inRange := (position_eq_some isIndex).1
      simp [child,isIndex,inRange] at missing
  | object entries =>
    have same : (entries.map fun entry => if entry.1 = label then (label, new) else entry) =
        entries := by
      conv => rhs; rw [← map_id entries]
      apply map_congr_left
      intro entry member
      have other := lookup_eq_none_iff.mp missing entry member
      rw [if_neg fun isLabel => by simp [isLabel] at other]
      rfl
    rw [putChild,same]
  | _ => rfl

theorem mem_names_of_lookup (found : entries.lookup label = some old)
    : label ∈ entries.map Prod.fst := by
  obtain ⟨before,after,rfl,-⟩ := lookup_eq_some_iff.mp found
  simp

/-- The labels that can be relied on: a position of an array, and a plain name in an object whose
names are distinct. -/
def PlainLabel (Plain : String → Prop) (node : JsonValue) (label : String) : Prop :=
  match node with
  | .array items => (position items.length label).isSome
  | .object entries => Plain label ∧ (entries.map Prod.fst).Nodup
  | _ => False

def getAt : JsonValue → List String → Option JsonValue
  | node, [] => some node
  | node, label :: rest => (node.child label).bind fun next => getAt next rest

def putAt : JsonValue → List String → JsonValue → JsonValue
  | _, [], new => new
  | root, label :: rest, new =>
    match root.child label with
    | some next => root.putChild label (putAt next rest new)
    | none => root

def PlainPath (Plain : String → Prop) : JsonValue → List String → Prop
  | _, [] => True
  | node, label :: rest =>
    node.PlainLabel Plain label ∧ ∃ next, node.child label = some next ∧ next.PlainPath Plain rest

variable {Plain : String → Prop} {root next : JsonValue} {place : List String}

theorem PlainLabel.names_nodup (plain : node.PlainLabel Plain label) : node.names.Nodup := by
  cases node with
  | object => exact plain.2
  | array => exact nodup_nil
  | _ => exact plain.elim

theorem plainLabel_putChild :
    (node.putChild label new).PlainLabel Plain other ↔ node.PlainLabel Plain other := by
  cases node with
  | array items => cases isIndex : position items.length label <;> simp [putChild,PlainLabel,isIndex]
  | object entries =>
    change Plain other ∧ ((object entries).putChild label new).names.Nodup ↔
      Plain other ∧ (object entries).names.Nodup
    rw [names_putChild]
  | _ => rfl

theorem getAt_append (first second : List String) :
    root.getAt (first ++ second) = (root.getAt first).bind fun node => node.getAt second := by
  induction first generalizing root with
  | nil => rfl
  | cons label rest induction =>
    cases found : root.child label with
    | none => simp [getAt,found]
    | some => simpa [getAt,found] using induction

theorem getAt_concat (here : root.getAt place = some node) :
    root.getAt (place ++ [label]) = node.child label := by
  rw [getAt_append,here]
  simp [getAt]

section

variable (path : root.PlainPath Plain place)

include path

theorem PlainPath.concat (here : root.getAt place = some node)
    (plain : node.PlainLabel Plain label) (found : node.child label = some next) :
    root.PlainPath Plain (place ++ [label]) := by
  induction place generalizing root with
  | nil =>
    obtain rfl := Option.some.inj here
    exact ⟨plain,next,found,trivial⟩
  | cons first rest induction =>
    obtain ⟨firstPlain,step,isStep,restPath⟩ := path
    have stepHere : step.getAt rest = some node := by simpa [getAt,isStep] using here
    exact ⟨firstPlain,step,isStep,induction restPath stepHere⟩

theorem PlainPath.getAt_putAt (new : JsonValue) :
    (root.putAt place new).getAt place = some new := by
  induction place generalizing root with
  | nil => rfl
  | cons label rest induction =>
    obtain ⟨-,step,isStep,restPath⟩ := path
    simp [putAt,isStep,getAt,child_putChild_self isStep,induction restPath]

theorem PlainPath.putAt (new : JsonValue) :
    (root.putAt place new).PlainPath Plain place := by
  induction place generalizing root with
  | nil => trivial
  | cons label rest induction =>
    obtain ⟨labelPlain,step,isStep,restPath⟩ := path
    simp only [JsonValue.putAt,isStep]
    exact ⟨plainLabel_putChild.mpr labelPlain,step.putAt rest new,
      child_putChild_self isStep _,induction restPath⟩

theorem PlainPath.putAt_putAt (first second : JsonValue) :
    (root.putAt place first).putAt place second = root.putAt place second := by
  induction place generalizing root with
  | nil => rfl
  | cons label rest induction =>
    obtain ⟨-,step,isStep,restPath⟩ := path
    simp [JsonValue.putAt,isStep,child_putChild_self isStep,induction restPath,
      putChild_putChild]

theorem PlainPath.putAt_self
    (here : root.getAt place = some node) : root.putAt place node = root := by
  induction place generalizing root with
  | nil => exact (Option.some.inj here).symm
  | cons label rest induction =>
    obtain ⟨labelPlain,step,isStep,restPath⟩ := path
    have stepHere : step.getAt rest = some node := by simpa [getAt,isStep] using here
    rw [JsonValue.putAt,isStep]
    simp only [induction restPath stepHere]
    exact putChild_self labelPlain.names_nodup isStep

end

theorem putAt_concat (here : root.getAt place = some node) (found : node.child label = some next)
    (new : JsonValue) :
    root.putAt (place ++ [label]) new = root.putAt place (node.putChild label new) := by
  induction place generalizing root with
  | nil =>
    obtain rfl := Option.some.inj here
    simp [putAt,found]
  | cons first rest induction =>
    cases isStep : root.child first with
    | none => simp [getAt,isStep] at here
    | some step =>
      have stepHere : step.getAt rest = some node := by simpa [getAt,isStep] using here
      simp [putAt,isStep,induction stepHere]

def DistinctNames (root : JsonValue) : Prop :=
  ∀ place entries, root.getAt place = some (.object entries) → (entries.map Prod.fst).Nodup

theorem DistinctNames.names_nodup (distinct : root.DistinctNames) : root.names.Nodup := by
  cases root with
  | object entries => exact distinct [] entries rfl
  | _ => exact nodup_nil

theorem DistinctNames.child (distinct : root.DistinctNames) (found : root.child label = some next) :
    next.DistinctNames := by
  intro place entries here
  exact distinct (label :: place) entries (by simpa [getAt,found] using here)

theorem DistinctNames.array {items : List JsonValue}
    (distinct : ∀ item ∈ items, item.DistinctNames) : (JsonValue.array items).DistinctNames := by
  intro place entries here
  cases place with
  | nil => cases here
  | cons label rest =>
    obtain ⟨next,found,below⟩ := Option.bind_eq_some_iff.mp here
    obtain ⟨index,-,isItem⟩ := Option.bind_eq_some_iff.mp found
    exact distinct next (mem_of_getElem? isItem) rest entries below

theorem DistinctNames.object {fields : List (String × JsonValue)}
    (apart : (fields.map Prod.fst).Nodup) (distinct : ∀ field ∈ fields, field.2.DistinctNames) :
    (JsonValue.object fields).DistinctNames := by
  intro place entries here
  cases place with
  | nil =>
    cases here
    exact apart
  | cons label rest =>
    obtain ⟨next,found,below⟩ := Option.bind_eq_some_iff.mp here
    obtain ⟨before,after,rfl,-⟩ := lookup_eq_some_iff.mp found
    exact distinct (label, next) (by simp) rest entries below

theorem DistinctNames.number (printed : String) : (JsonValue.number printed).DistinctNames := by
  intro place entries here
  cases place with
  | nil => cases here
  | cons => simp [getAt,JsonValue.child] at here

end

end JsonValue

end NewApi
