import NewApi.HeaderOverride

/-!
# Override operations on wildcard paths

The path library is a parameter: what it does is assumed only for paths whose parts mean nothing
but themselves.
-/

namespace NewApi

open GoStrings

/-- The functions of `sjson` and `gjson` on a body. -/
structure JsonEditor where
  setBytes : JsonValue → String → JsonValue → Except OverrideError JsonValue
  deleteBytes : JsonValue → String → Except OverrideError JsonValue
  /-- There is a value at the path. -/
  hasValue : JsonValue → String → Bool
  /-- The number of items, when there is an array at the path. -/
  arrayLength : JsonValue → String → Option Nat

def isPathSyntax (c : Char) : Bool :=
  c ∈ ['.', '|', '#', '@', '*', '?', '\\']

/-- A part that starts with one of these is not a name. -/
def startsSyntax (c : Char) : Bool :=
  c ∈ [':', '!', '[', '\x7b']

def PlainName (name : String) : Prop :=
  trimSpace name ≠ "" ∧ name.toList.all (fun c => !isPathSyntax c) ∧
    name.toList.head?.all fun c => !startsSyntax c

/-- What the libraries document, for plain paths: a value is set or added at the path, a value is
deleted at the path, and nothing else changes. -/
structure JsonEditor.Documented (editor : JsonEditor) : Prop where
  set : ∀ {root node : JsonValue} {place : List String} {label : String},
    root.PlainPath PlainName place → root.getAt place = some node →
    node.PlainLabel PlainName label → ∀ value,
    editor.setBytes root (joinDots (place ++ [label])) value =
      .ok (root.putAt place (node.setChild label value))
  delete : ∀ {root node : JsonValue} {place : List String} {label : String},
    root.PlainPath PlainName place → root.getAt place = some node →
    node.PlainLabel PlainName label →
    editor.deleteBytes root (joinDots (place ++ [label])) =
      .ok (root.putAt place (node.removeChild label))
  has : ∀ {root node : JsonValue} {place : List String} {label : String},
    root.PlainPath PlainName place → root.getAt place = some node →
    node.PlainLabel PlainName label →
    editor.hasValue root (joinDots (place ++ [label])) = (node.child label).isSome

/-- The matches of `\.(-\d+)` in a path, without the dot. -/
def negativeIndexes (path : String) : List String :=
  path.toList.tails.filterMap fun
    | '.' :: '-' :: rest =>
      let digits := rest.takeWhile Char.isDigit
      if digits = [] then none else some (String.ofList ('-' :: digits))
    | _ => none

/-- The part of a text before another text; everything when it does not occur. -/
def charsBefore (part : List Char) : List Char → List Char
  | [] => []
  | c :: rest => if part.isPrefixOf (c :: rest) then [] else c :: charsBefore part rest

/-- `strings.Replace` with a count of one. -/
def replaceFirst (part new : List Char) : List Char → List Char
  | [] => []
  | c :: rest =>
    if part.isPrefixOf (c :: rest) then new ++ (c :: rest).drop part.length
    else c :: replaceFirst part new rest

def processNegativeIndex (editor : JsonEditor) (body : JsonValue) (path : String) : String :=
  (negativeIndexes path).foldl (fun result negIndex =>
    let before := charsBefore negIndex.toList path.toList
    let arrayPath := if before.getLast? = some '.' then before.dropLast else before
    match editor.arrayLength body (String.ofList arrayPath), atoi negIndex with
    | some length, some index =>
      let actual := (length : Int) + index
      if 0 ≤ actual ∧ actual < length then
        String.ofList (replaceFirst ('.' :: negIndex.toList) ('.' :: (toString actual).toList)
          result.toList)
      else result
    | _, _ => result) path

def sortedNames (entries : List (String × JsonValue)) : List String :=
  (entries.map Prod.fst).insertionSort (· ≤ ·)

def itemAt (items : List JsonValue) (segment : String) : Option JsonValue :=
  (atoi segment).bind fun index => if index < 0 then none else items[index.toNat]?

/-- The dotted paths of a pattern. The last segment need not be in an object already. -/
def collectWildcardPaths : JsonValue → List String → List String → List String
  | _, [], before => [joinDots before]
  | node, segment :: rest, before =>
    let segment := trimSpace segment
    if segment = "" then []
    else if segment = "*" then
      match node with
      | .object entries =>
        (sortedNames entries).flatMap fun key =>
          match entries.lookup key with
          | some next => collectWildcardPaths next rest (before ++ [key])
          | none => []
      | .array items =>
        (List.range items.length).flatMap fun index =>
          match items[index]? with
          | some next => collectWildcardPaths next rest (before ++ [toString index])
          | none => []
      | _ => []
    else
      match node with
      | .object entries =>
        if rest = [] then [joinDots (before ++ [segment])]
        else
          match entries.lookup segment with
          | some next => collectWildcardPaths next rest (before ++ [segment])
          | none => []
      | .array items =>
        match itemAt items segment with
        | some next =>
          if rest = [] then [joinDots (before ++ [segment])]
          else collectWildcardPaths next rest (before ++ [segment])
        | none => []
      | _ => []

def expandWildcardPaths (body : JsonValue) (path : String) : List String :=
  (collectWildcardPaths body (split path '.') []).eraseDups

def resolveOperationPaths (body : JsonValue) (path : String) : List String :=
  if contains path "*" then expandWildcardPaths body path else [path]

section

variable (editor : JsonEditor)

def deleteValue (body : JsonValue) (path : String) : Except OverrideError JsonValue :=
  if trimSpace path = "" then .ok body else editor.deleteBytes body path

def setValue (operation : ParamOperation) (body : JsonValue) (path : String) :
    Except OverrideError JsonValue :=
  if operation.keepOrigin ∧ editor.hasValue body path then .ok body
  else editor.setBytes body path operation.value

def editPaths (edit : JsonValue → String → Except OverrideError JsonValue) (mode : BodyMode)
    (operation : ParamOperation) (body : JsonValue) : Except OverrideError JsonValue :=
  let paths := resolveOperationPaths body (processNegativeIndex editor body operation.path)
  (paths.foldlM edit body).mapError (OverrideError.operationFailed (.body mode))

def deleteOperation (operation : ParamOperation) (body : JsonValue) :
    Except OverrideError JsonValue :=
  editPaths editor (deleteValue editor) .delete operation body

def setOperation (operation : ParamOperation) (body : JsonValue) :
    Except OverrideError JsonValue :=
  editPaths editor (setValue editor operation) .set operation body

end

end NewApi
