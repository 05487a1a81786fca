import NewApi.JsonValue
import Mathlib.Data.List.AList
import Mathlib.Data.List.Sort

/-!
# Header overrides

The operations on the JSON body rest on a path library and stay parameters.
-/

namespace NewApi

open GoStrings

namespace JsonValue

mutual

/-- `fmt.Sprintf("%v", value)`; maps are printed in the order of their keys. -/
def sprint : JsonValue → String
  | .null => "<nil>"
  | .boolean value => if value then "true" else "false"
  | .number printed => printed
  | .text value => value
  | .array items => "[" ++ " ".intercalate (sprintItems items) ++ "]"
  | .object entries =>
    "map[" ++ " ".intercalate (((sprintEntries entries).insertionSort (·.1 ≤ ·.1)).map
      (fun entry => entry.1 ++ ":" ++ entry.2)) ++ "]"

def sprintItems : List JsonValue → List String
  | [] => []
  | item :: rest => item.sprint :: sprintItems rest

def sprintEntries : List (String × JsonValue) → List (String × String)
  | [] => []
  | (key, value) :: rest => (key, value.sprint) :: sprintEntries rest

end

def string? : JsonValue → Option String
  | .text value => some value
  | _ => none

def bool? : JsonValue → Option Bool
  | .boolean value => some value
  | _ => none

end JsonValue

/-- A Go map with text keys, visited in the order of its entries. -/
abbrev GoMap := AList (fun _ : String => JsonValue)

structure ConditionOperation where
  path : String
  mode : String
  value : JsonValue
  invert : Bool
  passMissingKey : Bool

inductive BodyMode where
  | delete | set | move | copy | prepend | append | trimPrefix | trimSuffix | ensurePrefix
  | ensureSuffix | trimSpace | toLower | toUpper | replace | regexReplace
deriving DecidableEq, Repr

inductive OperationMode where
  | body (mode : BodyMode)
  | returnError
  | pruneObjects
  | setHeader
  | deleteHeader
  | copyHeader
  | moveHeader
  | passHeaders
  | syncFields
  | unknown (name : String)
deriving DecidableEq, Repr

def OperationMode.parse : String → OperationMode
  | "delete" => .body .delete
  | "set" => .body .set
  | "move" => .body .move
  | "copy" => .body .copy
  | "prepend" => .body .prepend
  | "append" => .body .append
  | "trim_prefix" => .body .trimPrefix
  | "trim_suffix" => .body .trimSuffix
  | "ensure_prefix" => .body .ensurePrefix
  | "ensure_suffix" => .body .ensureSuffix
  | "trim_space" => .body .trimSpace
  | "to_lower" => .body .toLower
  | "to_upper" => .body .toUpper
  | "replace" => .body .replace
  | "regex_replace" => .body .regexReplace
  | "return_error" => .returnError
  | "prune_objects" => .pruneObjects
  | "set_header" => .setHeader
  | "delete_header" => .deleteHeader
  | "copy_header" => .copyHeader
  | "move_header" => .moveHeader
  | "pass_headers" => .passHeaders
  | "sync_fields" => .syncFields
  | name => .unknown name

inductive OverrideError where
  | message (text : String)
  | sourceHeaderNotFound (header : String)
  /-- The error that a `return_error` operation makes of its value. -/
  | returned (value : JsonValue)
  | operationFailed (mode : OperationMode) (cause : OverrideError)

structure ParamOperation where
  path : String
  mode : OperationMode
  value : JsonValue
  keepOrigin : Bool
  origin : String
  target : String
  conditions : List ConditionOperation
  logic : String

/-! ### Reading the operations -/

def parseCondition : JsonValue → Except OverrideError ConditionOperation
  | .object fields =>
    let path := ((fields.lookup "path").bind JsonValue.string?).getD ""
    let mode := ((fields.lookup "mode").bind JsonValue.string?).getD ""
    if trimSpace path = "" ∨ trimSpace mode = "" then
      .error (.message "condition path/mode is required")
    else
      .ok {
        path
        mode
        value := (fields.lookup "value").getD .null
        invert := ((fields.lookup "invert").bind JsonValue.bool?).getD false
        passMissingKey := ((fields.lookup "pass_missing_key").bind JsonValue.bool?).getD false }
  | _ => .error (.message "condition must be object")

def parseConditionOperations : JsonValue → Except OverrideError (List ConditionOperation)
  | .object entries =>
    let conditions := entries.filterMap (fun entry =>
      if trimSpace entry.1 = "" then none
      else some (ConditionOperation.mk (trimSpace entry.1) "full" entry.2 false false))
    if conditions.isEmpty then
      .error (.message "conditions object must contain at least one key")
    else
      .ok conditions
  | .array items => items.mapM parseCondition
  | _ => .error (.message "conditions must be an array or object")

/-- One entry of the `operations` list; nothing when it is not an operation. -/
def parseOperation : JsonValue → Option ParamOperation
  | .object fields => do
    let mode ← (fields.lookup "mode").bind JsonValue.string?
    let conditions ← match fields.lookup "conditions" with
      | none => some []
      | some conditions => (parseConditionOperations conditions).toOption
    some {
      path := ((fields.lookup "path").bind JsonValue.string?).getD ""
      mode := .parse mode
      value := (fields.lookup "value").getD .null
      keepOrigin := ((fields.lookup "keep_origin").bind JsonValue.bool?).getD false
      origin := ((fields.lookup "from").bind JsonValue.string?).getD ""
      target := ((fields.lookup "to").bind JsonValue.string?).getD ""
      conditions
      logic := ((fields.lookup "logic").bind JsonValue.string?).getD "OR" }
  | _ => none

def tryParseOperations (paramOverride : GoMap) : Option (List ParamOperation) :=
  match paramOverride.lookup "operations" with
  | some (.array items) => items.mapM parseOperation
  | _ => none

/-! ### The context of an override -/

structure LastError where
  statusCode : Int
  message : String
  code : String
  errorType : String
  skipRetry : Bool
deriving DecidableEq, Repr

/-- The entries of the context that no operation writes. -/
structure RequestFacts where
  userId : Int
  userGroup : String
  tokenGroup : String
  usingGroup : String
  model : Option String
  upstreamModel : Option String
  originalModel : Option String
  requestPath : Option String
  retryIndex : Nat
  isRetry : Bool
  lastError : Option LastError
  isChannelTest : Bool
deriving DecidableEq, Repr

structure HeaderContext where
  requestHeaders : GoMap
  headerOverride : GoMap

/-- What the interpreter uses of the standard library and of the JSON path
library. -/
structure OverrideEngine (Body : Type) where
  toLower : String → String
  toUpper : String → String
  equalFold : String → String → Bool
  unmarshal : String → Option JsonValue
  /-- `checkSingleCondition` reads the body first and then the context. -/
  checkSingleCondition : Body → RequestFacts → HeaderContext → ConditionOperation →
    Except OverrideError Bool
  bodyOperation : BodyMode → ParamOperation → Body → Except OverrideError Body
  pruneObjects : RequestFacts → HeaderContext → ParamOperation → Body → Except OverrideError Body
  get : Body → String → Option JsonValue
  set : Body → String → JsonValue → Except OverrideError Body
  /-- Write a top-level field, whatever characters its name has. -/
  setTopLevel : Body → String → JsonValue → Except OverrideError Body

section

variable {Body : Type} (engine : OverrideEngine Body)

def normalizeHeaderContextKey (key : String) : String :=
  trimSpace (engine.toLower key)

def isHeaderPassthroughRuleKeyForOverride (key : String) : Bool :=
  let key := trimSpace (engine.toLower key)
  key == "*" || hasPrefix key "re:" || hasPrefix key "regex:"

def sanitizeHeaderOverrideMap (source : GoMap) : GoMap :=
  source.entries.foldl (fun target entry =>
    let key := normalizeHeaderContextKey engine entry.1
    let value := trimSpace entry.2.sprint
    if key = "" then target
    else if value = "" then
      if isHeaderPassthroughRuleKeyForOverride engine key then target.insert key (.text "")
      else target
    else target.insert key (.text value)) ∅

def getHeaderValueFromContext (context : HeaderContext) (headerName : String) : Option String :=
  let name := normalizeHeaderContextKey engine headerName
  let value (source : GoMap) : Option String :=
    ((source.lookup name).map (fun raw => trimSpace raw.sprint)).filter (· ≠ "")
  if name = "" then none
  else value context.headerOverride <|> value context.requestHeaders

def splitHeaderListValue (raw : String) : List String :=
  ((split raw ',').map trimSpace).filter (· ≠ "")

mutual

def parseHeaderReplacementTokens : JsonValue → Except OverrideError (List String)
  | .null => .ok []
  | .text raw => .ok (splitHeaderListValue raw)
  | .array items => (parseReplacementItems items).map List.eraseDups
  | .object _ => .error (.message "header replacement value must be string, array or null")
  | .boolean value => .ok [if value then "true" else "false"]
  | .number printed => .ok ([trimSpace printed].filter (· ≠ ""))

def parseReplacementItems : List JsonValue → Except OverrideError (List String)
  | [] => .ok []
  | item :: rest => do
    let tokens ← parseHeaderReplacementTokens item
    let later ← parseReplacementItems rest
    return tokens ++ later

end

def replaceTokens (mapping : List (String × JsonValue)) (keepOnlyDeclared : Bool) :
    List String → Except OverrideError (List String)
  | [] => .ok []
  | token :: rest => do
    let replacement :=
      match mapping.lookup token with
      | some raw => some raw
      | none => if keepOnlyDeclared then none else mapping.lookup "*"
    let tokens ← match replacement with
      | some raw => parseHeaderReplacementTokens raw
      | none => .ok (if keepOnlyDeclared then [] else [token])
    let later ← replaceTokens mapping keepOnlyDeclared rest
    return tokens ++ later

def resolveHeaderOverrideValueByMapping (context : HeaderContext) (headerName : String)
    (mapping : List (String × JsonValue)) : Except OverrideError (Option String) := do
  if mapping.isEmpty then
    throw (.message "header value mapping cannot be empty")
  let appendTokens ← match mapping.lookup "$append" with
    | none => pure []
    | some raw => parseHeaderReplacementTokens raw
  let keepOnlyDeclared := ((mapping.lookup "$keep_only_declared").bind JsonValue.bool?).getD false
  let sourceTokens := ((getHeaderValueFromContext engine context headerName).map
    splitHeaderListValue).getD []
  let replaced ← replaceTokens mapping keepOnlyDeclared sourceTokens
  let tokens := (replaced ++ appendTokens).eraseDups
  return if tokens.isEmpty then none else some (",".intercalate tokens)

/-- `resolveHeaderOverrideValue`: no value means that the header is dropped. -/
def resolveHeaderOverrideValue (context : HeaderContext) (headerName : String) :
    JsonValue → Except OverrideError (Option String)
  | .null => .error (.message "header value is required")
  | .object mapping => resolveHeaderOverrideValueByMapping engine context headerName mapping
  | value =>
    let text := trimSpace value.sprint
    .ok (if text = "" then none else some text)

def setHeaderOverrideInContext (context : HeaderContext) (headerName : String) (value : JsonValue)
    (keepOrigin : Bool) : Except OverrideError HeaderContext :=
  let name := normalizeHeaderContextKey engine headerName
  let kept := (context.headerOverride.lookup name).any (fun raw => trimSpace raw.sprint ≠ "")
  if name = "" then .error (.message "header name is required")
  else if keepOrigin && kept then .ok context
  else do
    match ← resolveHeaderOverrideValue engine context name value with
    | none => return { context with headerOverride := context.headerOverride.erase name }
    | some text =>
      return { context with headerOverride := context.headerOverride.insert name (.text text) }

def deleteHeaderOverrideInContext (context : HeaderContext) (headerName : String) :
    Except OverrideError HeaderContext :=
  let name := normalizeHeaderContextKey engine headerName
  if name = "" then .error (.message "header name is required")
  else .ok { context with headerOverride := context.headerOverride.erase name }

def copyHeaderInContext (context : HeaderContext) (fromHeader toHeader : String)
    (keepOrigin : Bool) : Except OverrideError HeaderContext :=
  let source := normalizeHeaderContextKey engine fromHeader
  let target := normalizeHeaderContextKey engine toHeader
  if source = "" ∨ target = "" then .error (.message "copy_header from/to is required")
  else
    match getHeaderValueFromContext engine context source with
    | none => .error (.sourceHeaderNotFound source)
    | some value => setHeaderOverrideInContext engine context target (.text value) keepOrigin

def moveHeaderInContext (context : HeaderContext) (fromHeader toHeader : String)
    (keepOrigin : Bool) : Except OverrideError HeaderContext :=
  let source := normalizeHeaderContextKey engine fromHeader
  let target := normalizeHeaderContextKey engine toHeader
  if source = "" ∨ target = "" then .error (.message "move_header from/to is required")
  else do
    let copied ← copyHeaderInContext engine context source target keepOrigin
    if engine.equalFold source target then return copied
    else deleteHeaderOverrideInContext engine copied source

/-- A missing source header is no failure of the operation. -/
def orUnchanged (context : HeaderContext) :
    Except OverrideError HeaderContext → Except OverrideError HeaderContext
  | .error (.sourceHeaderNotFound _) => .ok context
  | result => result

def normalizeNames (values : List String) : List String :=
  ((values.map (normalizeHeaderContextKey engine)).filter (· ≠ "")).eraseDups

def nonemptyNames (names : List String) : Except OverrideError (List String) :=
  if names.isEmpty then .error (.message "pass_headers value is invalid") else .ok names

/-- `parseHeaderPassThroughNames`. The recursion goes through a text that holds
JSON or through a field of an object, so the bound is not reached: a text inside
a JSON text is shorter than it. -/
def parseHeaderPassThroughNames : Nat → JsonValue → Except OverrideError (List String)
  | 0, _ => .error (.message "pass_headers value is invalid")
  | _ + 1, .null => .error (.message "pass_headers value is required")
  | depth + 1, .text raw =>
    let trimmed := trimSpace raw
    if trimmed = "" then .error (.message "pass_headers value is required")
    else
      match if hasPrefix trimmed "[" || hasPrefix trimmed "\x7b" then engine.unmarshal trimmed
        else none with
      | some parsed => parseHeaderPassThroughNames depth parsed
      | none => nonemptyNames (normalizeNames engine (split trimmed ','))
  | _ + 1, .array items => nonemptyNames (normalizeNames engine (items.map JsonValue.sprint))
  | depth + 1, .object fields =>
    let names (field : String) : List String :=
      match fields.lookup field with
      | none => []
      | some value => ((parseHeaderPassThroughNames depth value).toOption).getD []
    nonemptyNames (normalizeNames engine (names "headers" ++ names "names" ++ names "header"))
  | _ + 1, _ => .error (.message "pass_headers value must be string, array or object")

def passHeaders (keepOrigin : Bool) :
    List String → HeaderContext → Except OverrideError HeaderContext
  | [], context => .ok context
  | name :: rest, context => do
    let copied ← orUnchanged context (copyHeaderInContext engine context name name keepOrigin)
    passHeaders keepOrigin rest copied

end

/-! ### The interpreter -/

inductive SyncTarget where
  | json (path : String)
  | header (name : String)
deriving DecidableEq, Repr

section

variable {Body : Type} (engine : OverrideEngine Body)

/-- `parseSyncTarget`. A target without a colon is a path of the body. -/
def parseSyncTarget (spec : String) : Except OverrideError SyncTarget :=
  let raw := trimSpace spec
  if raw = "" then .error (.message "sync_fields target is required")
  else
    match raw.toList.span (· ≠ ':') with
    | (_, []) => .ok (.json raw)
    | (kind, _ :: rest) =>
      let key := trimSpace (String.ofList rest)
      if key = "" then .error (.message ("sync_fields target key is required: " ++ raw))
      else
        match engine.toLower (trimSpace (String.ofList kind)) with
        | "json" | "body" => .ok (.json key)
        | "header" => .ok (.header key)
        | _ => .error (.message ("sync_fields target prefix is invalid: " ++ raw))

/-- `readSyncTargetValue`: a null or a blank text counts as missing. -/
def readSyncTargetValue (body : Body) (context : HeaderContext) : SyncTarget → Option JsonValue
  | .json path =>
    match engine.get body path with
    | some .null => none
    | some (.text value) => if trimSpace value = "" then none else some (.text value)
    | found => found
  | .header name => (getHeaderValueFromContext engine context name).map JsonValue.text

def writeSyncTargetValue (body : Body) (context : HeaderContext) (value : JsonValue) :
    SyncTarget → Except OverrideError (Body × HeaderContext)
  | .json path => (engine.set body path value).map (fun written => (written, context))
  | .header name =>
    (setHeaderOverrideInContext engine context name value false).map (fun written => (body, written))

def syncFieldsBetweenTargets (body : Body) (context : HeaderContext) (fromSpec toSpec : String) :
    Except OverrideError (Body × HeaderContext) := do
  let source ← parseSyncTarget engine fromSpec
  let target ← parseSyncTarget engine toSpec
  match readSyncTargetValue engine body context source,
    readSyncTargetValue engine body context target with
  | some value, none => writeSyncTargetValue engine body context value target
  | none, some value => writeSyncTargetValue engine body context value source
  | _, _ => return (body, context)

def checkConditions (body : Body) (facts : RequestFacts) (context : HeaderContext)
    (conditions : List ConditionOperation) (logic : String) : Except OverrideError Bool := do
  if conditions.isEmpty then return true
  let results ← conditions.mapM (engine.checkSingleCondition body facts context)
  return if engine.toUpper logic = "AND" then results.all id else results.any id

/-- The header that a copy or a move names, with the path in place of a blank. -/
def headerOr (header path : String) : String :=
  if trimSpace header = "" then trimSpace path else trimSpace header

def performOperation (facts : RequestFacts) (operation : ParamOperation) (body : Body)
    (context : HeaderContext) : Except OverrideError (Body × HeaderContext) :=
  let onHeaders (result : Except OverrideError HeaderContext) :=
    (result.mapError (.operationFailed operation.mode)).map (fun changed => (body, changed))
  let source := headerOr operation.origin operation.path
  let target := headerOr operation.target operation.path
  match operation.mode with
  | .body mode => (engine.bodyOperation mode operation body).map (·, context)
  | .pruneObjects => (engine.pruneObjects facts context operation body).map (·, context)
  | .returnError => .error (.returned operation.value)
  | .setHeader =>
    onHeaders (setHeaderOverrideInContext engine context operation.path operation.value
      operation.keepOrigin)
  | .deleteHeader => onHeaders (deleteHeaderOverrideInContext engine context operation.path)
  | .copyHeader =>
    onHeaders (orUnchanged context
      (copyHeaderInContext engine context source target operation.keepOrigin))
  | .moveHeader =>
    onHeaders (orUnchanged context
      (moveHeaderInContext engine context source target operation.keepOrigin))
  | .passHeaders =>
    match parseHeaderPassThroughNames engine (operation.value.sprint.length + 1)
      operation.value with
    | .error failure => .error failure
    | .ok names => onHeaders (passHeaders engine operation.keepOrigin names context)
  | .syncFields =>
    (syncFieldsBetweenTargets engine body context operation.origin operation.target).mapError
      (.operationFailed operation.mode)
  | .unknown name => .error (.message ("unknown operation: " ++ name))

def applyOperations (facts : RequestFacts) :
    List ParamOperation → Body → HeaderContext → Except OverrideError (Body × HeaderContext)
  | [], body, context => .ok (body, context)
  | operation :: rest, body, context => do
    if ← checkConditions engine body facts context operation.conditions operation.logic then
      let (changed, headers) ← performOperation engine facts operation body context
      applyOperations facts rest changed headers
    else
      applyOperations facts rest body context

def applyOperationsLegacy (entries : List (String × JsonValue)) (body : Body) :
    Except OverrideError Body :=
  entries.foldlM (fun body entry => engine.setTopLevel body entry.1 entry.2) body

def GoMap.pairs (map : GoMap) : List (String × JsonValue) :=
  map.entries.map (fun entry => (entry.1, entry.2))

def buildLegacyParamOverride (paramOverride : GoMap) : List (String × JsonValue) :=
  (GoMap.pairs paramOverride).filter (fun entry => !engine.equalFold (trimSpace entry.1) "operations")

def applyParamOverride (paramOverride : GoMap) (facts : RequestFacts) (body : Body)
    (context : HeaderContext) : Except OverrideError (Body × HeaderContext) :=
  match tryParseOperations paramOverride with
  | some operations => do
    let working ← applyOperationsLegacy engine (buildLegacyParamOverride engine paramOverride) body
    applyOperations engine facts operations working context
  | none =>
    (applyOperationsLegacy engine (GoMap.pairs paramOverride) body).map (·, context)

/-- An operation that looks at nothing but the headers and the body. -/
def ParamOperation.Unconditional (operation : ParamOperation) : Prop :=
  operation.conditions = [] ∧ operation.mode ≠ .pruneObjects

theorem performOperation_unconditional {operation : ParamOperation}
    (unconditional : operation.Unconditional) (facts other : RequestFacts) (body : Body)
    (context : HeaderContext) :
    performOperation engine facts operation body context =
      performOperation engine other operation body context := by
  unfold performOperation
  cases mode : operation.mode with
  | pruneObjects => exact absurd mode unconditional.2
  | _ => rfl

theorem applyOperations_unconditional (facts other : RequestFacts)
    {operations : List ParamOperation}
    (unconditional : ∀ operation ∈ operations, operation.Unconditional) (body : Body)
    (context : HeaderContext) :
    applyOperations engine facts operations body context =
      applyOperations engine other operations body context := by
  induction operations generalizing body context with
  | nil => rfl
  | cons operation rest ih =>
    have first := unconditional operation (List.mem_cons_self ..)
    have later := ih (List.forall_mem_cons.mp unconditional).2
    have performed := performOperation_unconditional engine first facts other body context
    simp only [applyOperations,first.1,
      performed]
    cases performOperation engine other operation body context with
    | error => rfl
    | ok result => exact later result.1 result.2

/-- Operations without conditions do not look at the rest of the context. -/
theorem applyParamOverride_unconditional {paramOverride : GoMap} (facts other : RequestFacts)
    (unconditional : ∀ operations, tryParseOperations paramOverride = some operations →
      ∀ operation ∈ operations, operation.Unconditional) (body : Body) (context : HeaderContext) :
    applyParamOverride engine paramOverride facts body context =
      applyParamOverride engine paramOverride other body context := by
  unfold applyParamOverride
  cases parsed : tryParseOperations paramOverride with
  | none => rfl
  | some operations =>
    have same := applyOperations_unconditional engine facts other (unconditional operations parsed)
    simp only [same]

end

end NewApi
