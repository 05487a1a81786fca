import Mathlib.Data.List.AList
import Mathlib.Data.List.Sort
import NewApi.EmittingRuns
import NewApi.ResponsesRoundTrip

/-!
# The Responses stream as chat chunks

Arguments are bytes: a cursor says how many of them were sent, and what is missing is the slice
behind the cursor. A slice out of range panics, which is `none` here.
-/

namespace NewApi

open GoStrings

def utf8Bytes (text : String) : List UInt8 :=
  text.toByteArray.data.toList

inductive ResponsesEventType where
  | created
  | reasoningSummaryDelta
  | reasoningTextDelta
  | reasoningSummaryDone
  | reasoningTextDone
  | outputTextDelta
  | outputItemAdded
  | outputItemDone
  | functionArgsDelta
  | customToolInputDelta
  | functionArgsDone
  | customToolInputDone
  | completed
  | done
  | incomplete
  | failed
  | error
  | other (name : String)
deriving DecidableEq, Repr

structure ResponsesStreamResponse (Usage : Type) where
  type : ResponsesEventType
  response : Option ResponsesResponse := none
  usage : Option Usage := none
  delta : String := ""
  item : Option ResponsesOutput := none
  outputIndex : Option Int := none
  itemId : String := ""
deriving Repr

structure ToolFragment where
  index : Nat
  id : String
  name : String
  arguments : List UInt8
deriving DecidableEq, Repr

structure ChatDelta where
  role : String := ""
  content : Option String := none
  reasoningContent : Option String := none
  toolCalls : List ToolFragment := []
deriving DecidableEq, Repr

structure ChatChunk (Usage : Type) where
  id : String
  model : String
  choices : List (ChatDelta × Option String)
  usage : Option Usage := none
deriving Repr

def sentFragments {Usage : Type} (chunks : List (ChatChunk Usage)) : List (Nat × ToolFragment) :=
  chunks.flatMap fun chunk => chunk.choices.flatMap fun choice =>
    choice.1.toolCalls.map fun fragment => (fragment.index, fragment)

inductive ToolKey where
  | output (index : Int)
  | item (id : String)
  | call (id : String)
deriving DecidableEq, Repr

def ToolKey.text : ToolKey → String
  | .output index => "output:" ++ toString index
  | .item id => "item:" ++ id
  | .call id => "call:" ++ id

structure ResponsesStreamTool where
  key : ToolKey
  callId : String := ""
  itemId : String := ""
  name : String := ""
  arguments : List UInt8 := []
  index : Nat
  sent : Bool := false
  nameSent : Bool := false
  argsSentAt : Nat := 0
deriving DecidableEq, Repr

/-- The tools and the maps that lead to them. The tools are kept by address, as several keys may
lead to one tool. -/
structure ToolTables where
  nextToolIndex : Nat := 0
  tools : List ResponsesStreamTool := []
  toolByKey : AList fun _ : ToolKey => Nat := ∅
  outputIndexToKey : AList fun _ : Int => ToolKey := ∅
  itemIdToKey : AList fun _ : String => ToolKey := ∅
  callIdToKey : AList fun _ : String => ToolKey := ∅
  pendingArgsByOutputIndex : AList fun _ : Int => List UInt8 := ∅
  pendingArgsByItemId : AList fun _ : String => List UInt8 := ∅

structure ResponsesToChatStreamState (Usage : Type) extends ToolTables where
  id : String := ""
  model : String
  includeUsage : Bool
  usage : Option Usage
  sentStart : Bool := false
  finalized : Bool := false
  hasSentText : Bool := false
  sawToolCall : Bool := false
  hasSentReasoning : Bool := false
  needsReasoningSummaryBreak : Bool := false
  usageText : List UInt8 := []

abbrev StreamResult (Usage : Type) : Type :=
  ResponsesToChatStreamState Usage × List (ChatChunk Usage)

def newResponsesToChatStreamState {Usage : Type} (model : String) (includeUsage : Bool)
    (noUsage : Usage) : ResponsesToChatStreamState Usage :=
  { model := model, includeUsage := includeUsage, usage := some noUsage }

variable {Usage : Type}

section

variable (event : ResponsesStreamResponse Usage)

def responseStreamEventItemId : String :=
  let itemId := trimSpace ((event.item.map ResponsesOutput.id).getD "")
  if itemId ≠ "" then itemId else trimSpace event.itemId

def itemIdKey : Option ToolKey :=
  let itemId := trimSpace event.itemId
  if itemId ≠ "" then some (.item itemId) else none

def keyForEvent : Option ToolKey :=
  match event.outputIndex, event.item with
  | some index, _ => some (.output index)
  | none, some item =>
    let itemId := trimSpace item.id
    let callId := trimSpace item.callId
    if itemId ≠ "" then some (.item itemId)
    else if callId ≠ "" then some (.call callId)
    else itemIdKey event
  | none, none => itemIdKey event

def fallbackToolKey (itemId callId : String) (outputIndex : Option Int) : Option ToolKey :=
  match outputIndex with
  | some index => some (.output index)
  | none =>
    if trimSpace itemId ≠ "" then some (.item (trimSpace itemId))
    else if trimSpace callId ≠ "" then some (.call (trimSpace callId))
    else none

def fallbackCallId : String :=
  if trimSpace event.itemId ≠ "" then trimSpace event.itemId
  else
    match event.outputIndex with
    | some index => "call_output_" ++ toString index
    | none => ""

end

namespace ToolTables

variable (tables : ToolTables)

def modifyTool (address : Nat) (change : ResponsesStreamTool → ResponsesStreamTool) :
    ToolTables :=
  { tables with tools := tables.tools.modify address change }

def addTool (key : ToolKey) (callId : String) : ToolTables :=
  { tables with
    tools := tables.tools ++ [{ key := key, callId := callId, index := tables.nextToolIndex }]
    nextToolIndex := tables.nextToolIndex + 1
    toolByKey := tables.toolByKey.insert key tables.tools.length }

def toolOrNew (key : ToolKey) (callId : String) : ToolTables × Nat :=
  match tables.toolByKey.lookup key with
  | some address => (tables, address)
  | none => (tables.addTool key callId, tables.tools.length)

def toolOfItemId (itemId : String) : Option Nat :=
  if itemId = "" then none
  else (tables.itemIdToKey.lookup itemId).bind fun key => tables.toolByKey.lookup key

def toolOfCallId (callId : String) : Option Nat :=
  if callId = "" then none
  else (tables.callIdToKey.lookup callId).bind fun key => tables.toolByKey.lookup key

def toolForKey (key : ToolKey) (itemId callId : String) : ToolTables × Nat :=
  match tables.toolByKey.lookup key with
  | some address => (tables, address)
  | none =>
    match (tables.toolOfItemId itemId).or (tables.toolOfCallId callId) with
    | some address => ({ tables with toolByKey := tables.toolByKey.insert key address }, address)
    | none => (tables.addTool key "", tables.tools.length)

/-- The output index leads to the key from now on, and the deltas that waited for it are added. -/
def bindOutputIndex (outputIndex : Option Int) (key : ToolKey) (address : Nat) : ToolTables :=
  match outputIndex with
  | none => tables
  | some index =>
    let pending := (tables.pendingArgsByOutputIndex.lookup index).getD []
    let bound :=
      { tables with outputIndexToKey := tables.outputIndexToKey.insert index key }
    if pending = [] then bound
    else
      { bound.modifyTool address fun tool =>
          { tool with arguments := tool.arguments ++ pending } with
        pendingArgsByOutputIndex := tables.pendingArgsByOutputIndex.erase index }

def bindItemId (itemId : String) (key : ToolKey) (address : Nat) : ToolTables :=
  if itemId = "" then tables
  else
    let pending := (tables.pendingArgsByItemId.lookup itemId).getD []
    let bound :=
      { tables.modifyTool address fun tool => { tool with itemId := itemId } with
        itemIdToKey := tables.itemIdToKey.insert itemId key }
    if pending = [] then bound
    else
      { bound.modifyTool address fun tool =>
          { tool with arguments := tool.arguments ++ pending } with
        pendingArgsByItemId := tables.pendingArgsByItemId.erase itemId }

def bindCallId (item : ResponsesOutput) (key : ToolKey) (address : Nat) : ToolTables :=
  let callId := trimSpace item.callId
  if callId ≠ "" then
    { tables.modifyTool address fun tool => { tool with callId := callId } with
      callIdToKey := tables.callIdToKey.insert callId key }
  else
    tables.modifyTool address fun tool =>
      { tool with callId := if tool.callId = "" then trimSpace item.id else tool.callId }

def bindName (item : ResponsesOutput) (address : Nat) : ToolTables :=
  let name := trimSpace item.name
  if name ≠ "" then tables.modifyTool address fun tool => { tool with name := name } else tables

def ensureToolForEvent (event : ResponsesStreamResponse Usage) (item : ResponsesOutput) :
    ToolTables × Option Nat :=
  match (keyForEvent event).or (fallbackToolKey item.id item.callId event.outputIndex) with
  | none => (tables, none)
  | some key =>
    let itemId := responseStreamEventItemId event
    let (found, address) := tables.toolForKey key itemId (trimSpace item.callId)
    (((((found.bindOutputIndex event.outputIndex key address).bindItemId itemId key
      address).bindCallId item key address).bindName item address), some address)

def findToolForEvent (event : ResponsesStreamResponse Usage) : Option Nat :=
  match event.outputIndex.bind fun index => tables.outputIndexToKey.lookup index with
  | some key => tables.toolByKey.lookup key
  | none =>
    let itemId := trimSpace event.itemId
    match if itemId ≠ "" then tables.itemIdToKey.lookup itemId else none with
    | some key => tables.toolByKey.lookup key
    | none =>
      if event.item.isSome then
        (keyForEvent event).bind fun key => tables.toolByKey.lookup key
      else none

/-- A tool for the end of arguments that no item was added for. -/
def ensureFallbackToolForEvent (event : ResponsesStreamResponse Usage) :
    ToolTables × Option Nat :=
  match (event.outputIndex.map ToolKey.output).or (itemIdKey event) with
  | none => (tables, none)
  | some key =>
    let (found, address) := tables.toolOrNew key (fallbackCallId event)
    ((found.bindOutputIndex event.outputIndex key address).bindItemId
      (responseStreamEventItemId event) key address, some address)

def addPending (key : ToolKey) (address : Nat) : ToolTables :=
  match key with
  | .output index =>
    let pending := (tables.pendingArgsByOutputIndex.lookup index).getD []
    { tables.modifyTool address fun tool =>
        { tool with arguments := tool.arguments ++ pending } with
      pendingArgsByOutputIndex := tables.pendingArgsByOutputIndex.erase index }
  | .item itemId =>
    let pending := (tables.pendingArgsByItemId.lookup itemId).getD []
    { tables.modifyTool address fun tool =>
        { tool with arguments := tool.arguments ++ pending } with
      pendingArgsByItemId := tables.pendingArgsByItemId.erase itemId }
  | .call _ => tables

def flushKeys : List ToolKey :=
  let outputs := tables.pendingArgsByOutputIndex.keys.map ToolKey.output
  let items := tables.pendingArgsByItemId.keys.map ToolKey.item
  (tables.toolByKey.keys ++ outputs ++ items).dedup.insertionSort fun first second =>
    first.text ≤ second.text

def flushCallId : ToolKey → String
  | .output index => "call_output_" ++ toString index
  | .item id => id
  | .call id => "call:" ++ id

def flushTool (key : ToolKey) : ToolTables × Nat :=
  let (found, address) := tables.toolOrNew key (flushCallId key)
  (found.addPending key address, address)

end ToolTables

def sliceFrom (text : List UInt8) (start : Nat) : Option (List UInt8) :=
  if start ≤ text.length then some (text.drop start) else none

/-- The arguments to send: the given ones, or what was not sent yet. -/
def argsDelta (tool : ResponsesStreamTool) (explicitDelta : List UInt8) : Option (List UInt8) :=
  if explicitDelta = [] ∧ tool.arguments.length > tool.argsSentAt then
    sliceFrom tool.arguments tool.argsSentAt
  else some explicitDelta

def nameToSend (tool : ResponsesStreamTool) : String :=
  if ¬ tool.nameSent ∧ tool.name ≠ "" then tool.name else ""

def toolFragment (tool : ResponsesStreamTool) (args : List UInt8) : ToolFragment :=
  let callId := trimSpace tool.callId
  { index := tool.index
    id := if callId = "" then tool.key.text else callId
    name := nameToSend tool
    arguments := args }

def afterFragment (tool : ResponsesStreamTool) (args : List UInt8) : ResponsesStreamTool :=
  { tool with
    sent := true
    nameSent := tool.nameSent || tool.name ≠ ""
    argsSentAt := tool.argsSentAt + args.length }

namespace ResponsesToChatStreamState

variable (state : ResponsesToChatStreamState Usage)

def applyResponseMetadata (response : Option ResponsesResponse) (usage : Option Usage) :
    ResponsesToChatStreamState Usage :=
  match response with
  | none => state
  | some response =>
    { state with
      id := if response.id ≠ "" ∧ state.id = "" then response.id else state.id
      model := if response.model ≠ "" then response.model else state.model
      usage := usage.or state.usage }

def makeChunk (delta : ChatDelta) (finishReason : Option String) : ChatChunk Usage :=
  { id := state.id, model := state.model, choices := [(delta, finishReason)] }

def ensureStart : StreamResult Usage :=
  if state.sentStart then (state, [])
  else
    ({ state with sentStart := true },
      [state.makeChunk { role := "assistant", content := some "" } none])

def startAndSend (delta : ChatDelta) : StreamResult Usage :=
  let (started, start) := state.ensureStart
  (started, start ++ [started.makeChunk delta none])

def textDelta (delta : String) : StreamResult Usage :=
  if delta = "" then (state, [])
  else
    let noted :=
      { state with usageText := state.usageText ++ utf8Bytes delta, hasSentText := true }
    noted.startAndSend { content := some delta }

/-- A delta after the end of a summary starts a paragraph. -/
def withSummaryBreak (delta : String) : String :=
  if ¬ state.needsReasoningSummaryBreak then delta
  else if hasPrefix delta "\n\n" then delta
  else if hasPrefix delta "\n" then "\n" ++ delta
  else "\n\n" ++ delta

def reasoningDelta (delta : String) : StreamResult Usage :=
  if delta = "" then (state, [])
  else
    let broken := state.withSummaryBreak delta
    let noted :=
      { state with
        needsReasoningSummaryBreak := false
        usageText := state.usageText ++ utf8Bytes broken }
    let (started, chunks) := noted.startAndSend { reasoningContent := some broken }
    ({ started with hasSentReasoning := true }, chunks)

def toolDelta (address : Nat) (explicitDelta : List UInt8) : Option (StreamResult Usage) :=
  match state.tools[address]? with
  | none => some (state, [])
  | some tool => do
      let args ← argsDelta tool explicitDelta
      if tool.sent ∧ args = [] ∧ (tool.name = "" ∨ tool.nameSent) then some (state, [])
      else
        let (started, start) := state.ensureStart
        let sent :=
          { started with
            toToolTables := started.modifyTool address fun tool => afterFragment tool args
            usageText := started.usageText ++ args ++ utf8Bytes (nameToSend tool)
            sawToolCall := true }
        some (sent, start ++ [sent.makeChunk { toolCalls := [toolFragment tool args] } none])

def toolItem (event : ResponsesStreamResponse Usage) (item : ResponsesOutput) :
    Option (StreamResult Usage) :=
  match state.ensureToolForEvent event item with
  | (ensured, none) => some ({ state with toToolTables := ensured }, [])
  | (ensured, some address) =>
    let args := utf8Bytes item.argumentsString
    let given :=
      if args ≠ [] then ensured.modifyTool address fun tool => { tool with arguments := args }
      else ensured
    { state with toToolTables := given }.toolDelta address []

def toolArgumentsDelta (event : ResponsesStreamResponse Usage) : Option (StreamResult Usage) :=
  let delta := utf8Bytes event.delta
  if delta = [] then some (state, [])
  else
    match state.findToolForEvent event with
    | some address =>
      let extended := state.modifyTool address fun tool =>
        { tool with arguments := tool.arguments ++ delta }
      { state with toToolTables := extended }.toolDelta address delta
    | none =>
      match event.outputIndex with
      | some index =>
        let pending := (state.pendingArgsByOutputIndex.lookup index).getD []
        some ({ state with
          pendingArgsByOutputIndex :=
            state.pendingArgsByOutputIndex.insert index (pending ++ delta) }, [])
      | none =>
        let itemId := trimSpace event.itemId
        if itemId ≠ "" then
          let pending := (state.pendingArgsByItemId.lookup itemId).getD []
          some ({ state with
            pendingArgsByItemId :=
              state.pendingArgsByItemId.insert itemId (pending ++ delta) }, [])
        else some (state, [])

def flushPendingTool (event : ResponsesStreamResponse Usage) : Option (StreamResult Usage) :=
  match state.findToolForEvent event with
  | some address => state.toolDelta address []
  | none =>
    match state.ensureFallbackToolForEvent event with
    | (ensured, none) => some ({ state with toToolTables := ensured }, [])
    | (ensured, some address) => { state with toToolTables := ensured }.toolDelta address []

/-- One item of the final output; a text or a reasoning is sent only when none was sent before. -/
def terminalOutput (output : ResponsesOutput) : Option (StreamResult Usage) :=
  if output.type = .message ∧ ¬ state.hasSentText then
    some (state.textDelta (joined
      ((output.content.filter (·.type = .outputText)).map ResponsesOutputContent.text)))
  else if output.type = .reasoning ∧ ¬ state.hasSentReasoning then
    some (state.reasoningDelta (joined (output.content.map ResponsesOutputContent.text)))
  else if isResponsesToolOutputType output.type then
    state.toolItem { type := .other "", item := some output } output
  else some (state, [])

def terminalOutputChunks (response : Option ResponsesResponse) : Option (StreamResult Usage) :=
  EmittingRuns.emitAll terminalOutput state ((response.map ResponsesResponse.output).getD [])

def flushKey (key : ToolKey) : Option (StreamResult Usage) :=
  let (found, address) := state.flushTool key
  { state with toToolTables := found }.toolDelta address []

def flushAllPendingTools : Option (StreamResult Usage) :=
  EmittingRuns.emitAll flushKey state state.flushKeys

def usageChunks : List (ChatChunk Usage) :=
  if state.includeUsage ∧ state.usage.isSome then
    [{ id := state.id, model := state.model, choices := [], usage := state.usage }]
  else []

def finishReason (response : Option ResponsesResponse) : String :=
  match response.bind responsesFinishReasonFromStatus with
  | some reason => reason
  | none => if state.sawToolCall then "tool_calls" else "stop"

def endingChunks (response : Option ResponsesResponse) : StreamResult Usage :=
  let (started, start) := state.ensureStart
  (started, start ++ started.makeChunk {} (some (started.finishReason response)) ::
    started.usageChunks)

def finalize (response : Option ResponsesResponse) : Option (StreamResult Usage) :=
  if state.finalized then some (state, [])
  else do
    let (flushed, chunks) ← { state with finalized := true }.flushAllPendingTools
    let (last, ending) := flushed.endingChunks response
    some (last, chunks ++ ending)

end ResponsesToChatStreamState

def ensureIncompleteResponse (response : Option ResponsesResponse) : ResponsesResponse :=
  let given := response.getD
    { id := "", model := "", status := "", incompleteReason := none, output := [] }
  if given.status = "" then { given with status := "\"incomplete\"" } else given

def endStream (state : ResponsesToChatStreamState Usage) (response : Option ResponsesResponse)
    (usage : Option Usage) : Option (StreamResult Usage) := do
  let (sent, chunks) ← (state.applyResponseMetadata response usage).terminalOutputChunks response
  let (last, more) ← sent.finalize response
  some (last, chunks ++ more)

def eventChunks (state : ResponsesToChatStreamState Usage)
    (event : ResponsesStreamResponse Usage) : Option (StreamResult Usage) :=
  match event.type with
  | .created => some (state.applyResponseMetadata event.response event.usage).ensureStart
  | .reasoningSummaryDelta | .reasoningTextDelta => some (state.reasoningDelta event.delta)
  | .reasoningSummaryDone | .reasoningTextDone =>
    some ({ state with
      needsReasoningSummaryBreak :=
        state.needsReasoningSummaryBreak || state.hasSentReasoning }, [])
  | .outputTextDelta => some (state.textDelta event.delta)
  | .outputItemAdded | .outputItemDone =>
    match event.item with
    | none => some (state, [])
    | some item =>
      if isResponsesToolOutputType item.type then state.toolItem event item
      else some (state, [])
  | .functionArgsDelta | .customToolInputDelta => state.toolArgumentsDelta event
  | .functionArgsDone | .customToolInputDone => state.flushPendingTool event
  | .completed | .done => endStream state event.response event.usage
  | .incomplete => endStream state (some (ensureIncompleteResponse event.response)) event.usage
  | .failed | .error | .other _ => some (state, [])

def streamError : ResponsesEventType → Option String
  | .failed => some "responses stream error: response.failed"
  | .error => some "responses stream error: response.error"
  | _ => none

def responsesStreamEventToChatChunks (state : ResponsesToChatStreamState Usage)
    (event : ResponsesStreamResponse Usage) :
    Option (ResponsesToChatStreamState Usage × Except String (List (ChatChunk Usage))) :=
  (eventChunks state event).map fun result =>
    match streamError event.type with
    | some message => (result.1, .error message)
    | none => (result.1, .ok result.2)

def finalizeResponsesToChatStream (state : ResponsesToChatStreamState Usage) :
    Option (StreamResult Usage) :=
  state.finalize none

def sendEvent (state : ResponsesToChatStreamState Usage) (event : ResponsesStreamResponse Usage) :
    Option (StreamResult Usage) :=
  (responsesStreamEventToChatChunks state event).map fun result =>
    (result.1, result.2.toOption.getD [])

theorem sendEvent_eq_eventChunks (state : ResponsesToChatStreamState Usage)
    (event : ResponsesStreamResponse Usage) : sendEvent state event = eventChunks state event := by
  have quiet : ∀ message, streamError event.type = some message →
      eventChunks state event = some (state, []) := by
    unfold eventChunks
    cases type : event.type <;> simp_all [streamError]
  unfold sendEvent responsesStreamEventToChatChunks
  cases fails : streamError event.type with
  | some message => rw [quiet message fails]; rfl
  | none => cases eventChunks state event <;> rfl

def sendStream (state : ResponsesToChatStreamState Usage)
    (events : List (ResponsesStreamResponse Usage)) : Option (StreamResult Usage) := do
  let (sent, chunks) ← EmittingRuns.emitAll sendEvent state events
  let (last, more) ← finalizeResponsesToChatStream sent
  some (last, chunks ++ more)

end NewApi
