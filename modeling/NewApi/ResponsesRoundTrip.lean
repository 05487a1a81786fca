import NewApi.JoinedTexts
import NewApi.ResponsesFormat

/-!
# Chat completions and Responses

The text is read from the assistant messages, but when they have none, from the content of every
item.
-/

namespace NewApi

open List GoStrings

/-- A tool call of a completion. A type other than `function` has an input of its own. -/
structure CompletionCall where
  id : String
  type : String
  name : String
  arguments : String
  custom : String := ""
deriving DecidableEq, Repr

structure CompletionMessage where
  content : String
  reasoningContent : Option String
  reasoning : Option String := none
  toolCalls : List CompletionCall
deriving DecidableEq, Repr

def CompletionMessage.getReasoningContent (message : CompletionMessage) : String :=
  (message.reasoningContent.or message.reasoning).getD ""

structure CompletionChoice where
  message : CompletionMessage
  finishReason : String
deriving DecidableEq, Repr

structure ChatCompletion where
  id : String
  model : String
  choices : List CompletionChoice
deriving DecidableEq, Repr

def responsesStatusFromChatFinishReason (finishReason : String) : String × Option String :=
  let reason := trimSpace finishReason
  if reason = "length" then ("incomplete", some "max_output_tokens")
  else if reason = "content_filter" then ("incomplete", some "content_filter")
  else ("completed", none)

def responseOutputStatus (response : ResponsesResponse) : String :=
  if responseStatusString response ≠ "incomplete" then "completed" else "incomplete"

def outputTypeOf (type : String) : OutputType :=
  if type = "message" then .message
  else if type = "reasoning" then .reasoning
  else if type = "function_call" then .functionCall
  else if type = "custom_tool_call" then .customToolCall
  else .other type

def chatToolCallToResponsesOutput (call : CompletionCall) (responseId : String) (index : Nat)
    (status : String) : ResponsesOutput :=
  let trimmed := trimSpace call.id
  let callId := if trimmed = "" then responseId ++ "_call_" ++ toString index else trimmed
  if call.type = "" ∨ call.type = "function" then
    { type := .functionCall, id := callId, status := status, callId := callId, name := call.name,
      arguments := JsonStrings.quote call.arguments }
  else
    { type := outputTypeOf call.type, id := callId, status := status, callId := callId,
      arguments := call.custom }

def messageOutput (id status text : String) : List ResponsesOutput :=
  if text ≠ "" then
    [{ type := .message, id := id ++ "_msg_0", status := status, role := "assistant",
       content := [⟨.outputText, text⟩] }]
  else []

def reasoningOutput (id status reasoning : String) : List ResponsesOutput :=
  if reasoning ≠ "" then
    [{ type := .reasoning, id := id ++ "_reasoning_0", status := status,
       content := [⟨.summaryText, reasoning⟩] }]
  else []

def choiceOutput (id status : String) (message : CompletionMessage) : List ResponsesOutput :=
  messageOutput id status message.content ++ reasoningOutput id status message.getReasoningContent ++
    message.toolCalls.mapIdx fun index call => chatToolCallToResponsesOutput call id index status

def chatCompletionsResponseToResponsesResponse (completion : ChatCompletion) (id : String) :
    ResponsesResponse :=
  match completion.choices with
  | [] =>
    { id := id, model := completion.model, status := "\"completed\"", incompleteReason := none,
      output := [] }
  | choice :: _ =>
    let (status, details) := responsesStatusFromChatFinishReason choice.finishReason
    let response : ResponsesResponse :=
      { id := id, model := completion.model, status := "\"" ++ status ++ "\"",
        incompleteReason := details, output := [] }
    { response with output := choiceOutput id (responseOutputStatus response) choice.message }

def responsesFinishReasonFromStatus (response : ResponsesResponse) : Option String :=
  if responseStatusString response ≠ "incomplete" then none
  else if trimSpace (response.incompleteReason.getD "") = "content_filter" then
    some "content_filter"
  else some "length"

def assistantTexts (output : List ResponsesOutput) : List String :=
  (output.filter fun item =>
    item.type = .message && (item.role = "" || item.role = "assistant")).flatMap fun item =>
      (item.content.filter (·.type = .outputText)).map ResponsesOutputContent.text

def contentTexts (output : List ResponsesOutput) : List String :=
  output.flatMap fun item => item.content.map ResponsesOutputContent.text

def extractOutputTextFromResponses (response : ResponsesResponse) : String :=
  let text := joined (assistantTexts response.output)
  if text ≠ "" then text else joined (contentTexts response.output)

def extractReasoningTextFromResponses (response : ResponsesResponse) : String :=
  joined (contentTexts (response.output.filter (·.type = .reasoning)))

/-- A tool call without a name is skipped. -/
def outputToolCall (item : ResponsesOutput) : Option CompletionCall :=
  let name := trimSpace item.name
  if !isResponsesToolOutputType item.type || name = "" then none
  else
    let callId := trimSpace item.callId
    some
      { id := if callId = "" then trimSpace item.id else callId
        type := "function"
        name := name
        arguments := item.argumentsString }

def responsesResponseToChatCompletionsResponse (response : ResponsesResponse) (id : String) :
    ChatCompletion :=
  let reasoning := extractReasoningTextFromResponses response
  let toolCalls := response.output.filterMap outputToolCall
  let finishReason :=
    match responsesFinishReasonFromStatus response with
    | some reason => reason
    | none => if toolCalls ≠ [] then "tool_calls" else "stop"
  let message : CompletionMessage :=
    { content := extractOutputTextFromResponses response
      reasoningContent := if reasoning ≠ "" then some reasoning else none
      toolCalls := toolCalls }
  { id := id, model := response.model, choices := [⟨message, finishReason⟩] }

def CompletionCall.proper (call : CompletionCall) : Prop :=
  (call.type = "" ∨ call.type = "function") ∧ trimSpace call.name ≠ "" ∧
    trimSpace call.id ≠ ""

def CompletionChoice.finishFits (choice : CompletionChoice) : Prop :=
  (choice.finishReason = "stop" ∧ choice.message.toolCalls = []) ∨
  (choice.finishReason = "tool_calls" ∧ choice.message.toolCalls ≠ []) ∨
  choice.finishReason = "length" ∨ choice.finishReason = "content_filter"

structure ProperChoice (choice : CompletionChoice) : Prop where
  calls : ∀ call ∈ choice.message.toolCalls, call.proper
  distinct : (choice.message.toolCalls.map fun call => trimSpace call.id).Nodup
  finish : choice.finishFits

def callParts (call : CompletionCall) : String × String × String :=
  (call.id, call.name, call.arguments)

def trimmedParts (call : CompletionCall) : String × String × String :=
  (trimSpace call.id, trimSpace call.name, call.arguments)

def CompletionCall.trimmed (call : CompletionCall) : Prop :=
  trimSpace call.id = call.id ∧ trimSpace call.name = call.name

def SameChoice (choice : CompletionChoice) (completion : ChatCompletion) : Prop :=
  ∃ back, completion.choices = [back] ∧ back.message.content = choice.message.content ∧
    back.message.getReasoningContent = choice.message.getReasoningContent ∧
    back.message.toolCalls.map callParts = choice.message.toolCalls.map callParts ∧
    back.finishReason = choice.finishReason

section

variable {id status : String}

def properOutput (status : String) (call : CompletionCall) : ResponsesOutput :=
  { type := .functionCall, id := trimSpace call.id, status := status,
    callId := trimSpace call.id, name := call.name,
    arguments := JsonStrings.quote call.arguments }

theorem mapIdx_eq_map {First Second : Type} {items : List First} {indexed : Nat → First → Second}
    {plain : First → Second} (same : ∀ index, ∀ item ∈ items, indexed index item = plain item) :
    items.mapIdx indexed = items.map plain := by
  apply ext_getElem (by simp)
  intro index _ _
  simp [same index]

variable {calls : List CompletionCall}

theorem toolOutputs_eq (proper : ∀ call ∈ calls, call.proper) :
    (calls.mapIdx fun index call => chatToolCallToResponsesOutput call id index status) =
      calls.map (properOutput status) := by
  apply mapIdx_eq_map
  intro index call member
  obtain ⟨isFunction,-,named⟩ := proper call member
  simp [chatToolCallToResponsesOutput,isFunction,named,properOutput]

theorem outputToolCall_properOutput (status : String) {call : CompletionCall}
    (proper : call.proper) :
    (outputToolCall (properOutput status call)).map callParts =
      some (trimmedParts call) := by
  obtain ⟨-,named,identified⟩ := proper
  simp [outputToolCall,properOutput,isResponsesToolOutputType,named,
    trimSpace_idem,ResponsesOutput.argumentsString,jsonRawMessageToString_quote,
    callParts,trimmedParts]

theorem toolCalls_back (proper : ∀ call ∈ calls, call.proper) :
    ((calls.map (properOutput status)).filterMap outputToolCall).map callParts =
      calls.map trimmedParts := by
  induction calls with
  | nil => rfl
  | cons call calls induction =>
    have head := outputToolCall_properOutput status (proper call mem_cons_self)
    have tail := induction (forall_mem_cons.mp proper).2
    obtain ⟨back,sent,same⟩ := Option.map_eq_some_iff.mp head
    rw [map_cons,filterMap_cons_some sent,map_cons,same,tail,map_cons]

def properItems (id status : String) (message : CompletionMessage) : List ResponsesOutput :=
  messageOutput id status message.content ++ reasoningOutput id status message.getReasoningContent ++
    message.toolCalls.map (properOutput status)

variable (message : CompletionMessage)

theorem properItems_calls :
    (properItems id status message).filterMap outputToolCall =
      (message.toolCalls.map (properOutput status)).filterMap outputToolCall := by
  have text : (messageOutput id status message.content).filterMap outputToolCall = [] := by
    unfold messageOutput
    split <;> rfl
  have reasoning :
      (reasoningOutput id status message.getReasoningContent).filterMap outputToolCall = [] := by
    unfold reasoningOutput
    split <;> rfl
  rw [properItems,filterMap_append,filterMap_append,text,reasoning]
  rfl

theorem properItems_text :
    joined (assistantTexts (properItems id status message)) = message.content := by
  have calls : (message.toolCalls.map (properOutput status)).filter (fun item =>
      item.type = .message && (item.role = "" || item.role = "assistant")) = [] := by
    simp [properOutput]
  by_cases text : message.content = "" <;> by_cases reasoning : message.getReasoningContent = "" <;>
    simp [assistantTexts,properItems,messageOutput,reasoningOutput,text,reasoning,calls,joined]

theorem properItems_reasoning :
    joined (contentTexts ((properItems id status message).filter (·.type = .reasoning))) =
      message.getReasoningContent := by
  have calls : (message.toolCalls.map (properOutput status)).filter (·.type = .reasoning) = [] := by
    simp [properOutput]
  by_cases text : message.content = "" <;> by_cases reasoning : message.getReasoningContent = "" <;>
    simp [contentTexts,properItems,messageOutput,reasoningOutput,text,reasoning,calls,joined]

theorem properItems_content (noText : message.content = "") :
    joined (contentTexts (properItems id status message)) = message.getReasoningContent := by
  have calls : contentTexts (message.toolCalls.map (properOutput status)) = [] := by
    simp [contentTexts,properOutput]
  have split : contentTexts (properItems id status message) =
      contentTexts (reasoningOutput id status message.getReasoningContent) ++
        contentTexts (message.toolCalls.map (properOutput status)) := by
    simp [properItems,messageOutput,noText,contentTexts]
  rw [split,calls]
  by_cases reasoning : message.getReasoningContent = "" <;>
    simp [reasoningOutput,reasoning,contentTexts,joined]

end

section

theorem responseStatusString_eq {response : ResponsesResponse} {status : String}
    (known : status ∈ ["completed", "incomplete"])
    (given : response.status = "\"" ++ status ++ "\"") : responseStatusString response = status := by
  rw [responseStatusString,given]
  clear given
  revert status
  decide

variable {choice : CompletionChoice} {completion : ChatCompletion} (id : String)
  (single : completion.choices = [choice])

include single

theorem output_eq (proper : ∀ call ∈ choice.message.toolCalls, call.proper) :
    ∃ status, (chatCompletionsResponseToResponsesResponse completion id).output =
      properItems id status choice.message := by
  simp only [chatCompletionsResponseToResponsesResponse,single,choiceOutput,
    toolOutputs_eq proper]
  exact ⟨_,rfl⟩

theorem status_eq :
    let response := chatCompletionsResponseToResponsesResponse completion id
    let status := responsesStatusFromChatFinishReason choice.finishReason
    response.status = "\"" ++ status.1 ++ "\"" ∧ response.incompleteReason = status.2 := by
  simp [chatCompletionsResponseToResponsesResponse,single]

theorem finishReason_back (fits : choice.finishFits) :
    responsesFinishReasonFromStatus (chatCompletionsResponseToResponsesResponse completion id) =
      if choice.finishReason = "length" ∨ choice.finishReason = "content_filter" then
        some choice.finishReason
      else none := by
  obtain ⟨given,details⟩ := status_eq id single
  unfold responsesFinishReasonFromStatus
  rcases fits with ⟨stop,-⟩ | ⟨calls,-⟩ | long | filtered
  · have status : responsesStatusFromChatFinishReason "stop" = ("completed", none) := by decide
    rw [stop,status] at given
    simp [responseStatusString_eq (by simp) given,stop]
  · have status : responsesStatusFromChatFinishReason "tool_calls" = ("completed", none) := by
      decide
    rw [calls,status] at given
    simp [responseStatusString_eq (by simp) given,calls]
  · have status : responsesStatusFromChatFinishReason "length" =
        ("incomplete", some "max_output_tokens") := by decide
    have other : trimSpace "max_output_tokens" ≠ "content_filter" := by decide
    rw [long,status] at given details
    simp [responseStatusString_eq (by simp) given,details,other,long]
  · have status : responsesStatusFromChatFinishReason "content_filter" =
        ("incomplete", some "content_filter") := by decide
    have same : trimSpace "content_filter" = "content_filter" := by decide
    rw [filtered,status] at given details
    simp [responseStatusString_eq (by simp) given,details,same,filtered]

theorem roundTrip_eq (backId : String) (proper : ProperChoice choice) :
    ∃ back, (responsesResponseToChatCompletionsResponse
        (chatCompletionsResponseToResponsesResponse completion id) backId).choices = [back] ∧
      back.message.content = (if choice.message.content ≠ "" then choice.message.content
        else choice.message.getReasoningContent) ∧
      back.message.getReasoningContent = choice.message.getReasoningContent ∧
      back.message.toolCalls.map callParts = choice.message.toolCalls.map trimmedParts ∧
      back.finishReason = choice.finishReason := by
  obtain ⟨status,output⟩ := output_eq id single proper.calls
  have finish := finishReason_back id single proper.finish
  generalize chatCompletionsResponseToResponsesResponse completion id = response at output finish
  have calls : (response.output.filterMap outputToolCall).map callParts =
      choice.message.toolCalls.map trimmedParts := by
    rw [output,properItems_calls,toolCalls_back proper.calls]
  refine ⟨_,rfl,?_,?_,calls,?_⟩
  · simp only [extractOutputTextFromResponses,output,properItems_text]
    by_cases text : choice.message.content = ""
    · simp [properItems_content choice.message text]
    · simp [text]
  · simp only [extractReasoningTextFromResponses,output,properItems_reasoning]
    generalize choice.message.getReasoningContent = reasoning
    by_cases none : reasoning = "" <;> simp [CompletionMessage.getReasoningContent,none]
  · have empty : response.output.filterMap outputToolCall = [] ↔ choice.message.toolCalls = [] := by
      rw [← map_eq_nil_iff (f := callParts),calls,map_eq_nil_iff]
    simp only [finish]
    rcases proper.finish with ⟨stop,noCalls⟩ | ⟨called,someCalls⟩ | long | filtered
    · simp [stop,empty.mpr noCalls]
    · simp [called,mt empty.mp someCalls]
    · simp [long]
    · simp [filtered]

end

theorem trimmedParts_eq_iff {calls : List CompletionCall} :
    calls.map trimmedParts = calls.map callParts ↔ ∀ call ∈ calls, call.trimmed := by
  simp [trimmedParts,callParts,CompletionCall.trimmed]

/-- A completion comes back as it was iff it has a text or no reasoning, and no call has space
around its id or its name. -/
theorem chat_responses_round_trip_iff (completion : ChatCompletion) (choice : CompletionChoice)
    (id backId : String) (single : completion.choices = [choice]) (proper : ProperChoice choice) :
    SameChoice choice (responsesResponseToChatCompletionsResponse
        (chatCompletionsResponseToResponsesResponse completion id) backId) ↔
      (choice.message.content ≠ "" ∨ choice.message.getReasoningContent = "") ∧
        ∀ call ∈ choice.message.toolCalls, call.trimmed := by
  obtain ⟨back,choices,text,reasoning,calls,finish⟩ := roundTrip_eq id single backId proper
  have onlyBack : SameChoice choice (responsesResponseToChatCompletionsResponse
        (chatCompletionsResponseToResponsesResponse completion id) backId) ↔
      back.message.content = choice.message.content ∧
        back.message.toolCalls.map callParts = choice.message.toolCalls.map callParts := by
    simp [SameChoice,choices,reasoning,finish]
  have sameText : back.message.content = choice.message.content ↔
      choice.message.content ≠ "" ∨ choice.message.getReasoningContent = "" := by
    rw [text]
    by_cases empty : choice.message.content = "" <;> simp [empty]
  rw [onlyBack,sameText,calls,trimmedParts_eq_iff]

def weatherChoice : CompletionChoice :=
  { message :=
      { content := "Let me look.", reasoningContent := some "The city is known.",
        toolCalls := [⟨"call_1", "function", "get_weather", "[\"Paris\"]", ""⟩] }
    finishReason := "tool_calls" }

theorem weatherChoice_back :
    SameChoice weatherChoice (responsesResponseToChatCompletionsResponse
      (chatCompletionsResponseToResponsesResponse ⟨"chat", "gpt", [weatherChoice]⟩ "resp") "back") := by
  have proper : ProperChoice weatherChoice :=
    { calls := by simp only [CompletionCall.proper]; decide
      distinct := by decide
      finish := by simp only [CompletionChoice.finishFits]; decide }
  apply (chat_responses_round_trip_iff ⟨"chat","gpt",[weatherChoice]⟩ weatherChoice "resp" "back"
    rfl proper).mpr
  simp only [CompletionCall.trimmed]
  decide

def silentChoice : CompletionChoice :=
  { message := { content := "", reasoningContent := some "Nothing to say.", toolCalls := [] }
    finishReason := "stop" }

/-- The reasoning of a completion without a text comes back as its text too. -/
theorem silentChoice_reasoning_becomes_text :
    ProperChoice silentChoice ∧
      ¬ SameChoice silentChoice (responsesResponseToChatCompletionsResponse
        (chatCompletionsResponseToResponsesResponse ⟨"chat", "gpt", [silentChoice]⟩ "resp")
          "back") := by
  refine ⟨⟨by simp [silentChoice],by simp [silentChoice],.inl ⟨rfl,rfl⟩⟩,?_⟩
  rintro ⟨back,choices,text,-⟩
  obtain rfl := singleton_inj.mp choices
  exact absurd text (by decide)

end NewApi
