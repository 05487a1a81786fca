import Mathlib.Data.List.Count
import NewApi.GeminiRequest
import NewApi.GoStrings
import NewApi.RestartedNumbers

/-!
# Function calls and their responses in a converted Gemini request

The k-th response with a name answers the k-th call with that name. Every content numbers its calls
from one.
-/

namespace NewApi

open ContentProgress GeminiPart List GeminiContent

variable {Value : Type}

def GeminiPart.callName (part : GeminiPart Value) : Option String :=
  match part.kind with
  | .call call => some call.name
  | _ => none

def GeminiPart.responseName (part : GeminiPart Value) : Option String :=
  match part.kind with
  | .response response => some response.name
  | _ => none

def callNames (parts : List (GeminiPart Value)) : List String :=
  parts.filterMap GeminiPart.callName

def responseNames (parts : List (GeminiPart Value)) : List String :=
  parts.filterMap GeminiPart.responseName

def GeminiRequest.parts (request : GeminiRequest Value) : List (GeminiPart Value) :=
  request.contents.flatMap GeminiContent.parts

def AnswersEarlierCalls (parts : List (GeminiPart Value)) : Prop :=
  ∀ seen, seen <+: parts → ∀ name, (responseNames seen).count name ≤ (callNames seen).count name

def positionsOf (name : String) (names : List String) : List Nat :=
  (range names.length).filter fun position => names[position]? = some name

/-- The call that a response answers: the k-th response of a name answers its k-th call. -/
def answeredCall (parts : List (GeminiPart Value)) (response : Nat) : Option Nat :=
  (responseNames parts)[response]?.bind fun name =>
    (positionsOf name (callNames parts))[((responseNames parts).take response).count name]?

def sentToolCalls (messages : List GeminiMessage) : List (Role × ToolCallRequest) :=
  messages.flatMap fun message => message.parseToolCalls.map (Prod.mk message.role)

def toolCallIds (messages : List GeminiMessage) : List String :=
  (sentToolCalls messages).map fun sent => sent.2.id

def LinksTo (messages : List GeminiMessage) (response call : Nat) : Prop :=
  ∃ before message after,
    messages = before ++ message :: after ∧ message.role = .tool ∧
    (before.filter (·.role = .tool)).length = response ∧
    ∃ toolCall, (sentToolCalls before)[call]? = some (.assistant, toolCall) ∧
      message.toolCallId = toolCall.id

def KeepsLinkage (parts : List (GeminiPart Value)) (messages : List GeminiMessage) : Prop :=
  (toolCallIds messages).Nodup ∧
    ∀ response call, answeredCall parts response = some call → LinksTo messages response call

def GeminiContent.hasCalls (content : GeminiContent Value) : Bool :=
  callNames content.parts ≠ []

section

theorem callId_injective : Function.Injective callId := by
  intro first second same
  exact GoStrings.toString_injective ((String.append_right_inj "call_").mp same)

variable (toJSONString : Value → String) {progress : ContentProgress}

/-- The calls are numbered from one, and a response refers to a number up to the last. -/
structure ContentProgress.Numbered (progress : ContentProgress) : Prop where
  ids : progress.toolCalls.map ToolCallRequest.id =
    (range' 1 progress.toolCalls.length).map callId
  responses : ∀ message ∈ progress.toolMessages, message.role = .tool ∧
    message.toolCalls = none ∧ ∃ number ≤ progress.toolCalls.length,
      message.toolCallId = callId number

theorem start_numbered : start.Numbered where
  ids := rfl
  responses := by simp [start]

theorem convertPart_numbered (numbered : progress.Numbered)
    (part : GeminiPart Value) : (convertPart toJSONString progress part).Numbered := by
  unfold convertPart
  cases part.kind with
  | text text | image image => exact ⟨numbered.ids,numbered.responses⟩
  | skipped => exact numbered
  | call =>
    constructor
    · simp [numbered.ids,range'_concat,Nat.add_comm]
    · intro message sent
      obtain ⟨isTool,noCalls,number,bound,same⟩ := numbered.responses message sent
      have grown : number ≤ progress.toolCalls.length + 1 := by omega
      exact ⟨isTool,noCalls,number,by simpa using grown,same⟩
  | response =>
    constructor
    · exact numbered.ids
    · intro message sent
      rcases mem_append.mp sent with old | new
      · exact numbered.responses message old
      · obtain rfl := mem_singleton.mp new
        exact ⟨rfl,rfl,progress.toolCalls.length,Nat.le_refl _,rfl⟩

theorem convertParts_numbered (numbered : progress.Numbered)
    (parts : List (GeminiPart Value)) : (convertParts toJSONString progress parts).Numbered := by
  induction parts generalizing progress with
  | nil => exact numbered
  | cons part parts induction => exact induction (convertPart_numbered toJSONString numbered part)

theorem convertPart_toolCalls_length (progress : ContentProgress) (part : GeminiPart Value) :
    (convertPart toJSONString progress part).toolCalls.length =
      progress.toolCalls.length + (callNames [part]).length := by
  cases kind : part.kind <;> simp [convertPart,callNames,callName,kind]

theorem convertParts_toolCalls_length (progress : ContentProgress)
    (parts : List (GeminiPart Value)) :
    (convertParts toJSONString progress parts).toolCalls.length =
      progress.toolCalls.length + (callNames parts).length := by
  induction parts generalizing progress with
  | nil => rfl
  | cons part parts induction =>
    have split : callNames (part :: parts) = callNames [part] ++ callNames parts :=
      filterMap_append (l := [part])
    have rest := induction (convertPart toJSONString progress part)
    rw [convertPart_toolCalls_length] at rest
    rw [split,length_append]
    change (convertParts toJSONString _ parts).toolCalls.length = _
    omega

end

section

variable (toJSONString : Value → String) (first second : List GeminiMessage)

@[simp] theorem sentToolCalls_append :
    sentToolCalls (first ++ second) = sentToolCalls first ++ sentToolCalls second :=
  flatMap_append

@[simp] theorem toolCallIds_append :
    toolCallIds (first ++ second) = toolCallIds first ++ toolCallIds second := by
  simp [toolCallIds]

theorem toolCallIds_cons (message : GeminiMessage) (messages : List GeminiMessage) :
    toolCallIds (message :: messages) =
      message.parseToolCalls.map ToolCallRequest.id ++ toolCallIds messages := by
  simp [toolCallIds,sentToolCalls]

theorem toolCallIds_eq_nil {messages : List GeminiMessage}
    (none : ∀ message ∈ messages, message.toolCalls = none) : toolCallIds messages = [] := by
  induction messages with
  | nil => rfl
  | cons message messages induction =>
    have head := none message mem_cons_self
    have tail := induction (forall_mem_cons.mp none).2
    simp [toolCallIds_cons,ChatMessage.parseToolCalls,head,tail]

theorem parseToolCalls_message (progress : ContentProgress) (role : String) :
    (progress.message role).parseToolCalls = progress.toolCalls := by
  by_cases empty : progress.toolCalls = [] <;> simp [message,ChatMessage.parseToolCalls,empty]

theorem convertContent_eq (content : GeminiContent Value) :
    ∃ own, convertContent toJSONString content =
        (convertParts toJSONString .start content.parts).toolMessages ++ own ∧
      (∀ message ∈ own, message.role = convertGeminiRoleToOpenAI content.role) ∧
      toolCallIds own = (range' 1 (callNames content.parts).length).map callId := by
  have count := convertParts_toolCalls_length toJSONString .start content.parts
  have numbered := (convertParts_numbered toJSONString start_numbered content.parts).ids
  unfold convertContent
  generalize convertParts toJSONString .start content.parts = progress at count numbered
  simp only [start,length_nil,Nat.zero_add] at count
  have ids : toolCallIds [progress.message content.role] =
      (range' 1 (callNames content.parts).length).map callId := by
    rw [toolCallIds_cons,parseToolCalls_message,numbered,count]
    exact append_nil _
  by_cases sent : (progress.message content.role).content.parse ≠ [] ∨
      (progress.message content.role).parseToolCalls ≠ []
  · refine ⟨[progress.message content.role],if_pos sent,?_,ids⟩
    intro message member
    obtain rfl := mem_singleton.mp member
    rfl
  · refine ⟨[],by simp [if_neg sent],by simp,?_⟩
    have noCalls : progress.toolCalls = [] := by
      rw [parseToolCalls_message] at sent
      simp only [not_or,not_not] at sent
      exact sent.2
    rw [noCalls] at count
    rw [← count]
    rfl

end

section

variable (toJSONString : Value → String)
  (content : GeminiContent Value) (contents : List (GeminiContent Value))

theorem convertContents_eq_flatMap :
    convertContents toJSONString contents = contents.flatMap (convertContent toJSONString) := by
  have accumulated (messages : List GeminiMessage) :
      contents.foldl (fun messages content => messages ++ convertContent toJSONString content)
          messages =
        messages ++ contents.flatMap (convertContent toJSONString) := by
    induction contents generalizing messages with
    | nil => simp
    | cons content contents induction => simp [induction]
  simpa [convertContents] using accumulated []

theorem convertContents_cons :
    convertContents toJSONString (content :: contents) =
      convertContent toJSONString content ++ convertContents toJSONString contents := by
  simp [convertContents_eq_flatMap]

theorem toolCallIds_convertContent :
    toolCallIds (convertContent toJSONString content) =
      (range' 1 (callNames content.parts).length).map callId := by
  obtain ⟨own,messages,-,ids⟩ := convertContent_eq toJSONString content
  have numbered := convertParts_numbered toJSONString start_numbered content.parts
  have noIds := toolCallIds_eq_nil fun message member =>
    (numbered.responses message member).2.1
  rw [messages,toolCallIds_append,noIds,ids,nil_append]

theorem toolCallIds_convertContents :
    toolCallIds (convertContents toJSONString contents) =
      restartedLabels (fun number => callId (1 + number))
        (contents.map fun content => (callNames content.parts).length) := by
  induction contents with
  | nil => rfl
  | cons content contents induction =>
    rw [convertContents_cons,toolCallIds_append,induction,toolCallIds_convertContent,
      range'_eq_map_range,map_map]
    rfl

theorem exists_callId_of_mem {contents : List (GeminiContent Value)} {id : String}
    (sent : id ∈ toolCallIds (convertContents toJSONString contents)) :
    ∃ number, id = callId (1 + number) := by
  rw [toolCallIds_convertContents] at sent
  obtain ⟨-,-,number,-,same⟩ := mem_restartedLabels.mp sent
  exact ⟨number,same.symm⟩

theorem nodup_toolCallIds_iff :
    (toolCallIds (convertContents toJSONString contents)).Nodup ↔
      (contents.filter hasCalls).length ≤ 1 := by
  have injective : Function.Injective fun number => callId (1 + number) := by
    intro first second same
    have := callId_injective same
    omega
  have calling : (fun content : GeminiContent Value => decide (0 < (callNames content.parts).length)) =
      hasCalls := by
    ext content
    simp [hasCalls,length_pos_iff]
  rw [toolCallIds_convertContents,nodup_restartedLabels_iff injective,filter_map,
    length_map]
  simp only [Function.comp_def,calling]

theorem convertGeminiRoleToOpenAI_ne_tool (role : String) :
    convertGeminiRoleToOpenAI role ≠ .tool := by
  unfold convertGeminiRoleToOpenAI
  split <;> exact nofun

/-- The number in the id of a tool message is zero, or a call sent after it has that id. -/
def RefersForward (message : GeminiMessage) (after : List GeminiMessage) : Prop :=
  ∃ number, message.toolCallId = callId number ∧
    (number ≠ 0 → callId number ∈ toolCallIds after)

variable {message : GeminiMessage} {after before : List GeminiMessage}

theorem RefersForward.append (forward : RefersForward message after) (later : List GeminiMessage) :
    RefersForward message (after ++ later) := by
  obtain ⟨number,same,sent⟩ := forward
  refine ⟨number,same,fun positive => ?_⟩
  rw [toolCallIds_append]
  exact mem_append_left _ (sent positive)

theorem refersForward_of_convertContent {content : GeminiContent Value}
    (split : convertContent toJSONString content = before ++ message :: after)
    (isTool : message.role = .tool) : RefersForward message after := by
  obtain ⟨own,messages,roles,ids⟩ := convertContent_eq toJSONString content
  have numbered := convertParts_numbered toJSONString start_numbered content.parts
  have count := convertParts_toolCalls_length toJSONString .start content.parts
  have notOwn : message ∉ own := by
    intro member
    exact convertGeminiRoleToOpenAI_ne_tool content.role ((roles message member).symm.trans isTool)
  rw [messages] at split
  rcases append_eq_append_iff.mp split with ⟨middle,-,rest⟩ | ⟨middle,tools,rest⟩
  · exact absurd (by simp [rest]) notOwn
  · cases middle with
    | nil =>
      have same : own = message :: after := rest.symm
      exact absurd (by simp [same]) notOwn
    | cons =>
      rw [cons_append] at rest
      obtain ⟨rfl,rfl⟩ := cons.inj rest
      obtain ⟨-,-,number,bound,same⟩ := numbered.responses message (by simp [tools])
      refine ⟨number,same,fun positive => ?_⟩
      rw [toolCallIds_append,ids]
      apply mem_append_right
      apply mem_map_of_mem
      rw [mem_range'_1]
      simp only [start,length_nil] at count bound
      omega

variable {contents}

theorem refersForward_of_convertContents
    (split : convertContents toJSONString contents = before ++ message :: after)
    (isTool : message.role = .tool) : RefersForward message after := by
  induction contents generalizing before after with
  | nil => simp [convertContents] at split
  | cons content contents induction =>
    rw [convertContents_cons] at split
    rcases append_eq_append_iff.mp split with ⟨middle,-,rest⟩ | ⟨middle,own,rest⟩
    · exact induction rest
    · cases middle with
      | nil =>
        have later : convertContents toJSONString contents = [] ++ message :: after := rest.symm
        exact induction later
      | cons =>
        obtain ⟨rfl,rfl⟩ := cons.inj rest
        exact (refersForward_of_convertContent toJSONString own isTool).append _

theorem toolCallId_not_mem_before
    (split : convertContents toJSONString contents = before ++ message :: after)
    (isTool : message.role = .tool)
    (distinct : (toolCallIds (convertContents toJSONString contents)).Nodup) :
    message.toolCallId ∉ toolCallIds before := by
  intro sent
  obtain ⟨number,same,forward⟩ := refersForward_of_convertContents toJSONString split isTool
  have whole : toolCallIds (convertContents toJSONString contents) =
      toolCallIds before ++
        (message.parseToolCalls.map ToolCallRequest.id ++ toolCallIds after) := by
    rw [split,toolCallIds_append,toolCallIds_cons]
  obtain ⟨previous,isPositive⟩ := exists_callId_of_mem toJSONString
    (whole ▸ mem_append_left _ sent)
  have positive : number ≠ 0 := by
    have := callId_injective (same.symm.trans isPositive)
    omega
  rw [whole] at distinct
  exact (disjoint_of_nodup_append distinct) sent
    (mem_append_right _ (same ▸ forward positive))

end

section

variable (toJSONString : Value → String) {request : GeminiRequest Value}

theorem toolCallIds_systemMessages (instructions : Option (GeminiContent Value)) :
    toolCallIds (systemMessages instructions) = [] := by
  cases instructions <;> rfl

theorem toolCallIds_request (request : GeminiRequest Value) :
    toolCallIds (geminiGenerateContentRequestToOpenAIChat toJSONString request) =
      toolCallIds (convertContents toJSONString request.contents) := by
  rw [geminiGenerateContentRequestToOpenAIChat,toolCallIds_append,toolCallIds_systemMessages,
    nil_append]

/-- The system message is not a tool message and has no calls, so a linked tool message
is one of the contents. -/
theorem contents_split_of_request_split
    {before after : List GeminiMessage} {message : GeminiMessage}
    (split : geminiGenerateContentRequestToOpenAIChat toJSONString request =
      before ++ message :: after) (isTool : message.role = .tool) :
    ∃ own, convertContents toJSONString request.contents = own ++ message :: after ∧
      toolCallIds before = toolCallIds own := by
  rcases append_eq_append_iff.mp split with ⟨own,rfl,rest⟩ | ⟨middle,system,rest⟩
  · exact ⟨own,rest,by simp [toolCallIds_systemMessages]⟩
  · cases middle with
    | nil =>
      refine ⟨[],rest.symm,?_⟩
      rw [← append_nil before,← system,toolCallIds_systemMessages]
      rfl
    | cons =>
      obtain ⟨rfl,-⟩ := cons.inj rest
      have member : message ∈ systemMessages request.systemInstructions := by simp [system]
      cases given : request.systemInstructions with
      | none => simp [given,systemMessages] at member
      | some =>
        rw [given] at member
        obtain rfl := mem_singleton.mp member
        exact absurd isTool nofun

theorem not_linksTo_of_nodup (response call : Nat) (distinct :
      (toolCallIds (geminiGenerateContentRequestToOpenAIChat toJSONString request)).Nodup) :
    ¬ LinksTo (geminiGenerateContentRequestToOpenAIChat toJSONString request) response call := by
  rintro ⟨before,message,after,split,isTool,-,toolCall,sent,same⟩
  obtain ⟨own,ownSplit,ids⟩ := contents_split_of_request_split toJSONString split isTool
  rw [toolCallIds_request] at distinct
  apply toolCallId_not_mem_before toJSONString ownSplit isTool distinct
  rw [← ids,same]
  exact mem_map_of_mem (mem_of_getElem? sent)

theorem positionsOf_ne_nil {name : String} {names : List String} (member : name ∈ names) :
    positionsOf name names ≠ [] := by
  obtain ⟨position,bound,found⟩ := getElem_of_mem member
  apply ne_nil_of_mem (a := position)
  simp [positionsOf,bound,found]

theorem exists_answeredCall {parts : List (GeminiPart Value)}
    (answers : AnswersEarlierCalls parts) (responses : responseNames parts ≠ []) :
    ∃ call, answeredCall parts 0 = some call := by
  obtain ⟨name,names,first⟩ := exists_cons_of_ne_nil responses
  have counted := answers parts prefix_rfl name
  have called : name ∈ callNames parts := by
    apply count_pos_iff.mp
    have : 0 < (responseNames parts).count name := by simp [first]
    omega
  obtain ⟨call,calls,positions⟩ := exists_cons_of_ne_nil (positionsOf_ne_nil called)
  exact ⟨call,by simp [answeredCall,first,positions]⟩

/-- The linkage is kept exactly when there is nothing to link and at most one content has
calls. -/
theorem gemini_request_keeps_linkage_iff (request : GeminiRequest Value)
    (answers : AnswersEarlierCalls request.parts) :
    KeepsLinkage request.parts (geminiGenerateContentRequestToOpenAIChat toJSONString request) ↔
      responseNames request.parts = [] ∧
        (request.contents.filter hasCalls).length ≤ 1 := by
  rw [← nodup_toolCallIds_iff toJSONString,← toolCallIds_request]
  constructor
  · rintro ⟨distinct,linked⟩
    refine ⟨?_,distinct⟩
    by_contra responses
    obtain ⟨call,answered⟩ := exists_answeredCall answers responses
    exact not_linksTo_of_nodup toJSONString 0 call distinct (linked 0 call answered)
  · rintro ⟨noResponses,distinct⟩
    refine ⟨distinct,fun response call answered => ?_⟩
    simp [answeredCall,noResponses] at answered

def openCalls : GeminiRequest String where
  contents :=
    [⟨"user", [{ text := "question" }]⟩,
     ⟨"model", [{ functionCall := some ⟨"f", "first"⟩ },
       { functionCall := some ⟨"g", "second"⟩ }]⟩]
  systemInstructions := none

theorem openCalls_answersEarlierCalls : AnswersEarlierCalls openCalls.parts := by
  intro seen earlier name
  have none : responseNames seen = [] := by
    apply eq_nil_of_sublist_nil
    exact earlier.sublist.filterMap responseName
  simp [none]

theorem openCalls_linked : KeepsLinkage openCalls.parts
    (geminiGenerateContentRequestToOpenAIChat id openCalls) :=
  (gemini_request_keeps_linkage_iff id openCalls openCalls_answersEarlierCalls).mpr (by decide)

def callAndResponse : GeminiRequest String where
  contents :=
    [⟨"user", [{ text := "question" }]⟩,
     ⟨"model", [{ functionCall := some ⟨"f", "arguments"⟩ }]⟩,
     ⟨"user", [{ functionResponse := some ⟨"f", "result"⟩ }]⟩]
  systemInstructions := none

theorem callAndResponse_answersEarlierCalls : AnswersEarlierCalls callAndResponse.parts := by
  intro seen earlier name
  have cases : seen ∈ callAndResponse.parts.inits := (mem_inits _ _).mpr earlier
  simp only [callAndResponse,GeminiRequest.parts,flatMap_cons,flatMap_nil,
    cons_append,nil_append,inits,map_cons,map_nil,mem_cons,
    not_mem_nil,or_false] at cases
  rcases cases with rfl | rfl | rfl | rfl <;>
    simp [responseNames,callNames,responseName,callName,kind]

/-- The answer is given the id of no call. -/
theorem gemini_request_loses_linkage :
    AnswersEarlierCalls callAndResponse.parts ∧
      ¬ KeepsLinkage callAndResponse.parts
        (geminiGenerateContentRequestToOpenAIChat id callAndResponse) := by
  refine ⟨callAndResponse_answersEarlierCalls,?_⟩
  rintro ⟨distinct,linked⟩
  exact not_linksTo_of_nodup id 0 0 distinct (linked 0 0 (by decide))

end

end NewApi
