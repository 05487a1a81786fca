import NewApi.ChatStream
import NewApi.GoStrings
import NewApi.JsonCodec

/-! # Converting a Claude response to an OpenAI response -/

namespace NewApi

variable {Value : Type}

inductive ResponseBlock (Value : Type) where
  | text (text : String)
  | thinking (thinking : String)
  | toolUse (id name : String) (input : Value)
deriving DecidableEq, Repr

structure ClaudeMessageResponse (Value : Type) where
  id : String
  model : String
  content : List (ResponseBlock Value)
  stopReason : String
deriving DecidableEq, Repr

inductive StartedBlock where
  | text (text : Option String)
  | toolUse (id name : String)
  | other
deriving DecidableEq, Repr

inductive DeltaKind where
  | text
  | inputJson
  | signature
  | thinking
  | other
deriving DecidableEq, Repr

structure ResponseDelta where
  kind : DeltaKind
  text : Option String := none
  partialJson : Option String := none
  thinking : Option String := none
deriving DecidableEq, Repr

/-- The events that are told apart; `other` stands for a `content_block_stop`, a `ping`
and everything else. A missing delta of a `message_delta` has no stop reason either. -/
inductive ResponseEvent where
  | messageStart (message : Option (String × String))
  | contentBlockStart (block : Option StartedBlock)
  | contentBlockDelta (delta : Option ResponseDelta)
  | messageDelta (stopReason : Option String)
  | messageStop
  | other
deriving DecidableEq, Repr

structure ClaudeStreamResponse where
  model : String := ""
  index : Option Int := none
  event : ResponseEvent
deriving DecidableEq, Repr

/-- The converter of a stream sets no usage. -/
abbrev ResponseChunk := StreamChunk Empty

structure TextResponse where
  id : String
  model : String
  content : String
  reasoningContent : Option String
  toolCalls : List ToolCallRequest
  finishReason : String
deriving DecidableEq, Repr

section

def stopReasonClaudeToOpenAI (reason : String) : String :=
  let lower := GoStrings.toLower reason
  if lower = "stop_sequence" then "stop"
  else if lower = "end_turn" then "stop"
  else if lower = "max_tokens" then "length"
  else if lower = "tool_use" then "tool_calls"
  else if lower = "refusal" then "content_filter"
  else reason

def StreamDelta.empty : StreamDelta :=
  ⟨none, none, none, []⟩

def errNilPointer : String := "invalid memory address or nil pointer dereference"

def startDelta (index : Int) : StartedBlock → StreamDelta
  | .text text => { StreamDelta.empty with content := text }
  | .toolUse id name => { StreamDelta.empty with toolCalls := [⟨some index, id, name, ""⟩] }
  | .other => .empty

/-- The delta of a `content_block_delta`. A delta with tool calls loses its content, and an
`input_json_delta` without a text is a nil pointer. -/
def blockDelta (index : Int) (delta : ResponseDelta) : Except String StreamDelta :=
  let content := { StreamDelta.empty with content := delta.text }
  match delta.kind with
  | .inputJson =>
    match delta.partialJson with
    | none => .error errNilPointer
    | some arguments =>
      .ok { StreamDelta.empty with toolCalls := [⟨some index, "", "", arguments⟩] }
  | .signature => .ok { content with reasoningContent := some "\n" }
  | .thinking => .ok { content with reasoningContent := delta.thinking }
  | .text | .other => .ok content

def messageDeltaFinish (stopReason : Option String) : Option String :=
  (stopReason.map stopReasonClaudeToOpenAI).filter (· ≠ "null")

def streamResponseClaude2OpenAI (response : ClaudeStreamResponse) :
    Except String (Option ResponseChunk) :=
  let index := response.index.getD 0
  let chunk (delta : StreamDelta) : ResponseChunk := ⟨"", response.model, [⟨delta, none⟩], none⟩
  match response.event with
  | .messageStart message =>
    let (id, model) := message.getD ("", response.model)
    .ok (some ⟨id, model, [⟨{ StreamDelta.empty with content := some "" }, none⟩], none⟩)
  | .contentBlockStart none => .ok none
  | .contentBlockStart (some block) => .ok (some (chunk (startDelta index block)))
  | .contentBlockDelta none => .ok (some (chunk .empty))
  | .contentBlockDelta (some delta) => (blockDelta index delta).map fun delta => some (chunk delta)
  | .messageDelta stopReason =>
    .ok (some ⟨"", response.model, [⟨.empty, messageDeltaFinish stopReason⟩], none⟩)
  | .messageStop => .ok none
  | .other => .ok none

def streamResponsesClaude2OpenAI : List ClaudeStreamResponse → Except String (List ResponseChunk)
  | [] => .ok []
  | response :: responses => do
      let chunk ← streamResponseClaude2OpenAI response
      let chunks ← streamResponsesClaude2OpenAI responses
      return chunk.toList ++ chunks

def ResponseBlock.getText : ResponseBlock Value → String
  | .text string => string
  | .thinking _ | .toolUse _ _ _ => ""

def ResponseBlock.getThinking : ResponseBlock Value → Option String
  | .thinking thought => some thought
  | .text _ | .toolUse _ _ _ => none

/-- What the loop over the content blocks has collected. -/
structure MessageProgress where
  responseText : String
  thinkingContent : String
  tools : List ToolCallRequest
deriving DecidableEq, Repr

variable (codec : JsonCodec Value)

def readBlock (progress : MessageProgress) : ResponseBlock Value → MessageProgress
  | .toolUse id name input =>
    { progress with tools := progress.tools ++ [⟨id, name, codec.marshal input⟩] }
  | .thinking thinking => { progress with thinkingContent := thinking }
  | .text text => { progress with responseText := text }

/-- The thinking of the last block with one, or else that of the first block. -/
def reasoningOf (responseThinking thinkingContent : String) : Option String :=
  if thinkingContent ≠ "" then some thinkingContent
  else if responseThinking ≠ "" then some responseThinking
  else none

def responseClaude2OpenAI (message : ClaudeMessageResponse Value) : TextResponse :=
  let responseText := (message.content.head?.map ResponseBlock.getText).getD ""
  let responseThinking := (message.content.head?.bind ResponseBlock.getThinking).getD ""
  let progress := message.content.foldl (readBlock codec) ⟨responseText, "", []⟩
  { id := message.id
    model := message.model
    content := progress.responseText
    reasoningContent := reasoningOf responseThinking progress.thinkingContent
    toolCalls := progress.tools
    finishReason := stopReasonClaudeToOpenAI message.stopReason }

end

section

variable (codec : JsonCodec Value)

def startOf : ResponseBlock Value → StartedBlock
  | .text _ => .text (some "")
  | .thinking _ => .other
  | .toolUse id name _ => .toolUse id name

def deltaOf (block : ResponseBlock Value) (piece : String) : ResponseDelta :=
  match block with
  | .text _ => { kind := .text, text := some piece }
  | .thinking _ => { kind := .thinking, thinking := some piece }
  | .toolUse _ _ _ => { kind := .inputJson, partialJson := some piece }

/-- The pieces put together are the content of the block. -/
def Splits (block : ResponseBlock Value) (pieces : List String) : Prop :=
  match block with
  | .text text => joined pieces = text
  | .thinking thinking => joined pieces = thinking
  | .toolUse _ _ input => codec.unmarshal (joined pieces) = some input

instance [DecidableEq Value] (block : ResponseBlock Value) (pieces : List String) :
    Decidable (Splits codec block pieces) :=
  match block with
  | .text text => inferInstanceAs (Decidable (joined pieces = text))
  | .thinking thinking => inferInstanceAs (Decidable (joined pieces = thinking))
  | .toolUse _ _ input => inferInstanceAs (Decidable (codec.unmarshal (joined pieces) = some input))

def blockEvents (index : Int) (block : ResponseBlock Value) (pieces : List String) :
    List ClaudeStreamResponse :=
  { index := some index, event := .contentBlockStart (some (startOf block)) } ::
    pieces.map (fun piece =>
      { index := some index, event := .contentBlockDelta (some (deltaOf block piece)) }) ++
    [{ index := some index, event := .other }]

/-- The events of blocks one after another, each with the next index. -/
inductive BlockStream : Int → List (ResponseBlock Value) → List ClaudeStreamResponse → Prop where
  | nil (index : Int) : BlockStream index [] []
  | cons {index : Int} {block : ResponseBlock Value} {blocks : List (ResponseBlock Value)}
      {pieces : List String} {events : List ClaudeStreamResponse}
      (splits : Splits codec block pieces) (rest : BlockStream (index + 1) blocks events) :
      BlockStream index (block :: blocks) (blockEvents index block pieces ++ events)

def CanonicalStream (message : ClaudeMessageResponse Value)
    (events : List ClaudeStreamResponse) : Prop :=
  ∃ blocks, BlockStream codec 0 message.content blocks ∧
    events = [{ event := .messageStart (some (message.id, message.model)) }] ++ blocks ++
      [{ event := .messageDelta (some message.stopReason) }, { event := .messageStop }]

def callValue (call : ToolCallRequest) : String × String × Option Value :=
  (call.id, call.name, codec.unmarshal call.arguments)

/-- The chunks of the stream say what the converted message says. -/
structure StreamAgrees (chunks : List ResponseChunk) (response : TextResponse) : Prop where
  content : receivedContent chunks = response.content
  reasoning : receivedReasoning chunks = response.reasoningContent.getD ""
  toolCalls : (receivedToolCalls chunks).map (callValue codec) =
    response.toolCalls.map (callValue codec)
  finishReason : (finishReasons chunks).getLast? = some response.finishReason

end

end NewApi
