import NewApi.ChatMessages

/-!
# Converting a Gemini request to an OpenAI chat request

Gemini's function calls have no ids. `GeminiGenerateContentRequestToOpenAIChat` numbers
the calls of each content from one and lets a response refer to the last call so far of
its own content.
-/

namespace NewApi

variable {Value : Type}

structure GeminiBlob where
  mimeType : String
  data : String
deriving DecidableEq, Repr

/-- The call with its arguments, or the response with its object. -/
structure GeminiFunction (Value : Type) where
  name : String
  value : Value
deriving DecidableEq, Repr

structure GeminiPart (Value : Type) where
  text : String := ""
  inlineData : Option GeminiBlob := none
  fileData : Option GeminiBlob := none
  functionCall : Option (GeminiFunction Value) := none
  functionResponse : Option (GeminiFunction Value) := none
deriving DecidableEq, Repr

structure GeminiContent (Value : Type) where
  role : String
  parts : List (GeminiPart Value)
deriving DecidableEq, Repr

structure GeminiRequest (Value : Type) where
  contents : List (GeminiContent Value)
  systemInstructions : Option (GeminiContent Value)
deriving DecidableEq, Repr

structure GeminiImageUrl where
  url : String
  mimeType : String
deriving DecidableEq, Repr

/-- What a part is converted as. The fields are tried in a fixed order. -/
inductive GeminiPartKind (Value : Type) where
  | text (text : String)
  | image (image : GeminiImageUrl)
  | call (call : GeminiFunction Value)
  | response (response : GeminiFunction Value)
  | skipped
deriving DecidableEq, Repr

abbrev GeminiMessage := ChatMessage GeminiImageUrl

section

def convertGeminiRoleToOpenAI : String → Role
  | "user" => .user
  | "model" => .assistant
  | "function" => .other "function"
  | _ => .user

def extractTextFromGeminiParts (parts : List (GeminiPart Value)) : String :=
  "\n".intercalate ((parts.map GeminiPart.text).filter (· ≠ ""))

def GeminiPart.kind (part : GeminiPart Value) : GeminiPartKind Value :=
  if part.text ≠ "" then
    .text part.text
  else
    match part.inlineData, part.fileData, part.functionCall, part.functionResponse with
    | some blob, _, _, _ =>
      .image ⟨"data:" ++ blob.mimeType ++ ";base64," ++ blob.data, blob.mimeType⟩
    | none, some file, _, _ => .image ⟨file.data, file.mimeType⟩
    | none, none, some call, _ => .call call
    | none, none, none, some response => .response response
    | none, none, none, none => .skipped

def callId (number : Nat) : String :=
  "call_" ++ toString number

/-- What the loop over the parts of one content has collected. -/
structure ContentProgress where
  mediaContents : List (MediaContent GeminiImageUrl)
  toolCalls : List ToolCallRequest
  toolMessages : List GeminiMessage
deriving DecidableEq, Repr

def ContentProgress.start : ContentProgress :=
  ⟨[], [], []⟩

variable (toJSONString : Value → String)

def toolMessage (number : Nat) (response : GeminiFunction Value) : GeminiMessage where
  role := .tool
  content := .text (toJSONString response.value)
  toolCalls := none
  toolCallId := callId number

def convertPart (progress : ContentProgress) (part : GeminiPart Value) : ContentProgress :=
  match part.kind with
  | .text text =>
    { progress with mediaContents := progress.mediaContents ++ [.text text] }
  | .image image =>
    { progress with mediaContents := progress.mediaContents ++ [.file (some image)] }
  | .call call =>
    { progress with
      toolCalls := progress.toolCalls ++
        [⟨callId (progress.toolCalls.length + 1), call.name, toJSONString call.value⟩] }
  | .response response =>
    { progress with
      toolMessages := progress.toolMessages ++
        [toolMessage toJSONString progress.toolCalls.length response] }
  | .skipped => progress

def convertParts (progress : ContentProgress) (parts : List (GeminiPart Value)) :
    ContentProgress :=
  parts.foldl (convertPart toJSONString) progress

def mediaMessageContent : List (MediaContent GeminiImageUrl) → MessageContent GeminiImageUrl
  | [] => .null
  | [.text text] => .text text
  | media => .media media

/-- The content's own message. The media of a content with tool calls are dropped. -/
def ContentProgress.message (progress : ContentProgress) (role : String) : GeminiMessage where
  role := convertGeminiRoleToOpenAI role
  content := if progress.toolCalls = [] then mediaMessageContent progress.mediaContents else .null
  toolCalls := if progress.toolCalls = [] then none else some progress.toolCalls
  toolCallId := ""

/-- The messages of one content: the tool messages of its responses come first. -/
def convertContent (content : GeminiContent Value) : List GeminiMessage :=
  let progress := convertParts toJSONString .start content.parts
  let message := progress.message content.role
  if message.content.parse ≠ [] ∨ message.parseToolCalls ≠ [] then
    progress.toolMessages ++ [message]
  else
    progress.toolMessages

def convertContents (contents : List (GeminiContent Value)) : List GeminiMessage :=
  contents.foldl (fun messages content => messages ++ convertContent toJSONString content) []

def systemMessages (instructions : Option (GeminiContent Value)) : List GeminiMessage :=
  match instructions with
  | none => []
  | some content =>
    [{ role := .system, content := .text (extractTextFromGeminiParts content.parts),
       toolCalls := none, toolCallId := "" }]

def geminiGenerateContentRequestToOpenAIChat (request : GeminiRequest Value) :
    List GeminiMessage :=
  systemMessages request.systemInstructions ++ convertContents toJSONString request.contents

end

end NewApi
