import NewApi.ChatMessages
import NewApi.GoStrings

/-!
# Converting an OpenAI chat request to a Claude request

The first pass of `OpenAIChatRequestToClaudeMessages` merges a message with the one before it when
both have the same role and a text.
-/

namespace NewApi

variable {Source Input : Type}

inductive ClaudeRequestBlock (Source Input : Type) where
  | text (text : String)
  | media (document : Bool) (mediaType data : String)
  | toolUse (id name : String) (input : Input)
  | toolResult (toolUseId : String) (content : MessageContent Source)
deriving DecidableEq, Repr

inductive ClaudeContent (Source Input : Type) where
  | text (text : String)
  | blocks (blocks : List (ClaudeRequestBlock Source Input))
deriving DecidableEq, Repr

structure ClaudeMessage (Source Input : Type) where
  role : Role
  content : ClaudeContent Source Input
deriving DecidableEq, Repr

structure ClaudeRequest (Source Input : Type) where
  system : List String
  messages : List (ClaudeMessage Source Input)
  maxTokens : Nat
deriving DecidableEq, Repr

/-- The request; `maxTokens` is the limit after the defaults have been applied. -/
structure ChatRequest (Source : Type) where
  messages : List (ChatMessage Source)
  maxTokens : Option Nat
deriving DecidableEq, Repr

/-- What the converter takes from elsewhere: the data of a file with its media type, and
the object that a text of arguments stands for. -/
structure RequestEnv (Source Input : Type) where
  resolveBase64Data : Source → Except String (String × String)
  inputObj : String → Input

def placeholder : String := "..."

def formatMessage (message : ChatMessage Source) : ChatMessage Source where
  role := message.role
  content := message.content
  toolCalls := if message.role = .assistant then message.toolCalls else none
  toolCallId := if message.role = .tool then message.toolCallId else ""

def merges (last message : ChatMessage Source) : Bool :=
  last.role = message.role && last.role ≠ .tool && last.content.isString &&
    message.content.isString

def mergedText (last message : ChatMessage Source) : String :=
  GoStrings.trim (last.stringContent ++ " " ++ message.stringContent) '"'

def fillContent (message : ChatMessage Source) : ChatMessage Source :=
  match message.content with
  | .null => message.setStringContent placeholder
  | .text text => if text = "" then message.setStringContent placeholder else message
  | .media _ => message

def formatStep (state : List (ChatMessage Source) × ChatMessage Source)
    (message : ChatMessage Source) : List (ChatMessage Source) × ChatMessage Source :=
  if merges state.2 message then
    let formatted := fillContent ((formatMessage message).setStringContent (mergedText state.2 message))
    (state.1.dropLast ++ [formatted], formatted)
  else
    let formatted := fillContent (formatMessage message)
    (state.1 ++ [formatted], formatted)

def formatMessages (messages : List (ChatMessage Source)) : List (ChatMessage Source) :=
  (messages.foldl formatStep ([], ⟨.tool, .null, none, ""⟩)).1

section

variable (env : RequestEnv Source Input)

structure Emission (Source Input : Type) where
  messages : List (ClaudeMessage Source Input)
  isFirstMessage : Bool
  systemMessages : List String

def nonEmptyTexts (texts : List String) : List String :=
  texts.filter (· ≠ "")

def placeholderMessage : ClaudeMessage Source Input where
  role := .user
  content := .blocks [.text placeholder]

def Emission.begin (emission : Emission Source Input) (message : ChatMessage Source) :
    Emission Source Input :=
  if emission.isFirstMessage then
    { emission with
      isFirstMessage := false
      messages := if message.role ≠ .user then emission.messages ++ [placeholderMessage]
        else emission.messages }
  else emission

def ClaudeContent.toBlocks : ClaudeContent Source Input → List (ClaudeRequestBlock Source Input)
  | .text string => [.text string]
  | .blocks list => list

def addToolResult (messages : List (ClaudeMessage Source Input)) (message : ChatMessage Source) :
    List (ClaudeMessage Source Input) :=
  let result : ClaudeRequestBlock Source Input := .toolResult message.toolCallId message.content
  match messages.getLast? with
  | some last =>
    if last.role = .user then
      messages.dropLast ++ [{ last with content := .blocks (last.content.toBlocks ++ [result]) }]
    else messages ++ [⟨.user, .blocks [result]⟩]
  | none => [⟨.user, .blocks [result]⟩]

def mediaBlock : MediaContent Source → Except String (Option (ClaudeRequestBlock Source Input))
  | .text text => .ok (if text = "" then none else some (.text text))
  | .file none => .ok none
  | .file (some source) =>
    match env.resolveBase64Data source with
    | .error err => .error ("get file data failed: " ++ err)
    | .ok (data, mimeType) =>
      .ok (some (.media (GoStrings.hasPrefix mimeType "application/pdf") mimeType data))

def mediaBlocks : List (MediaContent Source) →
    Except String (List (ClaudeRequestBlock Source Input))
  | [] => .ok []
  | part :: parts => do
    let block ← mediaBlock env part
    let blocks ← mediaBlocks parts
    return block.toList ++ blocks

def toolUseBlock (call : ToolCallRequest) : ClaudeRequestBlock Source Input :=
  .toolUse call.id call.name (env.inputObj call.arguments)

def emitContent (message : ChatMessage Source) : Except String (ClaudeContent Source Input) :=
  if message.content.isString && message.toolCalls.isNone then
    .ok (.text (if message.stringContent = "" then placeholder else message.stringContent))
  else do
    let blocks ← mediaBlocks env message.content.parse
    return .blocks (blocks ++ message.parseToolCalls.map (toolUseBlock env))

def emit (emission : Emission Source Input) (message : ChatMessage Source) :
    Except String (Emission Source Input) :=
  if message.role = .system then
    .ok { emission with
      systemMessages := emission.systemMessages ++ nonEmptyTexts message.content.texts }
  else
    let begun := emission.begin message
    if message.role = .tool then
      .ok { begun with messages := addToolResult begun.messages message }
    else do
      let content ← emitContent env message
      return { begun with messages := begun.messages ++ [⟨message.role, content⟩] }

def emitAll : Emission Source Input → List (ChatMessage Source) →
    Except String (Emission Source Input)
  | emission, [] => .ok emission
  | emission, message :: messages => do
    let next ← emit env emission message
    emitAll next messages

end

def errMissingMaxTokens : String :=
  "claude messages request requires max_tokens: set max_tokens on the request or configure Options.Claude.DefaultMaxTokens"

def openAIChatRequestToClaudeMessages (env : RequestEnv Source Input) (request : ChatRequest Source) :
    Except String (ClaudeRequest Source Input) := do
  let emission ← emitAll env ⟨[], true, []⟩ (formatMessages request.messages)
  match request.maxTokens with
  | none => .error errMissingMaxTokens
  | some maxTokens => return ⟨emission.systemMessages, emission.messages, maxTokens⟩

end NewApi
