import NewApi.ChatStream
import NewApi.GoStrings

/-! # Converting an OpenAI stream to a Claude stream -/

namespace NewApi

inductive ContentBlock where
  | text
  | thinking
  | toolUse (id name : String)
deriving DecidableEq, Repr

inductive BlockDelta where
  | text (text : String)
  | thinking (thinking : String)
  | inputJson (partialJson : String)
deriving DecidableEq, Repr

/-- An event of a Claude stream. The usage of a `message_delta` is translated from the
OpenAI usage that stands here. -/
inductive ClaudeEvent (Usage : Type) where
  | messageStart (id model : String) (inputTokens : Int)
  | contentBlockStart (index : Int) (block : ContentBlock)
  | contentBlockDelta (index : Int) (delta : BlockDelta)
  | contentBlockStop (index : Int)
  | messageDelta (usage : Option Usage) (stopReason : String)
  | messageStop
deriving DecidableEq, Repr

def stopReasonOpenAI2Claude (reason : String) : String :=
  let lower := GoStrings.toLower reason
  if lower = "stop" then "end_turn"
  else if lower = "stop_sequence" then "stop_sequence"
  else if lower = "length" || lower = "max_tokens" then "max_tokens"
  else if lower = "content_filter" then "refusal"
  else if lower = "tool_calls" then "tool_use"
  else reason

def stopReasonOrEndTurn (reason : String) : String :=
  let stopReason := stopReasonOpenAI2Claude reason
  if stopReason = "" then "end_turn" else stopReason

inductive LastMessagesType where
  | none
  | text
  | tools
  | thinking
deriving DecidableEq, Repr

/-- What the converter remembers between chunks. -/
structure ClaudeConvertInfo (Usage : Type) where
  lastMessagesType : LastMessagesType
  index : Int
  usage : Option Usage
  finishReason : String
  done : Bool
  toolCallBaseIndex : Int
  toolCallMaxIndexOffset : Int
deriving DecidableEq, Repr

variable {Usage : Type}

/-- The events of a piece of the conversion and what the converter remembers after it. -/
abbrev Conversion (Usage : Type) := List (ClaudeEvent Usage) × ClaudeConvertInfo Usage

def Conversion.andThen (first : Conversion Usage)
    (next : ClaudeConvertInfo Usage → Conversion Usage) : Conversion Usage :=
  (first.1 ++ (next first.2).1, (next first.2).2)

namespace ClaudeConvertInfo

def start (usage : Option Usage) : ClaudeConvertInfo Usage where
  lastMessagesType := .none
  index := 0
  usage := usage
  finishReason := ""
  done := false
  toolCallBaseIndex := 0
  toolCallMaxIndexOffset := 0

def withFinish (info : ClaudeConvertInfo Usage) (reason : String) : ClaudeConvertInfo Usage :=
  { info with finishReason := reason }

def stopOpenBlocks (info : ClaudeConvertInfo Usage) : List (ClaudeEvent Usage) :=
  match info.lastMessagesType with
  | .text | .thinking => [.contentBlockStop info.index]
  | .tools => (List.range (info.toolCallMaxIndexOffset + 1).toNat).map fun (offset : Nat) =>
    .contentBlockStop (info.toolCallBaseIndex + offset)
  | .none => []

def stopOpenBlocksAndAdvance (info : ClaudeConvertInfo Usage) : Conversion Usage :=
  match info.lastMessagesType with
  | .none => ([], info)
  | .tools =>
    (info.stopOpenBlocks, { info with
      index := info.toolCallBaseIndex + info.toolCallMaxIndexOffset + 1
      toolCallBaseIndex := 0
      toolCallMaxIndexOffset := 0
      lastMessagesType := .none })
  | .text | .thinking =>
    (info.stopOpenBlocks, { info with index := info.index + 1, lastMessagesType := .none })

def terminate (usage : Option Usage) (stopReason : String) (info : ClaudeConvertInfo Usage) :
    Conversion Usage :=
  (info.stopOpenBlocks ++ [.messageDelta usage stopReason, .messageStop], { info with done := true })

/-- A block of the kind is open after this; `fresh` says that it is opened even when one
of the kind was open before. -/
def openBlock (fresh : Bool) (kind : LastMessagesType) (block : ContentBlock)
    (info : ClaudeConvertInfo Usage) : Conversion Usage :=
  if info.lastMessagesType ≠ kind then
    info.stopOpenBlocksAndAdvance.andThen fun closed =>
      ([.contentBlockStart closed.index block], { closed with lastMessagesType := kind })
  else
    (if fresh then [.contentBlockStart info.index block] else [], info)

def emitDelta (delta : BlockDelta) (info : ClaudeConvertInfo Usage) : Conversion Usage :=
  ([.contentBlockDelta info.index delta], info)

/-- The reasoning of a delta, or its text when there is none. -/
def convertContent (fresh : Bool) (delta : StreamDelta) (info : ClaudeConvertInfo Usage) :
    Conversion Usage :=
  let reasoning := delta.getReasoningContent
  let content := delta.getContentString
  if reasoning ≠ "" then
    (info.openBlock fresh .thinking .thinking).andThen (emitDelta (.thinking reasoning))
  else if content ≠ "" then
    (info.openBlock fresh .text .text).andThen (emitDelta (.text content))
  else ([], info)

def fragmentEvents (blockIndex : Int) (call : ToolCallResponse) : List (ClaudeEvent Usage) :=
  (if call.name ≠ "" then [.contentBlockStart blockIndex (.toolUse call.id call.name)] else []) ++
    (if call.arguments ≠ "" then [.contentBlockDelta blockIndex (.inputJson call.arguments)] else [])

/-- The tool blocks start at the next free index, unless they go on. -/
def beginTools (info : ClaudeConvertInfo Usage) : Conversion Usage :=
  if info.lastMessagesType ≠ .tools then
    info.stopOpenBlocksAndAdvance.andThen fun closed =>
      ([], { closed with
        toolCallBaseIndex := closed.index
        toolCallMaxIndexOffset := 0
        lastMessagesType := .tools })
  else ([], info)

/-- The block of a tool call is as far from the first one as its index says. -/
def convertFragment (fragment : Int × ToolCallResponse) (info : ClaudeConvertInfo Usage) :
    Conversion Usage :=
  (fragmentEvents (info.toolCallBaseIndex + fragment.1) fragment.2,
    { info with toolCallMaxIndexOffset := max info.toolCallMaxIndexOffset fragment.1 })

def convertFragments : List (Int × ToolCallResponse) → ClaudeConvertInfo Usage → Conversion Usage
  | [], info => ([], info)
  | fragment :: fragments, info =>
    (info.convertFragment fragment).andThen (convertFragments fragments)

def convertToolCalls (delta : StreamDelta) (info : ClaudeConvertInfo Usage) : Conversion Usage :=
  (info.beginTools.andThen (convertFragments delta.fragments)).andThen fun next =>
    ([], { next with index := next.toolCallBaseIndex + next.toolCallMaxIndexOffset })

def convertFirstToolCall (calls : List ToolCallResponse) (info : ClaudeConvertInfo Usage) :
    Conversion Usage :=
  match calls with
  | [] => ([], info)
  | call :: _ =>
    (.contentBlockStart 0 (.toolUse call.id call.name) ::
        (if call.arguments ≠ "" then [.contentBlockDelta 0 (.inputJson call.arguments)] else []),
      { info with
        lastMessagesType := .tools
        toolCallBaseIndex := 0
        toolCallMaxIndexOffset := 0 })

/-- The first chunk; a finish reason without any usage leaves the end to a later chunk. -/
def convertFirst (promptTokens : Int) (chunk : StreamChunk Usage) (info : ClaudeConvertInfo Usage) :
    Conversion Usage :=
  let started : Conversion Usage := ([.messageStart chunk.id chunk.model promptTokens], info)
  match chunk.choices with
  | [] => started
  | choice :: _ =>
    let converted := (started.andThen (convertFirstToolCall choice.delta.toolCalls)).andThen
      (convertContent true choice.delta)
    match choice.finish with
    | none => converted
    | some reason => converted.andThen fun next =>
      match chunk.usage.or next.usage with
      | none => ([], next.withFinish reason)
      | some usage =>
        (next.withFinish reason).terminate (some usage) (stopReasonOpenAI2Claude reason)

/-- A chunk without choices ends the stream when a usage is known. -/
def convertUsage (chunk : StreamChunk Usage) (info : ClaudeConvertInfo Usage) : Conversion Usage :=
  match chunk.usage.or info.usage with
  | none => ([], info)
  | some usage => info.terminate (some usage) (stopReasonOrEndTurn info.finishReason)

/-- The content of a later chunk: tool calls, reasoning or text, the first that it has. -/
def convertDelta (delta : StreamDelta) (info : ClaudeConvertInfo Usage) : Conversion Usage :=
  if delta.toolCalls ≠ [] then info.convertToolCalls delta
  else info.convertContent false delta

def convertChoice (choice : StreamChoice) (usage : Option Usage) (info : ClaudeConvertInfo Usage) :
    Conversion Usage :=
  match choice.finish with
  | none => info.convertDelta choice.delta
  | some reason =>
    match usage with
    -- The chunk is left here, together with whatever its delta holds.
    | none => ([], info.withFinish reason)
    | some usage =>
      ((info.withFinish reason).convertDelta choice.delta).andThen
        (terminate (some usage) (stopReasonOpenAI2Claude reason))

def streamResponse (promptTokens : Int) (count : Nat) (chunk : StreamChunk Usage)
    (info : ClaudeConvertInfo Usage) : Conversion Usage :=
  if info.done then ([], info)
  else if count = 1 then info.convertFirst promptTokens chunk
  else
    match chunk.choices with
    | [] => info.convertUsage chunk
    | choice :: _ => info.convertChoice choice chunk.usage

/-- `FinalizeStreamResponseOpenAI2Claude`. -/
def finalize (info : ClaudeConvertInfo Usage) : Conversion Usage :=
  if info.done then ([], info)
  else info.terminate info.usage (stopReasonOrEndTurn info.finishReason)

end ClaudeConvertInfo

structure ClaudeConverter (Usage : Type) where
  info : ClaudeConvertInfo Usage
  count : Nat

namespace ClaudeConverter

def start (usage : Option Usage) : ClaudeConverter Usage where
  info := .start usage
  count := 0

def convert (promptTokens : Int) (converter : ClaudeConverter Usage) (chunk : StreamChunk Usage) :
    Conversion Usage :=
  converter.info.streamResponse promptTokens (converter.count + 1) chunk

/-- The delta of a chunk, unless the chunk is left without a look at it: after the end, and
when a later chunk has a finish reason and no usage. -/
def handledDelta (converter : ClaudeConverter Usage) (chunk : StreamChunk Usage) :
    Option StreamDelta :=
  if converter.info.done then none
  else
    match chunk.choices with
    | [] => none
    | choice :: _ =>
      if converter.count ≠ 0 && choice.finish.isSome && chunk.usage.isNone then none
      else some choice.delta

def feed (promptTokens : Int) (converter : ClaudeConverter Usage) (chunk : StreamChunk Usage) :
    ClaudeConverter Usage where
  info := (converter.convert promptTokens chunk).2
  count := converter.count + 1

def convertStream (promptTokens : Int) (converter : ClaudeConverter Usage) :
    List (StreamChunk Usage) → List (ClaudeEvent Usage)
  | [] => converter.info.finalize.1
  | chunk :: chunks =>
    (converter.convert promptTokens chunk).1 ++
      (converter.feed promptTokens chunk).convertStream promptTokens chunks

theorem handledDelta_eq_some {converter : ClaudeConverter Usage} {chunk : StreamChunk Usage}
    {delta : StreamDelta} (handled : converter.handledDelta chunk = some delta) :
    ∃ choice rest, chunk.choices = choice :: rest ∧ choice.delta = delta := by
  unfold handledDelta at handled
  split at handled
  · cases handled
  split at handled
  · cases handled
  case h_2 choice rest choices =>
    split at handled
    · cases handled
    · exact ⟨choice,rest,choices,Option.some.inj handled⟩

section

open ClaudeConvertInfo

/-- What a chunk after the first one does, with the delta that is handled. -/
inductive ChunkEffect (info : ClaudeConvertInfo Usage) : Option StreamDelta → Conversion Usage → Prop
  | skip (reason : String) : ChunkEffect info none ([], info.withFinish reason)
  | stop (running : info.done = false) (usage : Option Usage) (stopReason : String) :
      ChunkEffect info none (info.terminate usage stopReason)
  | content (running : info.done = false) (delta : StreamDelta) :
      ChunkEffect info (some delta) (info.convertDelta delta)
  | last (running : info.done = false) (delta : StreamDelta) (reason : String)
      (usage : Option Usage) (stopReason : String) :
      ChunkEffect info (some delta)
        (((info.withFinish reason).convertDelta delta).andThen (terminate usage stopReason))

theorem convert_effect (promptTokens : Int) {converter : ClaudeConverter Usage}
    (later : converter.count ≠ 0) (chunk : StreamChunk Usage) :
    ChunkEffect converter.info (converter.handledDelta chunk)
      (converter.convert promptTokens chunk) := by
  unfold handledDelta convert streamResponse
  by_cases done : converter.info.done = true
  · simp only [done]
    exact .skip converter.info.finishReason
  have running : converter.info.done = false := by simpa using done
  simp only [running,later,Nat.add_eq_right,ne_eq]
  cases chunk.choices with
  | nil =>
    dsimp only [convertUsage]
    cases chunk.usage.or converter.info.usage with
    | none => exact .skip converter.info.finishReason
    | some => exact .stop running _ _
  | cons choice =>
    dsimp only [convertChoice]
    cases choice.finish with
    | none => exact .content running choice.delta
    | some reason =>
      cases chunk.usage with
      | none => exact .skip reason
      | some => exact .last running choice.delta reason _ _

end

end ClaudeConverter

end NewApi
