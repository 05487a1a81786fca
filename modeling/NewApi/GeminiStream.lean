import NewApi.ChatStream
import NewApi.GeminiRequest
import NewApi.GoStrings

/-!
# Converting a Gemini stream to an OpenAI stream

`StreamResponseGeminiChat2OpenAI` converts one chunk without any state; `GeminiToChatStreamState`
adds the end of the stream.
-/

namespace NewApi

variable {Value Usage : Type}

structure ExecutableCode where
  language : String
  code : String
deriving DecidableEq, Repr

structure GeminiStreamPart (Value : Type) where
  text : String := ""
  thought : Bool := false
  inlineData : Option GeminiBlob := none
  functionCall : Option (GeminiFunction Value) := none
  executableCode : Option ExecutableCode := none
  codeExecutionResult : Option String := none
deriving DecidableEq, Repr

structure GeminiCandidate (Value : Type) where
  parts : List (GeminiStreamPart Value)
  finishReason : Option String
deriving DecidableEq, Repr

/-- A chunk with what is known when it is converted: the model, the usage read from it and
the random names of its tool calls. -/
structure GeminiStreamInput (Value Usage : Type) where
  candidates : List (GeminiCandidate Value)
  model : String
  usage : Option Usage
  uuid : Nat → String

section

def imageText (blob : GeminiBlob) : String :=
  "![image](data:" ++ blob.mimeType ++ ";base64," ++ blob.data ++ ")"

def codeText (code : ExecutableCode) : String :=
  "```" ++ code.language ++ "\n" ++ code.code ++ "\n```\n"

def resultText (output : String) : String :=
  "```output\n" ++ output ++ "\n```\n"

/-- What the loop over the parts of a candidate has collected. -/
structure CandidateProgress where
  content : String
  appended : Nat
  isTools : Bool
  isThought : Bool
  toolCalls : List ToolCallResponse
deriving DecidableEq, Repr

def CandidateProgress.start : CandidateProgress :=
  ⟨"", 0, false, false, []⟩

/-- A text is separated from the one before it by a line break. -/
def CandidateProgress.write (progress : CandidateProgress) (text : String) : CandidateProgress :=
  { progress with
    content := progress.content ++ (if 0 < progress.appended then "\n" else "") ++ text
    appended := progress.appended + 1 }

variable (marshal : Value → Option String)

/-- The call with its arguments as a text, unless they cannot be written. -/
def geminiResponseToolCall (uuid : String) (call : GeminiFunction Value) :
    Option ToolCallResponse :=
  (marshal call.value).map fun arguments => ⟨none, "call_" ++ uuid, call.name, arguments⟩

def streamPart (uuid : Nat → String) (progress : CandidateProgress)
    (part : GeminiStreamPart Value) : CandidateProgress :=
  match part.inlineData, part.functionCall with
  | some blob, _ =>
    if GoStrings.hasPrefix blob.mimeType "image" then progress.write (imageText blob)
    else progress
  | none, some call =>
    let index := progress.toolCalls.length
    match geminiResponseToolCall marshal (uuid index) call with
    | none => { progress with isTools := true }
    | some toolCall =>
      { progress with
        isTools := true
        toolCalls := progress.toolCalls ++ [{ toolCall with index := some (index : Int) }] }
  | none, none =>
    if part.thought then
      { progress.write part.text with isThought := true }
    else
      match part.executableCode, part.codeExecutionResult with
      | some code, _ => progress.write (codeText code)
      | none, some output => progress.write (resultText output)
      | none, none => if part.text ≠ "\n" then progress.write part.text else progress

def candidateFinish (reason : String) : String :=
  if reason = "MAX_TOKENS" then "length" else "content_filter"

def streamCandidate (uuid : Nat → String) (candidate : GeminiCandidate Value) : StreamChoice :=
  let reason := candidate.finishReason.filter (· ≠ "STOP")
  let progress := candidate.parts.foldl (streamPart marshal uuid) .start
  { delta :=
      { content := if progress.isThought then none else some progress.content
        reasoningContent := if progress.isThought then some progress.content else none
        reasoning := none
        toolCalls := progress.toolCalls }
    finishReason :=
      if progress.isTools then some "tool_calls" else reason.map candidateFinish }

/-- The choices of a chunk, and whether one of its candidates has stopped. -/
def streamResponseGeminiChat2OpenAI (uuid : Nat → String)
    (candidates : List (GeminiCandidate Value)) : List StreamChoice × Bool :=
  (candidates.map (streamCandidate marshal uuid),
    candidates.any fun candidate => candidate.finishReason = some "STOP")

end

structure GeminiToChatStreamState (Usage : Type) where
  id : String
  sawToolCall : Bool
  finishEmitted : Bool
  latestUsage : Option Usage
deriving DecidableEq, Repr

def newGeminiToChatStreamState (id uuid : String) : GeminiToChatStreamState Usage where
  id := if GoStrings.trimSpace id = "" then "chatcmpl-" ++ uuid else GoStrings.trimSpace id
  sawToolCall := false
  finishEmitted := false
  latestUsage := none

namespace GeminiToChatStreamState

def terminalChunk (state : GeminiToChatStreamState Usage) (model : String) : StreamChunk Usage where
  id := state.id
  model := model
  choices := [⟨⟨none, none, none, []⟩, some (if state.sawToolCall then "tool_calls" else "stop")⟩]
  usage := state.latestUsage

def hasNonStopFinish (candidate : GeminiCandidate Value) : Bool :=
  candidate.finishReason.any fun reason => reason ≠ "" && reason ≠ "STOP"

def isToolCall (choices : List StreamChoice) : Bool :=
  match choices with
  | [] => false
  | choice :: _ => choice.delta.toolCalls ≠ []

def withoutToolFinish (choice : StreamChoice) : StreamChoice :=
  if choice.finishReason = some "tool_calls" then { choice with finishReason := none } else choice

def correctFinish (candidates : List (GeminiCandidate Value)) (choices : List StreamChoice) :
    List StreamChoice :=
  if isToolCall choices && !candidates.any hasNonStopFinish then choices.map withoutToolFinish
  else choices

variable (marshal : Value → Option String)

def convertChunk (state : GeminiToChatStreamState Usage) (input : GeminiStreamInput Value Usage) :
    List (StreamChunk Usage) × GeminiToChatStreamState Usage :=
  let (choices, isStop) := streamResponseGeminiChat2OpenAI marshal input.uuid input.candidates
  let sawToolCall := isToolCall choices
  let choices := correctFinish input.candidates choices
  let finishes := choices.any fun choice => choice.finishReason.any (· ≠ "")
  let state :=
    { state with
      sawToolCall := state.sawToolCall || sawToolCall
      latestUsage := input.usage.or state.latestUsage
      finishEmitted := state.finishEmitted || finishes }
  let response := ⟨state.id, input.model, choices, input.usage⟩
  if isStop && !state.finishEmitted then
    ([response, state.terminalChunk input.model], { state with finishEmitted := true })
  else
    ([response], state)

def finalize (state : GeminiToChatStreamState Usage) (model : String) :
    List (StreamChunk Usage) :=
  if state.finishEmitted then [] else [state.terminalChunk model]

def convertChunks (state : GeminiToChatStreamState Usage) :
    List (GeminiStreamInput Value Usage) →
      List (List (StreamChunk Usage)) × GeminiToChatStreamState Usage
  | [] => ([], state)
  | input :: inputs =>
    let (sent, next) := state.convertChunk marshal input
    let (rest, last) := next.convertChunks inputs
    (sent :: rest, last)

def convertStream (state : GeminiToChatStreamState Usage) (model : String)
    (inputs : List (GeminiStreamInput Value Usage)) : List (StreamChunk Usage) :=
  let (sent, last) := state.convertChunks marshal inputs
  sent.flatten ++ last.finalize model

end GeminiToChatStreamState

inductive PieceKind where
  | thought
  | plain
  | other
deriving DecidableEq, Repr

structure TextPiece where
  kind : PieceKind
  text : String
deriving DecidableEq, Repr

def GeminiStreamPart.piece (part : GeminiStreamPart Value) : Option TextPiece :=
  match part.inlineData, part.functionCall with
  | some blob, _ =>
    if GoStrings.hasPrefix blob.mimeType "image" then some ⟨.other, imageText blob⟩ else none
  | none, some _ => none
  | none, none =>
    if part.thought then some ⟨.thought, part.text⟩
    else
      match part.executableCode, part.codeExecutionResult with
      | some code, _ => some ⟨.other, codeText code⟩
      | none, some output => some ⟨.other, resultText output⟩
      | none, none => some ⟨.plain, part.text⟩

def GeminiStreamInput.parts (input : GeminiStreamInput Value Usage) :
    List (GeminiStreamPart Value) :=
  input.candidates.flatMap GeminiCandidate.parts

def GeminiStreamInput.pieces (input : GeminiStreamInput Value Usage) : List TextPiece :=
  input.parts.filterMap GeminiStreamPart.piece

/-- Every text is sent in one of the two fields: the thoughts in the reasoning, and the
texts that are not thoughts, unless they are empty, in the content. -/
def TextsApart (pieces : List TextPiece) (sent : List (StreamChunk Usage)) : Prop :=
  ∃ toReasoning : TextPiece → Bool,
    (∀ piece ∈ pieces, piece.kind = .thought → toReasoning piece = true) ∧
    (∀ piece ∈ pieces, piece.kind = .plain → piece.text ≠ "" → toReasoning piece = false) ∧
    ((∀ delta ∈ streamDeltas sent, delta.reasoningContent = none) →
      ∀ piece ∈ pieces, toReasoning piece = false) ∧
    receivedReasoning sent = joinedLines ((pieces.filter (toReasoning ·)).map TextPiece.text) ∧
    receivedContent sent = joinedLines ((pieces.filter (!toReasoning ·)).map TextPiece.text)

def carriesFinish (chunk : StreamChunk Usage) : Bool :=
  chunk.choices.any fun choice => choice.finishReason.isSome

def FinishesOnce (sent : List (StreamChunk Usage)) : Prop :=
  ∃ before last after, sent = before ++ last :: after ∧
    (∀ chunk ∈ before, carriesFinish chunk = false) ∧ carriesFinish last = true ∧
    ∀ chunk ∈ after, chunk.choices = []

/-- The indexes of the tool calls are distinct in the whole stream, the texts of every
chunk are kept apart, and the stream finishes once. -/
structure KeepsApart (marshal : Value → Option String) (state : GeminiToChatStreamState Usage)
    (model : String) (inputs : List (GeminiStreamInput Value Usage)) : Prop where
  indexes : ((receivedFragments (state.convertStream marshal model inputs)).map Prod.fst).Nodup
  texts : ∀ pair ∈ inputs.zip (state.convertChunks marshal inputs).1,
    TextsApart pair.1.pieces pair.2
  finish : FinishesOnce (state.convertStream marshal model inputs)

end NewApi
