import NewApi.ChatMessages
import NewApi.JoinedTexts
import NewApi.KeyedFragments

/-! # The chunks of a chat stream -/

namespace NewApi

open List

structure ToolCallResponse where
  index : Option Int
  id : String
  name : String
  arguments : String
deriving DecidableEq, Repr

structure StreamDelta where
  content : Option String
  reasoningContent : Option String
  reasoning : Option String
  toolCalls : List ToolCallResponse
deriving DecidableEq, Repr

namespace StreamDelta

variable (delta : StreamDelta)

def getContentString : String :=
  delta.content.getD ""

def getReasoningContent : String :=
  (delta.reasoningContent.or delta.reasoning).getD ""

/-- The tool calls with their indexes; a missing index is the position in the chunk. -/
def fragments : List (Int × ToolCallResponse) :=
  delta.toolCalls.mapIdx fun position call => (call.index.getD position, call)

theorem fragments_map_fst {delta : StreamDelta} {indexes : List Int}
    (given : delta.toolCalls.map ToolCallResponse.index = indexes.map some) :
    delta.fragments.map Prod.fst = indexes := by
  apply ext_getElem?
  intro position
  have same := congrArg (·[position]?) given
  simp only [fragments,getElem?_map,getElem?_mapIdx]
  cases call : delta.toolCalls[position]? with
  | none =>
    cases index : indexes[position]? with
    | none => rfl
    | some => simp [call,index] at same
  | some fragment =>
    cases index : indexes[position]? with
    | none => simp [call,index] at same
    | some value =>
      have isValue : fragment.index = some value := by simpa [call,index] using same
      simp [isValue]

end StreamDelta

structure StreamChoice where
  delta : StreamDelta
  finishReason : Option String
deriving DecidableEq, Repr

def StreamChoice.finish (choice : StreamChoice) : Option String :=
  choice.finishReason.filter (· ≠ "")

structure StreamChunk (Usage : Type) where
  id : String
  model : String
  choices : List StreamChoice
  usage : Option Usage
deriving DecidableEq, Repr

def StreamChunk.fragments {Usage : Type} (chunk : StreamChunk Usage) : List (Int × ToolCallResponse) :=
  match chunk.choices with
  | [] => []
  | choice :: _ => choice.delta.fragments

section

variable {Usage : Type} (chunks : List (StreamChunk Usage))

def streamDeltas : List StreamDelta :=
  chunks.flatMap fun chunk => chunk.choices.map StreamChoice.delta

def receivedContent : String :=
  joined ((streamDeltas chunks).map StreamDelta.getContentString)

def receivedReasoning : String :=
  joined ((streamDeltas chunks).map StreamDelta.getReasoningContent)

def receivedFragments : List (Int × ToolCallResponse) :=
  (streamDeltas chunks).flatMap StreamDelta.fragments

def assembleCall (fragments : List ToolCallResponse) : ToolCallRequest where
  id := joined (fragments.map ToolCallResponse.id)
  name := joined (fragments.map ToolCallResponse.name)
  arguments := joined (fragments.map ToolCallResponse.arguments)

def receivedToolCalls : List ToolCallRequest :=
  (grouped (receivedFragments chunks)).map fun group => assembleCall group.2

def finishReasons : List String :=
  chunks.flatMap fun chunk => chunk.choices.filterMap StreamChoice.finishReason

variable (first second : List (StreamChunk Usage))

@[simp]
theorem streamDeltas_append :
    streamDeltas (first ++ second) = streamDeltas first ++ streamDeltas second :=
  flatMap_append

@[simp]
theorem receivedContent_append :
    receivedContent (first ++ second) = receivedContent first ++ receivedContent second := by
  simp [receivedContent,joined_append]

@[simp]
theorem receivedReasoning_append :
    receivedReasoning (first ++ second) = receivedReasoning first ++ receivedReasoning second := by
  simp [receivedReasoning,joined_append]

@[simp]
theorem receivedFragments_append :
    receivedFragments (first ++ second) = receivedFragments first ++ receivedFragments second := by
  simp [receivedFragments]

@[simp]
theorem finishReasons_append :
    finishReasons (first ++ second) = finishReasons first ++ finishReasons second :=
  flatMap_append

end

end NewApi
