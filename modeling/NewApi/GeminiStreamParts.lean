import NewApi.GeminiStream

/-! # The parts of a Gemini candidate -/

namespace NewApi

open CandidateProgress TextPiece List

variable {Value Usage : Type} {marshal : Value → Option String}

def GeminiStreamPart.call (part : GeminiStreamPart Value) : Option (GeminiFunction Value) :=
  match part.inlineData with
  | some _ => none
  | none => part.functionCall

def TextPiece.skipped (piece : TextPiece) : Bool :=
  piece.kind = .plain && piece.text = "\n"

def streamPieces (parts : List (GeminiStreamPart Value)) : List TextPiece :=
  parts.filterMap GeminiStreamPart.piece

def streamCalls (parts : List (GeminiStreamPart Value)) : List (GeminiFunction Value) :=
  parts.filterMap GeminiStreamPart.call

def writtenTexts (pieces : List TextPiece) : List String :=
  (pieces.filter (!·.skipped)).map TextPiece.text

def hasThought (pieces : List TextPiece) : Bool :=
  pieces.any (·.kind = .thought)

def sentArguments (marshal : Value → Option String) (calls : List (GeminiFunction Value)) :
    List String :=
  calls.filterMap fun call => marshal call.value

def CandidateProgress.addCall (marshal : Value → Option String) (uuid : Nat → String)
    (progress : CandidateProgress) (call : GeminiFunction Value) : CandidateProgress :=
  let index := progress.toolCalls.length
  { progress with
    isTools := true
    toolCalls := progress.toolCalls ++
      ((geminiResponseToolCall marshal (uuid index) call).map fun toolCall =>
        { toolCall with index := some (index : Int) }).toList }

def CandidateProgress.addPiece (progress : CandidateProgress) (piece : TextPiece) :
    CandidateProgress :=
  if piece.skipped then progress
  else { progress.write piece.text with
    isThought := progress.isThought || decide (piece.kind = .thought) }

theorem streamPart_eq (uuid : Nat → String) (progress : CandidateProgress)
    (part : GeminiStreamPart Value) :
    streamPart marshal uuid progress part =
      match part.call, part.piece with
      | some call, _ => progress.addCall marshal uuid call
      | none, some piece => progress.addPiece piece
      | none, none => progress := by
  obtain ⟨text,thought,inlineData,functionCall,executableCode,result⟩ := part
  cases inlineData with
  | some blob =>
    by_cases isImage : GoStrings.hasPrefix blob.mimeType "image" = true
    · simp [streamPart,GeminiStreamPart.call,GeminiStreamPart.piece,skipped,isImage,
        addPiece,write]
    · simp [streamPart,GeminiStreamPart.call,GeminiStreamPart.piece,isImage]
  | none =>
    cases functionCall with
    | some call =>
      cases written : marshal call.value <;>
        simp [streamPart,GeminiStreamPart.call,addCall,
          geminiResponseToolCall,written]
    | none =>
      cases thought with
      | true =>
        simp [streamPart,GeminiStreamPart.call,GeminiStreamPart.piece,skipped,
          addPiece]
      | false =>
        cases executableCode with
        | some =>
          simp [streamPart,GeminiStreamPart.call,GeminiStreamPart.piece,
            skipped,addPiece,write]
        | none =>
          cases result with
          | some =>
            simp [streamPart,GeminiStreamPart.call,GeminiStreamPart.piece,
              skipped,addPiece,write]
          | none =>
            by_cases lineBreak : text = "\n"
            · simp [streamPart,GeminiStreamPart.call,GeminiStreamPart.piece,
                skipped,addPiece,lineBreak]
            · simp [streamPart,GeminiStreamPart.call,GeminiStreamPart.piece,
                skipped,addPiece,
                write]

theorem piece_eq_none_of_call {part : GeminiStreamPart Value} {call : GeminiFunction Value}
    (called : part.call = some call) : part.piece = none := by
  obtain ⟨text,thought,inlineData,functionCall,executableCode,result⟩ := part
  cases inlineData with
  | some => simp [GeminiStreamPart.call] at called
  | none =>
    obtain rfl : functionCall = some call := called
    rfl

theorem streamPieces_concat (parts : List (GeminiStreamPart Value)) (part : GeminiStreamPart Value) :
    streamPieces (parts ++ [part]) = streamPieces parts ++ part.piece.toList := by
  cases piece : part.piece <;> simp [streamPieces,piece]

theorem streamCalls_concat (parts : List (GeminiStreamPart Value)) (part : GeminiStreamPart Value) :
    streamCalls (parts ++ [part]) = streamCalls parts ++ part.call.toList := by
  cases call : part.call <;> simp [streamCalls,call]

/-- What the loop over the parts has collected after certain texts and calls. -/
structure Progressed (marshal : Value → Option String) (pieces : List TextPiece)
    (calls : List (GeminiFunction Value)) (progress : CandidateProgress) : Prop where
  content : progress.content = joinedLines (writtenTexts pieces)
  appended : progress.appended = (writtenTexts pieces).length
  isTools : progress.isTools = decide (calls ≠ [])
  isThought : progress.isThought = hasThought pieces
  indexes : progress.toolCalls.map ToolCallResponse.index =
    (List.range (sentArguments marshal calls).length).map fun (number : Nat) => some (number : Int)

theorem progressed_start :
    Progressed marshal [] ([] : List (GeminiFunction Value)) .start where
  content := rfl
  appended := rfl
  isTools := rfl
  isThought := rfl
  indexes := rfl

section

variable {pieces : List TextPiece} {calls : List (GeminiFunction Value)}
  {progress : CandidateProgress} (before : Progressed marshal pieces calls progress)
  {piece : TextPiece}

include before

theorem Progressed.addCall (uuid : Nat → String) (call : GeminiFunction Value) :
    Progressed marshal pieces (calls ++ [call]) (progress.addCall marshal uuid call) := by
  have count : progress.toolCalls.length = (sentArguments marshal calls).length := by
    simpa using congrArg length before.indexes
  constructor
  · exact before.content
  · exact before.appended
  · simp [CandidateProgress.addCall]
  · exact before.isThought
  · cases written : marshal call.value with
    | none =>
      simpa [CandidateProgress.addCall,geminiResponseToolCall,sentArguments,written]
        using before.indexes
    | some =>
      simpa [CandidateProgress.addCall,geminiResponseToolCall,sentArguments,written,
        range_succ,count] using before.indexes

theorem Progressed.skipPiece (skipped : piece.skipped = true) :
    Progressed marshal (pieces ++ [piece]) calls progress := by
  have texts : writtenTexts (pieces ++ [piece]) = writtenTexts pieces := by
    simp [writtenTexts,skipped]
  have notThought : piece.kind ≠ .thought := by
    intro isThought
    simp [TextPiece.skipped,isThought] at skipped
  constructor
  · rw [texts]
    exact before.content
  · rw [texts]
    exact before.appended
  · exact before.isTools
  · simpa [hasThought,notThought] using before.isThought
  · exact before.indexes

theorem Progressed.writePiece (written : piece.skipped = false) :
    Progressed marshal (pieces ++ [piece]) calls
      { progress.write piece.text with
        isThought := progress.isThought || decide (piece.kind = .thought) } := by
  have texts : writtenTexts (pieces ++ [piece]) = writtenTexts pieces ++ [piece.text] := by
    simp [writtenTexts,written]
  constructor
  · by_cases first : writtenTexts pieces = []
    · have none : progress.appended = 0 := by simp [before.appended,first]
      simp [write,texts,first,none,before.content,joinedLines]
    · have some : 0 < progress.appended := by
        rw [before.appended]
        exact length_pos_of_ne_nil first
      rw [texts,joinedLines_concat first]
      simp [write,some,before.content]
  · simp [write,texts,before.appended]
  · exact before.isTools
  · simp [hasThought,before.isThought]
  · exact before.indexes

end

theorem Progressed.step {parts : List (GeminiStreamPart Value)} {progress : CandidateProgress}
    (before : Progressed marshal (streamPieces parts) (streamCalls parts) progress)
    (uuid : Nat → String) (part : GeminiStreamPart Value) :
    Progressed marshal (streamPieces (parts ++ [part])) (streamCalls (parts ++ [part]))
      (streamPart marshal uuid progress part) := by
  rw [streamPart_eq,streamPieces_concat,streamCalls_concat]
  cases called : part.call with
  | some call =>
    simpa [piece_eq_none_of_call called] using before.addCall uuid call
  | none =>
    cases isPiece : part.piece with
    | none => simpa using before
    | some piece =>
      cases skipped : piece.skipped with
      | true =>
        simpa [addPiece,skipped] using
          before.skipPiece skipped
      | false =>
        simpa [addPiece,skipped] using
          before.writePiece skipped

theorem progressed_foldl (marshal : Value → Option String) (uuid : Nat → String)
    (parts : List (GeminiStreamPart Value)) :
    Progressed marshal (streamPieces parts) (streamCalls parts)
      (parts.foldl (streamPart marshal uuid) .start) := by
  induction parts using reverseRecOn with
  | nil => exact progressed_start
  | append_singleton parts part induction =>
    rw [foldl_append]
    exact induction.step uuid part

section

variable (uuid : Nat → String) (candidate : GeminiCandidate Value)

theorem streamCandidate_finishReason :
    (streamCandidate marshal uuid candidate).finishReason =
      if streamCalls candidate.parts ≠ [] then some "tool_calls"
      else (candidate.finishReason.filter (· ≠ "STOP")).map candidateFinish := by
  have progressed := progressed_foldl marshal uuid candidate.parts
  simp only [streamCandidate,progressed.isTools,decide_eq_true_eq]

theorem streamCandidate_content :
    (streamCandidate marshal uuid candidate).delta.content =
      if hasThought (streamPieces candidate.parts) then none
      else some (joinedLines (writtenTexts (streamPieces candidate.parts))) := by
  have progressed := progressed_foldl marshal uuid candidate.parts
  simp only [streamCandidate,progressed.isThought,progressed.content]

theorem streamCandidate_reasoning :
    (streamCandidate marshal uuid candidate).delta.reasoningContent =
      if hasThought (streamPieces candidate.parts) then
        some (joinedLines (writtenTexts (streamPieces candidate.parts)))
      else none := by
  have progressed := progressed_foldl marshal uuid candidate.parts
  simp only [streamCandidate,progressed.isThought,progressed.content]

theorem streamCandidate_indexes :
    (streamCandidate marshal uuid candidate).delta.fragments.map Prod.fst =
      (List.range (sentArguments marshal (streamCalls candidate.parts)).length).map
        fun (number : Nat) => (number : Int) := by
  have indexes := (progressed_foldl marshal uuid candidate.parts).indexes
  apply StreamDelta.fragments_map_fst
  rwa [map_map]

theorem streamCandidate_toolCalls_eq_nil :
    (streamCandidate marshal uuid candidate).delta.toolCalls = [] ↔
      sentArguments marshal (streamCalls candidate.parts) = [] := by
  have count := congrArg length (progressed_foldl marshal uuid candidate.parts).indexes
  simp only [length_map,length_range] at count
  rw [← length_eq_zero_iff,← length_eq_zero_iff,← count]
  rfl

end

end NewApi
