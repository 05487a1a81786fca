import NewApi.GeminiStreamParts

/-! # One chunk of a Gemini stream -/

namespace NewApi

variable {Value Usage : Type}

section

variable (marshal : Value → Option String)

def chunkFinish (candidate : GeminiCandidate Value) : Option String :=
  if streamCalls candidate.parts = [] then
    (candidate.finishReason.filter (· ≠ "STOP")).map candidateFinish
  else if sentArguments marshal (streamCalls candidate.parts) = [] ∨
      GeminiToChatStreamState.hasNonStopFinish candidate = true then
    some "tool_calls"
  else none

def sentChoice (uuid : Nat → String) (candidate : GeminiCandidate Value) : StreamChoice :=
  { streamCandidate marshal uuid candidate with finishReason := chunkFinish marshal candidate }

def GeminiStreamInput.stops (input : GeminiStreamInput Value Usage) : Bool :=
  input.candidates.any fun candidate => candidate.finishReason = some "STOP"

def GeminiStreamInput.finishes (input : GeminiStreamInput Value Usage) : Bool :=
  input.candidates.any fun candidate => (chunkFinish marshal candidate).isSome

/-- The chunk ends the stream: by stopping, by another finish reason, or by calls of which
none can be sent. An empty finish reason counts unless there are calls. -/
def GeminiStreamInput.ends (input : GeminiStreamInput Value Usage) : Bool :=
  input.stops || input.finishes marshal

namespace GeminiToChatStreamState

variable {marshal} (state : GeminiToChatStreamState Usage)
  (uuid : Nat → String) (candidate : GeminiCandidate Value)

theorem isToolCall_single :
    isToolCall [streamCandidate marshal uuid candidate] =
      decide (sentArguments marshal (streamCalls candidate.parts) ≠ []) := by
  simp [isToolCall,streamCandidate_toolCalls_eq_nil]

theorem corrected_eq_sentChoice :
    correctFinish [candidate] [streamCandidate marshal uuid candidate] =
      [sentChoice marshal uuid candidate] := by
  have unchanged (same : (streamCandidate marshal uuid candidate).finishReason =
      chunkFinish marshal candidate) :
      [streamCandidate marshal uuid candidate] = [sentChoice marshal uuid candidate] := by
    rw [sentChoice,← same]
  rw [correctFinish,isToolCall_single]
  by_cases calls : streamCalls candidate.parts = []
  · have finish : (streamCandidate marshal uuid candidate).finishReason =
        chunkFinish marshal candidate := by
      simp [streamCandidate_finishReason,chunkFinish,calls]
    simpa [calls,sentArguments] using unchanged finish
  · have finish : (streamCandidate marshal uuid candidate).finishReason = some "tool_calls" := by
      simp [streamCandidate_finishReason,calls]
    by_cases taken : sentArguments marshal (streamCalls candidate.parts) ≠ [] ∧
        hasNonStopFinish candidate = false
    · have none : chunkFinish marshal candidate = none := by
        simp [chunkFinish,calls,taken.1,taken.2]
      simp [taken.1,taken.2,withoutToolFinish,finish,sentChoice,none]
    · have kept : sentArguments marshal (streamCalls candidate.parts) = [] ∨
          hasNonStopFinish candidate = true := by
        by_contra both
        simp only [not_or,Bool.not_eq_true] at both
        exact taken both
      have stays : chunkFinish marshal candidate = some "tool_calls" := by
        rw [chunkFinish,if_neg calls,if_pos kept]
      rw [if_neg (by simpa using taken)]
      exact unchanged (finish.trans stays.symm)

variable {input : GeminiStreamInput Value Usage}

theorem corrected_choices (single : input.candidates.length ≤ 1) :
    correctFinish input.candidates (input.candidates.map (streamCandidate marshal input.uuid)) =
      input.candidates.map (sentChoice marshal input.uuid) := by
  match given : input.candidates with
  | [] => rfl
  | [candidate] => exact corrected_eq_sentChoice input.uuid candidate
  | first :: second :: rest => simp [given] at single

theorem any_chunkFinish :
    (chunkFinish marshal candidate).any (· ≠ "") = (chunkFinish marshal candidate).isSome := by
  unfold chunkFinish
  split
  · cases candidate.finishReason.filter (· ≠ "STOP") with
    | none => rfl
    | some reason => by_cases long : reason = "MAX_TOKENS" <;> simp [candidateFinish,long]
  · split <;> rfl

def afterChoices (marshal : Value → Option String) (state : GeminiToChatStreamState Usage)
    (input : GeminiStreamInput Value Usage) : GeminiToChatStreamState Usage :=
  { state with
    sawToolCall := state.sawToolCall ||
      isToolCall (input.candidates.map (streamCandidate marshal input.uuid))
    latestUsage := input.usage.or state.latestUsage
    finishEmitted := state.finishEmitted || input.finishes marshal }

def chunkResponse (marshal : Value → Option String) (state : GeminiToChatStreamState Usage)
    (input : GeminiStreamInput Value Usage) : StreamChunk Usage :=
  ⟨state.id, input.model, input.candidates.map (sentChoice marshal input.uuid), input.usage⟩

def stopsNow (marshal : Value → Option String) (state : GeminiToChatStreamState Usage)
    (input : GeminiStreamInput Value Usage) : Bool :=
  input.stops && !(state.finishEmitted || input.finishes marshal)

theorem convertChunk_eq (state : GeminiToChatStreamState Usage)
    (single : input.candidates.length ≤ 1) :
    state.convertChunk marshal input =
      if state.stopsNow marshal input then
        ([state.chunkResponse marshal input,
            (state.afterChoices marshal input).terminalChunk input.model],
          { state.afterChoices marshal input with finishEmitted := true })
      else ([state.chunkResponse marshal input], state.afterChoices marshal input) := by
  have finishes : ((input.candidates.map (sentChoice marshal input.uuid)).any fun choice =>
      choice.finishReason.any (· ≠ "")) = input.finishes marshal := by
    simp only [List.any_map,Function.comp_def,sentChoice,any_chunkFinish]
    rfl
  simp only [convertChunk,streamResponseGeminiChat2OpenAI,corrected_choices single,finishes]
  rfl

def chunkEnding (marshal : Value → Option String) (state : GeminiToChatStreamState Usage)
    (input : GeminiStreamInput Value Usage) : List (StreamChunk Usage) :=
  if state.stopsNow marshal input then
    [(state.afterChoices marshal input).terminalChunk input.model]
  else []

theorem convertChunk_sent (single : input.candidates.length ≤ 1) :
    (state.convertChunk marshal input).1 =
      [state.chunkResponse marshal input] ++ state.chunkEnding marshal input := by
  rw [convertChunk_eq state single,chunkEnding]
  cases state.stopsNow marshal input <;> rfl

theorem convertChunk_finishEmitted (single : input.candidates.length ≤ 1) :
    (state.convertChunk marshal input).2.finishEmitted =
      (state.finishEmitted || input.ends marshal) := by
  rw [convertChunk_eq state single,GeminiStreamInput.ends]
  cases now : state.stopsNow marshal input with
  | true =>
    have stops : input.stops = true := by
      simp only [stopsNow,Bool.and_eq_true] at now
      exact now.1
    simp [stops]
  | false =>
    have after : (state.finishEmitted || input.finishes marshal) =
        (state.finishEmitted || (input.stops || input.finishes marshal)) := by
      simp only [stopsNow] at now
      cases emitted : state.finishEmitted <;> cases stops : input.stops <;>
        cases finishes : input.finishes marshal <;> simp_all
    simpa [afterChoices] using after

theorem convertStream_cons (marshal : Value → Option String) (model : String)
    (input : GeminiStreamInput Value Usage) (inputs : List (GeminiStreamInput Value Usage)) :
    state.convertStream marshal model (input :: inputs) =
      (state.convertChunk marshal input).1 ++
        (state.convertChunk marshal input).2.convertStream marshal model inputs := by
  simp [convertStream,convertChunks]

end GeminiToChatStreamState

end

end NewApi
