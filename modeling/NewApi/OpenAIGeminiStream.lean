import NewApi.ChatStream

/-! # Converting an OpenAI stream to a Gemini stream -/

namespace NewApi

open List

variable {Object Usage Metadata : Type}

/-- A delta; the tool calls are `none` when the field is missing. -/
structure ToolDelta where
  content : Option String := none
  toolCalls : Option (List ToolCallResponse) := none
deriving DecidableEq, Repr

structure ToolChoice where
  index : Int
  delta : ToolDelta
  finishReason : Option String := none
deriving DecidableEq, Repr

structure ToolChunk (Usage : Type) where
  choices : List ToolChoice
  usage : Option Usage := none
deriving DecidableEq, Repr

inductive GeminiSentPart (Object : Type) where
  | text (text : String)
  | functionCall (name : String) (arguments : Object)
deriving DecidableEq, Repr

structure GeminiSentCandidate (Object : Type) where
  index : Int
  parts : List (GeminiSentPart Object)
  finishReason : Option String
deriving DecidableEq, Repr

structure GeminiSentChunk (Object Metadata : Type) where
  candidates : List (GeminiSentCandidate Object)
  usageMetadata : Metadata
deriving DecidableEq, Repr

/-- How a text is read as a JSON object: `{}` and `{"arguments": text}` are objects, and an
empty text is not one. -/
structure ObjectReader (Object : Type) where
  unmarshal : String → Option Object
  empty : Object
  wrapped : String → Object
  unmarshal_empty : unmarshal "" = none

section

variable (reader : ObjectReader Object) (metadata : Option Usage → Metadata)

def callArguments (arguments : String) : Object :=
  if arguments ≠ "" then (reader.unmarshal arguments).getD (reader.wrapped arguments)
  else reader.empty

def sentFinishReason (reason : String) : String :=
  if reason = "length" then "MAX_TOKENS"
  else if reason = "content_filter" then "SAFETY"
  else "STOP"

/-- The parts of a choice: its tool calls, if the field is there, or else its text. -/
def sentParts (delta : ToolDelta) : List (GeminiSentPart Object) :=
  match delta.toolCalls with
  | some calls => calls.map fun call => .functionCall call.name (callArguments reader call.arguments)
  | none =>
    let textContent := delta.content.getD ""
    if textContent ≠ "" then [.text textContent] else []

def sentCandidate (choice : ToolChoice) : GeminiSentCandidate Object where
  index := choice.index
  parts := sentParts reader choice.delta
  finishReason := choice.finishReason.map sentFinishReason

def ToolChoice.hasContent (choice : ToolChoice) : Bool :=
  choice.delta.content.getD "" ≠ "" || choice.delta.toolCalls.getD [] ≠ []

/-- A chunk without content and without a finish reason is skipped. -/
def streamResponseOpenAI2Gemini (chunk : ToolChunk Usage) :
    Option (GeminiSentChunk Object Metadata) :=
  if chunk.choices.any ToolChoice.hasContent ||
      chunk.choices.any fun choice => choice.finishReason.isSome then
    some ⟨chunk.choices.map (sentCandidate reader), metadata chunk.usage⟩
  else none

def streamResponsesOpenAI2Gemini (chunks : List (ToolChunk Usage)) :
    List (GeminiSentChunk Object Metadata) :=
  chunks.filterMap (streamResponseOpenAI2Gemini reader metadata)

def ToolChoice.fragments (choice : ToolChoice) : List ((Int × Option Int) × ToolCallResponse) :=
  (choice.delta.toolCalls.getD []).map fun call => ((choice.index, call.index), call)

def toolFragments (chunks : List (ToolChunk Usage)) :
    List ((Int × Option Int) × ToolCallResponse) :=
  chunks.flatMap fun chunk => chunk.choices.flatMap ToolChoice.fragments

/-- A tool call is sent as a fragment with its name and further fragments without, and the
arguments put together are an object. -/
def WholeCall (fragments : List ToolCallResponse) : Prop :=
  match fragments with
  | [] => False
  | first :: rest => first.name ≠ "" ∧ (∀ fragment ∈ rest, fragment.name = "") ∧
      (reader.unmarshal (assembleCall fragments).arguments).isSome = true

def WholeCalls (chunks : List (ToolChunk Usage)) : Prop :=
  ∀ group ∈ grouped (toolFragments chunks), WholeCall reader group.2

def GeminiSentPart.call : GeminiSentPart Object → Option (String × Object)
  | .functionCall name arguments => some (name, arguments)
  | .text _ => none

def sentCalls (chunks : List (GeminiSentChunk Object Metadata)) : List (Int × String × Object) :=
  chunks.flatMap fun chunk => chunk.candidates.flatMap fun candidate =>
    (candidate.parts.filterMap GeminiSentPart.call).map (Prod.mk candidate.index)

def EachCallOnce (chunks : List (ToolChunk Usage)) : Prop :=
  List.Perm
    ((sentCalls (streamResponsesOpenAI2Gemini reader metadata chunks)).map fun call =>
      (call.1, call.2.1, some call.2.2))
    ((grouped (toolFragments chunks)).map fun group =>
      (group.1.1, (assembleCall group.2).name, reader.unmarshal (assembleCall group.2).arguments))

instance (fragments : List ToolCallResponse) : Decidable (WholeCall reader fragments) :=
  match fragments with
  | [] => inferInstanceAs (Decidable False)
  | _ :: _ => inferInstanceAs (Decidable (_ ∧ _ ∧ _))

instance (chunks : List (ToolChunk Usage)) : Decidable (WholeCalls reader chunks) :=
  inferInstanceAs (Decidable (∀ group ∈ grouped (toolFragments chunks), WholeCall reader group.2))

open ToolChoice

variable {reader metadata}

def fragmentCall (reader : ObjectReader Object)
    (fragment : (Int × Option Int) × ToolCallResponse) : Int × String × Object :=
  (fragment.1.1, fragment.2.name, callArguments reader fragment.2.arguments)

theorem sentCalls_choice (choice : ToolChoice) :
    ((sentCandidate reader choice).parts.filterMap GeminiSentPart.call).map
        (Prod.mk (sentCandidate reader choice).index) =
      choice.fragments.map (fragmentCall reader) := by
  cases given : choice.delta.toolCalls with
  | none =>
    simp only [sentCandidate,sentParts,given,fragments]
    split <;> rfl
  | some =>
    simp [sentCandidate,sentParts,given,fragments,fragmentCall,
      GeminiSentPart.call,Function.comp_def]

theorem fragments_eq_nil_of_skipped {chunk : ToolChunk Usage}
    (skipped : streamResponseOpenAI2Gemini reader metadata chunk = none) :
    chunk.choices.flatMap fragments = [] := by
  have noContent : ∀ choice ∈ chunk.choices, choice.hasContent = false := by
    simp only [streamResponseOpenAI2Gemini,ite_eq_right_iff,reduceCtorEq,imp_false,
      Bool.or_eq_true,not_or,Bool.not_eq_true,any_eq_false] at skipped
    exact skipped.1
  apply flatMap_eq_nil_iff.mpr
  intro choice member
  have noCalls := noContent choice member
  simp only [hasContent,Bool.or_eq_false_iff,decide_eq_false_iff_not,
    not_not] at noCalls
  rw [fragments,noCalls.2]
  rfl

theorem sentCalls_chunk (chunk : ToolChunk Usage) :
    sentCalls (streamResponseOpenAI2Gemini reader metadata chunk).toList =
      (chunk.choices.flatMap fragments).map (fragmentCall reader) := by
  cases sent : streamResponseOpenAI2Gemini reader metadata chunk with
  | none =>
    rw [fragments_eq_nil_of_skipped sent]
    rfl
  | some response =>
    have candidates : response.candidates = chunk.choices.map (sentCandidate reader) := by
      simp only [streamResponseOpenAI2Gemini,Option.ite_none_right_eq_some,
        Option.some.injEq] at sent
      rw [← sent.2]
    simp only [Option.toList_some,sentCalls,flatMap_cons,flatMap_nil,
      append_nil,candidates,flatMap_map,sentCalls_choice,map_flatMap]

theorem sentCalls_stream (chunks : List (ToolChunk Usage)) :
    sentCalls (streamResponsesOpenAI2Gemini reader metadata chunks) =
      (toolFragments chunks).map (fragmentCall reader) := by
  induction chunks with
  | nil => rfl
  | cons chunk chunks induction =>
    have head : sentCalls (streamResponseOpenAI2Gemini reader metadata chunk).toList =
        (chunk.choices.flatMap fragments).map (fragmentCall reader) :=
      sentCalls_chunk chunk
    have split : streamResponsesOpenAI2Gemini reader metadata (chunk :: chunks) =
        (streamResponseOpenAI2Gemini reader metadata chunk).toList ++
          streamResponsesOpenAI2Gemini reader metadata chunks := by
      cases sent : streamResponseOpenAI2Gemini reader metadata chunk <;>
        simp [streamResponsesOpenAI2Gemini,sent]
    have calls (first second : List (GeminiSentChunk Object Metadata)) :
        sentCalls (first ++ second) = sentCalls first ++ sentCalls second :=
      flatMap_append
    rw [split,calls,head,induction,← map_append]
    rfl

theorem fragmentCall_of_wholeCall {fragment : (Int × Option Int) × ToolCallResponse}
    (whole : WholeCall reader [fragment.2]) :
    some (fragmentCall reader fragment).2.2 =
      reader.unmarshal (assembleCall [fragment.2]).arguments := by
  have arguments : (assembleCall [fragment.2]).arguments = fragment.2.arguments := by
    simp [assembleCall,joined]
  obtain ⟨object,read⟩ := Option.isSome_iff_exists.mp whole.2.2
  have given : fragment.2.arguments ≠ "" := by
    intro empty
    rw [arguments,empty,reader.unmarshal_empty] at read
    cases read
  rw [arguments] at read ⊢
  simp [fragmentCall,callArguments,given,read]

/-- Each tool call is sent once and whole exactly when no call has a further fragment. -/
theorem gemini_stream_sends_each_call_once_iff (reader : ObjectReader Object)
    (metadata : Option Usage → Metadata) (chunks : List (ToolChunk Usage))
    (whole : WholeCalls reader chunks) :
    EachCallOnce reader metadata chunks ↔ ((toolFragments chunks).map Prod.fst).Nodup := by
  rw [EachCallOnce,sentCalls_stream]
  constructor
  · intro same
    rw [← length_grouped_eq_iff]
    simpa using same.length_eq.symm
  · intro distinct
    rw [grouped_of_nodup distinct,map_map,map_map]
    apply List.Perm.of_eq
    apply map_congr_left
    intro fragment member
    have own : WholeCall reader [fragment.2] := by
      apply whole (fragment.1, [fragment.2])
      rw [grouped_of_nodup distinct]
      exact mem_map_of_mem member
    have name : (assembleCall [fragment.2]).name = fragment.2.name := by
      simp [assembleCall,joined]
    simp only [Function.comp_apply,name,← fragmentCall_of_wholeCall own]
    rfl

def sampleReader : ObjectReader String where
  unmarshal text := if text = "{}" then some "object" else none
  empty := "empty"
  wrapped text := "wrapped " ++ text
  unmarshal_empty := by decide

def unbrokenCalls : List (ToolChunk Unit) :=
  [{ choices := [{ index := 0, delta := { toolCalls := some [⟨some 0, "id", "f", "{}"⟩] } }] },
   { choices := [{ index := 0, delta := { toolCalls := some [⟨some 1, "id", "g", "{}"⟩] } }] }]

theorem unbrokenCalls_sentOnce : EachCallOnce sampleReader id unbrokenCalls :=
  (gemini_stream_sends_each_call_once_iff sampleReader id unbrokenCalls (by decide)).mpr (by decide)

def brokenCall : List (ToolChunk Unit) :=
  [{ choices := [{ index := 0, delta := { toolCalls := some [⟨some 0, "id", "f", ""⟩] } }] },
   { choices := [{ index := 0, delta := { toolCalls := some [⟨some 0, "", "", "{}"⟩] } }] }]

/-- The call is sent twice: with no arguments, and without its name. -/
theorem gemini_stream_breaks_call :
    WholeCalls sampleReader brokenCall ∧ ¬ EachCallOnce sampleReader id brokenCall := by
  refine ⟨by decide,fun same => ?_⟩
  exact absurd same.length_eq (by decide)

end

end NewApi
