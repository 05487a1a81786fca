import NewApi.GeminiStreamChunks
import NewApi.RestartedNumbers

/-! # What a converted Gemini stream keeps apart -/

namespace NewApi

open List GeminiStreamInput

variable {Value Usage : Type}

section

open GeminiToChatStreamState GeminiStreamInput

variable {marshal : Value → Option String}

def GeminiStreamInput.callCount (marshal : Value → Option String)
    (input : GeminiStreamInput Value Usage) : Nat :=
  (sentArguments marshal (streamCalls input.parts)).length

variable (state : GeminiToChatStreamState Usage)

theorem receivedFragments_chunkEnding (input : GeminiStreamInput Value Usage) :
    receivedFragments (state.chunkEnding marshal input) = [] := by
  unfold chunkEnding
  split <;> rfl

variable {input : GeminiStreamInput Value Usage} (model : String)
  {inputs : List (GeminiStreamInput Value Usage)}

theorem receivedFragments_finalize : receivedFragments (state.finalize model) = [] := by
  unfold finalize
  split <;> rfl

theorem chunkResponse_indexes (single : input.candidates.length ≤ 1) :
    (receivedFragments [state.chunkResponse marshal input]).map Prod.fst =
      (range (input.callCount marshal)).map fun (number : Nat) => (number : Int) := by
  match given : input.candidates with
  | [] =>
    simp [receivedFragments,streamDeltas,chunkResponse,callCount,
      parts,given,streamCalls,sentArguments]
  | [candidate] =>
    have indexes : (sentChoice marshal input.uuid candidate).delta.fragments.map Prod.fst =
        (range (sentArguments marshal (streamCalls candidate.parts)).length).map
          fun (number : Nat) => (number : Int) :=
      streamCandidate_indexes input.uuid candidate
    simpa [receivedFragments,streamDeltas,chunkResponse,callCount,
      parts,given] using indexes
  | first :: second :: rest => simp [given] at single

theorem convertChunk_indexes (single : input.candidates.length ≤ 1) :
    (receivedFragments (state.convertChunk marshal input).1).map Prod.fst =
      (range (input.callCount marshal)).map fun (number : Nat) => (number : Int) := by
  rw [convertChunk_sent state single,receivedFragments_append,receivedFragments_chunkEnding,
    append_nil,chunkResponse_indexes state single]

theorem convertStream_indexes (single : ∀ input ∈ inputs, input.candidates.length ≤ 1) :
    (receivedFragments (state.convertStream marshal model inputs)).map Prod.fst =
      restartedLabels (fun (number : Nat) => (number : Int))
        (inputs.map (callCount marshal)) := by
  induction inputs generalizing state with
  | nil =>
    have onlyLast : state.convertStream marshal model [] = state.finalize model := rfl
    rw [onlyLast,receivedFragments_finalize]
    rfl
  | cons input inputs induction =>
    obtain ⟨head,tail⟩ := forall_mem_cons.mp single
    rw [convertStream_cons,receivedFragments_append,map_append,
      convertChunk_indexes state head,induction _ tail]
    rfl

/-- No text is a line break alone, and next to a thought there is no other text. -/
def GeminiStreamInput.textsSeparate (input : GeminiStreamInput Value Usage) : Prop :=
  (∀ piece ∈ input.pieces, piece.skipped = false) ∧
    (hasThought input.pieces = true → ∀ piece ∈ input.pieces, piece.kind = .plain → piece.text = "")

instance (input : GeminiStreamInput Value Usage) : Decidable input.textsSeparate :=
  inferInstanceAs (Decidable (_ ∧ _))

section

variable (input)

include input

theorem chunkEnding_deltas :
    ∀ delta ∈ streamDeltas (state.chunkEnding marshal input), delta = ⟨none, none, none, []⟩ := by
  unfold chunkEnding
  split
  · exact fun delta member => mem_singleton.mp member
  · exact nofun

theorem chunkEnding_texts :
    receivedContent (state.chunkEnding marshal input) = "" ∧
      receivedReasoning (state.chunkEnding marshal input) = "" := by
  unfold chunkEnding
  split <;> exact ⟨rfl,rfl⟩

theorem chunkResponse_deltas :
    streamDeltas [state.chunkResponse marshal input] =
      input.candidates.map fun candidate =>
        (streamCandidate marshal input.uuid candidate).delta := by
  simp [streamDeltas,chunkResponse,sentChoice]

end

section

variable (single : input.candidates.length ≤ 1)

include single

theorem pieces_of_single : (input.candidates = [] ∧ input.pieces = []) ∨
    ∃ candidate, input.candidates = [candidate] ∧ input.pieces = streamPieces candidate.parts := by
  match given : input.candidates with
  | [] => simp [pieces,parts,given]
  | [candidate] =>
    simp [pieces,parts,given,streamPieces]
  | first :: second :: rest => simp [given] at single

theorem convertChunk_content :
    receivedContent (state.convertChunk marshal input).1 =
      if hasThought input.pieces then "" else joinedLines (writtenTexts input.pieces) := by
  rw [convertChunk_sent state single,receivedContent_append,(chunkEnding_texts state input).1,receivedContent,chunkResponse_deltas]
  obtain ⟨given,pieces⟩ | ⟨candidate,given,pieces⟩ := pieces_of_single single
  · simp [given,pieces,joined,writtenTexts,joinedLines]
  · rw [given,pieces]
    simp only [map_cons,map_nil,joined,String.append_empty,
      StreamDelta.getContentString,streamCandidate_content]
    split <;> rfl

theorem convertChunk_reasoning :
    receivedReasoning (state.convertChunk marshal input).1 =
      if hasThought input.pieces then joinedLines (writtenTexts input.pieces) else "" := by
  rw [convertChunk_sent state single,receivedReasoning_append,(chunkEnding_texts state input).2,receivedReasoning,chunkResponse_deltas]
  obtain ⟨given,pieces⟩ | ⟨candidate,given,pieces⟩ := pieces_of_single single
  · simp [given,pieces,joined,hasThought]
  · rw [given,pieces]
    simp only [map_cons,map_nil,joined,String.append_empty,
      StreamDelta.getReasoningContent,streamCandidate_reasoning]
    split <;> rfl

theorem convertChunk_noReasoning :
    (∀ delta ∈ streamDeltas (state.convertChunk marshal input).1, delta.reasoningContent = none) ↔
      hasThought input.pieces = false := by
  have ending : ∀ delta ∈ streamDeltas (state.chunkEnding marshal input),
      delta.reasoningContent = none := by
    intro delta member
    rw [chunkEnding_deltas state input delta member]
  rw [convertChunk_sent state single,streamDeltas_append,chunkResponse_deltas,forall_mem_append,
    and_iff_left ending]
  obtain ⟨given,pieces⟩ | ⟨candidate,given,pieces⟩ := pieces_of_single single
  · simp [given,pieces,hasThought]
  · rw [given,pieces,map_singleton,forall_mem_singleton,streamCandidate_reasoning]
    cases hasThought (streamPieces candidate.parts) <;> simp

end

theorem length_writtenTexts (pieces : List TextPiece) :
    ((writtenTexts pieces).map fun text => text.length + 1).sum +
        2 * pieces.countP TextPiece.skipped =
      ((pieces.map TextPiece.text).map fun text => text.length + 1).sum := by
  induction pieces with
  | nil => rfl
  | cons piece pieces ih =>
    cases skipped : piece.skipped with
    | true =>
      have same : writtenTexts (piece :: pieces) = writtenTexts pieces := by
        simp [writtenTexts,skipped]
      have text : piece.text = "\n" := by
        simp only [TextPiece.skipped,Bool.and_eq_true,decide_eq_true_eq] at skipped
        exact skipped.2
      have one : piece.text.length = 1 := by
        rw [text]
        rfl
      rw [same,countP_cons_of_pos skipped,map_cons,map_cons,sum_cons]
      omega
    | false =>
      have same : writtenTexts (piece :: pieces) = piece.text :: writtenTexts pieces := by
        simp [writtenTexts,skipped]
      rw [same,countP_cons_of_neg (by simp [skipped]),map_cons,map_cons,map_cons,sum_cons,
        sum_cons]
      omega

theorem writtenTexts_eq {pieces : List TextPiece} (none : ∀ piece ∈ pieces, piece.skipped = false) :
    writtenTexts pieces = pieces.map TextPiece.text := by
  have all : pieces.filter (!·.skipped) = pieces :=
    filter_eq_self.mpr fun piece member => by simp [none piece member]
  rw [writtenTexts,all]

theorem joinedLines_writtenTexts_iff (pieces : List TextPiece) :
    joinedLines (writtenTexts pieces) = joinedLines (pieces.map TextPiece.text) ↔
      ∀ piece ∈ pieces, piece.skipped = false := by
  constructor
  · intro same piece member
    have lengths := congrArg String.length same
    rw [length_joinedLines,length_joinedLines] at lengths
    have counted := length_writtenTexts pieces
    have none : pieces.countP TextPiece.skipped = 0 := by omega
    simpa using countP_eq_zero.mp none piece member
  · intro none
    rw [writtenTexts_eq none]

theorem textsApart_iff (single : input.candidates.length ≤ 1) :
    TextsApart input.pieces (state.convertChunk marshal input).1 ↔ input.textsSeparate := by
  unfold TextsApart textsSeparate
  rw [convertChunk_content state single,convertChunk_reasoning state single]
  cases thought : hasThought input.pieces with
  | false =>
    simp only [Bool.false_eq_true,if_false,false_implies,and_true]
    rw [← joinedLines_writtenTexts_iff]
    constructor
    · rintro ⟨side,-,-,silent,-,content⟩
      have toContent := silent ((convertChunk_noReasoning state single).mpr thought)
      rw [content,filter_eq_self.mpr fun piece member => by simp [toContent piece member]]
    · intro content
      refine ⟨fun _ => false,?_,by simp,by simp,by simp [joinedLines],by simpa using content⟩
      intro piece member isThought
      simp only [hasThought,any_eq_false,decide_eq_true_eq] at thought
      exact absurd isThought (thought piece member)
  | true =>
    simp only [true_implies]
    constructor
    · rintro ⟨side,-,plain,-,-,content⟩
      have empty : ∀ piece ∈ input.pieces, piece.kind = .plain → piece.text = "" := by
        intro piece member isPlain
        by_contra some
        have sent : piece.text ∈
            (input.pieces.filter fun piece => !side piece).map TextPiece.text := by
          apply mem_map_of_mem
          exact mem_filter.mpr ⟨member,by simp [plain piece member isPlain some]⟩
        have bound := length_le_joinedLines sent
        rw [← content] at bound
        exact some (by simpa using bound)
      refine ⟨fun piece member => ?_,empty⟩
      by_contra skipped
      simp only [TextPiece.skipped,Bool.not_eq_false,Bool.and_eq_true,
        decide_eq_true_eq] at skipped
      have blank := empty piece member skipped.1
      simp [blank] at skipped
    · rintro ⟨written,empty⟩
      refine ⟨fun _ => true,by simp,?_,?_,?_,by simp [joinedLines]⟩
      · intro piece member isPlain some
        exact absurd (empty piece member isPlain) some
      · intro silent
        rw [convertChunk_noReasoning state single,thought] at silent
        cases silent
      · simp [writtenTexts_eq written]

theorem textsApart_stream_iff (single : ∀ input ∈ inputs, input.candidates.length ≤ 1) :
    (∀ pair ∈ inputs.zip (state.convertChunks marshal inputs).1, TextsApart pair.1.pieces pair.2) ↔
      ∀ input ∈ inputs, input.textsSeparate := by
  induction inputs generalizing state with
  | nil => simp
  | cons input inputs induction =>
    obtain ⟨head,tail⟩ := forall_mem_cons.mp single
    rw [forall_mem_cons,← textsApart_iff state head,← induction _ tail]
    exact forall_mem_cons

end

section

open GeminiToChatStreamState

variable {marshal : Value → Option String}
  (state : GeminiToChatStreamState Usage) {chunk : StreamChunk Usage} (model : String)
  {inputs : List (GeminiStreamInput Value Usage)}

theorem finishesOnce_cons_of_open (sent : List (StreamChunk Usage))
    (open_ : carriesFinish chunk = false) : FinishesOnce (chunk :: sent) ↔ FinishesOnce sent := by
  constructor
  · rintro ⟨before,last,after,split,opened,finishes,silent⟩
    cases before with
    | nil =>
      obtain ⟨rfl,-⟩ := cons.inj split
      exact absurd finishes (by simp [open_])
    | cons head before =>
      obtain ⟨rfl,rest⟩ := cons.inj split
      exact ⟨before,last,after,rest,
        (forall_mem_cons.mp opened).2,finishes,silent⟩
  · rintro ⟨before,last,after,rfl,opened,finishes,silent⟩
    exact ⟨chunk :: before,last,after,rfl,forall_mem_cons.mpr ⟨open_,opened⟩,finishes,
      silent⟩

theorem finishesOnce_cons_of_finish (sent : List (StreamChunk Usage))
    (finishes : carriesFinish chunk = true) :
    FinishesOnce (chunk :: sent) ↔ ∀ later ∈ sent, later.choices = [] := by
  constructor
  · rintro ⟨before,last,after,split,opened,-,silent⟩
    cases before with
    | nil =>
      obtain ⟨-,rfl⟩ := cons.inj split
      exact silent
    | cons =>
      obtain ⟨rfl,-⟩ := cons.inj split
      have := opened chunk mem_cons_self
      exact absurd finishes (by simp [this])
  · intro silent
    exact ⟨[],chunk,sent,rfl,nofun,finishes,silent⟩

theorem carriesFinish_terminalChunk :
    carriesFinish (state.terminalChunk model) = true := rfl

theorem carriesFinish_chunkResponse (input : GeminiStreamInput Value Usage) :
    carriesFinish (state.chunkResponse marshal input) = input.finishes marshal := by
  simp [carriesFinish,chunkResponse,finishes,sentChoice,
    Function.comp_def]

variable {state : GeminiToChatStreamState Usage}

theorem silent_after_finish_iff (single : ∀ input ∈ inputs, input.candidates.length ≤ 1)
    (finished : state.finishEmitted = true) :
    (∀ chunk ∈ state.convertStream marshal model inputs, chunk.choices = []) ↔
      ∀ input ∈ inputs, input.candidates = [] := by
  induction inputs generalizing state with
  | nil => simp [convertStream,convertChunks,finalize,finished]
  | cons input inputs induction =>
    obtain ⟨head,tail⟩ := forall_mem_cons.mp single
    have still : (state.convertChunk marshal input).2.finishEmitted = true := by
      rw [convertChunk_finishEmitted state head,finished,Bool.true_or]
    have noEnding : state.chunkEnding marshal input = [] := by
      simp [chunkEnding,stopsNow,finished]
    rw [convertStream_cons,convertChunk_sent state head,noEnding,append_nil,
      singleton_append,forall_mem_cons,induction tail still]
    simp [chunkResponse]

theorem finishesOnce_of_ends {input : GeminiStreamInput Value Usage}
    (unfinished : state.finishEmitted = false) (ends : input.ends marshal = true)
    (rest : List (StreamChunk Usage)) :
    FinishesOnce ([state.chunkResponse marshal input] ++ state.chunkEnding marshal input ++ rest) ↔
      ∀ later ∈ rest, later.choices = [] := by
  cases finishes : input.finishes marshal with
  | true =>
    have noEnding : state.chunkEnding marshal input = [] := by
      simp [chunkEnding,stopsNow,finishes]
    rw [noEnding]
    exact finishesOnce_cons_of_finish rest
      ((carriesFinish_chunkResponse state input).trans finishes)
  | false =>
    have stops : input.stops = true := by
      simpa [GeminiStreamInput.ends,finishes] using ends
    have ending : state.chunkEnding marshal input =
        [(state.afterChoices marshal input).terminalChunk input.model] := by
      simp [chunkEnding,stopsNow,stops,unfinished,finishes]
    rw [ending,append_assoc,singleton_append,
      finishesOnce_cons_of_open _ ((carriesFinish_chunkResponse state input).trans finishes)]
    exact finishesOnce_cons_of_finish rest (carriesFinish_terminalChunk _ _)

theorem finishesOnce_iff (single : ∀ input ∈ inputs, input.candidates.length ≤ 1)
    (unfinished : state.finishEmitted = false) :
    FinishesOnce (state.convertStream marshal model inputs) ↔
      inputs.Pairwise fun earlier later => earlier.ends marshal = true → later.candidates = [] := by
  induction inputs generalizing state with
  | nil =>
    have only : state.convertStream marshal model [] = [state.terminalChunk model] := by
      simp [convertStream,convertChunks,finalize,unfinished]
    rw [only,finishesOnce_cons_of_finish [] (carriesFinish_terminalChunk state model)]
    simp
  | cons input inputs induction =>
    obtain ⟨head,tail⟩ := forall_mem_cons.mp single
    have next : (state.convertChunk marshal input).2.finishEmitted = input.ends marshal := by
      rw [convertChunk_finishEmitted state head,unfinished,Bool.false_or]
    rw [convertStream_cons,convertChunk_sent state head,pairwise_cons]
    cases ends : input.ends marshal with
    | false =>
      have neither : input.stops = false ∧ input.finishes marshal = false := by
        simpa [GeminiStreamInput.ends] using ends
      have noEnding : state.chunkEnding marshal input = [] := by
        simp [chunkEnding,stopsNow,neither.1]
      rw [noEnding,append_nil,singleton_append,
        finishesOnce_cons_of_open _ ((carriesFinish_chunkResponse state input).trans neither.2),
        induction tail (next.trans ends)]
      simp
    | true =>
      rw [finishesOnce_of_ends unfinished ends,
        silent_after_finish_iff model tail (next.trans ends)]
      constructor
      · intro silent
        refine ⟨fun later member _ => silent later member,?_⟩
        apply pairwise_of_forall_mem_list
        exact fun _ _ later member _ => silent later member
      · exact fun both later member => both.1 later member rfl

end

/-- A Gemini stream is converted as it should be exactly when at most one of its chunks has
calls, the texts of each chunk need not be separated, and no chunk with a candidate follows
one that ends the stream. -/
theorem gemini_stream_keeps_apart_iff (marshal : Value → Option String) (id uuid model : String)
    (inputs : List (GeminiStreamInput Value Usage))
    (single : ∀ input ∈ inputs, input.candidates.length ≤ 1) :
    KeepsApart marshal (newGeminiToChatStreamState id uuid) model inputs ↔
      (inputs.filter fun input => 0 < input.callCount marshal).length ≤ 1 ∧
      (∀ input ∈ inputs, input.textsSeparate) ∧
      inputs.Pairwise fun earlier later =>
        earlier.ends marshal = true → later.candidates = [] := by
  have injective : Function.Injective fun (number : Nat) => (number : Int) :=
    fun first second same => Int.ofNat_inj.mp same
  have indexes : ((receivedFragments ((newGeminiToChatStreamState id uuid).convertStream marshal
        model inputs)).map Prod.fst).Nodup ↔
      (inputs.filter fun input => 0 < input.callCount marshal).length ≤ 1 := by
    rw [convertStream_indexes _ model single,nodup_restartedLabels_iff injective,filter_map,
      length_map]
    rfl
  have unfinished : (newGeminiToChatStreamState id uuid :
      GeminiToChatStreamState Usage).finishEmitted = false := rfl
  rw [← indexes,← textsApart_stream_iff (newGeminiToChatStreamState id uuid) single,
    ← finishesOnce_iff model single unfinished]
  constructor
  · exact fun kept => ⟨kept.indexes,kept.texts,kept.finish⟩
  · exact fun ⟨distinct,apart,once⟩ => ⟨distinct,apart,once⟩

def candidateInput (parts : List (GeminiStreamPart String)) (finishReason : Option String) :
    GeminiStreamInput String Unit :=
  ⟨[⟨parts, finishReason⟩], "gemini", none, fun _ => "uuid"⟩

def orderlyStream : List (GeminiStreamInput String Unit) :=
  [candidateInput [{ text := "because", thought := true }] none,
   candidateInput [{ text := "answer" }] none,
   candidateInput [{ functionCall := some ⟨"f", "arguments"⟩ }] none,
   candidateInput [] (some "STOP")]

theorem orderlyStream_keptApart :
    KeepsApart some (newGeminiToChatStreamState "id" "uuid") "gemini" orderlyStream := by
  apply (gemini_stream_keeps_apart_iff some "id" "uuid" "gemini" orderlyStream (by decide)).mpr
  decide

def mixedStream : List (GeminiStreamInput String Unit) :=
  [candidateInput [{ text := "because", thought := true }, { text := "answer" }] (some "STOP")]

def twoCallStream : List (GeminiStreamInput String Unit) :=
  [candidateInput [{ functionCall := some ⟨"f", "arguments"⟩ }] none,
   candidateInput [{ functionCall := some ⟨"g", "arguments"⟩ }] (some "STOP")]

/-- The text is sent as reasoning, and the two calls have the same index. -/
theorem gemini_stream_mixes_texts_and_calls :
    (∀ input ∈ mixedStream ++ twoCallStream, input.candidates.length ≤ 1) ∧
      ¬ KeepsApart some (newGeminiToChatStreamState "id" "uuid") "gemini" mixedStream ∧
      ¬ KeepsApart some (newGeminiToChatStreamState "id" "uuid") "gemini" twoCallStream := by
  refine ⟨by decide,fun kept => ?_,fun kept => ?_⟩
  · have separate := (textsApart_stream_iff (newGeminiToChatStreamState "id" "uuid")
      (by decide)).mp kept.texts
    exact absurd separate (by decide)
  · exact absurd kept.indexes (by decide)

end NewApi
