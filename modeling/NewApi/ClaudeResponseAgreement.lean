import NewApi.ClaudeResponse

/-!
# The streamed and the complete Claude response

The converter of a complete message keeps only the last text block, and of the thinking blocks the
last one, or the first block when the last thinking is empty.
-/

namespace NewApi

open StreamDelta ResponseBlock List

variable {Value : Type} {codec : JsonCodec Value} {events : List ClaudeStreamResponse}

def ResponseBlock.ownText : ResponseBlock Value → Option String
  | .text string => some string
  | .thinking _ | .toolUse _ _ _ => none

def ResponseBlock.call : ResponseBlock Value → Option (String × String × Value)
  | .toolUse id name input => some (id, name, input)
  | .text _ | .thinking _ => none

def blockTexts (blocks : List (ResponseBlock Value)) : List String :=
  blocks.filterMap ResponseBlock.ownText

def blockThinkings (blocks : List (ResponseBlock Value)) : List String :=
  blocks.filterMap ResponseBlock.getThinking

def blockCalls (blocks : List (ResponseBlock Value)) : List (String × String × Value) :=
  blocks.filterMap ResponseBlock.call

def startsWithThinking (blocks : List (ResponseBlock Value)) : Bool :=
  (blocks.head?.bind ResponseBlock.getThinking).isSome

/-- Only the last text is not empty. -/
def SingleText (blocks : List (ResponseBlock Value)) : Prop :=
  ∀ text ∈ (blockTexts blocks).dropLast, text = ""

/-- Only the last thinking is not empty, or only the one of the first block. -/
def SingleThinking (blocks : List (ResponseBlock Value)) : Prop :=
  (∀ thinking ∈ (blockThinkings blocks).dropLast, thinking = "") ∨
    (startsWithThinking blocks = true ∧ ∀ thinking ∈ (blockThinkings blocks).tail, thinking = "")

instance (blocks : List (ResponseBlock Value)) : Decidable (SingleText blocks) :=
  inferInstanceAs (Decidable (∀ text ∈ (blockTexts blocks).dropLast, text = ""))

instance (blocks : List (ResponseBlock Value)) : Decidable (SingleThinking blocks) :=
  inferInstanceAs (Decidable (_ ∨ _))

section

variable (progress : MessageProgress) (blocks : List (ResponseBlock Value))

theorem readBlock_text :
    (blocks.foldl (readBlock codec) progress).responseText =
      (blockTexts blocks).getLast?.getD progress.responseText := by
  induction blocks generalizing progress with
  | nil => rfl
  | cons block blocks induction =>
    rw [foldl_cons,induction]
    cases block <;> simp [blockTexts,ownText,readBlock,getLast?_cons]

theorem readBlock_thinking :
    (blocks.foldl (readBlock codec) progress).thinkingContent =
      (blockThinkings blocks).getLast?.getD progress.thinkingContent := by
  induction blocks generalizing progress with
  | nil => rfl
  | cons block blocks induction =>
    rw [foldl_cons,induction]
    cases block <;> simp [blockThinkings,getThinking,readBlock,getLast?_cons]

theorem readBlock_tools :
    (blocks.foldl (readBlock codec) progress).tools =
      progress.tools ++ (blockCalls blocks).map fun call =>
        ⟨call.1, call.2.1, codec.marshal call.2.2⟩ := by
  induction blocks generalizing progress with
  | nil => simp [blockCalls]
  | cons block blocks induction =>
    rw [foldl_cons,induction]
    cases block with
    | text string | thinking thought => rfl
    | toolUse => simp [blockCalls,call,readBlock]

variable (message : ClaudeMessageResponse Value)

include message

/-- A first block without a text of its own does not give one. -/
theorem responseClaude2OpenAI_content :
    (responseClaude2OpenAI codec message).content =
      (blockTexts message.content).getLast?.getD "" := by
  rw [responseClaude2OpenAI,readBlock_text]
  cases message.content with
  | nil => rfl
  | cons block =>
    cases block with
    | text => simp [blockTexts,ownText,getLast?_cons]
    | thinking thought | toolUse id name input => rfl

theorem responseClaude2OpenAI_reasoning :
    (responseClaude2OpenAI codec message).reasoningContent.getD "" =
      let last := (blockThinkings message.content).getLast?.getD ""
      if last ≠ "" then last
      else (message.content.head?.bind getThinking).getD "" := by
  simp only [responseClaude2OpenAI,readBlock_thinking,reasoningOf]
  split
  · rfl
  · split
    · rfl
    · rename_i empty
      simpa using (not_not.mp empty).symm

theorem responseClaude2OpenAI_toolCalls :
    (responseClaude2OpenAI codec message).toolCalls.map (callValue codec) =
      (blockCalls message.content).map fun call => (call.1, call.2.1, some call.2.2) := by
  rw [responseClaude2OpenAI,readBlock_tools]
  simp [callValue,codec.unmarshal_marshal]

end

section

def deltaChunk (delta : StreamDelta) : ResponseChunk :=
  ⟨"", "", [⟨delta, none⟩], none⟩

def pieceDelta (index : Int) (block : ResponseBlock Value) (piece : String) : StreamDelta :=
  match block with
  | .text _ => { StreamDelta.empty with content := some piece }
  | .thinking _ => { StreamDelta.empty with reasoningContent := some piece }
  | .toolUse _ _ _ => { StreamDelta.empty with toolCalls := [⟨some index, "", "", piece⟩] }

def blockDeltas (index : Int) (block : ResponseBlock Value) (pieces : List String) :
    List StreamDelta :=
  startDelta index (startOf block) :: pieces.map (pieceDelta index block)

variable (deltas : List StreamDelta) (index : Int) {blocks : List (ResponseBlock Value)}
  {chunks : List ResponseChunk}

theorem streamResponses_append {first second : List ClaudeStreamResponse}
    {more : List ResponseChunk} (converted : streamResponsesClaude2OpenAI first = .ok chunks)
    (convertedMore : streamResponsesClaude2OpenAI second = .ok more) :
    streamResponsesClaude2OpenAI (first ++ second) = .ok (chunks ++ more) := by
  induction first generalizing chunks with
  | nil =>
    cases converted
    exact convertedMore
  | cons response responses induction =>
    cases head : streamResponseClaude2OpenAI response with
    | error => simp [streamResponsesClaude2OpenAI,head,bind,Except.bind] at converted
    | ok =>
      cases tail : streamResponsesClaude2OpenAI responses with
      | error =>
        simp [streamResponsesClaude2OpenAI,head,tail,bind,Except.bind] at converted
      | ok =>
        simp only [streamResponsesClaude2OpenAI,head,tail,bind,Except.bind,pure,
          Except.pure,Except.ok.injEq] at converted
        simp [streamResponsesClaude2OpenAI,head,induction tail,bind,Except.bind,pure,
          Except.pure,← converted]

theorem blockEvents_converted (block : ResponseBlock Value) (pieces : List String) :
    streamResponsesClaude2OpenAI (blockEvents index block pieces) =
      .ok ((blockDeltas index block pieces).map deltaChunk) := by
  have middle : streamResponsesClaude2OpenAI (pieces.map fun piece =>
        { index := some index, event := .contentBlockDelta (some (deltaOf block piece)) }) =
      .ok ((pieces.map (pieceDelta index block)).map deltaChunk) := by
    induction pieces with
    | nil => rfl
    | cons piece pieces induction =>
      rw [map_cons,streamResponsesClaude2OpenAI,induction]
      cases block <;> rfl
  have start : streamResponsesClaude2OpenAI
        [{ index := some index, event := .contentBlockStart (some (startOf block)) }] =
      .ok [deltaChunk (startDelta index (startOf block))] := rfl
  have stop : streamResponsesClaude2OpenAI [{ index := some index, event := .other }] = .ok [] := rfl
  have whole := streamResponses_append (streamResponses_append start middle) stop
  rw [append_nil] at whole
  exact whole

@[simp]
theorem streamDeltas_map_deltaChunk : streamDeltas (deltas.map deltaChunk) = deltas := by
  induction deltas with
  | nil => rfl
  | cons delta deltas induction => exact congrArg (delta :: ·) induction

@[simp]
theorem finishReasons_map_deltaChunk : finishReasons (deltas.map deltaChunk) = [] := by
  induction deltas with
  | nil => rfl
  | cons delta deltas induction => exact induction

def callFragments (index : Int) (id name : String) (pieces : List String) :
    List ToolCallResponse :=
  ⟨some index, id, name, ""⟩ :: pieces.map fun piece => ⟨some index, "", "", piece⟩

def blockGroups (index : Int) (block : ResponseBlock Value) (pieces : List String) :
    List (Int × List ToolCallResponse) :=
  match block with
  | .toolUse id name _ => [(index, callFragments index id name pieces)]
  | .text _ | .thinking _ => []

theorem joined_map_empty {Element : Type} (elements : List Element) :
    joined (elements.map fun _ => "") = "" :=
  joined_eq_empty.mpr (by simp)

theorem assembleCall_callFragments (id name : String) (pieces : List String) :
    assembleCall (callFragments index id name pieces) = ⟨id, name, joined pieces⟩ := by
  simp only [assembleCall,callFragments,map_cons,map_map,Function.comp_def,joined,
    joined_map_empty,map_id',String.append_empty,String.empty_append]

/-- What the chunks of some blocks carry; the indexes of their calls start at `index`. -/
structure Conveys (codec : JsonCodec Value) (index : Int) (blocks : List (ResponseBlock Value))
    (chunks : List ResponseChunk) (groups : List (Int × List ToolCallResponse)) : Prop where
  content : receivedContent chunks = joined (blockTexts blocks)
  reasoning : receivedReasoning chunks = joined (blockThinkings blocks)
  fragments : receivedFragments chunks = groups.flatMap fun group => tagged group.1 group.2
  started : ∀ group ∈ groups, group.2 ≠ []
  later : ∀ group ∈ groups, index ≤ group.1
  distinct : (groups.map Prod.fst).Nodup
  calls : groups.map (fun group => callValue codec (assembleCall group.2)) =
    (blockCalls blocks).map fun call => (call.1, call.2.1, some call.2.2)
  unfinished : finishReasons chunks = []

theorem conveys_nil : Conveys codec index [] [] [] where
  content := rfl
  reasoning := rfl
  fragments := rfl
  started := nofun
  later := nofun
  distinct := nodup_nil
  calls := rfl
  unfinished := rfl

section

variable {index : Int} {block : ResponseBlock Value} {pieces : List String}

theorem blockDeltas_content (splits : Splits codec block pieces) :
    joined ((blockDeltas index block pieces).map getContentString) =
      joined (blockTexts [block]) := by
  cases block with
  | text string =>
    have whole : joined pieces = string := splits
    simp [blockDeltas,startDelta,startOf,pieceDelta,getContentString,
      Function.comp_def,joined,whole,blockTexts,ownText]
  | thinking thought | toolUse id name input =>
    apply joined_eq_empty.mpr
    simp [blockDeltas,startDelta,startOf,pieceDelta,getContentString,empty]

theorem blockDeltas_reasoning (splits : Splits codec block pieces) :
    joined ((blockDeltas index block pieces).map getReasoningContent) =
      joined (blockThinkings [block]) := by
  cases block with
  | text string | toolUse id name input =>
    apply joined_eq_empty.mpr
    simp [blockDeltas,startDelta,startOf,pieceDelta,getReasoningContent,empty]
  | thinking thought =>
    have whole : joined pieces = thought := splits
    simp [blockDeltas,startDelta,startOf,pieceDelta,getReasoningContent,empty,Function.comp_def,
      joined,whole,blockThinkings,getThinking]

theorem blockDeltas_fragments :
    (blockDeltas index block pieces).flatMap fragments =
      (blockGroups index block pieces).flatMap fun group => tagged group.1 group.2 := by
  cases block with
  | text string | thinking thought =>
    simp [blockDeltas,startDelta,startOf,pieceDelta,blockGroups,fragments,empty]
  | toolUse id name input =>
    have further : (pieces.map (pieceDelta index (.toolUse id name input))).flatMap fragments =
        tagged index (pieces.map fun piece => ⟨some index,"","",piece⟩) := by
      induction pieces with
      | nil => rfl
      | cons piece pieces induction => exact congrArg _ induction
    rw [blockDeltas,flatMap_cons,further]
    exact (append_nil _).symm

theorem conveys_block (splits : Splits codec block pieces) :
    Conveys codec index [block] ((blockDeltas index block pieces).map deltaChunk)
      (blockGroups index block pieces) where
  content := by
    rw [receivedContent,streamDeltas_map_deltaChunk,blockDeltas_content splits]
  reasoning := by
    rw [receivedReasoning,streamDeltas_map_deltaChunk,blockDeltas_reasoning splits]
  fragments := by
    rw [receivedFragments,streamDeltas_map_deltaChunk,blockDeltas_fragments]
  started := by cases block <;> simp [blockGroups,callFragments]
  later := by cases block <;> simp [blockGroups]
  distinct := by cases block <;> simp [blockGroups]
  calls := by
    cases block with
    | text string | thinking thought => rfl
    | toolUse id name input =>
      have read : codec.unmarshal (joined pieces) = some input := splits
      simp [blockGroups,assembleCall_callFragments,callValue,read,blockCalls,call]
  unfinished := finishReasons_map_deltaChunk _

theorem index_of_mem_blockGroups {group : Int × List ToolCallResponse}
    (member : group ∈ blockGroups index block pieces) : group.1 = index := by
  cases block with
  | text string | thinking thought => exact absurd member not_mem_nil
  | toolUse => rw [mem_singleton.mp member]

end

theorem conveys_cons {index : Int} {block : ResponseBlock Value} {pieces : List String}
    {groups : List (Int × List ToolCallResponse)} (splits : Splits codec block pieces)
    (rest : Conveys codec (index + 1) blocks chunks groups) :
    Conveys codec index (block :: blocks)
      ((blockDeltas index block pieces).map deltaChunk ++ chunks)
      (blockGroups index block pieces ++ groups) := by
  have head : Conveys codec index [block] ((blockDeltas index block pieces).map deltaChunk)
      (blockGroups index block pieces) := conveys_block splits
  constructor
  · rw [receivedContent_append,head.content,rest.content,← joined_append,blockTexts,
      blockTexts,← filterMap_append]
    rfl
  · rw [receivedReasoning_append,head.reasoning,rest.reasoning,← joined_append,blockThinkings,
      blockThinkings,← filterMap_append]
    rfl
  · rw [receivedFragments_append,head.fragments,rest.fragments,flatMap_append]
  · exact forall_mem_append.mpr ⟨head.started,rest.started⟩
  · apply forall_mem_append.mpr ⟨head.later,?_⟩
    intro group member
    have := rest.later group member
    omega
  · rw [map_append]
    apply List.Nodup.append head.distinct rest.distinct
    intro key own other
    obtain ⟨group,member,rfl⟩ := mem_map.mp own
    obtain ⟨laterGroup,laterMember,same⟩ := mem_map.mp other
    have isIndex := index_of_mem_blockGroups member
    have isLater := rest.later laterGroup laterMember
    omega
  · rw [map_append,head.calls,rest.calls,← map_append,blockCalls,blockCalls,
      ← filterMap_append]
    rfl
  · rw [finishReasons_append,head.unfinished,rest.unfinished,append_nil]

theorem blockStream_conveys {index : Int} (stream : BlockStream codec index blocks events) :
    ∃ chunks groups, streamResponsesClaude2OpenAI events = .ok chunks ∧
      Conveys codec index blocks chunks groups := by
  induction stream with
  | nil index => exact ⟨[],[],rfl,conveys_nil index⟩
  | @cons index block blocks pieces events splits rest induction =>
    obtain ⟨chunks,groups,converted,conveys⟩ := induction
    exact ⟨_,_,streamResponses_append (blockEvents_converted index block pieces) converted,
      conveys_cons splits conveys⟩

end

section

theorem stopReasonClaudeToOpenAI_eq_null {reason : String} :
    stopReasonClaudeToOpenAI reason = "null" ↔ reason = "null" := by
  constructor
  · intro isNull
    simp only [stopReasonClaudeToOpenAI] at isNull
    split_ifs at isNull <;> first | exact isNull | exact absurd isNull (by decide)
  · rintro rfl
    decide

variable {blocks : List (ResponseBlock Value)}

theorem joined_eq_first_thinking_iff (empty : (blockThinkings blocks).getLast?.getD "" = "") :
    joined (blockThinkings blocks) = (blocks.head?.bind getThinking).getD "" ↔
      SingleThinking blocks := by
  have allEmpty : joined (blockThinkings blocks) = "" ↔
      ∀ thinking ∈ (blockThinkings blocks).dropLast, thinking = "" := by
    rw [← joined_eq_last_iff,empty]
  cases starts : startsWithThinking blocks with
  | false =>
    have none : blocks.head?.bind getThinking = none := by
      simpa [startsWithThinking] using starts
    rw [none,SingleThinking,starts,← allEmpty]
    simp
  | true =>
    have first : (blocks.head?.bind getThinking).getD "" =
        (blockThinkings blocks).head?.getD "" := by
      cases blocks with
      | nil => rfl
      | cons block =>
        obtain ⟨thinking,read⟩ := Option.isSome_iff_exists.mp starts
        have isFirst : block.getThinking = some thinking := read
        simp [blockThinkings,isFirst]
    rw [first,joined_eq_first_iff,SingleThinking,starts,← allEmpty,joined_eq_empty]
    constructor
    · exact fun others => Or.inr ⟨rfl,others⟩
    · rintro (all | ⟨-,others⟩)
      · exact fun thinking member => all thinking (mem_of_mem_tail member)
      · exact others

theorem joined_eq_last_thinking_iff (some_ : (blockThinkings blocks).getLast?.getD "" ≠ "") :
    joined (blockThinkings blocks) = (blockThinkings blocks).getLast?.getD "" ↔
      SingleThinking blocks := by
  rw [joined_eq_last_iff]
  constructor
  · exact Or.inl
  · rintro (before | ⟨-,others⟩)
    · exact before
    · cases thinkings : blockThinkings blocks with
      | nil => simp
      | cons first rest =>
        rw [thinkings] at others some_
        cases rest with
        | nil => simp
        | cons next rest =>
          have last : (next :: rest).getLast (cons_ne_nil next rest) = "" :=
            others _ (getLast_mem _)
          simp [getLast?_eq_some_getLast,last] at some_

theorem joined_thinkings_iff (message : ClaudeMessageResponse Value) :
    joined (blockThinkings message.content) =
        (responseClaude2OpenAI codec message).reasoningContent.getD "" ↔
      SingleThinking message.content := by
  rw [responseClaude2OpenAI_reasoning]
  by_cases empty : (blockThinkings message.content).getLast?.getD "" = ""
  · simp only [empty]
    exact joined_eq_first_thinking_iff empty
  · simp only [ne_eq,empty]
    exact joined_eq_last_thinking_iff empty

theorem canonicalStream_converted {message : ClaudeMessageResponse Value}
    (canonical : CanonicalStream codec message events) :
    ∃ chunks, streamResponsesClaude2OpenAI events = .ok chunks ∧
      receivedContent chunks = joined (blockTexts message.content) ∧
      receivedReasoning chunks = joined (blockThinkings message.content) ∧
      (receivedToolCalls chunks).map (callValue codec) =
        (blockCalls message.content).map (fun call => (call.1, call.2.1, some call.2.2)) ∧
      finishReasons chunks = (messageDeltaFinish (some message.stopReason)).toList := by
  obtain ⟨blocks,stream,rfl⟩ := canonical
  obtain ⟨chunks,groups,converted,conveys⟩ := blockStream_conveys stream
  let first : ResponseChunk :=
    ⟨message.id,message.model,[⟨{ empty with content := some "" },none⟩],none⟩
  let last : ResponseChunk :=
    ⟨"","",[⟨.empty,messageDeltaFinish (some message.stopReason)⟩],none⟩
  have start : streamResponsesClaude2OpenAI
      [{ event := .messageStart (some (message.id, message.model)) }] = .ok [first] := rfl
  have stop : streamResponsesClaude2OpenAI
      [{ event := .messageDelta (some message.stopReason) }, { event := .messageStop }] =
        .ok [last] := rfl
  refine ⟨[first] ++ chunks ++ [last],
    streamResponses_append (streamResponses_append start converted) stop,?_,?_,?_,?_⟩
  · rw [receivedContent_append,receivedContent_append,conveys.content]
    exact (String.append_empty).trans String.empty_append
  · rw [receivedReasoning_append,receivedReasoning_append,conveys.reasoning]
    exact (String.append_empty).trans String.empty_append
  · have fragments : receivedFragments ([first] ++ chunks ++ [last]) =
        groups.flatMap fun group => tagged group.1 group.2 := by
      rw [receivedFragments_append,receivedFragments_append,conveys.fragments]
      exact append_nil _
    rw [receivedToolCalls,fragments,grouped_flatMap_tagged conveys.distinct conveys.started,
      map_map]
    exact conveys.calls
  · rw [finishReasons_append,finishReasons_append,conveys.unfinished]
    cases finish : messageDeltaFinish (some message.stopReason) <;>
      simp [finishReasons,first,last,finish]

/-- The chunks of a canonical stream agree with the converted message exactly when the
blocks that the message converter does not read are empty. -/
theorem claude_stream_agrees_iff (message : ClaudeMessageResponse Value)
    (events : List ClaudeStreamResponse) (canonical : CanonicalStream codec message events) :
    ∃ chunks, streamResponsesClaude2OpenAI events = .ok chunks ∧
      (StreamAgrees codec chunks (responseClaude2OpenAI codec message) ↔
        SingleText message.content ∧ SingleThinking message.content ∧
          message.stopReason ≠ "null") := by
  obtain ⟨chunks,converted,content,reasoning,calls,finish⟩ :=
    canonicalStream_converted canonical
  refine ⟨chunks,converted,?_⟩
  have contentAgrees : receivedContent chunks = (responseClaude2OpenAI codec message).content ↔
      SingleText message.content := by
    rw [content,responseClaude2OpenAI_content,joined_eq_last_iff]
    rfl
  have reasoningAgrees : receivedReasoning chunks =
        (responseClaude2OpenAI codec message).reasoningContent.getD "" ↔
      SingleThinking message.content := by
    rw [reasoning,joined_thinkings_iff]
  have callsAgree : (receivedToolCalls chunks).map (callValue codec) =
      (responseClaude2OpenAI codec message).toolCalls.map (callValue codec) := by
    rw [calls,responseClaude2OpenAI_toolCalls]
  have finishAgrees : (finishReasons chunks).getLast? =
        some (responseClaude2OpenAI codec message).finishReason ↔
      message.stopReason ≠ "null" := by
    rw [finish,ne_eq,← stopReasonClaudeToOpenAI_eq_null]
    by_cases isNull : stopReasonClaudeToOpenAI message.stopReason = "null"
    · simp [messageDeltaFinish,isNull,Option.filter]
    · simp [messageDeltaFinish,isNull,Option.filter,responseClaude2OpenAI]
  constructor
  · rintro ⟨sameContent,sameReasoning,-,sameFinish⟩
    exact ⟨contentAgrees.mp sameContent,reasoningAgrees.mp sameReasoning,
      finishAgrees.mp sameFinish⟩
  · rintro ⟨singleText,singleThinking,notNull⟩
    exact ⟨contentAgrees.mpr singleText,reasoningAgrees.mpr singleThinking,callsAgree,
      finishAgrees.mpr notNull⟩

def boolCodec : JsonCodec Bool where
  marshal
    | true => "true"
    | false => "false"
  unmarshal text := if text = "true" then some true else if text = "false" then some false else none
  unmarshal_marshal := by decide

def fullMessage : ClaudeMessageResponse Bool where
  id := "msg"
  model := "claude"
  content := [.thinking "because", .text "answer", .toolUse "id" "f" true]
  stopReason := "tool_use"

def fullMessageBlocks : List ClaudeStreamResponse :=
  blockEvents 0 (.thinking "because" : ResponseBlock Bool) ["because"] ++
    (blockEvents 1 (.text "answer" : ResponseBlock Bool) ["ans", "wer"] ++
      (blockEvents 2 (.toolUse "id" "f" true : ResponseBlock Bool) ["t", "", "rue"] ++ []))

def fullMessageEvents : List ClaudeStreamResponse :=
  [{ event := .messageStart (some ("msg", "claude")) }] ++ fullMessageBlocks ++
    [{ event := .messageDelta (some "tool_use") }, { event := .messageStop }]

theorem fullMessageEvents_canonical : CanonicalStream boolCodec fullMessage fullMessageEvents := by
  refine ⟨fullMessageBlocks,?_,rfl⟩
  exact .cons (by decide) (.cons (by decide) (.cons (by decide) (.nil _)))

theorem fullMessage_agrees : ∃ chunks, streamResponsesClaude2OpenAI fullMessageEvents = .ok chunks ∧
    StreamAgrees boolCodec chunks (responseClaude2OpenAI boolCodec fullMessage) := by
  obtain ⟨chunks,converted,agrees⟩ :=
    claude_stream_agrees_iff fullMessage fullMessageEvents fullMessageEvents_canonical
  exact ⟨chunks,converted,agrees.mpr (by decide)⟩

def twoTexts : ClaudeMessageResponse Bool where
  id := "msg"
  model := "claude"
  content := [.text "first", .text "second"]
  stopReason := "end_turn"

def twoTextsEvents : List ClaudeStreamResponse :=
  [{ event := .messageStart (some ("msg", "claude")) }] ++
    (blockEvents 0 (.text "first" : ResponseBlock Bool) ["first"] ++
      (blockEvents 1 (.text "second" : ResponseBlock Bool) ["second"] ++ [])) ++
    [{ event := .messageDelta (some "end_turn") }, { event := .messageStop }]

/-- The first text of the message is lost, and the stream has it. -/
theorem claude_stream_disagrees : CanonicalStream boolCodec twoTexts twoTextsEvents ∧
    ∃ chunks, streamResponsesClaude2OpenAI twoTextsEvents = .ok chunks ∧
      ¬ StreamAgrees boolCodec chunks (responseClaude2OpenAI boolCodec twoTexts) := by
  constructor
  · refine ⟨_,?_,rfl⟩
    exact .cons (by decide) (.cons (by decide) (.nil _))
  · refine ⟨_,rfl,fun agrees => ?_⟩
    exact absurd agrees.content (by decide)

end

end NewApi
