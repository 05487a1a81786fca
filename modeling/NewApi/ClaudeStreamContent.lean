import NewApi.ClaudeStream
import NewApi.GuardedRuns

/-!
# What of a stream reaches the client

A later chunk passes on only one of the three: the tool calls, else the reasoning, else the text;
and one with a finish reason and no usage passes on nothing.
-/

namespace NewApi

open GuardedRuns ClaudeConvertInfo StreamDelta List

variable {Usage : Type}

/-- The content of a message; the arguments are those of one tool call. -/
inductive ContentPiece where
  | text
  | thinking
  | arguments (index : Int)
deriving DecidableEq, Repr

/-- The content of an event, where the tool blocks are counted from `base`. -/
def ClaudeEvent.piece (piece : ContentPiece) (base : Int) (event : ClaudeEvent Usage) : String :=
  match piece, event with
  | .text, .contentBlockDelta _ (.text text) => text
  | .thinking, .contentBlockDelta _ (.thinking thinking) => thinking
  | .arguments index, .contentBlockDelta block (.inputJson partialJson) =>
    if block = base + index then partialJson else ""
  | _, _ => ""

def eventsPiece (piece : ContentPiece) (base : Int) (events : List (ClaudeEvent Usage)) : String :=
  joined (events.map (ClaudeEvent.piece piece base))

def Conversion.piece (piece : ContentPiece) (conversion : Conversion Usage) : String :=
  eventsPiece piece conversion.2.toolCallBaseIndex conversion.1

def StreamDelta.piece (piece : ContentPiece) (delta : StreamDelta) : String :=
  match piece with
  | .text => delta.getContentString
  | .thinking => delta.getReasoningContent
  | .arguments index => joined (delta.fragments.map fun fragment =>
    if fragment.1 = index then fragment.2.arguments else "")

def StreamChunk.piece (piece : ContentPiece) (chunk : StreamChunk Usage) : String :=
  match chunk.choices with
  | [] => ""
  | choice :: _ => choice.delta.piece piece

def ClaudeConverter.streamedPiece (promptTokens : Int) (piece : ContentPiece)
    (converter : ClaudeConverter Usage) : List (StreamChunk Usage) → String
  | [] => converter.info.finalize.piece piece
  | chunk :: chunks =>
    (converter.convert promptTokens chunk).piece piece ++
      (converter.feed promptTokens chunk).streamedPiece promptTokens piece chunks

def StreamDelta.Silent (delta : StreamDelta) : Prop :=
  delta.getContentString = "" ∧ delta.getReasoningContent = "" ∧
    ∀ call ∈ delta.toolCalls, call.arguments = ""

/-- A later chunk holds one of tool calls, reasoning and text. -/
def StreamDelta.Single (delta : StreamDelta) : Prop :=
  if delta.toolCalls = [] then delta.getReasoningContent = "" ∨ delta.getContentString = ""
  else delta.getReasoningContent = "" ∧ delta.getContentString = ""

/-- The first chunk holds one of reasoning and text, and arguments of its first tool call
only, which is the one with index 0. -/
def StreamDelta.FirstSingle (delta : StreamDelta) : Prop :=
  (delta.getReasoningContent = "" ∨ delta.getContentString = "") ∧
    match delta.fragments with
    | [] => True
    | (index, call) :: rest =>
      (call.arguments = "" ∨ index = 0) ∧ ∀ fragment ∈ rest, fragment.2.arguments = ""

/-- A chunk holds no more content than is passed on in this state of the converter. -/
def ClaudeConverter.KeepsContent (converter : ClaudeConverter Usage) (chunk : StreamChunk Usage) :
    Prop :=
  match converter.handledDelta chunk with
  | none => ∀ choice ∈ chunk.choices.head?, choice.delta.Silent
  | some delta => if converter.count = 0 then delta.FirstSingle else delta.Single

def Quiet (events : List (ClaudeEvent Usage)) : Prop :=
  ∀ event ∈ events, ∀ piece base, event.piece piece base = ""

section

variable {info : ClaudeConvertInfo Usage} {piece : ContentPiece} {base : Int}

theorem eventsPiece_append (first second : List (ClaudeEvent Usage)) :
    eventsPiece piece base (first ++ second) =
      eventsPiece piece base first ++ eventsPiece piece base second := by
  simp [eventsPiece,joined_append]

theorem Quiet.piece_eq {events : List (ClaudeEvent Usage)} (quiet : Quiet events) :
    eventsPiece piece base events = "" := by
  simp only [eventsPiece,joined_eq_empty,mem_map]
  rintro _ ⟨event,member,rfl⟩
  exact quiet event member piece base

theorem Quiet.append {first second : List (ClaudeEvent Usage)} (quietFirst : Quiet first)
    (quietSecond : Quiet second) : Quiet (first ++ second) := by
  intro event member
  rcases mem_append.mp member with inFirst | inSecond
  · exact quietFirst event inFirst
  · exact quietSecond event inSecond

theorem quiet_stopOpenBlocks (info : ClaudeConvertInfo Usage) : Quiet info.stopOpenBlocks := by
  intro event member piece base
  have stop : ∃ index, event = .contentBlockStop index := by
    unfold stopOpenBlocks at member
    split at member
    · exact ⟨_,mem_singleton.mp member⟩
    · exact ⟨_,mem_singleton.mp member⟩
    · obtain ⟨offset,-,rfl⟩ := mem_map.mp member
      exact ⟨_,rfl⟩
    · cases member
  obtain ⟨index,rfl⟩ := stop
  cases piece <;> rfl

theorem quiet_advance (info : ClaudeConvertInfo Usage) : Quiet info.stopOpenBlocksAndAdvance.1 := by
  unfold stopOpenBlocksAndAdvance
  split
  · intro event member
    cases member
  all_goals exact quiet_stopOpenBlocks info

theorem quiet_start (index : Int) (block : ContentBlock) :
    Quiet ([.contentBlockStart index block] : List (ClaudeEvent Usage)) := by
  intro event member piece base
  rw [mem_singleton.mp member]
  cases piece <;> rfl

theorem quiet_openBlock (fresh : Bool) (kind : LastMessagesType) (block : ContentBlock)
    (info : ClaudeConvertInfo Usage) : Quiet (info.openBlock fresh kind block).1 := by
  unfold openBlock
  split
  · exact (quiet_advance info).append (quiet_start _ block)
  · cases fresh with
    | false =>
      intro event member
      cases member
    | true => exact quiet_start _ block

theorem quiet_terminate (usage : Option Usage) (stopReason : String)
    (info : ClaudeConvertInfo Usage) : Quiet (info.terminate usage stopReason).1 := by
  apply (quiet_stopOpenBlocks info).append
  intro event member piece base
  rcases mem_cons.mp member with rfl | member
  · cases piece <;> rfl
  · rw [mem_singleton.mp member]
    cases piece <;> rfl

def contentPiece (piece : ContentPiece) (delta : StreamDelta) : String :=
  match piece with
  | .text => if delta.getReasoningContent = "" then delta.getContentString else ""
  | .thinking => delta.getReasoningContent
  | .arguments _ => ""

theorem convertContent_piece (fresh : Bool) (delta : StreamDelta) (base : Int) :
    eventsPiece piece base (info.convertContent fresh delta).1 = contentPiece piece delta := by
  unfold ClaudeConvertInfo.convertContent
  dsimp only
  split
  case isTrue reasoning =>
    dsimp only [Conversion.andThen,emitDelta]
    rw [eventsPiece_append,(quiet_openBlock _ _ _ info).piece_eq]
    cases piece <;> simp [eventsPiece,joined,ClaudeEvent.piece,contentPiece,reasoning]
  case isFalse reasoning =>
    have none : delta.getReasoningContent = "" := not_not.mp reasoning
    split
    case isTrue content =>
      dsimp only [Conversion.andThen,emitDelta]
      rw [eventsPiece_append,(quiet_openBlock _ _ _ info).piece_eq]
      cases piece <;> simp [eventsPiece,joined,ClaudeEvent.piece,contentPiece,none]
    case isFalse content =>
      have empty : delta.getContentString = "" := not_not.mp content
      cases piece <;> simp [eventsPiece,joined,contentPiece,none,empty]

theorem fragmentEvents_piece (base offset : Int) (call : ToolCallResponse) :
    eventsPiece piece base (fragmentEvents (base + offset) call : List (ClaudeEvent Usage)) =
      match piece with
      | .arguments index => if offset = index then call.arguments else ""
      | _ => "" := by
  have quietName : Quiet (if call.name ≠ "" then
      [.contentBlockStart (base + offset) (.toolUse call.id call.name)] else [] :
        List (ClaudeEvent Usage)) := by
    split
    · exact quiet_start _ _
    · intro event member
      cases member
  rw [fragmentEvents,eventsPiece_append,quietName.piece_eq]
  by_cases silent : call.arguments = ""
  · cases piece <;> simp [eventsPiece,joined,silent]
  · cases piece <;> simp [eventsPiece,joined,silent,ClaudeEvent.piece]

variable (fragments : List (Int × ToolCallResponse))

theorem convertFragments_piece
    (info : ClaudeConvertInfo Usage) :
    eventsPiece piece info.toolCallBaseIndex (info.convertFragments fragments).1 =
      match piece with
      | .arguments index => joined (fragments.map fun fragment =>
        if fragment.1 = index then fragment.2.arguments else "")
      | _ => "" := by
  induction fragments generalizing info with
  | nil => cases piece <;> rfl
  | cons fragment rest ih =>
    dsimp only [convertFragments,Conversion.andThen,convertFragment]
    rw [eventsPiece_append,fragmentEvents_piece]
    have later := ih { info with
      toolCallMaxIndexOffset := max info.toolCallMaxIndexOffset fragment.1 }
    cases piece <;> simp_all [joined]

theorem convertFragments_base
    (info : ClaudeConvertInfo Usage) :
    (info.convertFragments fragments).2.toolCallBaseIndex = info.toolCallBaseIndex := by
  induction fragments generalizing info with
  | nil => rfl
  | cons fragment rest ih => exact ih _

theorem quiet_beginTools (info : ClaudeConvertInfo Usage) : Quiet info.beginTools.1 := by
  unfold beginTools
  split
  · simpa [Conversion.andThen] using quiet_advance info
  · intro event member
    cases member

def laterPiece (piece : ContentPiece) (delta : StreamDelta) : String :=
  if delta.toolCalls = [] then contentPiece piece delta
  else
    match piece with
    | .arguments _ => delta.piece piece
    | _ => ""

theorem convertDelta_piece (delta : StreamDelta) :
    (info.convertDelta delta).piece piece = laterPiece piece delta := by
  unfold convertDelta laterPiece
  by_cases calls : delta.toolCalls = []
  · simp only [calls]
    exact convertContent_piece false delta _
  · simp only [calls,ne_eq,not_false_eq_true,if_true]
    simp only [Conversion.piece,convertToolCalls,Conversion.andThen,append_nil,
      convertFragments_base]
    rw [eventsPiece_append,(quiet_beginTools info).piece_eq,convertFragments_piece]
    cases piece <;> simp [piece]

open ClaudeConverter in
theorem ClaudeConverter.ChunkEffect.piece_eq {handled : Option StreamDelta}
    {conversion : Conversion Usage} (effect : ChunkEffect info handled conversion) :
    conversion.piece piece = (handled.map (laterPiece piece)).getD "" := by
  cases effect with
  | skip => rfl
  | stop _ usage stopReason => exact (quiet_terminate usage stopReason info).piece_eq
  | content _ delta => exact convertDelta_piece delta
  | last _ delta reason usage stopReason =>
    have content : ((info.withFinish reason).convertDelta delta).piece piece =
      laterPiece piece delta := convertDelta_piece delta
    unfold Conversion.piece at content ⊢
    dsimp only [Conversion.andThen]
    rwa [eventsPiece_append,(quiet_terminate usage stopReason _).piece_eq,String.append_empty]

end

section

variable {delta : StreamDelta}

theorem fragments_calls (delta : StreamDelta) : delta.fragments.map Prod.snd = delta.toolCalls := by
  apply ext_getElem <;> simp [fragments]

theorem silent_iff : delta.Silent ↔ ∀ piece, delta.piece piece = "" := by
  have arguments : (∀ call ∈ delta.toolCalls, call.arguments = "") ↔
      ∀ index, delta.piece (.arguments index) = "" := by
    rw [← fragments_calls]
    simp only [piece,joined_eq_empty,forall_mem_map]
    constructor
    · intro silent index fragment member
      rw [silent fragment member,ite_self]
    · intro silent fragment member
      simpa using silent fragment.1 fragment member
  constructor
  · rintro ⟨content,reasoning,calls⟩ piece
    cases piece with
    | text => exact content
    | thinking => exact reasoning
    | arguments index => exact arguments.mp calls index
  · intro silent
    exact ⟨silent .text,silent .thinking,arguments.mpr fun index => silent (.arguments index)⟩

/-- A later chunk passes on a piece whole or not at all. -/
theorem laterPiece_cases (piece : ContentPiece) (delta : StreamDelta) :
    laterPiece piece delta = delta.piece piece ∨ laterPiece piece delta = "" := by
  unfold laterPiece
  split
  · cases piece with
    | text =>
      unfold contentPiece
      dsimp only
      split
      · exact .inl rfl
      · exact .inr rfl
    | thinking => exact .inl rfl
    | arguments => exact .inr rfl
  · cases piece with
    | text | thinking => exact .inr rfl
    | arguments => exact .inl rfl

theorem single_iff : delta.Single ↔ ∀ piece, laterPiece piece delta = delta.piece piece := by
  unfold StreamDelta.Single
  by_cases calls : delta.toolCalls = []
  · simp only [calls,if_true]
    constructor
    · intro one piece
      cases piece with
      | text =>
        by_cases reasoning : delta.getReasoningContent = ""
        · simp [laterPiece,calls,contentPiece,reasoning,piece]
        · simp [laterPiece,contentPiece,piece,one.resolve_left reasoning]
      | thinking => simp [laterPiece,calls,contentPiece,piece]
      | arguments =>
        simp [laterPiece,calls,contentPiece,piece,fragments,joined]
    · intro whole
      by_contra both
      push Not at both
      have text := whole .text
      simp [laterPiece,contentPiece,both.1] at text
      exact both.2 text
  · simp only [calls]
    constructor
    · rintro ⟨reasoning,content⟩ piece
      cases piece <;> simp [laterPiece,calls,piece,reasoning,content]
    · intro whole
      have text := whole .text
      have thinking := whole .thinking
      simp only [laterPiece,calls] at text thinking
      exact ⟨thinking.symm,text.symm⟩

theorem finalize_piece (info : ClaudeConvertInfo Usage) (piece : ContentPiece) :
    info.finalize.piece piece = "" := by
  unfold finalize
  split
  · rfl
  · exact (quiet_terminate _ _ info).piece_eq

end

section

def firstPiece (piece : ContentPiece) (delta : StreamDelta) : String :=
  match piece with
  | .arguments index =>
    if index = 0 then (delta.toolCalls.head?.map ToolCallResponse.arguments).getD "" else ""
  | _ => contentPiece piece delta

variable {info : ClaudeConvertInfo Usage} {piece : ContentPiece} {usage : Option Usage}
  {delta : StreamDelta}

/-- Text and reasoning do not move the tool blocks away from index 0. -/
theorem convertContent_base (fresh : Bool) (delta : StreamDelta) (base : info.toolCallBaseIndex = 0) :
    (info.convertContent fresh delta).2.toolCallBaseIndex = 0 := by
  have advance : info.stopOpenBlocksAndAdvance.2.toolCallBaseIndex = 0 := by
    unfold stopOpenBlocksAndAdvance
    split <;> first | exact base | rfl
  have opens : ∀ kind block, (info.openBlock fresh kind block).2.toolCallBaseIndex = 0 := by
    intro kind block
    unfold openBlock
    split
    · exact advance
    · exact base
  unfold ClaudeConvertInfo.convertContent
  dsimp only
  split
  · exact opens .thinking .thinking
  split
  · exact opens .text .text
  · exact base

variable (calls : List ToolCallResponse)

theorem convertFirstToolCall_base :
    ((start usage).convertFirstToolCall calls).2.toolCallBaseIndex = 0 := by
  cases calls <;> rfl

theorem convertFirstToolCall_piece :
    eventsPiece piece 0 ((start usage).convertFirstToolCall calls).1 =
      match piece with
      | .arguments index =>
        if index = 0 then (calls.head?.map ToolCallResponse.arguments).getD "" else ""
      | _ => "" := by
  cases calls with
  | nil => cases piece <;> simp [convertFirstToolCall,eventsPiece,joined]
  | cons call =>
    by_cases silent : call.arguments = ""
    · cases piece <;> simp [convertFirstToolCall,silent,eventsPiece,joined,ClaudeEvent.piece]
    · cases piece <;>
        simp [convertFirstToolCall,silent,eventsPiece,joined,ClaudeEvent.piece,eq_comm]

theorem convertFirst_piece (usage : Option Usage) (promptTokens : Int) (chunk : StreamChunk Usage) :
    ((start usage).convertFirst promptTokens chunk).piece piece =
      match chunk.choices with
      | [] => ""
      | choice :: _ => firstPiece piece choice.delta := by
  have quietStart : Quiet ([.messageStart chunk.id chunk.model promptTokens] :
      List (ClaudeEvent Usage)) := by
    intro event member piece base
    rw [mem_singleton.mp member]
    cases piece <;> rfl
  unfold convertFirst
  cases chunk.choices with
  | nil => exact quietStart.piece_eq
  | cons choice =>
    dsimp only
    generalize conversion : ((Conversion.andThen
      ([.messageStart chunk.id chunk.model promptTokens], start usage)
      (convertFirstToolCall choice.delta.toolCalls)).andThen
        (ClaudeConvertInfo.convertContent true choice.delta)) = converted
    have base : converted.2.toolCallBaseIndex = 0 := by
      subst conversion
      exact convertContent_base true choice.delta (convertFirstToolCall_base _)
    have passed : eventsPiece piece 0 converted.1 = firstPiece piece choice.delta := by
      subst conversion
      dsimp only [Conversion.andThen]
      rw [eventsPiece_append,eventsPiece_append,quietStart.piece_eq,convertContent_piece,
        convertFirstToolCall_piece]
      cases piece <;> simp [firstPiece,contentPiece]
    split
    case h_1 =>
      rwa [Conversion.piece,base]
    case h_2 reason _ =>
      unfold Conversion.piece
      dsimp only [Conversion.andThen]
      rw [eventsPiece_append]
      split
      case h_1 =>
        dsimp only [withFinish]
        rw [base,passed]
        simp [eventsPiece,joined]
      case h_2 =>
        rw [(quiet_terminate _ _ _).piece_eq,String.append_empty]
        dsimp only [withFinish]
        rwa [base]

theorem firstPiece_of_firstSingle (single : delta.FirstSingle) (piece : ContentPiece) :
    firstPiece piece delta = delta.piece piece := by
  obtain ⟨content,calls⟩ := single
  cases piece with
  | thinking => rfl
  | text =>
    rcases content with reasoning | empty
    · simp [firstPiece,contentPiece,reasoning,piece]
    · simp [firstPiece,contentPiece,empty,piece]
  | arguments index =>
    have heads := fragments_calls delta
    unfold firstPiece piece
    rw [← heads]
    cases fragments : delta.fragments with
    | nil => simp [joined]
    | cons first rest =>
      rw [fragments] at calls
      obtain ⟨head,others⟩ := calls
      have silent : joined (rest.map fun fragment =>
          if fragment.1 = index then fragment.2.arguments else "") = "" := by
        rw [joined_eq_empty,forall_mem_map]
        intro fragment member
        rw [others fragment member,ite_self]
      simp only [map_cons,joined,silent]
      rcases head with empty | zero
      · simp [empty]
      · simp [zero,eq_comm]

theorem firstPiece_lt_of_not_firstSingle (more : ¬ delta.FirstSingle) :
    ∃ piece, (firstPiece piece delta).length < (delta.piece piece).length := by
  by_cases content : delta.getReasoningContent = "" ∨ delta.getContentString = ""
  · have heads := fragments_calls delta
    unfold StreamDelta.FirstSingle at more
    cases fragments : delta.fragments with
    | nil => simp [content,fragments] at more
    | cons first rest =>
      obtain ⟨index,call⟩ := first
      rw [fragments] at heads more
      have calls : delta.toolCalls.head?.map ToolCallResponse.arguments = some call.arguments := by
        rw [← heads]
        rfl
      by_cases head : call.arguments = "" ∨ index = 0
      · -- the arguments of another tool call are lost
        have lost : ∃ fragment ∈ rest, fragment.2.arguments ≠ "" := by
          by_contra none
          push Not at none
          exact more ⟨content,head,none⟩
        obtain ⟨fragment,member,some_⟩ := lost
        refine ⟨.arguments fragment.1,?_⟩
        have atLeast := joined_length_le (mem_map_of_mem (f := fun other =>
          if other.1 = fragment.1 then other.2.arguments else "") member)
        simp only [if_true] at atLeast
        have := length_pos some_
        simp only [firstPiece,piece,calls,fragments,map_cons,joined,
          String.length_append,Option.getD_some]
        rcases head with empty | rfl
        · simp only [empty,ite_self]
          omega
        · by_cases same : fragment.1 = 0
          · simp only [same] at atLeast ⊢
            omega
          · simp only [same,if_false,String.length_empty]
            omega
      · -- the arguments end up with another tool call
        push Not at head
        refine ⟨.arguments index,?_⟩
        have := length_pos head.1
        simp only [firstPiece,piece,head.2,if_false,fragments,map_cons,joined,
          if_true,String.length_append,String.length_empty]
        omega
  · push Not at content
    refine ⟨.text,?_⟩
    have := length_pos content.2
    simpa [firstPiece,contentPiece,content.1,piece] using this

end

namespace ClaudeConverter

section

variable {converter : ClaudeConverter Usage} {chunk : StreamChunk Usage}

theorem piece_of_handled {delta : StreamDelta} (handled : converter.handledDelta chunk = some delta)
    (piece : ContentPiece) : chunk.piece piece = delta.piece piece := by
  obtain ⟨choice,rest,choices,rfl⟩ := handledDelta_eq_some handled
  simp [StreamChunk.piece,choices]

theorem silent_chunk_iff :
    (∀ choice ∈ chunk.choices.head?, choice.delta.Silent) ↔ ∀ piece, chunk.piece piece = "" := by
  unfold StreamChunk.piece
  cases chunk.choices with
  | nil => simp
  | cons => simp [silent_iff]

variable (promptTokens : Int) {converter : ClaudeConverter Usage} (chunk : StreamChunk Usage)
  (chunks : List (StreamChunk Usage))

theorem convert_piece_cases (later : converter.count ≠ 0) (piece : ContentPiece) :
    (converter.convert promptTokens chunk).piece piece = chunk.piece piece ∨
      (converter.convert promptTokens chunk).piece piece = "" := by
  rw [(convert_effect promptTokens later chunk).piece_eq]
  cases handled : converter.handledDelta chunk with
  | none => exact .inr rfl
  | some delta =>
    rw [piece_of_handled handled]
    exact laterPiece_cases piece delta

theorem keepsContent_iff_of_later (later : converter.count ≠ 0) :
    converter.KeepsContent chunk ↔
      ∀ piece, (converter.convert promptTokens chunk).piece piece = chunk.piece piece := by
  unfold KeepsContent
  simp only [(convert_effect promptTokens later chunk).piece_eq]
  cases handled : converter.handledDelta chunk with
  | none =>
    rw [silent_chunk_iff]
    exact forall_congr' fun piece => eq_comm
  | some =>
    simp only [later,piece_of_handled handled]
    exact single_iff

/-- A chunk is passed on whole, or some piece of it is not. -/
theorem keepsContent_cases (reached : converter.count ≠ 0 ∨ ∃ usage, converter = start usage) :
    (converter.KeepsContent chunk ∧
        ∀ piece, (converter.convert promptTokens chunk).piece piece = chunk.piece piece) ∨
      (¬ converter.KeepsContent chunk ∧
        ∃ piece, ((converter.convert promptTokens chunk).piece piece).length <
          (chunk.piece piece).length) := by
  rcases reached with later | ⟨usage,rfl⟩
  · have whole := keepsContent_iff_of_later promptTokens chunk later
    by_cases keeps : converter.KeepsContent chunk
    · exact .inl ⟨keeps,whole.mp keeps⟩
    · obtain ⟨piece,different⟩ := not_forall.mp (mt whole.mpr keeps)
      have nothing := (convert_piece_cases promptTokens chunk later piece).resolve_left different
      refine .inr ⟨keeps,piece,?_⟩
      rw [nothing] at different ⊢
      exact length_pos (Ne.symm different)
  · have converted : (start usage).convert promptTokens chunk =
        (ClaudeConvertInfo.start usage).convertFirst promptTokens chunk := rfl
    unfold KeepsContent handledDelta StreamChunk.piece
    simp only [converted,convertFirst_piece]
    cases chunk.choices with
    | nil => exact .inl ⟨by simp,fun _ => rfl⟩
    | cons choice =>
      by_cases single : choice.delta.FirstSingle
      · exact .inl ⟨single,firstPiece_of_firstSingle single⟩
      · exact .inr ⟨single,firstPiece_lt_of_not_firstSingle single⟩

theorem streamedPiece_length_le (piece : ContentPiece) (later : converter.count ≠ 0) :
    (converter.streamedPiece promptTokens piece chunks).length ≤
      (joined (chunks.map (StreamChunk.piece piece))).length := by
  induction chunks generalizing converter with
  | nil => simp [streamedPiece,finalize_piece]
  | cons chunk chunks ih =>
    rw [streamedPiece,map_cons,joined,String.length_append,String.length_append]
    have rest : ((converter.feed promptTokens chunk).streamedPiece promptTokens piece chunks).length ≤
      (joined (chunks.map (StreamChunk.piece piece))).length := ih (Nat.succ_ne_zero _)
    rcases convert_piece_cases promptTokens chunk later piece with whole | nothing
    · rw [whole]
      omega
    · rw [nothing,String.length_empty]
      omega

theorem streamedPiece_ne_of_lt {promptTokens : Int} {piece : ContentPiece}
    {chunk : StreamChunk Usage} (loses : ((converter.convert promptTokens chunk).piece piece).length <
      (chunk.piece piece).length) :
    converter.streamedPiece promptTokens piece (chunk :: chunks) ≠
      joined ((chunk :: chunks).map (StreamChunk.piece piece)) := by
  intro same
  have lengths := congrArg String.length same
  have later : (converter.feed promptTokens chunk).count ≠ 0 := Nat.succ_ne_zero _
  have rest := streamedPiece_length_le promptTokens chunks piece later
  rw [streamedPiece,map_cons,joined,String.length_append,String.length_append] at lengths
  omega

theorem streamedPiece_cons_iff {promptTokens : Int} {chunk : StreamChunk Usage}
    (keeps : ∀ piece, (converter.convert promptTokens chunk).piece piece = chunk.piece piece) :
    (∀ piece, converter.streamedPiece promptTokens piece (chunk :: chunks) =
        joined ((chunk :: chunks).map (StreamChunk.piece piece))) ↔
      ∀ piece, (converter.feed promptTokens chunk).streamedPiece promptTokens piece chunks =
        joined (chunks.map (StreamChunk.piece piece)) := by
  apply forall_congr'
  intro piece
  rw [streamedPiece,map_cons,keeps piece]
  exact String.append_right_inj _

theorem streamed_iff_guarded (reached : converter.count ≠ 0 ∨ ∃ usage, converter = start usage) :
    (∀ piece, converter.streamedPiece promptTokens piece chunks =
        joined (chunks.map (StreamChunk.piece piece))) ↔
      Guarded (feed promptTokens) KeepsContent converter chunks := by
  induction chunks generalizing converter with
  | nil => simp [streamedPiece,finalize_piece,joined,Guarded]
  | cons chunk chunks ih =>
    rw [Guarded]
    rcases keepsContent_cases promptTokens chunk reached with ⟨keeps,whole⟩ | ⟨more,piece,loses⟩
    · rw [streamedPiece_cons_iff chunks whole,and_iff_right keeps]
      exact ih (.inl (Nat.succ_ne_zero _))
    · simp only [more,false_and,iff_false]
      exact fun all => streamedPiece_ne_of_lt chunks loses (all piece)

end

end ClaudeConverter

end NewApi
