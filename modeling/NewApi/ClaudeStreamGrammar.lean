import NewApi.ClaudeStream
import NewApi.GuardedRuns

/-!
# The grammar of a Claude stream

A client reads the events with a small automaton. The converter follows it with its text and its
reasoning.
-/

namespace NewApi

open GuardedRuns List ContentBlock

inductive BlockKind where
  | text
  | thinking
  | toolUse
deriving DecidableEq, Repr

def ContentBlock.kind : ContentBlock → BlockKind
  | .text => .text
  | .thinking => .thinking
  | .toolUse _ _ => .toolUse

def BlockDelta.kind : BlockDelta → BlockKind
  | .text _ => .text
  | .thinking _ => .thinking
  | .inputJson _ => .toolUse

/-- Where a client is in a stream; `next` is the index of the next block, and `blocks` are
the open ones. -/
inductive StreamPhase where
  | fresh
  | streaming (next : Int) (blocks : List (Int × BlockKind))
  | closing
  | ended
deriving DecidableEq, Repr

variable {Usage : Type} {indexes : List Int}

namespace StreamPhase

def accept : StreamPhase → ClaudeEvent Usage → Option StreamPhase
  | .fresh, .messageStart _ _ _ => some (.streaming 0 [])
  | .streaming next blocks, .contentBlockStart index block =>
    if index = next then some (.streaming (next + 1) (blocks ++ [(index, block.kind)])) else none
  | .streaming next blocks, .contentBlockDelta index delta =>
    if (index, delta.kind) ∈ blocks then some (.streaming next blocks) else none
  | .streaming next blocks, .contentBlockStop index =>
    if index ∈ blocks.map Prod.fst then some (.streaming next (blocks.filter (·.1 ≠ index))) else none
  | .streaming _ blocks, .messageDelta _ _ => if blocks = [] then some .closing else none
  | .closing, .messageStop => some .ended
  | _, _ => none

variable (phase : StreamPhase)

def acceptAll (events : List (ClaudeEvent Usage)) : Option StreamPhase :=
  events.foldlM accept phase

@[simp]
theorem acceptAll_nil :
    phase.acceptAll ([] : List (ClaudeEvent Usage)) = some phase := rfl

@[simp]
theorem acceptAll_cons (event : ClaudeEvent Usage)
    (events : List (ClaudeEvent Usage)) :
    phase.acceptAll (event :: events) = (phase.accept event).bind (·.acceptAll events) := rfl

theorem acceptAll_append (first second : List (ClaudeEvent Usage)) :
    phase.acceptAll (first ++ second) = (phase.acceptAll first).bind (·.acceptAll second) :=
  foldlM_append

/-- Stopping all open blocks, in the order in which they were started. -/
theorem acceptAll_stops (next : Int) (kind : BlockKind) (distinct : indexes.Nodup) :
    (streaming next (indexes.map (·, kind))).acceptAll
      (indexes.map fun index => (.contentBlockStop index : ClaudeEvent Usage)) =
        some (.streaming next []) := by
  induction indexes with
  | nil => rfl
  | cons index rest ih =>
    obtain ⟨unused,distinct⟩ := nodup_cons.mp distinct
    have others : (rest.map (·, kind)).filter (·.1 ≠ index) = rest.map (·, kind) := by
      apply filter_eq_self.mpr
      intro block member
      obtain ⟨other,otherMember,rfl⟩ := mem_map.mp member
      simpa using fun same : other = index => unused (same ▸ otherMember)
    simp only [map_cons,acceptAll_cons,accept,mem_cons]
    rw [filter_cons_of_neg (by simp),others]
    exact ih distinct

theorem acceptAll_stops_missing (next : Int) {blocks : List (Int × BlockKind)} {index : Int}
    (missing : index ∉ blocks.map Prod.fst) (stopped : index ∈ indexes) :
    (streaming next blocks).acceptAll
      (indexes.map fun index => (.contentBlockStop index : ClaudeEvent Usage)) = none := by
  induction indexes generalizing blocks with
  | nil => simp at stopped
  | cons first rest ih =>
    simp only [map_cons,acceptAll_cons,accept]
    by_cases here : first ∈ blocks.map Prod.fst
    · have later : index ∈ rest := by
        rcases mem_cons.mp stopped with rfl | later
        · exact absurd here missing
        · exact later
      simp only [here]
      apply ih _ later
      intro stays
      obtain ⟨block,member,rfl⟩ := mem_map.mp stays
      exact missing (mem_map_of_mem (mem_of_mem_filter member))
    · simp [here]

end StreamPhase

def toolIndexes (base : Int) (count : Nat) : List Int :=
  (List.range count).map fun (offset : Nat) => base + offset

theorem mem_toolIndexes {base index : Int} {count : Nat} :
    index ∈ toolIndexes base count ↔ base ≤ index ∧ index < base + count := by
  simp only [toolIndexes,mem_map,mem_range]
  constructor
  · omega
  · rintro ⟨lower,upper⟩
    exact ⟨(index - base).toNat,by omega,by omega⟩

theorem toolIndexes_nodup (base : Int) (count : Nat) : (toolIndexes base count).Nodup := by
  apply nodup_range.map
  intro first second (same : base + first = base + second)
  omega

theorem toolIndexes_succ (base : Int) (count : Nat) :
    toolIndexes base (count + 1) = toolIndexes base count ++ [base + count] := by
  simp [toolIndexes,range_succ]

def toolPhase (base : Int) (count : Nat) : StreamPhase :=
  .streaming (base + count) ((toolIndexes base count).map (·, .toolUse))

namespace ClaudeConvertInfo

open StreamPhase

section

variable (info : ClaudeConvertInfo Usage)

def openIndexes : List Int :=
  match info.lastMessagesType with
  | .none => []
  | .text | .thinking => [info.index]
  | .tools => toolIndexes info.toolCallBaseIndex (info.toolCallMaxIndexOffset + 1).toNat

def openKind : BlockKind :=
  match info.lastMessagesType with
  | .thinking => .thinking
  | .tools => .toolUse
  | .none | .text => .text

def nextIndex : Int :=
  match info.lastMessagesType with
  | .none => info.index
  | .text | .thinking => info.index + 1
  | .tools => info.toolCallBaseIndex + info.toolCallMaxIndexOffset + 1

def phase : StreamPhase :=
  if info.done then .ended
  else .streaming info.nextIndex (info.openIndexes.map (·, info.openKind))

def openTools : Nat :=
  if info.lastMessagesType = .tools then (info.toolCallMaxIndexOffset + 1).toNat else 0

def Valid : Prop :=
  info.lastMessagesType = .tools → 0 ≤ info.toolCallMaxIndexOffset

end

variable (info : ClaudeConvertInfo Usage)

theorem stopOpenBlocks_eq :
    info.stopOpenBlocks = info.openIndexes.map fun index => .contentBlockStop index := by
  unfold stopOpenBlocks openIndexes
  cases info.lastMessagesType <;> simp [toolIndexes]

theorem openIndexes_nodup : info.openIndexes.Nodup := by
  unfold openIndexes
  cases info.lastMessagesType <;> simp [toolIndexes_nodup]

/-- The events bring a client from `phase` to where it should be. -/
structure Tracks (phase : StreamPhase) (conversion : Conversion Usage) : Prop where
  accepted : phase.acceptAll conversion.1 = some conversion.2.phase
  valid : conversion.2.Valid

section

variable {info : ClaudeConvertInfo Usage}

theorem Tracks.nil (valid : info.Valid) : Tracks info.phase ([], info) := ⟨rfl, valid⟩

theorem Tracks.andThen {phase : StreamPhase} {first : Conversion Usage}
    {next : ClaudeConvertInfo Usage → Conversion Usage} (tracks : Tracks phase first)
    (later : Tracks first.2.phase (next first.2)) : Tracks phase (first.andThen next) := by
  refine ⟨?_,later.valid⟩
  rw [Conversion.andThen,acceptAll_append,tracks.accepted]
  exact later.accepted

theorem acceptAll_stopOpenBlocks (running : info.done = false) :
    info.phase.acceptAll info.stopOpenBlocks = some (.streaming info.nextIndex []) := by
  simp only [phase,running,stopOpenBlocks_eq]
  exact acceptAll_stops info.nextIndex info.openKind info.openIndexes_nodup

theorem tracks_terminate (running : info.done = false) (valid : info.Valid) (usage : Option Usage)
    (stopReason : String) : Tracks info.phase (info.terminate usage stopReason) := by
  refine ⟨?_,valid⟩
  rw [terminate,acceptAll_append,acceptAll_stopOpenBlocks running]
  rfl

theorem tracks_finish (running : info.done = false) (valid : info.Valid) (reason : String)
    (usage : Option Usage) (stopReason : String) :
    Tracks info.phase ((info.withFinish reason).terminate usage stopReason) :=
  have runs : (info.withFinish reason).done = false := running
  have isValid : (info.withFinish reason).Valid := valid
  tracks_terminate runs isValid usage stopReason

/-- After the open blocks are stopped, the converter is between blocks. -/
structure BetweenBlocks (info : ClaudeConvertInfo Usage) (index : Int) : Prop where
  kind : info.lastMessagesType = .none
  index_eq : info.index = index
  running : info.done = false

theorem BetweenBlocks.phase_eq {index : Int} (between : BetweenBlocks info index) :
    info.phase = .streaming index [] := by
  simp [phase,between.running,nextIndex,openIndexes,between.kind,between.index_eq]

theorem advance_between (running : info.done = false) :
    BetweenBlocks info.stopOpenBlocksAndAdvance.2 info.nextIndex := by
  unfold stopOpenBlocksAndAdvance nextIndex
  split <;> rename_i kind
  · rw [kind]
    exact ⟨kind,rfl,running⟩
  all_goals
    rw [kind]
    exact ⟨rfl,rfl,running⟩

theorem stopOpenBlocksAndAdvance_events (info : ClaudeConvertInfo Usage) :
    info.stopOpenBlocksAndAdvance.1 = info.stopOpenBlocks := by
  unfold stopOpenBlocksAndAdvance
  split
  case h_1 kind => simp [stopOpenBlocks,kind]
  all_goals rfl

theorem acceptAll_advance (running : info.done = false) :
    info.phase.acceptAll info.stopOpenBlocksAndAdvance.1 = some (.streaming info.nextIndex []) := by
  rw [stopOpenBlocksAndAdvance_events]
  exact acceptAll_stopOpenBlocks running

/-- The two kinds of block that hold at most one open block. -/
inductive PlainBlock : LastMessagesType → ContentBlock → Prop
  | text : PlainBlock .text .text
  | thinking : PlainBlock .thinking .thinking

/-- A plain block is open at the index of the converter. -/
structure InBlock (info : ClaudeConvertInfo Usage) (kind : LastMessagesType) : Prop where
  kind_eq : info.lastMessagesType = kind
  running : info.done = false

variable {block : ContentBlock} {kind : LastMessagesType}

theorem InBlock.phase_eq (plain : PlainBlock kind block) (inside : InBlock info kind) :
    info.phase = .streaming (info.index + 1) [(info.index, block.kind)] := by
  cases plain <;>
    simp [phase,inside.running,nextIndex,openIndexes,openKind,inside.kind_eq,kind]

theorem InBlock.valid (plain : PlainBlock kind block)
    (inside : InBlock info kind) : info.Valid := by
  intro tools
  rw [inside.kind_eq] at tools
  subst tools
  cases plain

theorem openBlock_tracks {fresh : Bool} (plain : PlainBlock kind block)
    (running : info.done = false) (new : fresh = true → info.lastMessagesType ≠ kind) :
    Tracks info.phase (info.openBlock fresh kind block) ∧
      InBlock (info.openBlock fresh kind block).2 kind := by
  unfold openBlock
  split
  case isTrue different =>
    have between := advance_between running
    have inside : InBlock { info.stopOpenBlocksAndAdvance.2 with lastMessagesType := kind } kind :=
      ⟨rfl,between.running⟩
    refine ⟨⟨?_,inside.valid plain⟩,inside⟩
    dsimp only [Conversion.andThen]
    rw [acceptAll_append,acceptAll_advance running,inside.phase_eq plain]
    simp [accept,between.index_eq]
  case isFalse same =>
    have inside : InBlock info kind := ⟨not_not.mp same,running⟩
    have continued : fresh = false := by
      cases fresh with
      | false => rfl
      | true => exact absurd (new rfl) same
    refine ⟨⟨?_,inside.valid plain⟩,inside⟩
    simp [continued]

theorem emitDelta_tracks {delta : BlockDelta} (plain : PlainBlock kind block)
    (inside : InBlock info kind) (sameKind : delta.kind = block.kind) :
    Tracks info.phase (info.emitDelta delta) := by
  refine ⟨?_,inside.valid plain⟩
  dsimp only [emitDelta]
  rw [inside.phase_eq plain]
  simp [accept,sameKind]

theorem convertContent_tracks {fresh : Bool} (running : info.done = false) (valid : info.Valid)
    (new : fresh = true → info.lastMessagesType ≠ .text ∧ info.lastMessagesType ≠ .thinking)
    (delta : StreamDelta) :
    Tracks info.phase (info.convertContent fresh delta) ∧
      (info.convertContent fresh delta).2.done = false := by
  unfold convertContent
  dsimp only
  split
  · obtain ⟨opens,inside⟩ := openBlock_tracks .thinking running fun first => (new first).2
    exact ⟨opens.andThen (emitDelta_tracks .thinking inside rfl),inside.running⟩
  split
  · obtain ⟨opens,inside⟩ := openBlock_tracks .text running fun first => (new first).1
    exact ⟨opens.andThen (emitDelta_tracks .text inside rfl),inside.running⟩
  · exact ⟨.nil valid,running⟩

end

section

variable {info : ClaudeConvertInfo Usage}

/-- With `opened` tool blocks open, each tool call opens the next one with its name, or
goes on with an open one without a name. -/
def fits : Nat → List (Int × ToolCallResponse) → Bool
  | _, [] => true
  | opened, (offset, call) :: rest =>
    if call.name ≠ "" then offset = opened && fits (opened + 1) rest
    else 0 ≤ offset && offset < opened && fits opened rest

/-- The converter is in a run of tool blocks of which `opened` are open. -/
structure InTools (info : ClaudeConvertInfo Usage) (opened : Nat) : Prop where
  kind : info.lastMessagesType = .tools
  running : info.done = false
  offset : info.toolCallMaxIndexOffset = (opened - 1 : Nat)

variable {opened : Nat} {call : ToolCallResponse} {delta : StreamDelta}

section

variable (inside : InTools info opened)

include inside

theorem InTools.phase_eq (some_ : opened ≠ 0) :
    info.phase = toolPhase info.toolCallBaseIndex opened := by
  have count : (info.toolCallMaxIndexOffset + 1).toNat = opened := by
    have := inside.offset
    omega
  have next : info.toolCallBaseIndex + info.toolCallMaxIndexOffset + 1 =
      info.toolCallBaseIndex + opened := by
    omega
  simp [phase,inside.running,nextIndex,openIndexes,openKind,inside.kind,count,next,toolPhase]

theorem InTools.valid : info.Valid := by
  intro _
  rw [inside.offset]
  exact Int.natCast_nonneg _

theorem InTools.opens (call : ToolCallResponse) :
    InTools (info.convertFragment ((opened : Int), call)).2 (opened + 1) := by
  have moved := inside.offset
  refine ⟨inside.kind,inside.running,?_⟩
  dsimp only [convertFragment]
  omega

theorem InTools.goesOn {offset : Int}
    (bounds : 0 ≤ offset ∧ offset < opened) (call : ToolCallResponse) :
    InTools (info.convertFragment (offset, call)).2 opened := by
  have moved := inside.offset
  refine ⟨inside.kind,inside.running,?_⟩
  dsimp only [convertFragment]
  omega

end

theorem beginTools_accepts (running : info.done = false) (valid : info.Valid) :
    info.phase.acceptAll info.beginTools.1 =
        some (toolPhase info.beginTools.2.toolCallBaseIndex info.openTools) ∧
      InTools info.beginTools.2 info.openTools := by
  unfold beginTools openTools
  by_cases kind : info.lastMessagesType = .tools
  · have nonneg := valid kind
    have inside : InTools info (info.toolCallMaxIndexOffset + 1).toNat :=
      ⟨kind,running,by omega⟩
    simp only [kind]
    exact ⟨congrArg some (inside.phase_eq (by omega)),inside⟩
  · have between := advance_between running
    simp only [kind,ne_eq,not_false_eq_true,if_true,Conversion.andThen,append_nil]
    refine ⟨?_,rfl,between.running,rfl⟩
    rw [acceptAll_advance running]
    simp [toolPhase,toolIndexes,between.index_eq]

theorem convertFragments_info (fragments : List (Int × ToolCallResponse))
    (info : ClaudeConvertInfo Usage) :
    (info.convertFragments fragments).2 = { info with
      toolCallMaxIndexOffset :=
        fragments.foldl (fun offset fragment => max offset fragment.1) info.toolCallMaxIndexOffset } := by
  induction fragments generalizing info with
  | nil => rfl
  | cons fragment rest ih => exact ih _

theorem acceptAll_named (named : call.name ≠ "") (base : Int) (opened : Nat) :
    (toolPhase base opened).acceptAll (fragmentEvents (base + opened) call : List (ClaudeEvent Usage)) =
      some (toolPhase base (opened + 1)) := by
  have next : toolPhase base (opened + 1) = .streaming (base + opened + 1)
      ((toolIndexes base opened).map (·, .toolUse) ++ [(base + (opened : Int), .toolUse)]) := by
    simp [toolPhase,toolIndexes_succ]
    omega
  rw [next]
  by_cases silent : call.arguments = ""
  · simp [fragmentEvents,named,silent,toolPhase,accept,kind]
  · simp [fragmentEvents,named,silent,toolPhase,accept,kind,BlockDelta.kind]

theorem mem_toolBlocks {base offset : Int} {kind : BlockKind} :
    (base + offset, kind) ∈ (toolIndexes base opened).map (·, BlockKind.toolUse) ↔
      (0 ≤ offset ∧ offset < opened) ∧ kind = .toolUse := by
  simp only [mem_map,mem_toolIndexes,Prod.mk.injEq]
  constructor
  · rintro ⟨index,bounds,same,rfl⟩
    exact ⟨by omega,rfl⟩
  · rintro ⟨bounds,rfl⟩
    exact ⟨base + offset,by omega,rfl,rfl⟩

theorem acceptAll_unnamed (unnamed : call.name = "") (base offset : Int) (opened : Nat) :
    (toolPhase base opened).acceptAll (fragmentEvents (base + offset) call : List (ClaudeEvent Usage)) =
      if call.arguments = "" ∨ (0 ≤ offset ∧ offset < opened) then some (toolPhase base opened)
      else none := by
  by_cases silent : call.arguments = ""
  · simp [fragmentEvents,unnamed,silent]
  · simp only [fragmentEvents,unnamed,silent,ne_eq,not_true_eq_false,if_false,
      not_false_eq_true,if_true,nil_append,acceptAll_cons,toolPhase,accept,
      mem_toolBlocks,BlockDelta.kind,and_true,false_or]
    split <;> rfl

theorem convertFragments_tracks {fragments : List (Int × ToolCallResponse)}
    (inside : InTools info opened) (fit : fits opened fragments = true) :
    ∃ more, (toolPhase info.toolCallBaseIndex opened).acceptAll (info.convertFragments fragments).1 =
        some (toolPhase info.toolCallBaseIndex more) ∧
      InTools (info.convertFragments fragments).2 more ∧ opened ≤ more ∧
        (fragments ≠ [] → more ≠ 0) := by
  induction fragments generalizing info opened with
  | nil => exact ⟨opened,rfl,inside,le_rfl,fun some_ => absurd rfl some_⟩
  | cons fragment rest ih =>
    obtain ⟨offset,call⟩ := fragment
    rw [convertFragments,Conversion.andThen,acceptAll_append]
    rw [fits] at fit
    split at fit
    case isTrue named =>
      simp only [Bool.and_eq_true,decide_eq_true_eq] at fit
      obtain ⟨rfl,fit⟩ := fit
      obtain ⟨more,accepted,after,grows,-⟩ := ih (inside.opens call) fit
      refine ⟨more,?_,after,by omega,fun _ => by omega⟩
      dsimp only [convertFragment]
      rwa [acceptAll_named named]
    case isFalse unnamed =>
      simp only [Bool.and_eq_true,decide_eq_true_eq] at fit
      obtain ⟨bounds,fit⟩ := fit
      obtain ⟨more,accepted,after,grows,-⟩ := ih (inside.goesOn bounds call) fit
      refine ⟨more,?_,after,grows,fun _ => by omega⟩
      dsimp only [convertFragment]
      rwa [acceptAll_unnamed (not_not.mp unnamed),if_pos (.inr bounds)]

theorem convertToolCalls_tracks (running : info.done = false) (valid : info.Valid)
    (calls : delta.toolCalls ≠ []) (fit : fits info.openTools delta.fragments = true) :
    Tracks info.phase (info.convertToolCalls delta) ∧
      (info.convertToolCalls delta).2.done = false := by
  obtain ⟨begun,inside⟩ := beginTools_accepts running valid
  obtain ⟨more,accepted,after,-,some_⟩ := convertFragments_tracks inside fit
  have opened : more ≠ 0 := some_ (by simpa [StreamDelta.fragments] using calls)
  have base : (info.beginTools.2.convertFragments delta.fragments).2.toolCallBaseIndex =
      info.beginTools.2.toolCallBaseIndex := by
    rw [convertFragments_info]
  have placed : InTools (info.convertToolCalls delta).2 more :=
    { after with }
  refine ⟨⟨?_,placed.valid⟩,placed.running⟩
  rw [placed.phase_eq opened]
  dsimp only [convertToolCalls,Conversion.andThen]
  rw [append_nil,acceptAll_append,begun,Option.bind_some,accepted,base]

theorem convertDelta_tracks (running : info.done = false) (valid : info.Valid)
    (fit : fits info.openTools delta.fragments = true) :
    Tracks info.phase (info.convertDelta delta) ∧ (info.convertDelta delta).2.done = false := by
  unfold convertDelta
  split
  case isTrue calls => exact convertToolCalls_tracks running valid calls fit
  case isFalse => exact convertContent_tracks running valid (by simp) delta

end

section

variable {usage : Option Usage}

theorem start_between (usage : Option Usage) : BetweenBlocks (start usage) 0 := ⟨rfl, rfl, rfl⟩

theorem valid_of_kind {info : ClaudeConvertInfo Usage} (kind : info.lastMessagesType = .none) :
    info.Valid := by
  intro tools
  rw [kind] at tools
  cases tools

theorem convertFirstToolCall_tracks (calls : List ToolCallResponse) :
    Tracks (start usage).phase ((start usage).convertFirstToolCall calls) ∧
      ((start usage).convertFirstToolCall calls).2.done = false ∧
      ((start usage).convertFirstToolCall calls).2.lastMessagesType ≠ .text ∧
      ((start usage).convertFirstToolCall calls).2.lastMessagesType ≠ .thinking := by
  cases calls with
  | nil => exact ⟨.nil (valid_of_kind rfl),rfl,by simp [convertFirstToolCall,start],
      by simp [convertFirstToolCall,start]⟩
  | cons call rest =>
    have inside : InTools ((start usage).convertFirstToolCall (call :: rest)).2 1 := ⟨rfl,rfl,rfl⟩
    refine ⟨⟨?_,inside.valid⟩,rfl,by simp [convertFirstToolCall],by simp [convertFirstToolCall]⟩
    rw [inside.phase_eq (by simp),(start_between usage).phase_eq]
    by_cases silent : call.arguments = ""
    · simp [convertFirstToolCall,silent,accept,toolPhase,toolIndexes,kind]
    · simp [convertFirstToolCall,silent,accept,toolPhase,toolIndexes,kind,
        BlockDelta.kind]

theorem convertFirst_tracks (usage : Option Usage) (promptTokens : Int) (chunk : StreamChunk Usage) :
    Tracks .fresh ((start usage).convertFirst promptTokens chunk) := by
  have started : Tracks .fresh (([.messageStart chunk.id chunk.model promptTokens], start usage) :
      Conversion Usage) := by
    refine ⟨?_,valid_of_kind rfl⟩
    rfl
  unfold convertFirst
  split
  case h_1 => exact started
  case h_2 choice _ _ =>
    obtain ⟨calls,running,noText,noThinking⟩ :=
      convertFirstToolCall_tracks choice.delta.toolCalls
    have begun := started.andThen calls
    obtain ⟨content,contentRunning⟩ := convertContent_tracks running calls.valid
      (fun _ : true = true => ⟨noText,noThinking⟩) choice.delta
    have converted := begun.andThen content
    split
    case h_1 => exact converted
    case h_2 reason _ =>
      refine converted.andThen ?_
      split
      case h_1 => exact ⟨rfl,converted.valid⟩
      case h_2 => exact tracks_finish contentRunning converted.valid reason _ _

end

end ClaudeConvertInfo

end NewApi
