import NewApi.ClaudeStreamGrammar

/-! # When a converted stream is well formed -/

namespace NewApi

open GuardedRuns StreamPhase List Option ClaudeConvertInfo ClaudeConverter Conversion

variable {Usage : Type} {seen : List Int} {later : List (Int × ToolCallResponse)}
  {block : ContentBlock} {phase : StreamPhase}

/-- Each index appears with a name first and without one afterwards; the new indexes
increase from 0. -/
def orderlyCalls : List Int → List (Int × ToolCallResponse) → Bool
  | _, [] => true
  | seen, (index, call) :: rest =>
    if index ∈ seen then call.name = "" && orderlyCalls seen rest
    else call.name ≠ "" && (!seen.isEmpty || index = 0) && seen.all (· < index) &&
      orderlyCalls (index :: seen) rest

section

variable {seen : List Int} {fragments later : List (Int × ToolCallResponse)} {index : Int}

theorem orderlyCalls_unnamed (orderly : orderlyCalls seen fragments = true) (known : index ∈ seen) :
    ∀ fragment ∈ fragments, fragment.1 = index → fragment.2.name = "" := by
  induction fragments generalizing seen with
  | nil => simp
  | cons first rest ih =>
    obtain ⟨firstIndex,call⟩ := first
    rw [orderlyCalls] at orderly
    intro fragment member same
    split at orderly
    case isTrue =>
      simp only [Bool.and_eq_true,decide_eq_true_eq] at orderly
      rcases mem_cons.mp member with rfl | inRest
      · exact orderly.1
      · exact ih orderly.2 known fragment inRest same
    case isFalse new =>
      simp only [Bool.and_eq_true] at orderly
      rcases mem_cons.mp member with rfl | inRest
      · obtain rfl : firstIndex = index := same
        exact absurd known new
      · exact ih orderly.2 (mem_cons_of_mem firstIndex known) fragment inRest same

variable (nonneg : ∀ index ∈ seen, 0 ≤ index)

include nonneg

theorem orderlyCalls_cons {call : ToolCallResponse}
    (orderly : orderlyCalls seen ((index, call) :: fragments) = true) :
    (call.name = "" ∧ index ∈ seen ∧ orderlyCalls seen fragments = true) ∨
      (call.name ≠ "" ∧ (∀ known ∈ index :: seen, 0 ≤ known) ∧
        orderlyCalls (index :: seen) fragments = true) := by
  rw [orderlyCalls] at orderly
  split at orderly
  case isTrue known =>
    simp only [Bool.and_eq_true,decide_eq_true_eq] at orderly
    exact .inl ⟨orderly.1,known,orderly.2⟩
  case isFalse =>
    simp only [Bool.and_eq_true,decide_eq_true_eq] at orderly
    obtain ⟨⟨⟨named,first⟩,above⟩,rest⟩ := orderly
    refine .inr ⟨named,forall_mem_cons.mpr ⟨?_,nonneg⟩,rest⟩
    cases seen with
    | nil => simp_all
    | cons earlier =>
      have := nonneg earlier mem_cons_self
      have : earlier < index := by simpa using all_eq_true.mp above earlier mem_cons_self
      omega

theorem orderlyCalls_append_right (orderly : orderlyCalls seen (fragments ++ later) = true) :
    ∃ after, (∀ index ∈ after, 0 ≤ index) ∧ orderlyCalls after later = true := by
  induction fragments generalizing seen with
  | nil => exact ⟨seen,nonneg,orderly⟩
  | cons first rest ih =>
    rcases orderlyCalls_cons nonneg orderly with ⟨-,-,restOrderly⟩ | ⟨-,allNonneg,restOrderly⟩
    · exact ih nonneg restOrderly
    · exact ih allNonneg restOrderly

theorem orderlyCalls_nonneg
    (orderly : orderlyCalls seen fragments = true) : ∀ fragment ∈ fragments, 0 ≤ fragment.1 := by
  induction fragments generalizing seen with
  | nil => simp
  | cons first rest ih =>
    obtain ⟨index,call⟩ := first
    rw [forall_mem_cons]
    rcases orderlyCalls_cons nonneg orderly with ⟨-,known,restOrderly⟩ | ⟨-,allNonneg,restOrderly⟩
    · exact ⟨nonneg index known,ih nonneg restOrderly⟩
    · exact ⟨allNonneg index mem_cons_self,ih allNonneg restOrderly⟩

end

def Missing (index : Int) (phase : StreamPhase) : Prop :=
  ∀ next blocks, phase = .streaming next blocks → index ∉ blocks.map Prod.fst

section

variable {index started : Int} {phase after : StreamPhase} (missing : Missing index phase)

include missing

theorem Missing.start (other : started ≠ index)
    (accepted : phase.accept (.contentBlockStart started block : ClaudeEvent Usage) = some after) :
    Missing index after := by
  cases phase with
  | fresh | closing | ended => cases accepted
  | streaming next blocks =>
    simp only [StreamPhase.accept,ite_none_right_eq_some,Option.some.injEq] at accepted
    obtain ⟨-,rfl⟩ := accepted
    rintro - - ⟨⟩
    simpa [other.symm] using missing next blocks rfl

theorem Missing.delta {filled : Int} {delta : BlockDelta}
    (accepted : phase.accept (.contentBlockDelta filled delta : ClaudeEvent Usage) = some after) :
    Missing index after := by
  cases phase with
  | fresh | closing | ended => cases accepted
  | streaming =>
    simp only [StreamPhase.accept,ite_none_right_eq_some,Option.some.injEq] at accepted
    obtain ⟨-,rfl⟩ := accepted
    exact missing

theorem Missing.fragment {call : ToolCallResponse} (other : call.name ≠ "" → started ≠ index)
    (accepted : phase.acceptAll (ClaudeConvertInfo.fragmentEvents started call :
      List (ClaudeEvent Usage)) = some after) : Missing index after := by
  rw [fragmentEvents,acceptAll_append,bind_eq_some_iff] at accepted
  obtain ⟨middle,first,second⟩ := accepted
  have missingMiddle : Missing index middle := by
    split at first
    case isTrue named =>
      obtain ⟨next,starts,rest⟩ := bind_eq_some_iff.mp first
      obtain rfl := Option.some.inj rest
      exact missing.start (other named) starts
    case isFalse =>
      obtain rfl := Option.some.inj first
      exact missing
  split at second
  case isTrue =>
    obtain ⟨next,fills,rest⟩ := bind_eq_some_iff.mp second
    obtain rfl := Option.some.inj rest
    exact missingMiddle.delta fills
  case isFalse =>
    obtain rfl := Option.some.inj second
    exact missingMiddle

theorem Missing.stops {indexes : List Int} (stopped : index ∈ indexes) :
    phase.acceptAll (indexes.map fun index => (.contentBlockStop index : ClaudeEvent Usage)) =
      none := by
  cases phase with
  | streaming next blocks => exact acceptAll_stops_missing next (missing next blocks rfl) stopped
  | fresh | closing | ended =>
    cases indexes with
    | nil => simp at stopped
    | cons => rfl

end

namespace ClaudeConvertInfo

/-- The converter will stop a tool block that was never started. -/
structure Doomed (offset : Int) (info : ClaudeConvertInfo Usage) (phase : StreamPhase) : Prop where
  kind : info.lastMessagesType = .tools
  running : info.done = false
  bounds : 0 ≤ offset ∧ offset ≤ info.toolCallMaxIndexOffset
  missing : Missing (info.toolCallBaseIndex + offset) phase

def StaysDoomed (offset : Int) (phase : StreamPhase) (conversion : Conversion Usage) : Prop :=
  ∀ after, phase.acceptAll conversion.1 = some after → Doomed offset conversion.2 after

section

variable {info : ClaudeConvertInfo Usage} {offset : Int} {phase : StreamPhase}
  {conversion first : Conversion Usage} {next : ClaudeConvertInfo Usage → Conversion Usage}
  {fragments : List (Int × ToolCallResponse)}

theorem StaysDoomed.of_none (refused : phase.acceptAll conversion.1 = none) :
    StaysDoomed offset phase conversion := by
  intro after accepted
  rw [refused] at accepted
  cases accepted

theorem StaysDoomed.andThen (stays : StaysDoomed offset phase first)
    (later : ∀ after, Doomed offset first.2 after → StaysDoomed offset after (next first.2)) :
    StaysDoomed offset phase (first.andThen next) := by
  intro after accepted
  rw [Conversion.andThen,acceptAll_append,bind_eq_some_iff] at accepted
  obtain ⟨middle,firstAccepted,secondAccepted⟩ := accepted
  exact later middle (stays middle firstAccepted) after secondAccepted

section

variable (doomed : Doomed offset info phase)

include doomed

theorem Doomed.stops :
    phase.acceptAll info.stopOpenBlocks = none := by
  rw [stopOpenBlocks_eq]
  apply doomed.missing.stops
  have bounds := doomed.bounds
  simp only [openIndexes,doomed.kind,mem_toolIndexes]
  omega

theorem Doomed.terminate (usage : Option Usage)
    (stopReason : String) : phase.acceptAll (info.terminate usage stopReason).1 = none := by
  rw [ClaudeConvertInfo.terminate,acceptAll_append,doomed.stops]
  rfl

theorem Doomed.openBlock {fresh : Bool} {kind : LastMessagesType}
    (other : kind ≠ .tools) (next : ClaudeConvertInfo Usage → Conversion Usage) :
    phase.acceptAll ((info.openBlock fresh kind block).andThen next).1 = none := by
  have different : info.lastMessagesType ≠ kind := by
    rw [doomed.kind]
    exact other.symm
  rw [ClaudeConvertInfo.openBlock,if_pos different]
  dsimp only [andThen]
  rw [List.append_assoc,acceptAll_append,stopOpenBlocksAndAdvance_events,doomed.stops]
  rfl

theorem Doomed.convertContent (delta : StreamDelta) :
    StaysDoomed offset phase (info.convertContent false delta) := by
  unfold ClaudeConvertInfo.convertContent
  dsimp only
  split
  · exact .of_none (doomed.openBlock (by simp) _)
  split
  · exact .of_none (doomed.openBlock (by simp) _)
  · intro after accepted
    obtain rfl := some.inj accepted
    exact doomed

theorem Doomed.convertFragments
    (unnamed : ∀ fragment ∈ fragments, fragment.1 = offset → fragment.2.name = "") :
    StaysDoomed offset phase (info.convertFragments fragments) := by
  induction fragments generalizing info phase with
  | nil =>
    intro after accepted
    obtain rfl := some.inj accepted
    exact doomed
  | cons fragment rest ih =>
    simp only [forall_mem_cons] at unnamed
    refine StaysDoomed.andThen ?_ fun after stays => ih stays unnamed.2
    intro after accepted
    refine ⟨doomed.kind,doomed.running,?_,?_⟩
    · have := doomed.bounds
      dsimp only [convertFragment]
      omega
    · apply doomed.missing.fragment _ accepted
      intro named same
      exact named (unnamed.1 (by omega))

theorem Doomed.convertDelta {delta : StreamDelta}
    (unnamed : ∀ fragment ∈ delta.fragments, fragment.1 = offset → fragment.2.name = "") :
    StaysDoomed offset phase (info.convertDelta delta) := by
  unfold ClaudeConvertInfo.convertDelta
  split
  · intro after accepted
    have goesOn : info.beginTools = ([], info) := by simp [beginTools,doomed.kind]
    simp only [convertToolCalls,andThen,goesOn,
      List.append_nil] at accepted ⊢
    exact { doomed.convertFragments unnamed after accepted with }
  · exact doomed.convertContent delta

end

variable {opened : Nat} {call : ToolCallResponse}

theorem acceptAll_misplaced (named : call.name ≠ "") (base : Int) (misplaced : offset ≠ opened) :
    (toolPhase base opened).acceptAll (fragmentEvents (base + offset) call : List (ClaudeEvent Usage)) =
      none := by
  have different : ¬ base + offset = base + opened := by omega
  simp [fragmentEvents,named,toolPhase,accept,different]

theorem missing_toolPhase (base : Int) (closed : ¬ (0 ≤ offset ∧ offset < opened)) :
    Missing (base + offset) (toolPhase base opened) := by
  rintro - - ⟨⟩
  simp only [List.map_map,List.mem_map,mem_toolIndexes]
  rintro ⟨index,bounds,same⟩
  simp only [Function.comp_apply] at same
  omega

/-- The events are refused, or doom the converter with an index that is not named later. -/
def Ruins (later : List (Int × ToolCallResponse)) (phase : StreamPhase)
    (conversion : Conversion Usage) : Prop :=
  ∃ offset, (∀ fragment ∈ later, fragment.1 = offset → fragment.2.name = "") ∧
    StaysDoomed offset phase conversion

variable {later : List (Int × ToolCallResponse)}

theorem Ruins.of_none (nonneg : ∀ fragment ∈ later, 0 ≤ fragment.1)
    (refused : phase.acceptAll conversion.1 = none) : Ruins later phase conversion := by
  refine ⟨-1,?_,.of_none refused⟩
  intro fragment member same
  have := nonneg fragment member
  omega

theorem Ruins.after {middle : StreamPhase}
    (accepted : phase.acceptAll first.1 = some middle) (ruins : Ruins later middle (next first.2)) :
    Ruins later phase (first.andThen next) := by
  obtain ⟨offset,unnamed,doomed⟩ := ruins
  refine ⟨offset,unnamed,?_⟩
  intro after whole
  apply doomed after
  rwa [andThen, acceptAll_append, accepted] at whole

theorem doomed_of_silent (inside : InTools info opened) {index : Int} (nonneg : 0 ≤ index)
    (closed : ¬ (0 ≤ index ∧ index < opened)) (unnamed : call.name = "")
    (silent : call.arguments = "") :
    StaysDoomed index (toolPhase info.toolCallBaseIndex opened) (info.convertFragment (index, call)) := by
  intro after accepted
  dsimp only [convertFragment] at accepted ⊢
  rw [acceptAll_unnamed unnamed,if_pos (.inl silent)] at accepted
  obtain rfl := some.inj accepted
  have covered : index ≤ max info.toolCallMaxIndexOffset index := Int.le_max_right _ _
  exact ⟨inside.kind,inside.running,⟨nonneg,covered⟩,missing_toolPhase _ closed⟩

theorem convertFragments_refused {fragment : Int × ToolCallResponse}
    {rest : List (Int × ToolCallResponse)}
    (refused : phase.acceptAll (info.convertFragment fragment).1 = none) :
    phase.acceptAll (info.convertFragments (fragment :: rest)).1 = none := by
  rw [convertFragments,andThen,acceptAll_append,refused]
  rfl

theorem convertFragments_misfit (inside : InTools info opened) (nonneg : ∀ index ∈ seen, 0 ≤ index)
    (orderly : orderlyCalls seen (fragments ++ later) = true)
    (misfit : fits opened fragments = false) :
    Ruins later (toolPhase info.toolCallBaseIndex opened) (info.convertFragments fragments) := by
  have laterNonneg : ∀ fragment ∈ later, 0 ≤ fragment.1 := by
    intro fragment member
    exact orderlyCalls_nonneg nonneg orderly fragment (mem_append_right fragments member)
  induction fragments generalizing info opened seen with
  | nil => simp [fits] at misfit
  | cons fragment rest ih =>
    obtain ⟨index,call⟩ := fragment
    rcases orderlyCalls_cons nonneg orderly with ⟨unnamed,known,restOrderly⟩ |
      ⟨named,allNonneg,restOrderly⟩
    · by_cases bounds : 0 ≤ index ∧ index < opened
      · have goesOn : (toolPhase info.toolCallBaseIndex opened).acceptAll
            (info.convertFragment (index, call)).1 =
              some (toolPhase info.toolCallBaseIndex opened) := by
          dsimp only [convertFragment]
          rw [acceptAll_unnamed unnamed,if_pos (.inr bounds)]
        apply Ruins.after goesOn
        apply ih (inside.goesOn bounds call) nonneg restOrderly
        simpa [fits,unnamed,bounds] using misfit
      · by_cases silent : call.arguments = ""
        · have stays := orderlyCalls_unnamed restOrderly known
          refine ⟨index,fun fragment member => stays fragment (mem_append_right _ member),?_⟩
          apply (doomed_of_silent inside (nonneg index known) bounds unnamed silent).andThen
          intro after doomed
          exact doomed.convertFragments fun fragment member =>
            stays fragment (mem_append_left _ member)
        · apply Ruins.of_none laterNonneg
          apply convertFragments_refused
          dsimp only [convertFragment]
          rw [acceptAll_unnamed unnamed,if_neg (by tauto)]
    · by_cases placed : index = opened
      · subst placed
        apply Ruins.after (acceptAll_named named _ opened)
        apply ih (inside.opens call) allNonneg restOrderly
        simpa [fits,named] using misfit
      · apply Ruins.of_none laterNonneg
        apply convertFragments_refused
        exact acceptAll_misplaced named _ placed

end

section

variable {info : ClaudeConvertInfo Usage}

theorem convertDelta_misfit (running : info.done = false) (valid : info.Valid) {delta : StreamDelta}
    (nonneg : ∀ index ∈ seen, 0 ≤ index)
    (orderly : orderlyCalls seen (delta.fragments ++ later) = true)
    (misfit : fits info.openTools delta.fragments = false) :
    Ruins later info.phase (info.convertDelta delta) := by
  obtain ⟨begun,inside⟩ := beginTools_accepts running valid
  obtain ⟨offset,unnamed,doomed⟩ := convertFragments_misfit inside nonneg orderly misfit
  have calls : delta.toolCalls ≠ [] := by
    intro none
    simp [StreamDelta.fragments,none,fits] at misfit
  refine ⟨offset,unnamed,fun after accepted => ?_⟩
  rw [convertDelta,if_pos calls] at accepted ⊢
  simp only [convertToolCalls,andThen,append_nil,acceptAll_append,begun] at accepted ⊢
  exact { doomed after accepted with }

end

end ClaudeConvertInfo

namespace ClaudeConverter

open ClaudeConvertInfo

def handledCalls (converter : ClaudeConverter Usage) (chunk : StreamChunk Usage) :
    List (Int × ToolCallResponse) :=
  if converter.count = 0 then []
  else ((converter.handledDelta chunk).map StreamDelta.fragments).getD []

/-- The tool calls that are handled open the next block of the current run of tool blocks,
or go on with an open one. -/
def CallsFit (converter : ClaudeConverter Usage) (chunk : StreamChunk Usage) : Prop :=
  fits converter.info.openTools (converter.handledCalls chunk) = true

instance (converter : ClaudeConverter Usage) (chunk : StreamChunk Usage) :
    Decidable (converter.CallsFit chunk) :=
  inferInstanceAs (Decidable (_ = true))

theorem fragments_of_handled {converter : ClaudeConverter Usage} {chunk : StreamChunk Usage}
    {delta : StreamDelta} (handled : converter.handledDelta chunk = some delta) :
    chunk.fragments = delta.fragments := by
  obtain ⟨choice,rest,choices,rfl⟩ := handledDelta_eq_some handled
  simp [StreamChunk.fragments,choices]

section

variable {info : ClaudeConvertInfo Usage} {handled : Option StreamDelta}
  {conversion : Conversion Usage} (effect : ChunkEffect info handled conversion)

include effect

theorem ChunkEffect.tracks (valid : info.Valid)
    (fit : fits info.openTools ((handled.map StreamDelta.fragments).getD []) = true) :
    Tracks info.phase conversion := by
  cases effect with
  | skip => exact ⟨rfl,valid⟩
  | stop running usage stopReason => exact tracks_terminate running valid usage stopReason
  | content running => exact (convertDelta_tracks running valid fit).1
  | last running delta reason usage stopReason =>
    have runs : (info.withFinish reason).done = false := running
    have isValid : (info.withFinish reason).Valid := valid
    obtain ⟨content,contentRuns⟩ := convertDelta_tracks runs isValid fit
    exact content.andThen (tracks_terminate contentRuns content.valid usage stopReason)

theorem ChunkEffect.misfit (valid : info.Valid) (nonneg : ∀ index ∈ seen, 0 ≤ index)
    (orderly : ∀ delta ∈ handled, orderlyCalls seen (delta.fragments ++ later) = true)
    (misfit : fits info.openTools ((handled.map StreamDelta.fragments).getD []) = false) :
    Ruins later info.phase conversion := by
  cases effect with
  | skip | stop => simp [fits] at misfit
  | content running delta =>
    exact convertDelta_misfit running valid nonneg (orderly delta rfl) misfit
  | last running delta reason usage stopReason =>
    have runs : (info.withFinish reason).done = false := running
    have isValid : (info.withFinish reason).Valid := valid
    obtain ⟨offset,unnamed,doomed⟩ :=
      convertDelta_misfit runs isValid nonneg (orderly delta rfl) misfit
    exact ⟨offset,unnamed,StaysDoomed.andThen doomed fun after stays =>
      .of_none (stays.terminate usage stopReason)⟩

theorem ChunkEffect.doomed {offset : Int} (doomed : Doomed offset info phase)
    (unnamed : ∀ delta ∈ handled, ∀ fragment ∈ delta.fragments,
      fragment.1 = offset → fragment.2.name = "") :
    StaysDoomed offset phase conversion := by
  cases effect with
  | skip =>
    intro after accepted
    obtain rfl := some.inj accepted
    exact { doomed with }
  | stop _ usage stopReason => exact .of_none (doomed.terminate usage stopReason)
  | content _ delta => exact doomed.convertDelta (unnamed delta rfl)
  | last _ delta reason usage stopReason =>
    have finishes : Doomed offset (info.withFinish reason) phase := { doomed with }
    exact (finishes.convertDelta (unnamed delta rfl)).andThen fun after stays =>
      .of_none (stays.terminate usage stopReason)

end

section

variable {promptTokens : Int}
  {converter : ClaudeConverter Usage} {chunks : List (StreamChunk Usage)}

theorem doomed_refused (later : converter.count ≠ 0) {offset : Int}
    (doomed : Doomed offset converter.info phase)
    (unnamed : ∀ fragment ∈ chunks.flatMap StreamChunk.fragments, fragment.1 = offset →
      fragment.2.name = "") :
    phase.acceptAll (converter.convertStream promptTokens chunks) = none := by
  induction chunks generalizing converter phase with
  | nil =>
    rw [convertStream,finalize,if_neg (by simp [doomed.running])]
    exact doomed.terminate _ _
  | cons chunk chunks ih =>
    have stays := (convert_effect promptTokens later chunk).doomed doomed
      fun delta handled fragment member => unnamed fragment
        (mem_append_left _ (fragments_of_handled handled ▸ member))
    rw [convertStream,acceptAll_append]
    cases accepted : phase.acceptAll (converter.convert promptTokens chunk).1 with
    | none => rfl
    | some after =>
      exact ih (Nat.succ_ne_zero _) (stays after accepted)
        fun fragment member => unnamed fragment (mem_append_right _ member)

theorem finalize_ends {info : ClaudeConvertInfo Usage} (valid : info.Valid) :
    info.phase.acceptAll info.finalize.1 = some .ended := by
  unfold finalize
  split
  case isTrue done => simp [phase,done]
  case isFalse running =>
    rw [(tracks_terminate (by simpa using running) valid _ _).accepted]
    simp [phase,terminate]

theorem accepted_iff_guarded (later : converter.count ≠ 0) (valid : converter.info.Valid)
    (nonneg : ∀ index ∈ seen, 0 ≤ index)
    (orderly : orderlyCalls seen (chunks.flatMap StreamChunk.fragments) = true) :
    converter.info.phase.acceptAll (converter.convertStream promptTokens chunks) = some .ended ↔
      Guarded (feed promptTokens) CallsFit converter chunks := by
  induction chunks generalizing converter seen with
  | nil => simp [convertStream,finalize_ends valid,Guarded]
  | cons chunk chunks ih =>
    rw [flatMap_cons] at orderly
    have effect := convert_effect promptTokens later chunk
    rw [convertStream,acceptAll_append,Guarded]
    by_cases fit : converter.CallsFit chunk
    · have tracks := effect.tracks valid (by simpa [CallsFit,handledCalls,later] using fit)
      obtain ⟨after,afterNonneg,restOrderly⟩ := orderlyCalls_append_right nonneg orderly
      have nextValid : (converter.feed promptTokens chunk).info.Valid := tracks.valid
      rw [tracks.accepted,and_iff_right fit]
      exact ih (Nat.succ_ne_zero _) nextValid afterNonneg restOrderly
    · obtain ⟨offset,unnamed,doomed⟩ := effect.misfit valid nonneg
        (fun delta handled => fragments_of_handled handled ▸ orderly)
        (by simpa [CallsFit,handledCalls,later] using fit)
      have refused : ¬ ((converter.info.phase.acceptAll (converter.convert promptTokens chunk).1).bind
          fun after => after.acceptAll ((converter.feed promptTokens chunk).convertStream
            promptTokens chunks)) = some .ended := by
        cases accepted : converter.info.phase.acceptAll (converter.convert promptTokens chunk).1 with
        | none => simp
        | some after =>
          rw [bind_some,doomed_refused (Nat.succ_ne_zero _) (doomed after accepted) unnamed]
          simp
      simp [fit,refused]

end

end ClaudeConverter

/-- A client reads the events of the chunks to the end; without any chunk there is no
`message_start`. -/
def ReadsStream (chunks : List (StreamChunk Usage)) (events : List (ClaudeEvent Usage)) : Prop :=
  (if chunks.isEmpty then .streaming 0 [] else .fresh : StreamPhase).acceptAll events = some .ended

open ClaudeConvertInfo ClaudeConverter in
/-- The events of a stream whose tool calls come in order are well formed exactly when every
chunk hands the converter only tool calls that open the next block of the current run of tool
blocks or go on with an open one. -/
theorem claude_stream_well_formed_iff (promptTokens : Int) (usage : Option Usage)
    (chunks : List (StreamChunk Usage))
    (orderly : orderlyCalls [] (chunks.flatMap StreamChunk.fragments) = true) :
    ReadsStream chunks ((ClaudeConverter.start usage).convertStream promptTokens chunks) ↔
      Guarded (ClaudeConverter.feed promptTokens) ClaudeConverter.CallsFit
        (ClaudeConverter.start usage) chunks := by
  cases chunks with
  | nil =>
    have ends := finalize_ends (valid_of_kind (start_between usage).kind)
    rw [(start_between usage).phase_eq] at ends
    simpa [ReadsStream,convertStream,ClaudeConverter.start,Guarded] using ends
  | cons chunk =>
    -- Nothing of the first chunk has to fit.
    have fit : (ClaudeConverter.start usage).CallsFit chunk := by
      simp [CallsFit,handledCalls,ClaudeConverter.start,fits]
    have tracks := convertFirst_tracks usage promptTokens chunk
    obtain ⟨after,nonneg,restOrderly⟩ := orderlyCalls_append_right (by simp) orderly
    have valid : ((ClaudeConverter.start usage).feed promptTokens chunk).info.Valid := tracks.valid
    rw [Guarded,and_iff_right fit,
      ← accepted_iff_guarded (Nat.succ_ne_zero _) valid nonneg restOrderly]
    have first : StreamPhase.fresh.acceptAll
        ((ClaudeConverter.start usage).convert promptTokens chunk).1 =
          some ((ClaudeConverter.start usage).feed promptTokens chunk).info.phase := tracks.accepted
    simp [ReadsStream,convertStream,acceptAll_append,first]

def chunkOf (delta : StreamDelta) (finishReason : Option String) (usage : Option Nat) :
    StreamChunk Nat where
  id := "chatcmpl"
  model := "gpt"
  choices := [⟨delta, finishReason⟩]
  usage := usage

def textDelta (text : String) : StreamDelta := ⟨some text, none, none, []⟩

def toolDelta (index : Int) (name arguments : String) : StreamDelta :=
  ⟨none, none, none, [⟨some index, "call", name, arguments⟩]⟩

/-- Text, then two tool calls whose parts alternate. -/
theorem claude_stream_parallel_tools :
    ReadsStream
      [chunkOf (textDelta "hi") none none, chunkOf (toolDelta 0 "f" "a") none none,
        chunkOf (toolDelta 1 "g" "b") none none, chunkOf (toolDelta 0 "" "c") none none,
        chunkOf (textDelta "") (some "tool_calls") (some 7)]
      ((ClaudeConverter.start none).convertStream 3
        [chunkOf (textDelta "hi") none none, chunkOf (toolDelta 0 "f" "a") none none,
          chunkOf (toolDelta 1 "g" "b") none none, chunkOf (toolDelta 0 "" "c") none none,
          chunkOf (textDelta "") (some "tool_calls") (some 7)]) :=
  (claude_stream_well_formed_iff 3 none _ (by decide +kernel)).mpr (by decide +kernel)

/-- Text between two parts of a tool call: the second part goes to a block that was never
started. -/
theorem claude_stream_interleaved_tool :
    ¬ ∀ chunks : List (StreamChunk Nat),
      orderlyCalls [] (chunks.flatMap StreamChunk.fragments) = true →
      ReadsStream chunks ((ClaudeConverter.start none).convertStream 3 chunks) := by
  intro wellFormed
  have reads := wellFormed
    [chunkOf (textDelta "") none none, chunkOf (toolDelta 0 "f" "a") none none,
      chunkOf (textDelta "hi") none none, chunkOf (toolDelta 0 "" "b") none none] (by decide +kernel)
  exact absurd reads (by unfold ReadsStream; decide +kernel)

end NewApi
