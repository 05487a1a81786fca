import NewApi.ResponsesStreamEvents

/-!
# The tool calls of a Responses stream

The chunks of a stream have one index for each tool item. The indexes follow the items' first
events other than a delta: an item whose deltas come first has to wait for its place.
-/

namespace NewApi

open ToolTables List Option EmittingRuns

section

variable {Usage : Type} {state : ResponsesToChatStreamState Usage} {items : List ToolItem}
  {progress : Progress} {sent : List (Nat × ToolFragment)}

theorem toolDelta_of_settled {address : Nat}
    (settled : ∀ tool, state.tools[address]? = some tool → ToolSettled tool) :
    state.toolDelta address [] = some (state, []) := by
  unfold ResponsesToChatStreamState.toolDelta
  cases found : state.tools[address]? with
  | none => rfl
  | some tool =>
    have done := settled tool found
    have nothing : argsDelta tool [] = some [] := by simp [argsDelta,done.args]
    simp [nothing,done.sent,done.name]

theorem usageChunks_fragments (state : ResponsesToChatStreamState Usage) :
    sentFragments state.usageChunks = [] := by
  unfold ResponsesToChatStreamState.usageChunks
  split <;> rfl

theorem endingChunks_fragments (state : ResponsesToChatStreamState Usage)
    (response : Option ResponsesResponse) :
    sentFragments (state.endingChunks response).2 = [] := by
  change sentFragments (state.ensureStart.2 ++
    ([state.ensureStart.1.makeChunk {} (some (state.ensureStart.1.finishReason response))] ++
      state.ensureStart.1.usageChunks)) = []
  rw [sentFragments_append,sentFragments_append,ensureStart_fragments,usageChunks_fragments]
  rfl

theorem addPending_of_empty {tables : ToolTables} (noOutputs : tables.pendingArgsByOutputIndex = ∅)
    (noItems : tables.pendingArgsByItemId = ∅) (key : ToolKey) (address : Nat) :
    tables.addPending key address = tables := by
  obtain ⟨nextIndex,tools,byKey,byOutput,byItem,byCall,outputs,waitingItems⟩ := tables
  subst noOutputs noItems
  have unchanged : (fun tool : ResponsesStreamTool =>
      { tool with arguments := tool.arguments ++ [] }) = id := by
    funext tool
    simp
  cases key with
  | call => rfl
  | output index | item id =>
    simp only [addPending,AList.lookup_empty,getD_none,unchanged]
    simp [modifyTool]
    rfl

variable (tracks : Tracks items progress none state.toToolTables sent)
  (allOpen : ∀ item ∈ items, item ∈ progress.opened)

include tracks allOpen

theorem Tracks.pending_empty : state.pendingArgsByOutputIndex = ∅ := by
  have noneWaits : ∀ index, state.pendingArgsByOutputIndex.lookup index = none := by
    intro index
    cases waits : state.pendingArgsByOutputIndex.lookup index with
    | none => rfl
    | some waiting =>
      obtain ⟨-,item,member,rfl⟩ := tracks.waitingItems index waiting waits
      obtain ⟨address,here⟩ := getElem?_of_mem (allOpen item member)
      exact absurd waits (by simp [(tracks.bound_of_open here).noneWaits])
  cases entries : state.pendingArgsByOutputIndex.entries with
  | nil => exact AList.ext entries
  | cons entry =>
    have found := noneWaits entry.1
    rw [AList.lookup,entries,dlookup_cons_eq] at found
    exact absurd found (some_ne_none _)

/-- When every item is open, nothing is left to flush. -/
theorem Tracks.flushKey {key : ToolKey} (known : key ∈ state.toolByKey.keys) :
    state.flushKey key = some (state, []) := by
  obtain ⟨address,leads⟩ :=
    isSome_iff_exists.mp (AList.lookup_isSome.mpr (AList.mem_keys.mpr known))
  have unchanged :=
    addPending_of_empty (tracks.pending_empty allOpen) tracks.noItemWaits key address
  have flushed : state.flushTool key = (state.toToolTables, address) := by
    simp [flushTool,toolOrNew,leads,unchanged]
  rw [ResponsesToChatStreamState.flushKey,flushed]
  apply toolDelta_of_settled
  intro tool found
  have inRange := (List.getElem?_eq_some_iff.mp found).1
  rw [tracks.addresses] at inRange
  exact (tracks.settled address _ tool (getElem?_eq_getElem inRange)
    (by simp) found).1

variable (state) in
theorem Tracks.flushAllPendingTools : state.flushAllPendingTools = some (state, []) := by
  have known : ∀ key ∈ state.flushKeys, key ∈ state.toolByKey.keys := by
    intro key member
    simpa [flushKeys,tracks.pending_empty allOpen,tracks.noItemWaits] using member
  have idle : ∀ key ∈ state.flushKeys, ∀ next (sent : List (ChatChunk Usage)),
      next = state ∧ sent = [] → ∃ after emitted, next.flushKey key = some (after, emitted) ∧
        after = state ∧ sent ++ emitted = [] := by
    rintro key member next sent ⟨rfl,rfl⟩
    exact ⟨next,[],tracks.flushKey allOpen (known key member),rfl,rfl⟩
  obtain ⟨last,chunks,result,rfl,none⟩ :=
    emitAll_keeps (fun next sent => next = state ∧ sent = []) idle ⟨rfl,rfl⟩
  rw [ResponsesToChatStreamState.flushAllPendingTools,result,← none,nil_append]

theorem Tracks.finalize (response : Option ResponsesResponse) :
    SendsNoTools (state.finalize response) state := by
  unfold ResponsesToChatStreamState.finalize
  split
  · exact sendsNoTools_idle
  · rw [Tracks.flushAllPendingTools { state with finalized := true } tracks allOpen]
    exact ⟨_,_,rfl,ensureStart_tables _,endingChunks_fragments _ response⟩

theorem Tracks.terminalOutput (proper : ProperItems items)
    (allNamed : ∀ item ∈ items, progress.named item = true) {output : ResponsesOutput}
    (repeats : isResponsesToolOutputType output.type →
      ∃ item ∈ items, item.Describes output ∧
        utf8Bytes output.argumentsString = progress.text item) :
    ∃ next chunks, state.terminalOutput output = some (next, chunks) ∧
      Tracks items progress none next.toToolTables (sent ++ sentFragments chunks) := by
  have idle : ∀ {result}, SendsNoTools result state → ∃ next chunks, result = some (next, chunks) ∧
      Tracks items progress none next.toToolTables (sent ++ sentFragments chunks) := by
    rintro result ⟨next,chunks,same,tables,none⟩
    exact ⟨next,chunks,same,by rwa [tables,none,append_nil]⟩
  unfold ResponsesToChatStreamState.terminalOutput
  split
  · exact idle (textDelta_sendsNoTools _)
  split
  · exact idle (reasoningDelta_sendsNoTools _)
  split
  · rename_i isTool
    obtain ⟨item,member,describes,sameArgs⟩ := repeats isTool
    have sends := tracks.toolItem proper member { type := .other "", item := some output } rfl
      describes (.inr ⟨rfl,allOpen item member⟩) (.inr sameArgs)
    have unchanged : (progress.opening item).naming item = progress := by
      rw [Progress.opening_of_mem _ _ (allOpen item member)]
      have same : (fun other => decide (other = item) || progress.named other) =
          progress.named := by
        funext other
        by_cases isItem : other = item
        · simp [isItem,allNamed item member]
        · simp [isItem]
      rw [Progress.naming,same]
    rw [unchanged] at sends
    exact sends
  · exact idle sendsNoTools_idle

end

section

variable {Usage : Type} {items : List ToolItem} {stream : List (StreamedEvent Usage)}
  {response : ResponsesResponse}

namespace ProperStream

variable (proper : ProperStream items stream response)

include proper

theorem done_mem {item : ToolItem} (member : item ∈ items) :
    ∃ output, (item, ItemEvent.done output) ∈ itemEvents stream := by
  obtain ⟨before,output,whole,-⟩ := (proper.events item member).ending
  exact ⟨output,mem_fragmentsOf.mp (by simp [whole])⟩

theorem mem_openingOrder {item : ToolItem} : item ∈ openingOrder stream ↔ item ∈ items := by
  rw [openingOrder,mem_fragmentKeys]
  constructor
  · rintro ⟨⟨other,event⟩,member,rfl⟩
    obtain ⟨streamed,streamedMember,isEvent⟩ :=
      mem_filterMap.mp (mem_of_mem_filter member)
    cases streamed with
    | plain => exact absurd isEvent.symm (some_ne_none _)
    | ofItem item event =>
      obtain ⟨rfl,rfl⟩ := Prod.mk.inj (some.inj isEvent)
      exact proper.known item event streamedMember
  · intro member
    obtain ⟨output,isDone⟩ := proper.done_mem member
    exact ⟨(item, .done output),mem_filter.mpr ⟨isDone,rfl⟩,rfl⟩

theorem allOpen : ∀ item ∈ items, item ∈ (progressOf (itemEvents stream)).opened := by
  intro item member
  rw [progressOf_opened]
  exact proper.mem_openingOrder.mpr member

theorem allNamed : ∀ item ∈ items, (progressOf (itemEvents stream)).named item = true := by
  intro item member
  obtain ⟨output,isDone⟩ := proper.done_mem member
  exact progressOf_named isDone

theorem endStream {state : ResponsesToChatStreamState Usage} {sent : List (ChatChunk Usage)}
    (tracks : StreamTracks items stream state sent) (usage : Option Usage) :
    ∃ last chunks, endStream state (some response) usage = some (last, chunks) ∧
      StreamTracks items stream last (sent ++ chunks) := by
  have eachOutput : ∀ output ∈ response.output, ∀ state sent,
      StreamTracks items stream state sent →
      ∃ next emitted, state.terminalOutput output = some (next, emitted) ∧
        StreamTracks items stream next (sent ++ emitted) := by
    intro output member state sent tracks
    obtain ⟨next,emitted,result,after⟩ :=
      Tracks.terminalOutput tracks proper.allOpen proper.distinct proper.allNamed fun isTool => by
        obtain ⟨item,itemMember,describes,args⟩ := proper.final output member isTool
        exact ⟨item,itemMember,describes,by rw [args,progressOf_text]; rfl⟩
    exact ⟨next,emitted,result,by rwa [StreamTracks,sentFragments_append]⟩
  have named : StreamTracks items stream (state.applyResponseMetadata (some response) usage) sent :=
    tracks
  obtain ⟨repeated,chunks,result,after⟩ :=
    emitAll_keeps (StreamTracks items stream) eachOutput named
  obtain ⟨last,more,ending,tables,none⟩ := Tracks.finalize after proper.allOpen (some response)
  refine ⟨last,chunks ++ more,?_,?_⟩
  · have outputs : (state.applyResponseMetadata (some response) usage).terminalOutputChunks
        (some response) = some (repeated, chunks) := result
    simp [NewApi.endStream,outputs,ending]
  · rwa [StreamTracks,← append_assoc,sentFragments_append,none,append_nil,tables]

end ProperStream

end

section

variable {Usage : Type} (state : ResponsesToChatStreamState Usage)

theorem toolDelta_isSome (address : Nat) (explicit : List UInt8) :
    (state.toolDelta address explicit).isSome := by
  unfold ResponsesToChatStreamState.toolDelta
  cases state.tools[address]? with
  | none => rfl
  | some tool =>
    obtain ⟨args,given⟩ := isSome_iff_exists.mp (argsDelta_isSome tool explicit)
    simp only [given,bind_eq_bind,bind_some]
    split <;> rfl

variable (event : ResponsesStreamResponse Usage)

theorem toolItem_isSome (item : ResponsesOutput) :
    (state.toolItem event item).isSome := by
  unfold ResponsesToChatStreamState.toolItem
  split
  · rfl
  · exact toolDelta_isSome _ _ _

theorem toolArgumentsDelta_isSome :
    (state.toolArgumentsDelta event).isSome := by
  unfold ResponsesToChatStreamState.toolArgumentsDelta
  dsimp only
  split
  · rfl
  split
  · exact toolDelta_isSome _ _ _
  split
  · rfl
  split <;> rfl

theorem flushPendingTool_isSome :
    (state.flushPendingTool event).isSome := by
  unfold ResponsesToChatStreamState.flushPendingTool
  split
  · exact toolDelta_isSome _ _ _
  split
  · rfl
  · exact toolDelta_isSome _ _ _

theorem terminalOutput_isSome (output : ResponsesOutput) :
    (state.terminalOutput output).isSome := by
  unfold ResponsesToChatStreamState.terminalOutput
  split
  · rfl
  split
  · rfl
  split
  · exact toolItem_isSome _ _ _
  · rfl

variable (response : Option ResponsesResponse)

theorem finalize_isSome : (state.finalize response).isSome := by
  unfold ResponsesToChatStreamState.finalize
  split
  · rfl
  · have flushed : ({ state with finalized := true }.flushAllPendingTools).isSome :=
      emitAll_isSome (fun state key => toolDelta_isSome _ _ _) _ _
    obtain ⟨result,isResult⟩ := isSome_iff_exists.mp flushed
    rw [isResult]
    rfl

theorem endStream_isSome (usage : Option Usage) : (endStream state response usage).isSome := by
  have repeated : ((state.applyResponseMetadata response usage).terminalOutputChunks
      response).isSome := emitAll_isSome terminalOutput_isSome _ _
  obtain ⟨⟨sent,chunks⟩,isSent⟩ := isSome_iff_exists.mp repeated
  obtain ⟨⟨last,more⟩,isLast⟩ := isSome_iff_exists.mp (finalize_isSome sent response)
  simp [endStream,isSent,isLast]

/-- No slice is out of range, whatever the events and the state are. -/
theorem sendEvent_isSome :
    (sendEvent state event).isSome := by
  rw [sendEvent_eq_eventChunks]
  unfold eventChunks
  split
  case h_7 | h_8 =>
    split
    · rfl
    split
    · exact toolItem_isSome _ _ _
    · rfl
  all_goals
    first
    | rfl
    | exact toolArgumentsDelta_isSome _ _
    | exact flushPendingTool_isSome _ _
    | exact endStream_isSome _ _ _

theorem sendStream_isSome (events : List (ResponsesStreamResponse Usage)) :
    (sendStream state events).isSome := by
  have sent := emitAll_isSome sendEvent_isSome state events
  obtain ⟨⟨middle,chunks⟩,isSent⟩ := isSome_iff_exists.mp sent
  obtain ⟨⟨last,more⟩,isLast⟩ := isSome_iff_exists.mp (finalize_isSome middle none)
  simp [sendStream,isSent,finalizeResponsesToChatStream,isLast]

end

theorem Tracks.carriesCalls {items : List ToolItem} {progress : Progress} {tables : ToolTables}
    {sent : List (Nat × ToolFragment)} (tracks : Tracks items progress none tables sent)
    (allNamed : ∀ item ∈ items, progress.named item = true) {text : ToolItem → String}
    (sameText : ∀ item, progress.text item = utf8Bytes (text item)) :
    CarriesCalls progress.opened text sent := by
  refine ⟨tracks.fragments,?_⟩
  intro position item there
  obtain ⟨tool,found⟩ := tracks.tool_of_open there
  have isTool := tracks.tools position item tool there found
  obtain ⟨settled,bound⟩ :=
    tracks.settled position item tool there nofun found
  have isName := isTool.named (allNamed item (tracks.known item (mem_of_getElem? there)))
  constructor
  · rw [isTool.names,← isName]
    by_cases empty : tool.name = ""
    · have notSent : tool.nameSent = false := by
        by_contra nameSent
        exact isTool.nameSent (by simpa using nameSent) empty
      simp [notSent,empty]
    · simp [settled.name.resolve_left empty,empty]
  · have arguments := isTool.arguments
    rw [bound.waiting_nil,append_nil] at arguments
    rw [isTool.argsSent,settled.args,take_length,arguments,sameText]

/-- The chunks of a proper stream have one index for each tool item, in the order of the items'
first events other than a delta, with the name once and the arguments that were streamed; and no
stream at all makes a slice go out of range. -/
theorem responses_stream_keeps_calls {Usage : Type} (items : List ToolItem)
    (stream : List (StreamedEvent Usage)) (response : ResponsesResponse) (usage : Option Usage)
    (model : String) (includeUsage : Bool) (noUsage : Usage)
    (proper : ProperStream items stream response) :
    (∃ last chunks,
      sendStream (newResponsesToChatStreamState model includeUsage noUsage)
        (stream.map StreamedEvent.event ++
          [{ type := .completed, response := some response, usage := usage }]) =
        some (last, chunks) ∧
      (openingOrder stream).Perm items ∧
      CarriesCalls (openingOrder stream) (streamedText stream) (sentFragments chunks)) ∧
    ∀ (state : ResponsesToChatStreamState Usage) events, (sendStream state events).isSome := by
  refine ⟨?_,sendStream_isSome⟩
  have fresh : (newResponsesToChatStreamState model includeUsage noUsage).toToolTables = {} := rfl
  obtain ⟨middle,chunks,streamed,tracked⟩ := proper.tracks fresh
  obtain ⟨last,more,ending,tracks⟩ := proper.endStream tracked usage
  obtain ⟨final,nothing,finalized,-,none⟩ := Tracks.finalize tracks proper.allOpen Option.none
  refine ⟨final,(chunks ++ (more ++ [])) ++ nothing,?_,?_,?_⟩
  · have completed : EmittingRuns.emitAll sendEvent middle
        [{ type := .completed, response := some response, usage := usage }] =
          some (last, more ++ []) := by
      apply emitAll_cons_of _ rfl
      rwa [sendEvent_eq_eventChunks]
    simp only [sendStream,emitAll_append_of streamed completed,
      finalizeResponsesToChatStream,finalized,bind_eq_bind,bind_some]
  · have distinct : items.Nodup := List.Nodup.of_map _ proper.distinct.outputIndexes
    have orderDistinct : (openingOrder stream).Nodup := by
      rw [openingOrder,← progressOf_opened]
      exact tracks.distinct
    exact (perm_ext_iff_of_nodup orderDistinct distinct).mpr fun item =>
      proper.mem_openingOrder
  · rw [sentFragments_append,none,append_nil,append_nil,openingOrder,
      ← progressOf_opened]
    exact Tracks.carriesCalls tracks proper.allNamed fun item => progressOf_text _ item

def lateItem : ToolItem := ⟨0, "fc_1", "call_1", "late"⟩

def promptItem : ToolItem := ⟨1, "fc_2", "call_2", "prompt"⟩

def ToolItem.output (item : ToolItem) (arguments : String) : ResponsesOutput :=
  { type := .functionCall, id := item.id, callId := item.callId, name := item.name,
    arguments := JsonStrings.quote arguments }

def earlyDelta : List (StreamedEvent Unit) :=
  [.ofItem lateItem (.argumentsDelta false "1"),
    .ofItem promptItem (.added (promptItem.output "")),
    .ofItem lateItem (.added (lateItem.output "")),
    .ofItem promptItem (.argumentsDelta false "2"),
    .ofItem lateItem (.argumentsDelta false "1"),
    .ofItem promptItem (.argumentsDone false),
    .ofItem promptItem (.done (promptItem.output "2")),
    .ofItem lateItem (.done (lateItem.output "11"))]

def earlyDeltaResponse : ResponsesResponse :=
  { id := "resp_1", model := "gpt", status := "\"completed\"", incompleteReason := none
    output := [lateItem.output "11", promptItem.output "2"] }

theorem earlyDelta_proper :
    ProperStream [lateItem, promptItem] earlyDelta earlyDeltaResponse := by
  have described : ∀ (item : ToolItem) arguments, item.Describes (item.output arguments) :=
    fun _ _ => ⟨rfl,rfl,rfl,rfl⟩
  have quoted : ∀ (item : ToolItem) arguments,
      (item.output arguments).argumentsString = arguments := fun _ arguments =>
    jsonRawMessageToString_quote arguments
  refine ⟨⟨by decide,by decide,by decide,by decide⟩,?_,?_,?_,?_⟩
  · simp [earlyDelta]
  · intro item event member
    have isTagged : (item, event) ∈ itemEvents earlyDelta :=
      mem_filterMap.mpr ⟨_,member,rfl⟩
    have tags : ∀ tagged ∈ itemEvents earlyDelta, tagged.1 ∈ [lateItem, promptItem] := by decide
    exact tags _ isTagged
  · intro item member
    rcases mem_pair.mp member with rfl | rfl
    · exact
        ⟨⟨lateItem.output "",by decide,described _ _,quoted _ _⟩,
          ⟨[.argumentsDelta false "1", .added (lateItem.output ""), .argumentsDelta false "1"],
            lateItem.output "11",by decide,by simp,described _ _,by rw [quoted]; decide⟩⟩
    · exact
        ⟨⟨promptItem.output "",by decide,described _ _,quoted _ _⟩,
          ⟨[.added (promptItem.output ""), .argumentsDelta false "2", .argumentsDone false],
            promptItem.output "2",by decide,by simp,described _ _,by rw [quoted]; decide⟩⟩
  · intro output member isTool
    rcases mem_pair.mp member with rfl | rfl
    · exact ⟨lateItem,by simp,described _ _,by rw [quoted]; decide⟩
    · exact ⟨promptItem,by simp,described _ _,by rw [quoted]; decide⟩

theorem earlyDelta_carriesCalls :
    ∃ last chunks,
      sendStream (newResponsesToChatStreamState "gpt" false ())
        (earlyDelta.map StreamedEvent.event ++
          [{ type := .completed, response := some earlyDeltaResponse, usage := none }]) =
        some (last, chunks) ∧
      CarriesCalls [promptItem, lateItem] (streamedText earlyDelta) (sentFragments chunks) := by
  obtain ⟨last,chunks,sent,-,keeps⟩ := (responses_stream_keeps_calls [lateItem, promptItem]
    earlyDelta earlyDeltaResponse none "gpt" false () earlyDelta_proper).1
  have order : openingOrder earlyDelta = [promptItem, lateItem] := by decide
  exact ⟨last,chunks,sent,order ▸ keeps⟩

/-- The item that appears first in the stream does not get the first index. -/
theorem earlyDelta_not_in_appearance_order :
    ProperStream [lateItem, promptItem] earlyDelta earlyDeltaResponse ∧
      ¬ ∃ last chunks,
        sendStream (newResponsesToChatStreamState "gpt" false ())
          (earlyDelta.map StreamedEvent.event ++
            [{ type := .completed, response := some earlyDeltaResponse, usage := none }]) =
          some (last, chunks) ∧
        CarriesCalls (appearanceOrder earlyDelta) (streamedText earlyDelta)
          (sentFragments chunks) := by
  refine ⟨earlyDelta_proper,?_⟩
  rintro ⟨last,chunks,sent,-,keeps⟩
  have names : (sendStream (newResponsesToChatStreamState "gpt" false ())
      (earlyDelta.map StreamedEvent.event ++
        [{ type := .completed, response := some earlyDeltaResponse, usage := none }])).map
      (fun result => ((fragmentsOf 0 (sentFragments result.2)).map ToolFragment.name).filter
        (· ≠ "")) = some ["prompt"] := by decide
  obtain ⟨first,-⟩ := keeps 0 lateItem (by decide)
  rw [sent,map_some,first] at names
  exact absurd names (by decide)

end NewApi
