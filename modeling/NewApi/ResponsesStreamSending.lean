import NewApi.ResponsesStreamBinding

/-! # What a tool event sends -/

namespace NewApi

open ResponsesToChatStreamState ToolTables List

section

variable {Usage : Type}

@[simp]
theorem sentFragments_append (first second : List (ChatChunk Usage)) :
    sentFragments (first ++ second) = sentFragments first ++ sentFragments second :=
  flatMap_append

variable (state : ResponsesToChatStreamState Usage)

@[simp]
theorem ensureStart_tables : state.ensureStart.1.toToolTables = state.toToolTables := by
  unfold ensureStart
  split <;> rfl

@[simp]
theorem ensureStart_fragments : sentFragments state.ensureStart.2 = [] := by
  unfold ensureStart
  split <;> rfl

theorem startAndSend_fragments {delta : ChatDelta} (noCalls : delta.toolCalls = []) :
    sentFragments (state.startAndSend delta).2 = [] := by
  have noFragment : sentFragments [state.ensureStart.1.makeChunk delta none] = [] := by
    simp [sentFragments,makeChunk,noCalls]
  change sentFragments (state.ensureStart.2 ++ [state.ensureStart.1.makeChunk delta none]) = []
  rw [sentFragments_append,ensureStart_fragments,noFragment,append_nil]

variable {state} {tool : ResponsesStreamTool} {address : Nat} {explicit args : List UInt8}

theorem argsDelta_isSome (tool : ResponsesStreamTool) (explicit : List UInt8) :
    (argsDelta tool explicit).isSome := by
  unfold argsDelta
  split
  · rename_i behind
    simp [sliceFrom,Nat.le_of_lt behind.2]
  · rfl

theorem argsDelta_eq (within : tool.argsSentAt ≤ tool.arguments.length)
    (suits : explicit = [] ∨ explicit = tool.arguments.drop tool.argsSentAt) :
    argsDelta tool explicit = some (tool.arguments.drop tool.argsSentAt) := by
  unfold argsDelta
  split
  · simp [sliceFrom,within]
  · rename_i notBehind
    rcases suits with rfl | rfl
    · have atEnd : tool.arguments.length ≤ tool.argsSentAt := by
        by_contra behind
        exact notBehind ⟨rfl,by omega⟩
      rw [drop_eq_nil_of_le atEnd]
    · rfl

theorem modifyTool_eq_self {tables : ToolTables} {change : ResponsesStreamTool → ResponsesStreamTool}
    (same : ∀ tool, tables.tools[address]? = some tool → change tool = tool) :
    tables.modifyTool address change = tables := by
  have tools : tables.tools.modify address change = tables.tools := by
    apply ext_getElem?
    intro position
    rw [getElem?_modify]
    cases found : tables.tools[position]? with
    | none => rfl
    | some tool =>
      by_cases here : address = position
      · subst here
        simp [same tool found]
      · simp [here]
  rw [modifyTool,tools]

theorem toolDelta_eq (found : state.tools[address]? = some tool)
    (given : argsDelta tool explicit = some args) :
    ∃ next chunks, state.toolDelta address explicit = some (next, chunks) ∧
      next.toToolTables = state.modifyTool address (fun tool => afterFragment tool args) ∧
      (sentFragments chunks = [(tool.index, toolFragment tool args)] ∨
        (sentFragments chunks = [] ∧ args = [] ∧ (tool.name = "" ∨ tool.nameSent))) := by
  unfold ResponsesToChatStreamState.toolDelta
  simp only [found,given,Option.bind_eq_bind,Option.bind_some]
  split
  · rename_i quiet
    obtain ⟨wasSent,rfl,nameKnown⟩ := quiet
    refine ⟨state,[],rfl,?_,.inr ⟨rfl,rfl,nameKnown⟩⟩
    symm
    apply modifyTool_eq_self
    intro other otherFound
    obtain rfl := Option.some.inj (found.symm.trans otherFound)
    have nameSent : (tool.nameSent || decide (tool.name ≠ "")) = tool.nameSent := by
      rcases nameKnown with empty | sentBefore
      · simp [empty]
      · simp [sentBefore]
    rw [afterFragment,nameSent,length_nil,Nat.add_zero,← wasSent]
  · refine ⟨_,_,rfl,?_,.inl ?_⟩
    · simp
    · rw [sentFragments_append,ensureStart_fragments]
      rfl

variable {items : List ToolItem} {progress : Progress} {sent : List (Nat × ToolFragment)}
  {item : ToolItem}

theorem ToolTracks.afterFragment {waiting text : List UInt8} {named : Bool}
    {fragments more : List ToolFragment}
    (tracks : ToolTracks item address waiting text named tool fragments)
    (sends : more = [toolFragment tool (tool.arguments.drop tool.argsSentAt)] ∨ (more = [] ∧
      tool.arguments.drop tool.argsSentAt = [] ∧ (tool.name = "" ∨ tool.nameSent))) :
    ToolTracks item address waiting text named
      (afterFragment tool (tool.arguments.drop tool.argsSentAt)) (fragments ++ more) := by
  have atEnd : tool.argsSentAt + (tool.arguments.drop tool.argsSentAt).length =
      tool.arguments.length := by
    have := tracks.within
    rw [length_drop]
    omega
  have moreArgs : more.flatMap ToolFragment.arguments = tool.arguments.drop tool.argsSentAt := by
    rcases sends with rfl | ⟨rfl,nothing,-⟩
    · simp [toolFragment]
    · simp [nothing]
  have moreNames : (more.map ToolFragment.name).filter (· ≠ "") =
      if tool.nameSent = false ∧ tool.name ≠ "" then [tool.name] else [] := by
    rcases sends with rfl | ⟨rfl,-,known⟩
    · by_cases nameSent : tool.nameSent <;> by_cases empty : tool.name = "" <;>
        simp [toolFragment,nameToSend,nameSent,empty]
    · rcases known with empty | nameSent
      · simp [empty]
      · simp [nameSent]
  exact
    { tracks with
      argsSent := by
        rw [flatMap_append,tracks.argsSent,moreArgs,take_append_drop]
        simp only [NewApi.afterFragment,atEnd,take_length]
      within := by simp only [NewApi.afterFragment,atEnd,Nat.le_refl]
      names := by
        rw [map_append,filter_append,tracks.names,moreNames]
        by_cases nameSent : tool.nameSent <;> by_cases empty : tool.name = "" <;>
          simp [NewApi.afterFragment,nameSent,empty]
      nameSent := by
        intro nameSent
        by_cases before : tool.nameSent
        · exact tracks.nameSent before
        · simpa [NewApi.afterFragment,before] using nameSent }

theorem ToolSettled.afterFragment (within : tool.argsSentAt ≤ tool.arguments.length) :
    ToolSettled (afterFragment tool (tool.arguments.drop tool.argsSentAt)) where
  sent := rfl
  args := by
    simp only [NewApi.afterFragment,length_drop]
    omega
  name := by
    by_cases empty : tool.name = ""
    · exact .inl empty
    · exact .inr (by simp [NewApi.afterFragment,empty])

namespace Tracks

variable (proper : ProperItems items)

include proper

variable (state) in
theorem toolDelta (tracks : Tracks items progress (some item) state.toToolTables sent)
    (here : progress.opened[address]? = some item) (bound : ItemBound state.toToolTables item)
    (explicit : List UInt8) (suits : ∀ tool, state.tools[address]? = some tool →
      explicit = [] ∨ explicit = tool.arguments.drop tool.argsSentAt) :
    ∃ next chunks, state.toolDelta address explicit = some (next, chunks) ∧
      Tracks items progress none next.toToolTables (sent ++ sentFragments chunks) := by
  obtain ⟨tool,found⟩ := tracks.tool_of_open here
  have old := tracks.tools address item tool here found
  obtain ⟨next,chunks,result,tables,fragments⟩ :=
    toolDelta_eq found (argsDelta_eq old.within (suits tool found))
  refine ⟨next,chunks,result,?_⟩
  have moreHere : ∀ fragment ∈ sentFragments chunks, fragment.1 = address := by
    rcases fragments with one | ⟨none,-⟩
    · rw [one]
      intro fragment member
      rw [mem_singleton.mp member]
      exact old.index
    · simp [none]
  have changed := tracks.modifyTool proper here rfl (fun _ _ => ⟨rfl,rfl⟩)
    (fun other => NewApi.afterFragment other (tool.arguments.drop tool.argsSentAt)) moreHere
    (by
      intro other otherFound otherTracks
      obtain rfl := Option.some.inj (found.symm.trans otherFound)
      rw [fragmentsOf_append]
      apply otherTracks.afterFragment
      rcases fragments with one | ⟨none,nothing,known⟩
      · rw [one]
        simp [fragmentsOf,otherTracks.index]
      · right
        rw [none]
        exact ⟨rfl,nothing,known⟩)
  rw [tables]
  apply changed.finish here
  · exact bound.of_maps rfl rfl rfl
  · intro other otherFound
    have isAfter : NewApi.afterFragment tool (tool.arguments.drop tool.argsSentAt) = other := by
      simpa [ToolTables.modifyTool,found] using otherFound
    rw [← isAfter]
    exact .afterFragment old.within

variable (tracks : Tracks items progress none state.toToolTables sent) (member : item ∈ items)
  (event : ResponsesStreamResponse Usage)

include tracks member

/-- An event with the item itself. Its arguments are missing or all that were streamed. -/
theorem toolItem {output : ResponsesOutput} (carries : event.item = some output)
    (describes : item.Describes output) (indexed : event.outputIndex = some item.outputIndex ∨
      (event.outputIndex = none ∧ item ∈ progress.opened))
    (sameArgs : utf8Bytes output.argumentsString = [] ∨
      utf8Bytes output.argumentsString = progress.text item) :
    ∃ next chunks, state.toolItem event output = some (next, chunks) ∧
      Tracks items ((progress.opening item).naming item) none next.toToolTables
        (sent ++ sentFragments chunks) := by
  obtain ⟨ensured,address,isEnsured,busy,here,bound⟩ :=
    tracks.ensureToolForEvent proper member carries describes indexed
  have given : (if utf8Bytes output.argumentsString ≠ [] then
      ensured.modifyTool address fun tool =>
        { tool with arguments := utf8Bytes output.argumentsString }
      else ensured) = ensured := by
    split
    · rename_i some
      apply modifyTool_eq_self
      intro tool found
      have arguments := (busy.tools address item tool here found).arguments
      rw [bound.waiting_nil,append_nil] at arguments
      rw [sameArgs.resolve_left some]
      exact congrArg (fun args => { tool with arguments := args }) arguments.symm
    · rfl
  have sends := busy.toolDelta { state with toToolTables := ensured } proper here bound []
    (fun _ _ => .inl rfl)
  simpa only [ResponsesToChatStreamState.toolItem,isEnsured,given] using sends

omit proper in
theorem findToolForEvent_of_open (isOpen : item ∈ progress.opened)
    (index : event.outputIndex = some item.outputIndex) :
    ∃ address, state.findToolForEvent event = some address ∧
      progress.opened[address]? = some item := by
  obtain ⟨position,there⟩ := getElem?_of_mem isOpen
  obtain ⟨key,found⟩ := Option.isSome_iff_exists.mp (tracks.bound_of_open there).output
  obtain ⟨address,leads,here⟩ := tracks.outputs item member key found
  exact ⟨address,by simp [findToolForEvent,index,found,leads],here⟩

omit proper in
theorem findToolForEvent_of_closed (closed : item ∉ progress.opened)
    (index : event.outputIndex = some item.outputIndex) (identified : event.itemId = item.id)
    (noItem : event.item = none) : state.findToolForEvent event = none := by
  have noOutput : state.outputIndexToKey.lookup item.outputIndex = none := by
    cases found : state.outputIndexToKey.lookup item.outputIndex with
    | none => rfl
    | some key =>
      obtain ⟨position,-,there⟩ := tracks.outputs item member key found
      exact absurd (mem_of_getElem? there) closed
  have noId : state.itemIdToKey.lookup (GoStrings.trimSpace item.id) = none := by
    cases found : state.itemIdToKey.lookup (GoStrings.trimSpace item.id) with
    | none => rfl
    | some key =>
      obtain ⟨position,-,there⟩ := tracks.ids item member key found
      exact absurd (mem_of_getElem? there) closed
  have noKey : (if GoStrings.trimSpace event.itemId ≠ "" then
      state.itemIdToKey.lookup (GoStrings.trimSpace event.itemId) else none) = none := by
    rw [identified,noId,ite_self]
  simp only [findToolForEvent,index,Option.bind_some,noOutput,noKey,noItem]
  rfl

theorem flushPendingTool (index : event.outputIndex = some item.outputIndex)
    (identified : event.itemId = item.id) (noItem : event.item = none) :
    ∃ next chunks, state.flushPendingTool event = some (next, chunks) ∧
      Tracks items (progress.opening item) none next.toToolTables
        (sent ++ sentFragments chunks) := by
  by_cases isOpen : item ∈ progress.opened
  · obtain ⟨address,found,here⟩ := tracks.findToolForEvent_of_open member event isOpen index
    have sends := (tracks.takeUp item).toolDelta state proper here (tracks.bound_of_open here) []
      (fun _ _ => .inl rfl)
    simpa only [ResponsesToChatStreamState.flushPendingTool,found,
      Progress.opening_of_mem _ _ isOpen] using sends
  · have notFound := tracks.findToolForEvent_of_closed member event isOpen index identified noItem
    obtain ⟨ensured,address,isEnsured,busy,here,bound⟩ :=
      tracks.ensureFallbackToolForEvent proper member isOpen noItem index identified
    have sends := busy.toolDelta { state with toToolTables := ensured } proper here bound []
      (fun _ _ => .inl rfl)
    simpa only [ResponsesToChatStreamState.flushPendingTool,notFound,isEnsured] using sends

omit event in
theorem wait (closed : item ∉ progress.opened) {delta : List UInt8} (some : delta ≠ []) :
    Tracks items (progress.extend item delta) none
      { state.toToolTables with
        pendingArgsByOutputIndex := state.pendingArgsByOutputIndex.insert item.outputIndex
          (state.waiting item ++ delta) } sent := by
  have others : ∀ other ∈ items, other ≠ item →
      (state.pendingArgsByOutputIndex.insert item.outputIndex
        (state.waiting item ++ delta)).lookup other.outputIndex =
          state.pendingArgsByOutputIndex.lookup other.outputIndex := by
    intro other otherMember different
    apply AList.lookup_insert_ne
    exact fun same => different (proper.eq_of_outputIndex otherMember member same)
  have notItem : ∀ other ∈ progress.opened, other ≠ item := fun other isOpen same =>
    closed (same ▸ isOpen)
  exact
    { tracks with
      waitingItems := by
        intro index waiting waits
        by_cases same : index = item.outputIndex
        · subst same
          rw [AList.lookup_insert] at waits
          refine ⟨?_,item,member,rfl⟩
          rw [← Option.some.inj waits]
          exact append_ne_nil_of_right_ne_nil _ some
        · exact tracks.waitingItems index waiting (by rwa [AList.lookup_insert_ne same] at waits)
      unopened := by
        intro other otherMember otherClosed
        obtain ⟨waits,unnamed⟩ := tracks.unopened other otherMember otherClosed
        refine ⟨?_,unnamed⟩
        by_cases same : other = item
        · subst same
          simp [waiting,Progress.extend,← waits]
        · rw [waiting,others other otherMember same]
          simpa [waiting,Progress.extend,same] using waits
      tools := by
        intro position other tool there found
        have isOpen := mem_of_getElem? there
        have old := tracks.tools position other tool there found
        rw [waiting,others other (tracks.known other isOpen) (notItem other isOpen)]
        simpa [waiting,Progress.extend,notItem other isOpen] using old
      settled := by
        intro position other tool there notBusy found
        have isOpen := mem_of_getElem? there
        obtain ⟨settled,bound⟩ := tracks.settled position other tool there notBusy found
        exact ⟨settled,bound.output,bound.id,
          (others other (tracks.known other isOpen) (notItem other isOpen)).trans bound.noneWaits⟩ }

theorem toolArgumentsDelta (index : event.outputIndex = some item.outputIndex)
    (identified : event.itemId = item.id) (noItem : event.item = none) :
    ∃ next chunks, state.toolArgumentsDelta event = some (next, chunks) ∧
      Tracks items (progress.extend item (utf8Bytes event.delta)) none next.toToolTables
        (sent ++ sentFragments chunks) := by
  unfold ResponsesToChatStreamState.toolArgumentsDelta
  by_cases empty : utf8Bytes event.delta = []
  · refine ⟨state,[],by simp [empty],?_⟩
    have same : progress.extend item (utf8Bytes event.delta) = progress := by
      simp [Progress.extend,empty]
    simpa [same,sentFragments] using tracks
  · by_cases isOpen : item ∈ progress.opened
    · obtain ⟨address,found,here⟩ := tracks.findToolForEvent_of_open member event isOpen index
      have settled : ∀ tool, state.tools[address]? = some tool →
          tool.argsSentAt = tool.arguments.length := fun tool toolFound =>
        (tracks.settled address item tool here nofun toolFound).1.args
      have bound := tracks.bound_of_open here
      have sameOpened : (progress.extend item (utf8Bytes event.delta)).opened = progress.opened :=
        rfl
      have extended := (tracks.takeUp item).modifyTool proper here sameOpened
        (fun other different => ⟨by simp [Progress.extend,different],rfl⟩)
        (fun tool => { tool with arguments := tool.arguments ++ utf8Bytes event.delta })
        (forall_mem_nil _)
        (fun tool toolFound old => by
          have before := old.arguments
          rw [bound.waiting_nil,append_nil] at before
          rw [append_nil]
          exact old.appendArguments (by simp [Progress.extend,bound.waiting_nil,before]))
      rw [append_nil] at extended
      have sends := extended.toolDelta
        { state with
          toToolTables := state.modifyTool address fun tool =>
            { tool with arguments := tool.arguments ++ utf8Bytes event.delta } }
        proper here (bound.of_maps rfl rfl rfl) (utf8Bytes event.delta)
        (by
          intro tool toolFound
          obtain ⟨old,oldFound,rfl⟩ : ∃ old, state.tools[address]? = some old ∧
              { old with arguments := old.arguments ++ utf8Bytes event.delta } = tool := by
            simpa [ToolTables.modifyTool] using toolFound
          simp [settled old oldFound])
      simpa only [empty,if_false,found] using sends
    · have notFound :=
        tracks.findToolForEvent_of_closed member event isOpen index identified noItem
      have waits := tracks.wait proper member isOpen empty
      simp only [empty,notFound,index]
      refine ⟨_,[],rfl,?_⟩
      rwa [show sentFragments ([] : List (ChatChunk Usage)) = [] from rfl,append_nil]

end Tracks

end

end NewApi
