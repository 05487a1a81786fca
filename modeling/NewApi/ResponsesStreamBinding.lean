import NewApi.ResponsesStreamTools

/-! # How the tool of an item is found -/

namespace NewApi

open GoStrings Progress List ToolTables

section

variable {items : List ToolItem} {progress : Progress} {tables : ToolTables}
  {sent : List (Nat × ToolFragment)} {item : ToolItem} {busy : Option ToolItem} {address position : Nat}

section

variable {Key Value Item : Type} {other : ToolItem} {list : List Item}
  {map : AList fun _ : Key => Value}

theorem lookup_insert_of_free [DecidableEq Key] {key free : Key} {value new : Value}
    (isFree : map.lookup free = none) (found : map.lookup key = some value) :
    (map.insert free new).lookup key = some value := by
  have different : key ≠ free := by
    rintro rfl
    exact absurd found (by simp [isFree])
  rw [AList.lookup_insert_ne different,found]

theorem isSome_lookup_insert [DecidableEq Key] {key : Key} (found : (map.lookup key).isSome)
    (other : Key) (new : Value) : ((map.insert other new).lookup key).isSome := by
  by_cases same : key = other
  · rw [same,AList.lookup_insert]
    rfl
  · rwa [AList.lookup_insert_ne same]

theorem getElem?_concat_cases {last item : Item} (there : (list ++ [last])[position]? = some item) :
    list[position]? = some item ∨ (position = list.length ∧ item = last) := by
  rcases Nat.lt_trichotomy position list.length with before | rfl | after
  · rw [getElem?_append_left before] at there
    exact .inl there
  · rw [getElem?_concat_length] at there
    exact .inr ⟨rfl,(Option.some.inj there).symm⟩
  · rw [getElem?_eq_none (by simp; omega)] at there
    exact absurd there.symm (Option.some_ne_none item)

theorem getElem?_concat_of_some {last item : Item}
    (there : list[position]? = some item) : (list ++ [last])[position]? = some item := by
  rw [getElem?_append_left (List.getElem?_eq_some_iff.mp there).1,there]

theorem Progress.opening_opened_of_notMem (closed : item ∉ progress.opened) :
    (progress.opening item).opened = progress.opened ++ [item] := by
  simp [Progress.opening,closed]

theorem Leads.insertKey {key free : ToolKey} {new : Nat} (leads : Leads progress tables key other)
    (isFree : tables.toolByKey.lookup free = none) :
    Leads progress { tables with toolByKey := tables.toolByKey.insert free new } key other := by
  obtain ⟨position,found,there⟩ := leads
  exact ⟨position,lookup_insert_of_free isFree found,there⟩

theorem Leads.opening {key : ToolKey} (closed : item ∉ progress.opened)
    (leads : Leads progress tables key other) : Leads (progress.opening item) tables key other := by
  obtain ⟨position,found,there⟩ := leads
  refine ⟨position,found,?_⟩
  rw [opening_opened_of_notMem closed]
  exact getElem?_concat_of_some there

theorem ItemBound.of_maps {next : ToolTables} (bound : ItemBound tables item)
    (outputs : next.outputIndexToKey = tables.outputIndexToKey)
    (ids : next.itemIdToKey = tables.itemIdToKey)
    (pending : next.pendingArgsByOutputIndex = tables.pendingArgsByOutputIndex) :
    ItemBound next item := by
  refine ⟨?_,?_,?_⟩
  · rw [outputs]
    exact bound.output
  · rw [ids]
    exact bound.id
  · rw [pending]
    exact bound.noneWaits

theorem ItemBound.bindCallId (bound : ItemBound tables item) (output : ResponsesOutput)
    (key : ToolKey) (address : Nat) : ItemBound (tables.bindCallId output key address) item := by
  unfold ToolTables.bindCallId
  dsimp only
  split <;> exact bound.of_maps rfl rfl rfl

theorem ItemBound.bindName (bound : ItemBound tables item) (output : ResponsesOutput)
    (address : Nat) : ItemBound (tables.bindName output address) item := by
  unfold ToolTables.bindName
  dsimp only
  split
  · exact bound.of_maps rfl rfl rfl
  · exact bound

namespace Tracks

variable {key : ToolKey}

section

variable (tracks : Tracks items progress busy tables sent)

include tracks

theorem lookup_of_closed (member : item ∈ items) (closed : item ∉ progress.opened)
    (isKey : key ∈ item.keys) :
    tables.toolByKey.lookup key = none := by
  cases found : tables.toolByKey.lookup key with
  | none => rfl
  | some position =>
    exact absurd (mem_of_getElem? (tracks.keyed item member key isKey position found)) closed

theorem addKey (proper : ProperItems items) (member : item ∈ items)
    (here : progress.opened[address]? = some item)
    (isKey : key ∈ item.keys) (isFree : tables.toolByKey.lookup key = none) :
    Tracks items progress busy
      { tables with toolByKey := tables.toolByKey.insert key address } sent :=
  { tracks with
    keyed := by
      intro other otherMember otherKey isOtherKey position found
      by_cases same : otherKey = key
      · subst same
        obtain rfl := proper.eq_of_key otherMember member isOtherKey isKey
        obtain rfl : address = position := by simpa using found
        exact here
      · exact tracks.keyed other otherMember otherKey isOtherKey position
          (by simpa [AList.lookup_insert_ne same] using found)
    outputs := fun other otherMember otherKey found =>
      (tracks.outputs other otherMember otherKey found).insertKey isFree
    ids := fun other otherMember otherKey found =>
      (tracks.ids other otherMember otherKey found).insertKey isFree
    settled := by
      intro position other tool there notBusy found
      exact (tracks.settled position other tool there notBusy found).imp_right
        (·.of_maps rfl rfl rfl) }

theorem tool_of_open (here : progress.opened[address]? = some item) : ∃ tool, tables.tools[address]? = some tool := by
  have inRange := (List.getElem?_eq_some_iff.mp here).1
  rw [← tracks.addresses] at inRange
  exact ⟨_,getElem?_eq_getElem inRange⟩

theorem no_tool_of_closed (proper : ProperItems items) (member : item ∈ items)
    (closed : item ∉ progress.opened) :
    tables.toolOfItemId (trimSpace item.id) = none ∧
      tables.toolOfCallId (trimSpace item.callId) = none := by
  constructor
  · have free : tables.itemIdToKey.lookup (trimSpace item.id) = none := by
      cases found : tables.itemIdToKey.lookup (trimSpace item.id) with
      | none => rfl
      | some key =>
        obtain ⟨position,-,there⟩ := tracks.ids item member key found
        exact absurd (mem_of_getElem? there) closed
    simp [toolOfItemId,free]
  · by_cases blank : trimSpace item.callId = ""
    · simp [toolOfCallId,blank]
    · have free : tables.callIdToKey.lookup (trimSpace item.callId) = none := by
        cases found : tables.callIdToKey.lookup (trimSpace item.callId) with
        | none => rfl
        | some key =>
          obtain ⟨other,isOpen,same⟩ := tracks.calls _ key found
          have := proper.callIds item member other (tracks.known other isOpen) blank same.symm
          exact absurd (this ▸ isOpen) closed
      simp [toolOfCallId,free]

end

theorem addTool (proper : ProperItems items) (tracks : Tracks items progress none tables sent)
    (member : item ∈ items) (closed : item ∉ progress.opened) (isKey : key ∈ item.keys)
    (callId : String) :
    Tracks items (progress.opening item) (some item) (tables.addTool key callId) sent := by
  have openedNow := opening_opened_of_notMem closed
  have isFree := tracks.lookup_of_closed member closed isKey
  have isOld {position : Nat} {other : ToolItem} {tool : ResponsesStreamTool}
      (old : progress.opened[position]? = some other)
      (found : (tables.addTool key callId).tools[position]? = some tool) :
      tables.tools[position]? = some tool := by
    have inRange := (List.getElem?_eq_some_iff.mp old).1
    rw [← tracks.addresses] at inRange
    simpa [ToolTables.addTool,getElem?_append_left inRange] using found
  exact
    { known := by
        rw [openedNow]
        intro other otherMember
        rcases mem_append.mp otherMember with old | new
        · exact tracks.known other old
        · rwa [mem_singleton.mp new]
      distinct := by
        rw [openedNow]
        exact nodup_append.mpr ⟨tracks.distinct,nodup_singleton item,
          fun other old last new => by
            rintro rfl
            exact closed (mem_singleton.mp new ▸ old)⟩
      addresses := by simp [ToolTables.addTool,openedNow,tracks.addresses]
      nextIndex := by simp [ToolTables.addTool,openedNow,tracks.nextIndex]
      fragments := by
        intro fragment sentBefore
        have := tracks.fragments fragment sentBefore
        rw [openedNow,length_append]
        omega
      keyed := by
        intro other otherMember otherKey isOtherKey position found
        rw [openedNow]
        by_cases same : otherKey = key
        · subst same
          obtain rfl := proper.eq_of_key otherMember member isOtherKey isKey
          obtain rfl : tables.tools.length = position := by
            simpa [ToolTables.addTool] using found
          rw [tracks.addresses,getElem?_concat_length]
        · have old : tables.toolByKey.lookup otherKey = some position := by
            simpa [ToolTables.addTool,AList.lookup_insert_ne same] using found
          exact getElem?_concat_of_some
            (tracks.keyed other otherMember otherKey isOtherKey position old)
      outputs := fun other otherMember otherKey found =>
        ((tracks.outputs other otherMember otherKey found).insertKey isFree).opening closed
      ids := fun other otherMember otherKey found =>
        ((tracks.ids other otherMember otherKey found).insertKey isFree).opening closed
      calls := by
        intro otherCall otherKey found
        obtain ⟨other,old,same⟩ := tracks.calls otherCall otherKey found
        exact ⟨other,by rw [openedNow]; exact mem_append_left _ old,same⟩
      noItemWaits := tracks.noItemWaits
      waitingItems := tracks.waitingItems
      unopened := by
        intro other otherMember otherClosed
        rw [openedNow] at otherClosed
        exact tracks.unopened other otherMember fun old => otherClosed (mem_append_left _ old)
      tools := by
        intro position other tool there found
        rw [openedNow] at there
        rcases getElem?_concat_cases there with old | ⟨rfl,rfl⟩
        · exact tracks.tools position other tool old (isOld old found)
        · obtain ⟨waits,unnamed⟩ := tracks.unopened other member closed
          have isNew : tool = { key := key, callId := callId, index := tables.nextToolIndex } := by
            rw [← tracks.addresses] at found
            simpa [ToolTables.addTool] using found.symm
          have noneSent : fragmentsOf progress.opened.length sent = [] :=
            fragmentsOf_eq_nil fun fragment sentBefore =>
              Nat.ne_of_lt (tracks.fragments fragment sentBefore)
          subst isNew
          rw [noneSent]
          exact
            { index := tracks.nextIndex
              arguments := waits
              argsSent := rfl
              within := Nat.le_refl 0
              names := rfl
              nameSent := Bool.noConfusion
              name := .inl rfl
              named := fun isNamed => absurd isNamed (by simp [Progress.opening,unnamed]) }
      settled := by
        intro position other tool there notBusy found
        rw [openedNow] at there
        rcases getElem?_concat_cases there with old | ⟨-,rfl⟩
        · exact (tracks.settled position other tool old (by simp) (isOld old found)).imp_right
            (·.of_maps rfl rfl rfl)
        · exact absurd rfl notBusy }

theorem bound_of_open (tracks : Tracks items progress none tables sent)
    (here : progress.opened[address]? = some item) : ItemBound tables item := by
  obtain ⟨tool,found⟩ := tracks.tool_of_open here
  exact (tracks.settled address item tool here nofun found).2

/-- The item of an event is opened, unless it is open, and its tool is found. -/
theorem toolForKey (proper : ProperItems items) (tracks : Tracks items progress none tables sent)
    (member : item ∈ items) (isKey : key ∈ item.keys) :
    ∃ found address,
      tables.toolForKey key (trimSpace item.id) (trimSpace item.callId) =
        (found, address) ∧
      Tracks items (progress.opening item) (some item) found sent ∧
      (progress.opening item).opened[address]? = some item ∧
      found.toolByKey.lookup key = some address ∧
      (item ∈ progress.opened → ItemBound found item) := by
  cases known : tables.toolByKey.lookup key with
  | some address =>
    have here := tracks.keyed item member key isKey address known
    have isOpen := mem_of_getElem? here
    refine ⟨tables,address,by simp [ToolTables.toolForKey,known],?_,?_,known,
      fun _ => tracks.bound_of_open here⟩
    · rw [opening_of_mem _ _ isOpen]
      exact tracks.takeUp item
    · rwa [opening_of_mem _ _ isOpen]
  | none =>
    by_cases isOpen : item ∈ progress.opened
    · obtain ⟨position,there⟩ := getElem?_of_mem isOpen
      have bound := tracks.bound_of_open there
      obtain ⟨idKey,idFound⟩ := Option.isSome_iff_exists.mp bound.id
      obtain ⟨address,addressFound,here⟩ := tracks.ids item member idKey idFound
      have byId : tables.toolOfItemId (trimSpace item.id) = some address := by
        simp [toolOfItemId,proper.idsGiven item member,idFound,addressFound]
      refine ⟨{ tables with toolByKey := tables.toolByKey.insert key address },address,
        by simp [ToolTables.toolForKey,known,byId],?_,?_,AList.lookup_insert _,
        fun _ => bound.of_maps rfl rfl rfl⟩
      · rw [opening_of_mem _ _ isOpen]
        exact (tracks.takeUp item).addKey proper member here isKey known
      · rwa [opening_of_mem _ _ isOpen]
    · obtain ⟨noneById,noneByCall⟩ := tracks.no_tool_of_closed proper member isOpen
      refine ⟨tables.addTool key "",tables.tools.length,
        by simp [ToolTables.toolForKey,known,noneById,noneByCall],
        tracks.addTool proper member isOpen isKey "",?_,AList.lookup_insert _,
        fun already => absurd already isOpen⟩
      rw [opening_opened_of_notMem isOpen,tracks.addresses,getElem?_concat_length]

end Tracks

end

section

variable (proper : ProperItems items) (member : item ∈ items)
  (tracks : Tracks items progress (some item) tables sent)
  (here : progress.opened[address]? = some item) {key : ToolKey}
  (leads : tables.toolByKey.lookup key = some address)

include proper tracks here

namespace Tracks

theorem takeWaiting :
    Tracks items progress (some item)
      { tables.modifyTool address fun tool =>
          { tool with arguments := tool.arguments ++ tables.waiting item } with
        pendingArgsByOutputIndex := tables.pendingArgsByOutputIndex.erase item.outputIndex }
      sent := by
  have taken := tracks.modifyToolWaiting proper here rfl (fun _ _ => ⟨rfl,rfl⟩)
    (fun tool => { tool with arguments := tool.arguments ++ tables.waiting item })
    (forall_mem_nil _)
    (fun index different => AList.lookup_erase_ne different)
    (fun waiting waits => absurd waits (by simp))
    (fun tool _ old => by
      rw [append_nil]
      exact old.appendArguments (by simpa using old.arguments))
  simpa using taken

include member leads

theorem bindOutputIndex :
    let bound := tables.bindOutputIndex (some item.outputIndex) key address
    Tracks items progress (some item) bound sent ∧
      (bound.outputIndexToKey.lookup item.outputIndex).isSome ∧
      bound.pendingArgsByOutputIndex.lookup item.outputIndex = none ∧
      bound.toolByKey = tables.toolByKey := by
  have bound : Tracks items progress (some item)
      { tables with
        outputIndexToKey := tables.outputIndexToKey.insert item.outputIndex key } sent :=
    { tracks with
      outputs := by
        intro other otherMember otherKey found
        by_cases same : other.outputIndex = item.outputIndex
        · obtain rfl := proper.eq_of_outputIndex otherMember member same
          obtain rfl : key = otherKey := by simpa using found
          exact ⟨address,leads,here⟩
        · exact tracks.outputs other otherMember otherKey
            (by simpa [AList.lookup_insert_ne same] using found)
      settled := by
        intro position other tool there notBusy found
        obtain ⟨settled,bound⟩ := tracks.settled position other tool there notBusy found
        exact ⟨settled,isSome_lookup_insert bound.output _ _,bound.id,bound.noneWaits⟩ }
  by_cases none : (tables.pendingArgsByOutputIndex.lookup item.outputIndex).getD [] = []
  · have noneWaits : tables.pendingArgsByOutputIndex.lookup item.outputIndex = Option.none := by
      cases waits : tables.pendingArgsByOutputIndex.lookup item.outputIndex with
      | none => rfl
      | some waiting =>
        rw [waits] at none
        exact absurd none (tracks.waitingItems _ waiting waits).1
    rw [ToolTables.bindOutputIndex,if_pos none]
    exact ⟨bound,by simp,noneWaits,rfl⟩
  · rw [ToolTables.bindOutputIndex,if_neg none]
    exact ⟨bound.takeWaiting proper here,by simp [ToolTables.modifyTool],
      AList.lookup_erase _ _,rfl⟩

theorem bindItemId (outputBound : (tables.outputIndexToKey.lookup item.outputIndex).isSome)
    (noneWaits : tables.pendingArgsByOutputIndex.lookup item.outputIndex = none) :
    Tracks items progress (some item)
        (tables.bindItemId (trimSpace item.id) key address) sent ∧
      ItemBound (tables.bindItemId (trimSpace item.id) key address) item := by
  have bound : Tracks items progress (some item)
      { tables with
        itemIdToKey := tables.itemIdToKey.insert (trimSpace item.id) key } sent :=
    { tracks with
      ids := by
        intro other otherMember otherKey found
        by_cases same : trimSpace other.id = trimSpace item.id
        · obtain rfl := proper.eq_of_id otherMember member same
          obtain rfl : key = otherKey := by simpa using found
          exact ⟨address,leads,here⟩
        · exact tracks.ids other otherMember otherKey
            (by simpa [AList.lookup_insert_ne same] using found)
      settled := by
        intro position other tool there notBusy found
        obtain ⟨settled,bound⟩ := tracks.settled position other tool there notBusy found
        exact ⟨settled,bound.output,isSome_lookup_insert bound.id _ _,bound.noneWaits⟩ }
  have named := bound.relabelTool proper here
    (fun tool => { tool with itemId := trimSpace item.id })
    (fun tool fragments old => { old with })
  simp only [ToolTables.bindItemId,proper.idsGiven item member,tracks.noItemWaits]
  exact ⟨named,outputBound,by simp,noneWaits⟩

omit member leads

variable {output : ResponsesOutput}

theorem bindCallId (describes : item.Describes output) (key : ToolKey) :
    Tracks items progress (some item) (tables.bindCallId output key address) sent := by
  have isOpen := mem_of_getElem? here
  by_cases given : trimSpace output.callId ≠ ""
  · have bound : Tracks items progress (some item)
        { tables with
          callIdToKey := tables.callIdToKey.insert (trimSpace output.callId) key }
        sent :=
      { tracks with
        calls := by
          intro callId otherKey found
          by_cases same : callId = trimSpace output.callId
          · exact ⟨item,isOpen,by rw [same,describes.callId]⟩
          · exact tracks.calls callId otherKey
              (by simpa [AList.lookup_insert_ne same] using found)
        settled := by
          intro position other tool there notBusy found
          exact (tracks.settled position other tool there notBusy found).imp_right
            (·.of_maps rfl rfl rfl) }
    rw [ToolTables.bindCallId,if_pos given]
    exact bound.relabelTool proper here _ fun tool fragments old => { old with }
  · rw [ToolTables.bindCallId,if_neg given]
    exact tracks.relabelTool proper here _ fun tool fragments old => { old with }

theorem nameTool (change : ResponsesStreamTool → ResponsesStreamTool)
    (keeps : ∀ tool fragments, ToolTracks item address (tables.waiting item) (progress.text item)
      (progress.named item) tool fragments →
      ToolTracks item address (tables.waiting item) (progress.text item) true (change tool)
        fragments) :
    Tracks items (progress.naming item) (some item) (tables.modifyTool address change) sent := by
  have sameOpened : (progress.naming item).opened = progress.opened := rfl
  have named := tracks.modifyTool proper here sameOpened
    (fun other different => ⟨rfl,by simp [naming,different]⟩) change
    (forall_mem_nil _)
    (fun tool _ old => by simpa [naming] using keeps tool _ old)
  simpa using named

theorem bindName (describes : item.Describes output) :
    Tracks items (progress.naming item) (some item) (tables.bindName output address) sent := by
  by_cases blank : trimSpace item.name ≠ ""
  · rw [ToolTables.bindName,describes.name,if_pos blank]
    apply tracks.nameTool proper here
    intro tool fragments old
    have same : tool.nameSent → tool.name = trimSpace item.name := fun nameSent =>
      old.name.resolve_left (old.nameSent nameSent)
    exact
      { old with
        names := by
          by_cases nameSent : tool.nameSent
          · simpa [same nameSent] using old.names
          · simpa [nameSent] using old.names
        nameSent := fun nameSent => same nameSent ▸ old.nameSent nameSent
        name := .inr rfl
        named := fun _ => rfl }
  · -- A blank name is the one that a tool has from the start.
    rw [ToolTables.bindName,describes.name,if_neg blank]
    rw [not_not] at blank
    have unchanged := tracks.nameTool proper here id fun tool fragments old =>
      { old with
        named := fun _ => by
          rcases old.name with empty | given
          · rw [id,empty,blank]
          · exact given }
    simpa [ToolTables.modifyTool] using unchanged

include member

theorem bindMarks (leads : tables.toolByKey.lookup key = some address)
    (describes : item.Describes output)
    (outputBound : (tables.outputIndexToKey.lookup item.outputIndex).isSome)
    (noneWaits : tables.pendingArgsByOutputIndex.lookup item.outputIndex = none) :
    let bound := ((tables.bindItemId (trimSpace item.id) key address).bindCallId output
      key address).bindName output address
    Tracks items (progress.naming item) (some item) bound sent ∧ ItemBound bound item := by
  obtain ⟨withId,idBound⟩ := tracks.bindItemId proper member here leads outputBound noneWaits
  have withCall := withId.bindCallId proper here describes key
  exact ⟨withCall.bindName proper here describes,
    (idBound.bindCallId output key address).bindName output address⟩

end Tracks

end

section

variable {Usage : Type} (proper : ProperItems items)
  (tracks : Tracks items progress none tables sent) (member : item ∈ items)
  {event : ResponsesStreamResponse Usage}

namespace Tracks

include proper tracks member

/-- The item of an event is opened and known by all its marks; its tool is to be sent. -/
theorem ensureToolForEvent {output : ResponsesOutput} (carries : event.item = some output)
    (describes : item.Describes output) (indexed : event.outputIndex = some item.outputIndex ∨
      (event.outputIndex = none ∧ item ∈ progress.opened)) :
    ∃ ensured address, tables.ensureToolForEvent event output = (ensured, some address) ∧
      Tracks items ((progress.opening item).naming item) (some item) ensured sent ∧
      (progress.opening item).opened[address]? = some item ∧ ItemBound ensured item := by
  have idGiven := proper.idsGiven item member
  have eventId : responseStreamEventItemId event = trimSpace item.id := by
    simp [responseStreamEventItemId,carries,describes.id,idGiven]
  rcases indexed with index | ⟨noIndex,isOpen⟩
  · obtain ⟨found,address,isFound,foundTracks,here,leads,-⟩ :=
      tracks.toolForKey proper member
        (mem_cons_self : ToolKey.output item.outputIndex ∈ item.keys)
    obtain ⟨outputTracks,outputBound,noneWaits,sameKeys⟩ :=
      foundTracks.bindOutputIndex proper member here leads
    obtain ⟨allBound,bound⟩ := outputTracks.bindMarks proper member here
      (sameKeys ▸ leads) describes outputBound noneWaits
    refine ⟨_,address,?_,allBound,here,bound⟩
    simp [ToolTables.ensureToolForEvent,keyForEvent,index,eventId,describes.callId,isFound]
  · obtain ⟨found,address,isFound,foundTracks,here,leads,alreadyBound⟩ :=
      tracks.toolForKey proper member
        (mem_cons_of_mem _ mem_cons_self :
          ToolKey.item (trimSpace item.id) ∈ item.keys)
    obtain ⟨allBound,bound⟩ := foundTracks.bindMarks proper member here leads describes
      (alreadyBound isOpen).output (alreadyBound isOpen).noneWaits
    refine ⟨_,address,?_,allBound,here,bound⟩
    simp [ToolTables.ensureToolForEvent,keyForEvent,noIndex,carries,describes.id,idGiven,
      eventId,describes.callId,isFound,ToolTables.bindOutputIndex]

theorem ensureFallbackToolForEvent (closed : item ∉ progress.opened) (noItem : event.item = none)
    (index : event.outputIndex = some item.outputIndex) (identified : event.itemId = item.id) :
    ∃ ensured address, tables.ensureFallbackToolForEvent event = (ensured, some address) ∧
      Tracks items (progress.opening item) (some item) ensured sent ∧
      (progress.opening item).opened[address]? = some item ∧ ItemBound ensured item := by
  have isKey : ToolKey.output item.outputIndex ∈ item.keys := mem_cons_self
  have eventId : responseStreamEventItemId event = trimSpace item.id := by
    have blank : trimSpace "" = "" := by decide
    simp [responseStreamEventItemId,noItem,identified,blank]
  have isFree := tracks.lookup_of_closed member closed isKey
  have added := tracks.addTool proper member closed isKey (fallbackCallId event)
  have here : (progress.opening item).opened[tables.tools.length]? = some item := by
    rw [opening_opened_of_notMem closed,tracks.addresses,getElem?_concat_length]
  obtain ⟨outputTracks,outputBound,noneWaits,sameKeys⟩ :=
    added.bindOutputIndex proper member here (AList.lookup_insert _)
  have stillLeads : ((tables.addTool (.output item.outputIndex)
      (fallbackCallId event)).bindOutputIndex (some item.outputIndex) (.output item.outputIndex)
        tables.tools.length).toolByKey.lookup (.output item.outputIndex) =
      some tables.tools.length := by
    rw [sameKeys]
    exact AList.lookup_insert _
  obtain ⟨allBound,bound⟩ :=
    outputTracks.bindItemId proper member here stillLeads outputBound noneWaits
  refine ⟨_,tables.tools.length,?_,allBound,here,bound⟩
  simp [ToolTables.ensureFallbackToolForEvent,toolOrNew,index,isFree,eventId]

end Tracks

end

end

end NewApi
