import NewApi.KeyedFragments
import NewApi.ResponsesStream

/-!
# The tools of a Responses stream

What the chunks have to carry is a small abstract state, which the tables of the converter track.
-/

namespace NewApi

open List GoStrings

structure ToolItem where
  outputIndex : Int
  id : String
  callId : String
  name : String
deriving DecidableEq, Repr

namespace ToolItem

def keys (item : ToolItem) : List ToolKey :=
  [.output item.outputIndex, .item (trimSpace item.id)]

structure Describes (item : ToolItem) (output : ResponsesOutput) : Prop where
  isTool : isResponsesToolOutputType output.type
  id : output.id = item.id
  callId : output.callId = item.callId
  name : output.name = item.name

end ToolItem

/-- Items that can be told apart by output index, by item id and by call id, unless it is
blank. -/
structure ProperItems (items : List ToolItem) : Prop where
  outputIndexes : (items.map ToolItem.outputIndex).Nodup
  ids : (items.map fun item => trimSpace item.id).Nodup
  idsGiven : ∀ item ∈ items, trimSpace item.id ≠ ""
  callIds : ∀ first ∈ items, ∀ second ∈ items, trimSpace first.callId ≠ "" →
    trimSpace first.callId = trimSpace second.callId → first = second

namespace ProperItems

variable {items : List ToolItem} (proper : ProperItems items) {first second : ToolItem}

include proper

theorem eq_of_outputIndex (firstMember : first ∈ items) (secondMember : second ∈ items)
    (same : first.outputIndex = second.outputIndex) : first = second :=
  inj_on_of_nodup_map proper.outputIndexes firstMember secondMember same

theorem eq_of_id (firstMember : first ∈ items) (secondMember : second ∈ items)
    (same : trimSpace first.id = trimSpace second.id) : first = second :=
  inj_on_of_nodup_map proper.ids firstMember secondMember same

theorem eq_of_key (firstMember : first ∈ items) (secondMember : second ∈ items) {key : ToolKey}
    (firstKey : key ∈ first.keys) (secondKey : key ∈ second.keys) : first = second := by
  simp only [ToolItem.keys,mem_cons,not_mem_nil,or_false] at firstKey secondKey
  rcases firstKey with rfl | rfl <;> rcases secondKey with same | same
  · exact proper.eq_of_outputIndex firstMember secondMember (ToolKey.output.inj same)
  · exact ToolKey.noConfusion same
  · exact ToolKey.noConfusion same
  · exact proper.eq_of_id firstMember secondMember (ToolKey.item.inj same)

end ProperItems

/-- What the chunks have to carry so far. -/
structure Progress where
  opened : List ToolItem
  text : ToolItem → List UInt8
  named : ToolItem → Bool

namespace Progress

def start : Progress where
  opened := []
  text := fun _ => []
  named := fun _ => false

variable (progress : Progress) (item : ToolItem)

/-- The item gets its place. -/
def opening : Progress :=
  { progress with
    opened := if item ∈ progress.opened then progress.opened else progress.opened ++ [item] }

def extend (delta : List UInt8) : Progress :=
  { progress with
    text := fun other => if other = item then progress.text other ++ delta else progress.text other }

def naming : Progress :=
  { progress with named := fun other => other = item || progress.named other }

theorem opening_of_mem (member : item ∈ progress.opened) : progress.opening item = progress := by
  simp [opening,member]

end Progress

def ToolTables.waiting (tables : ToolTables) (item : ToolItem) : List UInt8 :=
  (tables.pendingArgsByOutputIndex.lookup item.outputIndex).getD []

/-- A tool and the fragments sent for it, against the item it stands for. -/
structure ToolTracks (item : ToolItem) (position : Nat) (waiting text : List UInt8) (named : Bool)
    (tool : ResponsesStreamTool) (fragments : List ToolFragment) : Prop where
  index : tool.index = position
  arguments : tool.arguments ++ waiting = text
  argsSent : fragments.flatMap ToolFragment.arguments = tool.arguments.take tool.argsSentAt
  within : tool.argsSentAt ≤ tool.arguments.length
  names : (fragments.map ToolFragment.name).filter (· ≠ "") =
    if tool.nameSent then [tool.name] else []
  nameSent : tool.nameSent → tool.name ≠ ""
  name : tool.name = "" ∨ tool.name = trimSpace item.name
  named : named → tool.name = trimSpace item.name

theorem ToolTracks.appendArguments {item : ToolItem} {position : Nat}
    {waiting text more waiting' text' : List UInt8} {named : Bool} {tool : ResponsesStreamTool}
    {fragments : List ToolFragment} (old : ToolTracks item position waiting text named tool fragments)
    (arguments : tool.arguments ++ more ++ waiting' = text') :
    ToolTracks item position waiting' text' named
      { tool with arguments := tool.arguments ++ more } fragments :=
  { old with
    arguments := arguments
    argsSent := by
      rw [take_append_of_le_length old.within]
      exact old.argsSent
    within := by
      have := old.within
      simp only [length_append]
      omega }

/-- All that is known of the tool was sent. -/
structure ToolSettled (tool : ResponsesStreamTool) : Prop where
  sent : tool.sent
  args : tool.argsSentAt = tool.arguments.length
  name : tool.name = "" ∨ tool.nameSent

structure ItemBound (tables : ToolTables) (item : ToolItem) : Prop where
  output : (tables.outputIndexToKey.lookup item.outputIndex).isSome
  id : (tables.itemIdToKey.lookup (trimSpace item.id)).isSome
  noneWaits : tables.pendingArgsByOutputIndex.lookup item.outputIndex = none

theorem ItemBound.waiting_nil {tables : ToolTables} {item : ToolItem}
    (bound : ItemBound tables item) : tables.waiting item = [] := by
  rw [ToolTables.waiting,bound.noneWaits]
  rfl

def Leads (progress : Progress) (tables : ToolTables) (key : ToolKey) (item : ToolItem) : Prop :=
  ∃ address, tables.toolByKey.lookup key = some address ∧ progress.opened[address]? = some item

structure Tracks (items : List ToolItem) (progress : Progress) (busy : Option ToolItem)
    (tables : ToolTables) (sent : List (Nat × ToolFragment)) : Prop where
  known : ∀ item ∈ progress.opened, item ∈ items
  distinct : progress.opened.Nodup
  addresses : tables.tools.length = progress.opened.length
  nextIndex : tables.nextToolIndex = progress.opened.length
  fragments : ∀ fragment ∈ sent, fragment.1 < progress.opened.length
  keyed : ∀ item ∈ items, ∀ key ∈ item.keys, ∀ address,
    tables.toolByKey.lookup key = some address → progress.opened[address]? = some item
  outputs : ∀ item ∈ items, ∀ key,
    tables.outputIndexToKey.lookup item.outputIndex = some key → Leads progress tables key item
  ids : ∀ item ∈ items, ∀ key,
    tables.itemIdToKey.lookup (trimSpace item.id) = some key →
      Leads progress tables key item
  calls : ∀ callId key, tables.callIdToKey.lookup callId = some key →
    ∃ item ∈ progress.opened, trimSpace item.callId = callId
  noItemWaits : tables.pendingArgsByItemId = ∅
  waitingItems : ∀ index waiting, tables.pendingArgsByOutputIndex.lookup index = some waiting →
    waiting ≠ [] ∧ ∃ item ∈ items, item.outputIndex = index
  unopened : ∀ item ∈ items, item ∉ progress.opened →
    tables.waiting item = progress.text item ∧ progress.named item = false
  tools : ∀ (address : Nat) item tool, progress.opened[address]? = some item →
    tables.tools[address]? = some tool →
    ToolTracks item address (tables.waiting item) (progress.text item) (progress.named item) tool
      (fragmentsOf address sent)
  settled : ∀ (address : Nat) item tool, progress.opened[address]? = some item → busy ≠ some item →
    tables.tools[address]? = some tool → ToolSettled tool ∧ ItemBound tables item

theorem Tracks.start (items : List ToolItem) : Tracks items Progress.start none {} [] where
  known := by simp [Progress.start]
  distinct := by simp [Progress.start]
  addresses := rfl
  nextIndex := rfl
  fragments := by simp
  keyed := by simp
  outputs := by simp
  ids := by simp
  calls := by simp
  noItemWaits := rfl
  waitingItems := by simp
  unopened := by simp [ToolTables.waiting,Progress.start]
  tools := by simp [Progress.start]
  settled := by simp [Progress.start]

section

variable {items : List ToolItem} {progress : Progress} {tables : ToolTables}
  {sent : List (Nat × ToolFragment)} {item : ToolItem} {busy : Option ToolItem} {address : Nat}

namespace Tracks

theorem getElem?_unique (tracks : Tracks items progress busy tables sent) {other : Nat}
    (here : progress.opened[address]? = some item) (there : progress.opened[other]? = some item) :
    other = address := by
  have bound := (List.getElem?_eq_some_iff.mp there).1
  exact (getElem?_inj bound tracks.distinct).mp (there.trans here.symm)

theorem takeUp (tracks : Tracks items progress none tables sent) (item : ToolItem) :
    Tracks items progress (some item) tables sent :=
  { tracks with
    settled := fun address other tool here _ found =>
      tracks.settled address other tool here nofun found }

theorem finish (tracks : Tracks items progress (some item) tables sent)
    (here : progress.opened[address]? = some item) (bound : ItemBound tables item)
    (settled : ∀ tool, tables.tools[address]? = some tool → ToolSettled tool) :
    Tracks items progress none tables sent :=
  { tracks with
    settled := by
      intro position other tool there _ found
      by_cases same : other = item
      · subst same
        obtain rfl := tracks.getElem?_unique here there
        exact ⟨settled tool found,bound⟩
      · exact tracks.settled position other tool there
          (fun isOther => same (Option.some.inj isOther).symm) found }

section

variable (proper : ProperItems items) (tracks : Tracks items progress (some item) tables sent)
  (here : progress.opened[address]? = some item)

include proper tracks here

section

variable {next : Progress} (sameOpened : next.opened = progress.opened)
  (others : ∀ other, other ≠ item →
    next.text other = progress.text other ∧ next.named other = progress.named other)
  (change : ResponsesStreamTool → ResponsesStreamTool) {more : List (Nat × ToolFragment)}
  (moreHere : ∀ fragment ∈ more, fragment.1 = address)

include sameOpened others moreHere

/-- A change of the tool of the busy item and of the deltas that wait for it, perhaps with
fragments sent for it. -/
theorem modifyToolWaiting {pending : AList fun _ : Int => List UInt8}
    (othersWait : ∀ index, index ≠ item.outputIndex →
      pending.lookup index = tables.pendingArgsByOutputIndex.lookup index)
    (hereWaits : ∀ waiting, pending.lookup item.outputIndex = some waiting → waiting ≠ [])
    (keeps : ∀ tool, tables.tools[address]? = some tool →
      ToolTracks item address (tables.waiting item) (progress.text item) (progress.named item) tool
        (fragmentsOf address sent) →
      ToolTracks item address ((pending.lookup item.outputIndex).getD []) (next.text item)
        (next.named item) (change tool) (fragmentsOf address (sent ++ more))) :
    Tracks items next (some item)
      { tables.modifyTool address change with pendingArgsByOutputIndex := pending }
      (sent ++ more) := by
  have isOpened : item ∈ progress.opened := mem_of_getElem? here
  have inRange : address < progress.opened.length := (List.getElem?_eq_some_iff.mp here).1
  have elsewhere : ∀ position other, progress.opened[position]? = some other → other ≠ item →
      address ≠ position := by
    rintro position other there different rfl
    exact different (Option.some.inj (there.symm.trans here))
  have unchanged : ∀ position tool, address ≠ position →
      (tables.modifyTool address change).tools[position]? = some tool →
      tables.tools[position]? = some tool := by
    intro position tool different found
    simpa [ToolTables.modifyTool,different] using found
  have sameWaiting : ∀ other ∈ items, other ≠ item →
      pending.lookup other.outputIndex =
        tables.pendingArgsByOutputIndex.lookup other.outputIndex := by
    intro other member different
    apply othersWait
    intro same
    exact different (proper.eq_of_outputIndex member (tracks.known item isOpened) same)
  obtain ⟨opened,text,named⟩ := next
  dsimp only at sameOpened others keeps
  subst sameOpened
  exact
    { tracks with
      addresses := by simpa [ToolTables.modifyTool] using tracks.addresses
      fragments := by
        intro fragment member
        rcases mem_append.mp member with old | new
        · exact tracks.fragments fragment old
        · rwa [moreHere fragment new]
      waitingItems := by
        intro index waiting waits
        by_cases same : index = item.outputIndex
        · subst same
          exact ⟨hereWaits waiting waits,item,tracks.known item isOpened,rfl⟩
        · exact tracks.waitingItems index waiting (othersWait index same ▸ waits)
      unopened := by
        intro other member closed
        have different : other ≠ item := fun same => closed (same ▸ isOpened)
        obtain ⟨waits,unnamed⟩ := tracks.unopened other member closed
        refine ⟨?_,(others other different).2.trans unnamed⟩
        rw [ToolTables.waiting,sameWaiting other member different]
        exact waits.trans (others other different).1.symm
      tools := by
        intro position other tool there found
        by_cases same : other = item
        · subst same
          obtain rfl := tracks.getElem?_unique here there
          obtain ⟨old,oldFound,rfl⟩ : ∃ old, tables.tools[position]? = some old ∧
              change old = tool := by
            simpa [ToolTables.modifyTool] using found
          exact keeps old oldFound (tracks.tools position other old there oldFound)
        · have different := elsewhere position other there same
          have noMore : fragmentsOf position more = [] :=
            fragmentsOf_eq_nil fun fragment member => by
              rwa [moreHere fragment member]
          have old := tracks.tools position other tool there (unchanged position tool different found)
          have waits := sameWaiting other (tracks.known other (mem_of_getElem? there)) same
          rw [fragmentsOf_append,noMore,append_nil,ToolTables.waiting,waits]
          dsimp only
          rwa [(others other same).1,(others other same).2]
      settled := by
        intro position other tool there notBusy found
        have notItem : other ≠ item := fun same => notBusy (same ▸ rfl)
        have different := elsewhere position other there notItem
        have waits := sameWaiting other (tracks.known other (mem_of_getElem? there)) notItem
        obtain ⟨settled,bound⟩ :=
          tracks.settled position other tool there notBusy (unchanged position tool different found)
        exact ⟨settled,bound.output,bound.id,waits.trans bound.noneWaits⟩ }

theorem modifyTool (keeps : ∀ tool, tables.tools[address]? = some tool →
      ToolTracks item address (tables.waiting item) (progress.text item) (progress.named item) tool
        (fragmentsOf address sent) →
      ToolTracks item address (tables.waiting item) (next.text item) (next.named item)
        (change tool) (fragmentsOf address (sent ++ more))) :
    Tracks items next (some item) (tables.modifyTool address change) (sent ++ more) :=
  tracks.modifyToolWaiting proper here sameOpened others change moreHere (fun _ _ => rfl)
    (fun waiting waits => (tracks.waitingItems _ waiting waits).1) keeps

end

theorem relabelTool (change : ResponsesStreamTool → ResponsesStreamTool)
    (keeps : ∀ tool fragments, ToolTracks item address (tables.waiting item) (progress.text item)
      (progress.named item) tool fragments →
      ToolTracks item address (tables.waiting item) (progress.text item) (progress.named item)
        (change tool) fragments) :
    Tracks items progress (some item) (tables.modifyTool address change) sent := by
  have changed := tracks.modifyTool proper here rfl (fun _ _ => ⟨rfl,rfl⟩) change
    (forall_mem_nil _)
    (fun tool _ old => keeps tool (fragmentsOf address (sent ++ [])) (by simpa using old))
  simpa using changed

end

end Tracks

end

end NewApi
