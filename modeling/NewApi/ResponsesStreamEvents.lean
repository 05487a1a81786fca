import NewApi.ResponsesStreamSending

/-! # Streams of tool items -/

namespace NewApi

open List

section

/-- An event of a tool item. Custom tools have event types of their own. -/
inductive ItemEvent where
  | added (output : ResponsesOutput)
  | argumentsDelta (custom : Bool) (text : String)
  | argumentsDone (custom : Bool)
  | done (output : ResponsesOutput)
deriving DecidableEq, Repr

namespace ItemEvent

def text : ItemEvent → String
  | .argumentsDelta _ text => text
  | _ => ""

def opens : ItemEvent → Bool
  | .argumentsDelta _ _ => false
  | _ => true

def isAdded : ItemEvent → Bool
  | .added _ => true
  | _ => false

end ItemEvent

inductive StreamedEvent (Usage : Type) where
  | plain (event : ResponsesStreamResponse Usage)
  | ofItem (item : ToolItem) (event : ItemEvent)

variable {Usage : Type}

def ToolItem.event (item : ToolItem) : ItemEvent → ResponsesStreamResponse Usage
  | .added output =>
    { type := .outputItemAdded, item := some output, outputIndex := some item.outputIndex }
  | .argumentsDelta custom text =>
    { type := if custom then .customToolInputDelta else .functionArgsDelta
      delta := text, outputIndex := some item.outputIndex, itemId := item.id }
  | .argumentsDone custom =>
    { type := if custom then .customToolInputDone else .functionArgsDone
      outputIndex := some item.outputIndex, itemId := item.id }
  | .done output =>
    { type := .outputItemDone, item := some output, outputIndex := some item.outputIndex }

def StreamedEvent.event : StreamedEvent Usage → ResponsesStreamResponse Usage
  | .plain event => event
  | .ofItem item event => item.event event

def itemEvents (stream : List (StreamedEvent Usage)) : List (ToolItem × ItemEvent) :=
  stream.filterMap fun
    | .plain _ => none
    | .ofItem item event => some (item, event)

def streamedText (stream : List (StreamedEvent Usage)) (item : ToolItem) : String :=
  joined ((fragmentsOf item (itemEvents stream)).map ItemEvent.text)

def appearanceOrder (stream : List (StreamedEvent Usage)) : List ToolItem :=
  fragmentKeys (itemEvents stream)

def openingOrder (stream : List (StreamedEvent Usage)) : List ToolItem :=
  fragmentKeys ((itemEvents stream).filter fun event => event.2.opens)

def ResponsesStreamResponse.isPlain (event : ResponsesStreamResponse Usage) : Bool :=
  match event.type with
  | .created | .reasoningSummaryDelta | .reasoningTextDelta | .reasoningSummaryDone
  | .reasoningTextDone | .outputTextDelta | .other _ => true
  | .outputItemAdded | .outputItemDone =>
    !(event.item.any fun item => isResponsesToolOutputType item.type)
  | _ => false

/-- The events of one item: it is added once, with empty arguments, and at the end it comes
with all the arguments that were streamed. -/
structure ProperItemEvents (item : ToolItem) (events : List ItemEvent) : Prop where
  added : ∃ output, events.filter ItemEvent.isAdded = [.added output] ∧ item.Describes output ∧
    output.argumentsString = ""
  ending : ∃ before output, events = before ++ [.done output] ∧ (∀ other, .done other ∉ before) ∧
    item.Describes output ∧ output.argumentsString = joined (before.map ItemEvent.text)

structure ProperStream (items : List ToolItem) (stream : List (StreamedEvent Usage))
    (response : ResponsesResponse) : Prop where
  distinct : ProperItems items
  plain : ∀ event, .plain event ∈ stream → event.isPlain
  known : ∀ item event, .ofItem item event ∈ stream → item ∈ items
  events : ∀ item ∈ items, ProperItemEvents item (fragmentsOf item (itemEvents stream))
  final : ∀ output ∈ response.output, isResponsesToolOutputType output.type →
    ∃ item ∈ items, item.Describes output ∧ output.argumentsString = streamedText stream item

/-- One index for each item, in this order. For each index the trimmed name is sent once, unless
it is blank, and the arguments are all that were streamed. -/
def CarriesCalls (order : List ToolItem) (text : ToolItem → String)
    (fragments : List (Nat × ToolFragment)) : Prop :=
  (∀ fragment ∈ fragments, fragment.1 < order.length) ∧
  ∀ position item, order[position]? = some item →
    ((fragmentsOf position fragments).map ToolFragment.name).filter (· ≠ "") =
      [GoStrings.trimSpace item.name].filter (· ≠ "") ∧
    (fragmentsOf position fragments).flatMap ToolFragment.arguments = utf8Bytes (text item)

end

open ItemEvent

section

def Progress.read (progress : Progress) (item : ToolItem) : ItemEvent → Progress
  | .added _ => (progress.opening item).naming item
  | .argumentsDelta _ text => progress.extend item (utf8Bytes text)
  | .argumentsDone _ => progress.opening item
  | .done _ => (progress.opening item).naming item

def progressOf (events : List (ToolItem × ItemEvent)) : Progress :=
  events.foldl (fun progress event => progress.read event.1 event.2) Progress.start

variable (events : List (ToolItem × ItemEvent)) (item : ToolItem)

theorem progressOf_concat (event : ItemEvent) :
    progressOf (events ++ [(item, event)]) = (progressOf events).read item event := by
  simp [progressOf]

theorem utf8Bytes_append (first second : String) :
    utf8Bytes (first ++ second) = utf8Bytes first ++ utf8Bytes second := by
  simp [utf8Bytes]

theorem progressOf_text :
    (progressOf events).text item =
      utf8Bytes (joined ((fragmentsOf item events).map text)) := by
  induction events using reverseRecOn with
  | nil => exact (by decide : [] = utf8Bytes "")
  | append_singleton events last induction =>
    obtain ⟨other,event⟩ := last
    rw [progressOf_concat,fragmentsOf_append,map_append,joined_append,utf8Bytes_append,
      ← induction]
    have none : utf8Bytes "" = [] := by decide
    by_cases same : item = other
    · subst same
      cases event <;> simp [Progress.read,Progress.opening,Progress.naming,Progress.extend,
        fragmentsOf,joined,text,none]
    · have different : other ≠ item := Ne.symm same
      cases event <;> simp [Progress.read,Progress.opening,Progress.naming,Progress.extend,
        fragmentsOf,joined,same,different,none]

theorem progressOf_opened :
    (progressOf events).opened = fragmentKeys (events.filter fun event => event.2.opens) := by
  induction events using reverseRecOn with
  | nil => rfl
  | append_singleton events last induction =>
    obtain ⟨item,event⟩ := last
    rw [progressOf_concat,filter_append]
    cases event with
    | argumentsDelta =>
      simpa [Progress.read,Progress.extend,opens] using induction
    | added output | argumentsDone custom | done output =>
      rw [show [_].filter _ = [_] from rfl,fragmentKeys_concat,← induction]
      rfl

theorem progressOf_named {events : List (ToolItem × ItemEvent)} {item : ToolItem}
    {output : ResponsesOutput} (member : (item, done output) ∈ events) :
    (progressOf events).named item = true := by
  induction events using reverseRecOn with
  | nil => exact absurd member not_mem_nil
  | append_singleton events last induction =>
    obtain ⟨other,event⟩ := last
    rw [progressOf_concat]
    rcases mem_append.mp member with before | isLast
    · have named := induction before
      cases event <;>
        simp [Progress.read,Progress.opening,Progress.naming,Progress.extend,named]
    · obtain ⟨rfl,rfl⟩ := Prod.mk.inj (mem_singleton.mp isLast)
      simp [Progress.read,Progress.naming]

end

section

variable {Usage : Type} {state : ResponsesToChatStreamState Usage} {items : List ToolItem}
  {progress : Progress} {sent : List (Nat × ToolFragment)} {item : ToolItem}

def SendsNoTools (result : Option (StreamResult Usage))
    (state : ResponsesToChatStreamState Usage) : Prop :=
  ∃ next chunks, result = some (next, chunks) ∧ next.toToolTables = state.toToolTables ∧
    sentFragments chunks = []

theorem sendsNoTools_idle : SendsNoTools (some (state, [])) state :=
  ⟨state,[],rfl,rfl,rfl⟩

theorem textDelta_sendsNoTools (delta : String) :
    SendsNoTools (some (state.textDelta delta)) state := by
  unfold ResponsesToChatStreamState.textDelta
  split
  · exact sendsNoTools_idle
  · exact ⟨_,_,rfl,ensureStart_tables _,startAndSend_fragments _ rfl⟩

theorem reasoningDelta_sendsNoTools (delta : String) :
    SendsNoTools (some (state.reasoningDelta delta)) state := by
  unfold ResponsesToChatStreamState.reasoningDelta
  split
  · exact sendsNoTools_idle
  · exact ⟨_,_,rfl,ensureStart_tables _,startAndSend_fragments _ rfl⟩

theorem applyResponseMetadata_tables (response : Option ResponsesResponse) (usage : Option Usage) :
    (state.applyResponseMetadata response usage).toToolTables = state.toToolTables := by
  cases response <;> rfl

variable (state) in
theorem plain_sendsNoTools {event : ResponsesStreamResponse Usage} (plain : event.isPlain) :
    SendsNoTools (sendEvent state event) state := by
  rw [sendEvent_eq_eventChunks]
  unfold ResponsesStreamResponse.isPlain at plain
  unfold eventChunks
  cases type : event.type <;> simp only [type,Bool.false_eq_true] at plain ⊢
  case created =>
    refine ⟨_,_,rfl,?_,ensureStart_fragments _⟩
    exact (ensureStart_tables _).trans (applyResponseMetadata_tables _ _)
  case reasoningSummaryDelta | reasoningTextDelta => exact reasoningDelta_sendsNoTools event.delta
  case reasoningSummaryDone | reasoningTextDone => exact ⟨_,[],rfl,rfl,rfl⟩
  case outputTextDelta => exact textDelta_sendsNoTools event.delta
  case other => exact sendsNoTools_idle
  case outputItemAdded | outputItemDone =>
    cases carried : event.item with
    | none => exact sendsNoTools_idle
    | some item =>
      have notTool : isResponsesToolOutputType item.type = false := by
        simpa [carried] using plain
      simpa [notTool] using sendsNoTools_idle

def EventFits (progress : Progress) (item : ToolItem) : ItemEvent → Prop
  | .added output => item.Describes output ∧ output.argumentsString = ""
  | .done output => item.Describes output ∧ utf8Bytes output.argumentsString = progress.text item
  | _ => True

theorem Tracks.sendItemEvent (proper : ProperItems items)
    (tracks : Tracks items progress none state.toToolTables sent) (member : item ∈ items)
    {event : ItemEvent} (fits : EventFits progress item event) :
    ∃ next chunks, sendEvent state (item.event event) = some (next, chunks) ∧
      Tracks items (progress.read item event) none next.toToolTables
        (sent ++ sentFragments chunks) := by
  rw [sendEvent_eq_eventChunks]
  cases event with
  | added output =>
    obtain ⟨describes,empty⟩ := fits
    have noArgs : utf8Bytes output.argumentsString = [] := by
      rw [empty]
      decide
    have sends := tracks.toolItem proper member (item.event (.added output)) rfl describes
      (.inl rfl) (.inl noArgs)
    simpa [eventChunks,ToolItem.event,describes.isTool,Progress.read] using sends
  | argumentsDelta custom text =>
    have sends := tracks.toolArgumentsDelta proper member
      (item.event (.argumentsDelta custom text)) rfl rfl rfl
    cases custom <;> exact sends
  | argumentsDone custom =>
    have sends := tracks.flushPendingTool proper member
      (item.event (.argumentsDone custom)) rfl rfl rfl
    cases custom <;> exact sends
  | done output =>
    obtain ⟨describes,sameArgs⟩ := fits
    have sends := tracks.toolItem proper member (item.event (.done output)) rfl describes
      (.inl rfl) (.inr sameArgs)
    simpa [eventChunks,ToolItem.event,describes.isTool,Progress.read] using sends

end

section

variable {Usage : Type} {items : List ToolItem} {stream : List (StreamedEvent Usage)}
  {response : ResponsesResponse}

theorem itemEvents_append (first second : List (StreamedEvent Usage)) :
    itemEvents (first ++ second) = itemEvents first ++ itemEvents second :=
  filterMap_append

theorem split_at_last {Item : Type} {before first second : List Item} {last item : Item}
    (split : before ++ [last] = first ++ item :: second) (only : item ∉ before) :
    before = first ∧ last = item := by
  rcases eq_nil_or_concat' second with rfl | ⟨init,final,rfl⟩
  · obtain ⟨same,lasts⟩ := append_inj' split rfl
    exact ⟨same,singleton_inj.mp lasts⟩
  · rw [← cons_append,← append_assoc] at split
    obtain ⟨same,-⟩ := append_inj' split rfl
    exact absurd (same ▸ mem_append_right _ mem_cons_self) only

theorem ProperStream.fits (proper : ProperStream items stream response)
    {seen rest : List (StreamedEvent Usage)} {item : ToolItem} {event : ItemEvent}
    (split : stream = seen ++ .ofItem item event :: rest) :
    EventFits (progressOf (itemEvents seen)) item event := by
  have member : item ∈ items := proper.known item event (by simp [split])
  have events := proper.events item member
  have parts : fragmentsOf item (itemEvents stream) =
      fragmentsOf item (itemEvents seen) ++ event :: fragmentsOf item (itemEvents rest) := by
    rw [split,itemEvents_append]
    simp [itemEvents,fragmentsOf]
  rw [parts] at events
  cases event with
  | argumentsDelta => trivial
  | argumentsDone => trivial
  | added output =>
    obtain ⟨only,isOnly,describes,empty⟩ := events.added
    have isAdded : added output ∈ [added only] := by
      rw [← isOnly]
      simp [isAdded]
    obtain rfl := added.inj (mem_singleton.mp isAdded)
    exact ⟨describes,empty⟩
  | done output =>
    obtain ⟨before,last,whole,notBefore,describes,args⟩ := events.ending
    obtain ⟨isBefore,isLast⟩ := split_at_last whole.symm (notBefore output)
    obtain rfl := done.inj isLast
    refine ⟨describes,?_⟩
    rw [progressOf_text,args,isBefore]

def StreamTracks (items : List ToolItem) (seen : List (StreamedEvent Usage))
    (state : ResponsesToChatStreamState Usage) (sent : List (ChatChunk Usage)) : Prop :=
  Tracks items (progressOf (itemEvents seen)) none state.toToolTables (sentFragments sent)

theorem ProperStream.step (proper : ProperStream items stream response)
    {seen rest : List (StreamedEvent Usage)} {input : StreamedEvent Usage}
    (split : stream = seen ++ input :: rest) (state : ResponsesToChatStreamState Usage)
    (sent : List (ChatChunk Usage)) (tracks : StreamTracks items seen state sent) :
    ∃ next emitted, sendEvent state input.event = some (next, emitted) ∧
      StreamTracks items (seen ++ [input]) next (sent ++ emitted) := by
  cases input with
  | plain event =>
    obtain ⟨next,emitted,result,same,none⟩ :=
      plain_sendsNoTools state (proper.plain event (by simp [split]))
    refine ⟨next,emitted,result,?_⟩
    simpa [StreamTracks,itemEvents,same,none] using tracks
  | ofItem item event =>
    have member : item ∈ items := proper.known item event (by simp [split])
    obtain ⟨next,emitted,result,after⟩ :=
      Tracks.sendItemEvent proper.distinct tracks member (proper.fits split)
    refine ⟨next,emitted,result,?_⟩
    rw [StreamTracks]
    simpa [itemEvents,progressOf_concat] using after

theorem ProperStream.tracks (proper : ProperStream items stream response)
    {state : ResponsesToChatStreamState Usage} (fresh : state.toToolTables = {}) :
    ∃ last chunks,
      EmittingRuns.emitAll sendEvent state (stream.map StreamedEvent.event) = some (last, chunks) ∧
      StreamTracks items stream last chunks := by
  have initially : StreamTracks items [] state [] := by
    rw [StreamTracks,fresh]
    exact Tracks.start items
  obtain ⟨last,chunks,result,tracks⟩ := EmittingRuns.emitAll_invariant (StreamTracks items)
    (fun _ _ _ split state sent => proper.step split state sent) initially
  exact ⟨last,chunks,by rwa [EmittingRuns.emitAll_map],tracks⟩

end

end NewApi
