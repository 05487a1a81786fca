import NewApi.ClaudeRequestMerging

/-! # What of a conversation reaches the Claude request -/

namespace NewApi

open GoStrings ChatMessage MessageContent ChatMessage List

variable {Source Input : Type}

section

namespace ClaudeRequestBlock

def toolUse? : ClaudeRequestBlock Source Input → Option (String × String)
  | .toolUse id name _ => some (id, name)
  | _ => none

def toolResult? : ClaudeRequestBlock Source Input → Option String
  | .toolResult toolUseId _ => some toolUseId
  | _ => none

def text? : ClaudeRequestBlock Source Input → Option String
  | .text string => some string
  | _ => none

end ClaudeRequestBlock

open ClaudeRequestBlock

variable {Item : Type}

def collect (pick : Role → ClaudeRequestBlock Source Input → Option Item)
    (messages : List (ClaudeMessage Source Input)) : List Item :=
  messages.flatMap fun message => message.content.toBlocks.filterMap (pick message.role)

def userText? (role : Role) (block : ClaudeRequestBlock Source Input) : Option String :=
  if role = .user then block.text? else none

namespace ClaudeRequest

variable (request : ClaudeRequest Source Input)

def toolUses : List (String × String) :=
  collect (fun _ => toolUse?) request.messages

def toolResults : List String :=
  collect (fun _ => toolResult?) request.messages

def userTexts : List String :=
  collect userText? request.messages

end ClaudeRequest

structure KeepsConversation (messages : List (ChatMessage Source))
    (request : ClaudeRequest Source Input) : Prop where
  toolUses : request.toolUses = messages.flatMap assistantCalls
  toolResults : request.toolResults = messages.flatMap toolResultIds
  roles : ∀ message ∈ request.messages, message.role = .user ∨ message.role = .assistant
  first : ∀ message ∈ request.messages.head?, message.role = .user
  userTexts : PartsOf (messages.flatMap ChatMessage.userTexts) request.userTexts

def knownRole (role : Role) : Bool :=
  role = .user || role = .assistant || role = .system || role = .tool

def ConversationKept (messages : List (ChatMessage Source)) : Prop :=
  (∀ message ∈ messages, knownRole message.role = true) ∧ KeepsCalls messages ∧
    keepsQuotes messages = true

instance (messages : List (ChatMessage Source)) : Decidable (ConversationKept messages) :=
  inferInstanceAs (Decidable (_ ∧ _ ∧ _))

variable {pick : Role → ClaudeRequestBlock Source Input → Option Item}

theorem collect_append (first second : List (ClaudeMessage Source Input)) :
    collect pick (first ++ second) = collect pick first ++ collect pick second := by
  simp [collect]

theorem collect_singleton (message : ClaudeMessage Source Input) :
    collect pick [message] = message.content.toBlocks.filterMap (pick message.role) := by
  simp [collect]

variable (sent : List (ClaudeMessage Source Input))

theorem addToolResult_cases (message : ChatMessage Source) :
    (∃ front last, sent = front ++ [last] ∧ last.role = .user ∧
      addToolResult sent message = front ++ [{ last with
        content := .blocks (last.content.toBlocks ++
          [.toolResult message.toolCallId message.content]) }]) ∨
      addToolResult sent message =
        sent ++ [⟨.user, .blocks [.toolResult message.toolCallId message.content]⟩] := by
  unfold addToolResult
  rcases eq_nil_or_concat' sent with rfl | ⟨front,last,rfl⟩
  · exact .inr rfl
  · simp only [getLast?_append,getLast?_singleton,Option.some_or,dropLast_concat]
    split
    case isTrue user => exact .inl ⟨front,last,rfl,user,rfl⟩
    case isFalse => exact .inr rfl

/-- The result of a tool comes after everything else. -/
theorem collect_addToolResult
    (message : ChatMessage Source) :
    collect pick (addToolResult sent message) = collect pick sent ++
      (pick .user (.toolResult message.toolCallId message.content)).toList := by
  have alone : [ClaudeRequestBlock.toolResult message.toolCallId message.content].filterMap (pick .user) =
      (pick .user (.toolResult message.toolCallId message.content)).toList := by
    cases picked : pick .user (.toolResult message.toolCallId message.content) <;> simp [picked]
  rcases addToolResult_cases sent message with ⟨front,last,rfl,user,added⟩ | added
  · rw [added]
    simp only [collect_append,collect_singleton,ClaudeContent.toBlocks,filterMap_append,user,
      alone,append_assoc]
  · rw [added,collect_append,collect_singleton]
    rfl

def opening (pick : Role → ClaudeRequestBlock Source Input → Option Item)
    (emission : Emission Source Input) (message : ChatMessage Source) : List Item :=
  if emission.isFirstMessage && message.role ≠ .user then (pick .user (.text placeholder)).toList
  else []

theorem collect_begin (emission : Emission Source Input) (message : ChatMessage Source) :
    collect pick (emission.begin message).messages =
      collect pick emission.messages ++ opening pick emission message := by
  unfold Emission.begin opening
  cases emission.isFirstMessage with
  | false => simp
  | true =>
    by_cases user : message.role = .user
    · simp [user]
    · simp only [user,ne_eq,not_false_eq_true,if_true,collect_append,collect_singleton,
        placeholderMessage,ClaudeContent.toBlocks]
      cases picked : pick .user (.text placeholder) <;> simp [picked]

end

section

open ClaudeRequestBlock

variable {env : RequestEnv Source Input}

theorem mediaBlocks_texts {parts : List (MediaContent Source)}
    {blocks : List (ClaudeRequestBlock Source Input)} (resolved : mediaBlocks env parts = .ok blocks) :
    blocks.filterMap text? = nonEmptyTexts (partTexts parts) ∧
      blocks.filterMap toolUse? = [] ∧ blocks.filterMap toolResult? = [] := by
  induction parts generalizing blocks with
  | nil =>
    obtain rfl : [] = blocks := Except.ok.inj resolved
    exact ⟨rfl,rfl,rfl⟩
  | cons part parts ih =>
    rw [mediaBlocks] at resolved
    cases first : mediaBlock env part with
    | error => simp [first,bind,Except.bind] at resolved
    | ok block =>
      cases later : mediaBlocks env parts with
      | error => simp [first,later,bind,Except.bind] at resolved
      | ok rest =>
        obtain rfl : block.toList ++ rest = blocks := by
          simpa [first,later,bind,Except.bind,pure,Except.pure] using resolved
        obtain ⟨texts,uses,results⟩ := ih later
        simp only [filterMap_append,texts,uses,results]
        cases part with
        | text string =>
          obtain rfl := Except.ok.inj first
          by_cases empty : string = ""
          · simp [empty,partTexts,nonEmptyTexts]
          · simp [empty,partTexts,nonEmptyTexts,text?,toolUse?,toolResult?]
        | file source =>
          cases source with
          | none =>
            obtain rfl := Except.ok.inj first
            simp [partTexts]
          | some =>
            rw [mediaBlock] at first
            split at first
            · cases first
            · obtain rfl := Except.ok.inj first
              simp [partTexts,text?,toolUse?,toolResult?]

theorem partTexts_parse (content : MessageContent Source) :
    partTexts content.parse = content.texts := by
  cases content <;> rfl

theorem toolUseBlock_collected (env : RequestEnv Source Input) (calls : List ToolCallRequest) :
    (calls.map (toolUseBlock env)).filterMap text? = [] ∧
      (calls.map (toolUseBlock env)).filterMap toolUse? = calls.map (fun call => (call.id, call.name)) ∧
      (calls.map (toolUseBlock env)).filterMap toolResult? = [] := by
  refine ⟨?_,?_,?_⟩
  · simp [toolUseBlock,text?]
  · induction calls with
    | nil => rfl
    | cons call calls ih => simp [toolUseBlock,toolUse?,ih]
  · simp [toolUseBlock,toolResult?]

theorem emitContent_collected {message : ChatMessage Source} (formatted : Formatted message)
    {content : ClaudeContent Source Input} (emitted : emitContent env message = .ok content) :
    content.toBlocks.filterMap text? = nonEmptyTexts message.content.texts ∧
      content.toBlocks.filterMap toolUse? =
        message.parseToolCalls.map (fun call => (call.id, call.name)) ∧
      content.toBlocks.filterMap toolResult? = [] := by
  unfold emitContent at emitted
  split at emitted
  case isTrue plain =>
    obtain ⟨isText,none⟩ := Bool.and_eq_true_iff.mp plain
    obtain rfl := Except.ok.inj emitted
    have notEmpty := formatted.notEmpty
    cases body : message.content with
    | null | media parts => simp [isString,body] at isText
    | text string =>
      have some_ : string ≠ "" := by simpa [body] using notEmpty
      simp [ClaudeContent.toBlocks,stringContent,body,some_,texts,nonEmptyTexts,
        text?,toolUse?,toolResult?,parseToolCalls,Option.isNone_iff_eq_none.mp none]
  case isFalse =>
    cases resolved : mediaBlocks env message.content.parse with
    | error => simp [resolved] at emitted
    | ok blocks =>
      obtain rfl : .blocks (blocks ++ message.parseToolCalls.map (toolUseBlock env)) = content := by
        simpa [resolved,bind,Except.bind,pure,Except.pure] using emitted
      obtain ⟨texts,uses,results⟩ := mediaBlocks_texts resolved
      obtain ⟨noTexts,calls,noResults⟩ := toolUseBlock_collected env message.parseToolCalls
      simp only [ClaudeContent.toBlocks,filterMap_append,texts,uses,results,noTexts,calls,
        noResults,append_nil,nil_append,partTexts_parse,and_self]

end

section

variable {env : RequestEnv Source Input} {emission after : Emission Source Input}
  {message : ChatMessage Source}

inductive EmitEffect (env : RequestEnv Source Input) (emission : Emission Source Input)
    (message : ChatMessage Source) : Emission Source Input → Prop
  | system (isSystem : message.role = .system) (texts : List String) :
    EmitEffect env emission message { emission with systemMessages := texts }
  | tool (isTool : message.role = .tool) :
    EmitEffect env emission message
      { emission.begin message with messages := addToolResult (emission.begin message).messages message }
  | speech (notSystem : message.role ≠ .system) (notTool : message.role ≠ .tool)
    {content : ClaudeContent Source Input} (emitted : emitContent env message = .ok content) :
    EmitEffect env emission message
      { emission.begin message with
        messages := (emission.begin message).messages ++ [⟨message.role, content⟩] }

theorem emit_effect (emitted : emit env emission message = .ok after) :
    EmitEffect env emission message after := by
  unfold emit at emitted
  split at emitted
  case isTrue isSystem =>
    obtain rfl := Except.ok.inj emitted
    exact .system isSystem _
  case isFalse notSystem =>
    split at emitted
    case isTrue isTool =>
      obtain rfl := Except.ok.inj emitted
      exact .tool isTool
    case isFalse notTool =>
      cases resolved : emitContent env message with
      | error => simp [resolved] at emitted
      | ok =>
        simp only [resolved,bind,Except.bind,pure,Except.pure,Except.ok.injEq] at emitted
        subst emitted
        exact .speech notSystem notTool resolved

theorem emitAll_cons {messages : List (ChatMessage Source)}
    (emitted : emitAll env emission (message :: messages) = .ok after) :
    ∃ next, EmitEffect env emission message next ∧ emitAll env next messages = .ok after := by
  rw [emitAll] at emitted
  cases first : emit env emission message with
  | error => simp [first,bind,Except.bind] at emitted
  | ok next => exact ⟨next,emit_effect first,by simpa [first,bind,Except.bind] using emitted⟩

open ClaudeRequestBlock

variable {messages : List (ChatMessage Source)}

theorem Formatted.calls_eq (formatted : Formatted message) :
    message.parseToolCalls.map (fun call => (call.id, call.name)) = message.assistantCalls := by
  unfold assistantCalls
  split
  case isTrue => rfl
  case isFalse other => simp [parseToolCalls,formatted.noCalls other]

section

variable (effect : EmitEffect env emission message after)

include effect

theorem EmitEffect.begun (notSystem : message.role ≠ .system) : after.isFirstMessage = false := by
  have begins : (emission.begin message).isFirstMessage = false := by
    unfold Emission.begin
    split
    · rfl
    · simp_all
  cases effect with
  | system isSystem => exact absurd isSystem notSystem
  | tool => exact begins
  | speech => exact begins

variable (formatted : Formatted message)

include formatted

theorem EmitEffect.toolUses :
    collect (fun _ => toolUse?) after.messages =
      collect (fun _ => toolUse?) emission.messages ++ message.assistantCalls := by
  cases effect with
  | system isSystem => simp [assistantCalls,isSystem]
  | tool isTool =>
    simp [collect_addToolResult,collect_begin,opening,toolUse?,assistantCalls,isTool]
  | speech _ _ emitted =>
    obtain ⟨-,calls,-⟩ := emitContent_collected formatted emitted
    simp [collect_append,collect_singleton,collect_begin,opening,toolUse?,calls,
      formatted.calls_eq]

theorem EmitEffect.toolResults :
    collect (fun _ => toolResult?) after.messages =
      collect (fun _ => toolResult?) emission.messages ++ message.toolResultIds := by
  cases effect with
  | system isSystem => simp [toolResultIds,isSystem]
  | tool isTool =>
    simp [collect_addToolResult,collect_begin,opening,toolResult?,toolResultIds,isTool]
  | speech _ notTool emitted =>
    obtain ⟨-,-,results⟩ := emitContent_collected formatted emitted
    simp [collect_append,collect_singleton,collect_begin,opening,toolResult?,results,
      toolResultIds,notTool]

/-- The texts of the user come after those before, and after the placeholder where this is
the first message. -/
theorem EmitEffect.userTexts (known : message.role ≠ .unset) :
    collect userText? after.messages = collect userText? emission.messages ++
      (if message.role = .system then [] else opening userText? emission message) ++
        message.userTexts := by
  cases effect with
  | system isSystem => simp [userTexts,isUser,isSystem]
  | tool isTool =>
    simp [collect_addToolResult,collect_begin,userText?,text?,userTexts,isUser,isTool]
  | speech notSystem _ emitted =>
    obtain ⟨texts,-,-⟩ := emitContent_collected formatted emitted
    rw [if_neg notSystem]
    simp only [collect_append,collect_singleton,collect_begin]
    congr 1
    by_cases user : message.role = .user
    · have picked : userText? message.role = (text? : ClaudeRequestBlock Source Input → _) := by
        funext block
        simp [userText?,user]
      rw [picked,texts]
      simp [userTexts,isUser,user]
    · have picked : userText? message.role = fun _ : ClaudeRequestBlock Source Input => none := by
        funext block
        simp [userText?,user]
      rw [picked]
      simp [userTexts,isUser,user,known]

end

theorem emitAll_collects {Item : Type} {pick : Role → ClaudeRequestBlock Source Input → Option Item}
    {items : ChatMessage Source → List Item} (adds : ∀ {emission message after}, Formatted message →
      EmitEffect env emission message after →
        collect pick after.messages = collect pick emission.messages ++ items message)
    (formatted : ∀ message ∈ messages, Formatted message)
    (emitted : emitAll env emission messages = .ok after) :
    collect pick after.messages = collect pick emission.messages ++ messages.flatMap items := by
  induction messages generalizing emission with
  | nil =>
    obtain rfl := Except.ok.inj emitted
    simp
  | cons message rest ih =>
    obtain ⟨next,effect,later⟩ := emitAll_cons emitted
    rw [forall_mem_cons] at formatted
    rw [ih formatted.2 later,adds formatted.1 effect,flatMap_cons,append_assoc]

/-- A placeholder is put at most once, before the first message. -/
theorem emitAll_userTexts (formatted : ∀ message ∈ messages, Formatted message)
    (known : ∀ message ∈ messages, message.role ≠ .unset)
    (emitted : emitAll env emission messages = .ok after) :
    ∃ opened, occurrences '"' opened = 0 ∧ (emission.isFirstMessage = false → opened = []) ∧
      collect userText? after.messages =
        collect userText? emission.messages ++ opened ++ messages.flatMap userTexts := by
  induction messages generalizing emission with
  | nil =>
    obtain rfl := Except.ok.inj emitted
    exact ⟨[],rfl,fun _ => rfl,by simp⟩
  | cons message rest ih =>
    obtain ⟨next,effect,later⟩ := emitAll_cons emitted
    rw [forall_mem_cons] at formatted known
    obtain ⟨opened,clean,noMore,collected⟩ := ih formatted.2 known.2 later
    rw [collected,effect.userTexts formatted.1 known.1]
    by_cases isSystem : message.role = .system
    · have silent : message.userTexts = [] := by simp [userTexts,isUser,isSystem]
      refine ⟨opened,clean,fun begun => noMore ?_,by simp [isSystem,silent]⟩
      cases effect with
      | system => exact begun
      | tool isTool => simp [isSystem] at isTool
      | speech notSystem => exact absurd isSystem notSystem
    · rw [noMore (effect.begun isSystem)]
      refine ⟨opening userText? emission message,?_,fun begun => by simp [opening,begun],
        by simp [isSystem]⟩
      unfold opening
      split
      · change occurrences '"' [placeholder] = 0
        decide
      · rfl

end

section

variable {env : RequestEnv Source Input} {emission after : Emission Source Input}
  {message : ChatMessage Source} {messages : List (ChatMessage Source)}

def Speaks (message : ClaudeMessage Source Input) : Prop :=
  message.role = .user ∨ message.role = .assistant

theorem forall_speaks_begin (emission : Emission Source Input) (message : ChatMessage Source) :
    (∀ sent ∈ (emission.begin message).messages, Speaks sent) ↔
      ∀ sent ∈ emission.messages, Speaks sent := by
  have userSpeaks : Speaks (placeholderMessage : ClaudeMessage Source Input) := .inl rfl
  unfold Emission.begin
  split
  · split
    · rw [forall_mem_append,forall_mem_singleton,and_iff_left userSpeaks]
    · rfl
  · rfl

theorem forall_speaks_addToolResult (sent : List (ClaudeMessage Source Input))
    (message : ChatMessage Source) :
    (∀ claude ∈ addToolResult sent message, Speaks claude) ↔ ∀ claude ∈ sent, Speaks claude := by
  rcases addToolResult_cases sent message with ⟨front,last,rfl,user,added⟩ | added
  · rw [added,forall_mem_append,forall_mem_append,forall_mem_singleton,
      forall_mem_singleton]
    rfl
  · rw [added,forall_mem_append,forall_mem_singleton,and_iff_left (.inl rfl)]

theorem EmitEffect.speaks_iff (effect : EmitEffect env emission message after) :
    (∀ sent ∈ after.messages, Speaks sent) ↔
      (∀ sent ∈ emission.messages, Speaks sent) ∧ knownRole message.role = true := by
  cases effect with
  | system isSystem => simp [knownRole,isSystem]
  | tool isTool =>
    simp [forall_speaks_addToolResult,forall_speaks_begin,knownRole,isTool]
  | speech notSystem notTool =>
    rw [forall_mem_append,forall_speaks_begin]
    simp [Speaks,knownRole,notSystem,notTool]

theorem emitAll_speaks_iff (emitted : emitAll env emission messages = .ok after) :
    (∀ sent ∈ after.messages, Speaks sent) ↔
      (∀ sent ∈ emission.messages, Speaks sent) ∧
        ∀ message ∈ messages, knownRole message.role = true := by
  induction messages generalizing emission with
  | nil =>
    obtain rfl := Except.ok.inj emitted
    simp
  | cons message rest ih =>
    obtain ⟨next,effect,later⟩ := emitAll_cons emitted
    rw [ih later,effect.speaks_iff,forall_mem_cons,and_assoc]

/-- The user speaks first, or nobody has spoken yet. -/
structure UserFirst (emission : Emission Source Input) : Prop where
  head : ∀ sent ∈ emission.messages.head?, sent.role = .user
  fresh : emission.messages = [] → emission.isFirstMessage = true

theorem UserFirst.begin (first : UserFirst emission) (message : ChatMessage Source) :
    (∀ sent ∈ (emission.begin message).messages.head?, sent.role = .user) ∧
      ((emission.begin message).messages = [] → message.role = .user) := by
  unfold Emission.begin
  cases sent : emission.messages with
  | nil =>
    have fresh := first.fresh sent
    by_cases user : message.role = .user
    · simp [fresh,user]
    · simp [fresh,user,placeholderMessage]
  | cons claude =>
    have head := first.head claude (by simp [sent])
    split
    · split <;> simp [head]
    · simp [sent,head]

theorem head_addToolResult {sent : List (ClaudeMessage Source Input)}
    (head : ∀ claude ∈ sent.head?, claude.role = .user) (message : ChatMessage Source) :
    (∀ claude ∈ (addToolResult sent message).head?, claude.role = .user) ∧
      addToolResult sent message ≠ [] := by
  rcases addToolResult_cases sent message with ⟨front,last,rfl,user,added⟩ | added
  · rw [added]
    cases front with
    | nil => simpa using user
    | cons => simpa using head
  · rw [added]
    cases sent with
    | nil => simp
    | cons => simpa using head

theorem EmitEffect.userFirst (first : UserFirst emission)
    (effect : EmitEffect env emission message after) : UserFirst after := by
  obtain ⟨head,fresh⟩ := first.begin message
  cases effect with
  | system => exact ⟨first.head,first.fresh⟩
  | tool =>
    obtain ⟨user,some_⟩ := head_addToolResult head message
    exact ⟨user,fun none => absurd none some_⟩
  | speech =>
    refine ⟨?_,fun none => by simp at none⟩
    cases begun : (emission.begin message).messages with
    | nil => simpa using fresh begun
    | cons => simpa [begun] using head

theorem emitAll_userFirst (first : UserFirst emission)
    (emitted : emitAll env emission messages = .ok after) : UserFirst after := by
  induction messages generalizing emission with
  | nil =>
    obtain rfl := Except.ok.inj emitted
    exact first
  | cons message rest ih =>
    obtain ⟨next,effect,later⟩ := emitAll_cons emitted
    exact ih (effect.userFirst first) later

end

section

variable {env : RequestEnv Source Input}

theorem emitted_of_converted {request : ChatRequest Source} {claude : ClaudeRequest Source Input}
    (converted : openAIChatRequestToClaudeMessages env request = .ok claude) :
    ∃ emission, emitAll env ⟨[], true, []⟩ (formatMessages request.messages) = .ok emission ∧
      claude.messages = emission.messages := by
  unfold openAIChatRequestToClaudeMessages at converted
  cases emitted : emitAll env ⟨[],true,[]⟩ (formatMessages request.messages) with
  | error => simp [emitted,bind,Except.bind] at converted
  | ok emission =>
    refine ⟨emission,rfl,?_⟩
    cases limit : request.maxTokens with
    | none => simp [emitted,limit,bind,Except.bind] at converted
    | some =>
      simp only [emitted,limit,bind,Except.bind,pure,Except.pure,Except.ok.injEq] at converted
      rw [← converted]

theorem ne_unset_of_knownRole {role : Role} (known : knownRole role = true) : role ≠ .unset := by
  rintro rfl
  simp [knownRole] at known

/-- A conversation is kept exactly when every message has a role that the converter
handles, no message with tool calls is merged into the next one, and no quote is cut off
the texts of the user. -/
theorem claude_request_keeps_conversation_iff (request : ChatRequest Source)
    (claude : ClaudeRequest Source Input)
    (converted : openAIChatRequestToClaudeMessages env request = .ok claude) :
    KeepsConversation request.messages claude ↔ ConversationKept request.messages := by
  obtain ⟨emission,emitted,sent⟩ := emitted_of_converted converted
  have formatted := formatMessages_formatted request.messages
  have uses : claude.toolUses = (formatMessages request.messages).flatMap assistantCalls := by
    rw [ClaudeRequest.toolUses,sent]
    exact emitAll_collects (fun formatted effect => effect.toolUses formatted) formatted emitted
  have results : claude.toolResults = request.messages.flatMap toolResultIds := by
    rw [ClaudeRequest.toolResults,sent,← formatMessages_toolResultIds]
    exact emitAll_collects (fun formatted effect => effect.toolResults formatted) formatted emitted
  have speaks : (∀ message ∈ claude.messages, Speaks message) ↔
      ∀ message ∈ request.messages, knownRole message.role = true := by
    rw [sent,emitAll_speaks_iff emitted,
      forall_role_formatMessages request.messages fun role => knownRole role = true]
    simp
  have first : UserFirst emission := emitAll_userFirst ⟨by simp,fun _ => rfl⟩ emitted
  -- The texts of the user are looked at only where the roles are fine.
  have texts (known : ∀ message ∈ request.messages, knownRole message.role = true) :
      ∃ opened, occurrences '"' opened = 0 ∧ claude.userTexts =
        opened ++ (formatMessages request.messages).flatMap ChatMessage.userTexts := by
    have named : ∀ message ∈ formatMessages request.messages, message.role ≠ .unset := by
      apply (forall_role_formatMessages request.messages (· ≠ .unset)).mpr
      exact fun message member => ne_unset_of_knownRole (known message member)
    obtain ⟨opened,clean,-,collected⟩ := emitAll_userTexts formatted named emitted
    exact ⟨opened, clean, by simpa [ClaudeRequest.userTexts, sent, collect] using collected⟩
  constructor
  · intro kept
    have known := speaks.mp kept.roles
    obtain ⟨opened, clean, collected⟩ := texts known
    refine ⟨known, ?_, ?_⟩
    · rw [← formatMessages_calls_iff, ← uses]
      exact kept.toolUses
    · rw [← formatMessages_quotes_iff]
      have all := kept.userTexts.occurrences_le '"'
      rw [collected,occurrences_append] at all
      omega
  · rintro ⟨known,calls,quotes⟩
    obtain ⟨opened,-,collected⟩ := texts known
    refine ⟨?_,results,speaks.mpr known,?_,?_⟩
    · rwa [uses,formatMessages_calls_iff]
    · rw [sent]
      exact first.head
    · rw [collected]
      exact (formatMessages_parts request.messages quotes).prepend opened

def plainEnv : RequestEnv Empty String where
  resolveBase64Data := Empty.elim
  inputObj arguments := arguments

def textMessage (role : Role) (text : String) : ChatMessage Empty :=
  ⟨role, .text text, none, ""⟩

def toolConversation : ChatRequest Empty where
  messages := [textMessage .system "be brief", textMessage .user "a \"b\"",
    ⟨.assistant, .null, some [⟨"1", "f", "x"⟩, ⟨"2", "g", "y"⟩], ""⟩,
    ⟨.tool, .text "r", none, "1"⟩, ⟨.tool, .text "s", none, "2"⟩,
    textMessage .user "c", textMessage .user "\"d\" e"]
  maxTokens := some 100

theorem toolConversation_kept :
    ∃ claude, openAIChatRequestToClaudeMessages plainEnv toolConversation = .ok claude ∧
      KeepsConversation toolConversation.messages claude := by
  refine ⟨_,rfl,?_⟩
  exact (claude_request_keeps_conversation_iff toolConversation _ rfl).mpr (by decide)

/-- A tool call of a message that is merged, a message without a role, and a quote at the
start of a merged text are lost. -/
theorem claude_request_loses_conversation :
    (∃ claude, openAIChatRequestToClaudeMessages plainEnv
        ⟨[textMessage .user "a", ⟨.assistant, .null, some [⟨"1", "f", "x"⟩], ""⟩,
          textMessage .assistant "b"], some 100⟩ = .ok claude ∧
      claude.toolUses ≠ [("1", "f")]) ∧
    (∃ claude, openAIChatRequestToClaudeMessages plainEnv ⟨[textMessage .unset "a"], some 100⟩ =
        .ok claude ∧
      ¬ ∀ message ∈ claude.messages, message.role = .user ∨ message.role = .assistant) ∧
    (∃ claude, openAIChatRequestToClaudeMessages plainEnv
        ⟨[textMessage .user "\"a\"", textMessage .user "b"], some 100⟩ = .ok claude ∧
      ¬ PartsOf ["\"a\"", "b"] claude.userTexts) := by
  refine ⟨⟨_,rfl,by decide⟩,⟨_,rfl,by decide⟩,_,rfl,?_⟩
  intro parts
  exact absurd (parts.occurrences_le '"') (by decide)

end

end NewApi
