import NewApi.ClaudeRequest
import NewApi.JoinedTexts

/-!
# What the merging of messages keeps

A message that is merged into the next one leaves its text there, and its tool
calls nowhere. The quotes at both ends of a merged text are cut off.
-/

namespace NewApi

open GoStrings MessageContent List

variable {Source : Type}

namespace ChatMessage

variable (message : ChatMessage Source)

/-- The message comes from the user, also where the request does not say so. -/
def isUser : Bool :=
  message.role = .user || message.role = .unset

def userTexts : List String :=
  if message.isUser then nonEmptyTexts message.content.texts else []

def assistantCalls : List (String × String) :=
  if message.role = .assistant then message.parseToolCalls.map fun call => (call.id, call.name)
  else []

def toolResultIds : List String :=
  if message.role = .tool then [message.toolCallId] else []

def hasText : Bool :=
  match message.content with
  | .null | .text _ => true
  | .media _ => false

def joins (last message : ChatMessage Source) : Bool :=
  last.role = message.role && last.role ≠ .tool && last.hasText && message.content.isString

end ChatMessage

open ChatMessage

/-- No message with tool calls is merged into the next one. -/
def KeepsCalls (messages : List (ChatMessage Source)) : Prop :=
  messages.IsChain fun last message => last.joins message = true → last.assistantCalls = []

instance (messages : List (ChatMessage Source)) : Decidable (KeepsCalls messages) :=
  inferInstanceAs (Decidable (List.IsChain _ messages))

/-- No quote is cut off a text of the user; `quoted` says that the text of a run of merged
messages starts with one so far. -/
def keepsQuotesFrom (last : ChatMessage Source) (quoted : Bool) : List (ChatMessage Source) → Bool
  | [] => true
  | message :: rest =>
    if last.joins message then
      (!last.isUser || (!quoted && !endsWith message.stringContent '"')) &&
        keepsQuotesFrom message false rest
    else keepsQuotesFrom message (startsWith message.stringContent '"') rest

/-- In each run of messages of the user that are merged, the first does not start with a
quote and the others do not end with one. -/
def keepsQuotes : List (ChatMessage Source) → Bool
  | [] => true
  | message :: rest => keepsQuotesFrom message (startsWith message.stringContent '"') rest

section

/-- What the first pass leaves has a content, and tool calls only of the assistant. -/
structure Formatted (message : ChatMessage Source) : Prop where
  noCalls : message.role ≠ .assistant → message.toolCalls = none
  notNull : message.content ≠ .null
  notEmpty : message.content ≠ .text ""

/-- `last` is what has become of the message `prior` and of those merged into it. -/
structure Represents (last prior : ChatMessage Source) : Prop where
  role : last.role = prior.role
  calls : last.assistantCalls = prior.assistantCalls
  result : last.toolResultIds = prior.toolResultIds
  text : last.content.isString = prior.hasText
  formatted : Formatted last

variable {last prior message : ChatMessage Source}

theorem represents_of_content {content : MessageContent Source}
    (text : content.isString = message.hasText) (notNull : content ≠ .null)
    (notEmpty : content ≠ .text "") : Represents { formatMessage message with content } message := by
  refine ⟨rfl,?_,?_,text,?_,notNull,notEmpty⟩
  · by_cases assistant : message.role = .assistant
    · simp [assistantCalls, formatMessage, parseToolCalls, assistant]
    · simp [assistantCalls, formatMessage, assistant]
  · by_cases tool : message.role = .tool <;> simp [toolResultIds, formatMessage, tool]
  · intro other
    exact if_neg other

/-- A message without a text gets the placeholder. -/
theorem fillContent_cases (message : ChatMessage Source) :
    (fillContent (formatMessage message) = formatMessage message ∧
      message.content.isString = message.hasText ∧ message.content ≠ .text "") ∨
    (fillContent (formatMessage message) = (formatMessage message).setStringContent placeholder ∧
      message.hasText = true ∧ message.stringContent = "" ∧ message.userTexts = []) := by
  obtain ⟨role,content,calls,id⟩ := message
  cases content with
  | null => exact .inr ⟨rfl,rfl,rfl,by simp [userTexts,texts,nonEmptyTexts]⟩
  | media => exact .inl ⟨rfl,rfl,by simp⟩
  | text string =>
    by_cases empty : string = ""
    · subst empty
      exact .inr ⟨rfl,rfl,rfl,by simp [userTexts,texts,nonEmptyTexts]⟩
    · exact .inl ⟨if_neg empty,rfl,by simpa using empty⟩

theorem formatMessage_represents (message : ChatMessage Source) :
    Represents (fillContent (formatMessage message)) message := by
  rcases fillContent_cases message with ⟨same,text,notEmpty⟩ | ⟨filled,text,-⟩
  · rw [same]
    refine represents_of_content text (fun null => ?_) notEmpty
    simp [isString,hasText,null] at text
  · rw [filled]
    exact represents_of_content text.symm (by simp) (by simp [placeholder])

def mergedMessage (last message : ChatMessage Source) : ChatMessage Source :=
  fillContent ((formatMessage message).setStringContent (mergedText last message))

section

variable (last message)

theorem mergedText_ne_empty : mergedText last message ≠ "" := by
  intro empty
  have chars : (mergedText last message).toList = last.stringContent.toList.dropWhile (· == '"') ++
      ' ' :: message.stringContent.toList.rdropWhile (· == '"') :=
    trim_append_separator ' ' (by decide)
  simp [empty] at chars

theorem mergedText_not_quoted : startsWith (mergedText last message) '"' = false :=
  startsWith_trim ' ' (by decide)

theorem mergedMessage_eq :
    mergedMessage last message = (formatMessage message).setStringContent (mergedText last message) := by
  simp [mergedMessage,fillContent,setStringContent,mergedText_ne_empty]

theorem mergedMessage_not_quoted : startsWith (mergedMessage last message).stringContent '"' = false := by
  rw [mergedMessage_eq]
  exact mergedText_not_quoted last message

end

theorem mergedText_of_clean (cleanStart : startsWith last.stringContent '"' = false)
    (cleanEnd : endsWith message.stringContent '"' = false) :
    mergedText last message = last.stringContent ++ " " ++ message.stringContent :=
  trim_of_clean ' ' (by decide) cleanStart cleanEnd

theorem role_of_merges (merged : merges last message = true) :
    last.role = message.role ∧ last.role ≠ .tool ∧ last.content.isString = true ∧
      message.content.isString = true := by
  simpa [merges,and_assoc] using merged

theorem mergedMessage_represents (merged : merges last message = true) :
    Represents (mergedMessage last message) message := by
  obtain ⟨-,-,-,text⟩ := role_of_merges merged
  rw [mergedMessage_eq]
  refine represents_of_content ?_ (by simp) (by simpa using mergedText_ne_empty last message)
  cases content : message.content with
  | text => simp [isString,hasText,content]
  | null | media parts => simp [isString,content] at text

theorem Represents.merges_eq (represents : Represents last prior) (message : ChatMessage Source) :
    merges last message = prior.joins message := by
  simp only [merges,joins,represents.role,represents.text]

def formatFrom (last : ChatMessage Source) : List (ChatMessage Source) → List (ChatMessage Source)
  | [] => [last]
  | message :: rest =>
    if merges last message then formatFrom (mergedMessage last message) rest
    else last :: formatFrom (fillContent (formatMessage message)) rest

theorem foldl_formatStep (front : List (ChatMessage Source)) (messages : List (ChatMessage Source)) :
    (messages.foldl formatStep (front ++ [last], last)).1 = front ++ formatFrom last messages := by
  induction messages generalizing front last with
  | nil => rfl
  | cons message rest ih =>
    rw [foldl_cons,formatStep,formatFrom]
    split
    · rw [dropLast_concat]
      exact ih front
    · rw [ih (front ++ [last]),append_assoc]
      rfl

theorem formatMessages_cons (message : ChatMessage Source) (messages : List (ChatMessage Source)) :
    formatMessages (message :: messages) =
      formatFrom (fillContent (formatMessage message)) messages := by
  have first : formatStep ([], ⟨.tool,.null,none,""⟩) message =
      ([] ++ [fillContent (formatMessage message)], fillContent (formatMessage message)) := by
    simp [formatStep,merges]
  rw [formatMessages,foldl_cons,first,foldl_formatStep]
  rfl

end

section

variable {last prior message : ChatMessage Source} {messages : List (ChatMessage Source)}

theorem formatFrom_formatted (formatted : Formatted last) :
    ∀ message ∈ formatFrom last messages, Formatted message := by
  fun_induction formatFrom last messages with
  | case1 => simpa using formatted
  | case2 last message rest merged ih =>
    exact ih (mergedMessage_represents merged).formatted
  | case3 last message rest _ ih =>
    rw [forall_mem_cons]
    exact ⟨formatted,ih (formatMessage_represents message).formatted⟩

theorem forall_role_formatFrom (Holds : Role → Prop) (represents : Represents last prior) :
    (∀ message ∈ formatFrom last messages, Holds message.role) ↔
      Holds prior.role ∧ ∀ message ∈ messages, Holds message.role := by
  fun_induction formatFrom last messages generalizing prior with
  | case1 => simp [represents.role]
  | case2 last message rest merged ih =>
    rw [ih (mergedMessage_represents merged),← represents.role,(role_of_merges merged).1,
      forall_mem_cons]
    tauto
  | case3 last message rest _ ih =>
    rw [forall_mem_cons,forall_mem_cons,ih (formatMessage_represents message),represents.role]

section

variable (message)

theorem startsWith_fillContent :
    startsWith (fillContent (formatMessage message)).stringContent '"' =
      startsWith message.stringContent '"' := by
  rcases fillContent_cases message with ⟨same,-⟩ | ⟨filled,-,empty,-⟩
  · rw [same]
    rfl
  · rw [filled,empty]
    change startsWith placeholder '"' = startsWith "" '"'
    decide

theorem userTexts_placeholder :
    occurrences '"' ((formatMessage message).setStringContent placeholder).userTexts = 0 := by
  unfold userTexts
  split
  · change occurrences '"' (nonEmptyTexts [placeholder]) = 0
    decide
  · rfl

theorem fillContent_occurrences :
    occurrences '"' (fillContent (formatMessage message)).userTexts =
      occurrences '"' message.userTexts := by
  rcases fillContent_cases message with ⟨same,-⟩ | ⟨filled,-,-,none⟩
  · rw [same]
    rfl
  · rw [filled,none,userTexts_placeholder]
    rfl

theorem fillContent_parts :
    PartsOf message.userTexts (fillContent (formatMessage message)).userTexts := by
  rcases fillContent_cases message with ⟨same,-⟩ | ⟨-,-,-,none⟩
  · rw [same]
    exact partsOf_self message.userTexts
  · rw [none]
    exact partsOf_nil _

end

theorem Formatted.userTexts_eq (formatted : Formatted last) (text : last.content.isString = true) :
    last.userTexts = if last.isUser then [last.stringContent] else [] := by
  have notEmpty := formatted.notEmpty
  cases content : last.content with
  | null | media parts => simp [isString,content] at text
  | text string =>
    have some_ : string ≠ "" := by simpa [content] using notEmpty
    simp [userTexts,nonEmptyTexts,stringContent,content,texts,some_]

theorem userTexts_of_isString (text : message.content.isString = true) :
    message.userTexts = if message.isUser then nonEmptyTexts [message.stringContent] else [] := by
  cases content : message.content with
  | null | media parts => simp [isString,content] at text
  | text => simp [userTexts,stringContent,content,texts]

theorem mergedMessage_userTexts (last message : ChatMessage Source) :
    (mergedMessage last message).userTexts =
      if message.isUser then [mergedText last message] else [] := by
  have same : (mergedMessage last message).isUser = message.isUser := by
    rw [mergedMessage_eq]
    rfl
  have content : (mergedMessage last message).content = .text (mergedText last message) := by
    rw [mergedMessage_eq]
    rfl
  rw [userTexts,same,content]
  simp [texts,nonEmptyTexts,mergedText_ne_empty]

theorem Represents.isUser_eq (represents : Represents last prior) : last.isUser = prior.isUser := by
  simp [isUser,represents.role]

theorem isUser_of_joins (merged : merges last message = true) : message.isUser = last.isUser := by
  simp [isUser,(role_of_merges merged).1]

theorem mergedMessage_occurrences (formatted : Formatted last) (merged : merges last message = true) :
    occurrences '"' (mergedMessage last message).userTexts ≤
        occurrences '"' last.userTexts + occurrences '"' message.userTexts ∧
      (occurrences '"' (mergedMessage last message).userTexts =
          occurrences '"' last.userTexts + occurrences '"' message.userTexts ↔
        last.isUser = false ∨ startsWith last.stringContent '"' = false ∧
          endsWith message.stringContent '"' = false) := by
  obtain ⟨-, -, lastText, text⟩ := role_of_merges merged
  rw [mergedMessage_userTexts, formatted.userTexts_eq lastText, userTexts_of_isString text,
    isUser_of_joins merged]
  cases user : last.isUser with
  | false => simp
  | true =>
    simp only [if_true, nonEmptyTexts, occurrences_filter_ne_empty, occurrences_cons,
      occurrences_nil, Nat.add_zero, Bool.true_eq_false, false_or]
    by_cases clean : startsWith last.stringContent '"' = false ∧
        endsWith message.stringContent '"' = false
    · have same : (mergedText last message).toList.count '"' =
          last.stringContent.toList.count '"' + message.stringContent.toList.count '"' := by
        rw [mergedText_of_clean clean.1 clean.2]
        simp
      exact ⟨same.le, iff_of_true same clean⟩
    · have fewer : (mergedText last message).toList.count '"' <
          last.stringContent.toList.count '"' + message.stringContent.toList.count '"' := by
        apply count_trim_lt ' ' (by decide)
        by_contra neither
        exact clean (by simpa using neither)
      exact ⟨fewer.le,iff_of_false fewer.ne clean⟩

variable (represents : Represents last prior)

include represents

theorem formatFrom_toolResultIds :
    (formatFrom last messages).flatMap toolResultIds =
      prior.toolResultIds ++ messages.flatMap toolResultIds := by
  fun_induction formatFrom last messages generalizing prior with
  | case1 => simp [represents.result]
  | case2 last message rest merged ih =>
    have none : prior.toolResultIds = [] := if_neg (represents.role ▸ (role_of_merges merged).2.1)
    rw [ih (mergedMessage_represents merged),none,nil_append,flatMap_cons]
  | case3 last message rest _ ih =>
    rw [flatMap_cons,ih (formatMessage_represents message),represents.result,flatMap_cons]

theorem formatFrom_calls_length_le (messages : List (ChatMessage Source)) :
    ((formatFrom last messages).flatMap assistantCalls).length ≤
      prior.assistantCalls.length + (messages.flatMap assistantCalls).length := by
  fun_induction formatFrom last messages generalizing prior with
  | case1 => simp [represents.calls]
  | case2 last message rest merged ih =>
    have later := ih (mergedMessage_represents merged)
    rw [flatMap_cons,length_append]
    omega
  | case3 last message rest _ ih =>
    have later := ih (formatMessage_represents message)
    simp only [flatMap_cons,length_append,represents.calls]
    omega

theorem formatFrom_calls_iff :
    (formatFrom last messages).flatMap assistantCalls =
        prior.assistantCalls ++ messages.flatMap assistantCalls ↔
      KeepsCalls (prior :: messages) := by
  induction messages generalizing last prior with
  | nil => simp [formatFrom,represents.calls,KeepsCalls]
  | cons message rest ih =>
    rw [formatFrom,KeepsCalls,isChain_cons_cons,represents.merges_eq,flatMap_cons]
    split
    case isTrue joined =>
      have next := mergedMessage_represents ((represents.merges_eq message).trans joined)
      by_cases none : prior.assistantCalls = []
      · simp only [none,joined,forall_const,true_and]
        exact ih next
      · have fewer := formatFrom_calls_length_le next rest
        have lost : 0 < prior.assistantCalls.length := length_pos_of_ne_nil none
        simp only [none,joined,forall_const,false_and,iff_false]
        intro same
        have lengths := congrArg length same
        simp only [length_append] at lengths
        omega
    case isFalse apart =>
      have next := formatMessage_represents message
      rw [flatMap_cons,represents.calls,append_cancel_left_eq,ih next]
      simp [apart,KeepsCalls]

theorem formatFrom_quotes_le (messages : List (ChatMessage Source)) :
    occurrences '"' ((formatFrom last messages).flatMap userTexts) ≤
      occurrences '"' last.userTexts + occurrences '"' (messages.flatMap userTexts) := by
  fun_induction formatFrom last messages generalizing prior with
  | case1 => simp
  | case2 last message rest merged ih =>
    have later := ih (mergedMessage_represents merged)
    have here := (mergedMessage_occurrences represents.formatted merged).1
    rw [flatMap_cons,occurrences_append]
    omega
  | case3 last message rest _ ih =>
    have later := ih (formatMessage_represents message)
    simp only [flatMap_cons,occurrences_append]
    rw [fillContent_occurrences] at later
    omega

theorem formatFrom_quotes_iff {quoted : Bool}
    (starts : last.content.isString = true → startsWith last.stringContent '"' = quoted) :
    occurrences '"' ((formatFrom last messages).flatMap userTexts) =
        occurrences '"' last.userTexts + occurrences '"' (messages.flatMap userTexts) ↔
      keepsQuotesFrom prior quoted messages = true := by
  induction messages generalizing last prior quoted with
  | nil => simp [formatFrom, keepsQuotesFrom]
  | cons message rest ih =>
    rw [formatFrom, keepsQuotesFrom, ← represents.merges_eq, flatMap_cons, occurrences_append]
    split
    case isTrue merged =>
      have next := mergedMessage_represents merged
      have later := formatFrom_quotes_le next rest
      obtain ⟨here, hereIff⟩ := mergedMessage_occurrences represents.formatted merged
      have restIff := ih next fun _ => mergedMessage_not_quoted last message
      rw [starts (role_of_merges merged).2.2.1, represents.isUser_eq] at hereIff
      rw [Bool.and_eq_true, ← restIff]
      have condition : (!prior.isUser || (!quoted && !endsWith message.stringContent '"')) = true ↔
          prior.isUser = false ∨ quoted = false ∧ endsWith message.stringContent '"' = false := by
        simp
      rw [condition, ← hereIff]
      omega
    case isFalse =>
      have restIff := ih (formatMessage_represents message) fun _ => startsWith_fillContent message
      rw [flatMap_cons, occurrences_append, ← restIff, fillContent_occurrences]
      omega

theorem formatFrom_parts {quoted : Bool}
    (starts : last.content.isString = true → startsWith last.stringContent '"' = quoted)
    (keeps : keepsQuotesFrom prior quoted messages = true) {texts : List String}
    (parts : PartsOf texts last.userTexts) :
    PartsOf (texts ++ messages.flatMap userTexts) ((formatFrom last messages).flatMap userTexts) := by
  induction messages generalizing last prior quoted texts with
  | nil => simpa [formatFrom] using parts
  | cons message rest ih =>
    rw [keepsQuotesFrom,← represents.merges_eq] at keeps
    rw [formatFrom,flatMap_cons]
    split at keeps
    case isTrue merged =>
      rw [if_pos merged]
      obtain ⟨-,-,lastText,text⟩ := role_of_merges merged
      rw [Bool.and_eq_true] at keeps
      rw [← append_assoc]
      apply ih (mergedMessage_represents merged) (fun _ => mergedMessage_not_quoted last message) keeps.2
      rw [mergedMessage_userTexts,userTexts_of_isString text,isUser_of_joins merged]
      rw [represents.formatted.userTexts_eq lastText] at parts
      cases user : last.isUser with
      | false => simpa [user] using parts
      | true =>
        have clean : quoted = false ∧ endsWith message.stringContent '"' = false := by
          simpa [← represents.isUser_eq, user] using keeps.1
        have whole := mergedText_of_clean ((starts lastText).trans clean.1) clean.2
        rw [user] at parts
        rw [whole]
        apply (parts.continue " " message.stringContent).of_sublist
        exact (List.Sublist.refl texts).append filter_sublist
    case isFalse apart =>
      rw [if_neg apart]
      apply parts.append
      exact ih (formatMessage_represents message) (fun _ => startsWith_fillContent message) keeps
        (fillContent_parts message)

end

section

variable (messages : List (ChatMessage Source))

theorem formatMessages_formatted : ∀ message ∈ formatMessages messages, Formatted message := by
  cases messages with
  | nil => simp [formatMessages]
  | cons message =>
    rw [formatMessages_cons]
    exact formatFrom_formatted (formatMessage_represents message).formatted

theorem forall_role_formatMessages (Holds : Role → Prop) :
    (∀ message ∈ formatMessages messages, Holds message.role) ↔
      ∀ message ∈ messages, Holds message.role := by
  cases messages with
  | nil => simp [formatMessages]
  | cons message =>
    rw [formatMessages_cons, forall_role_formatFrom Holds (formatMessage_represents message),
      forall_mem_cons]

theorem formatMessages_toolResultIds :
    (formatMessages messages).flatMap toolResultIds = messages.flatMap toolResultIds := by
  cases messages with
  | nil => rfl
  | cons message =>
    rw [formatMessages_cons, formatFrom_toolResultIds (formatMessage_represents message),
      flatMap_cons]

theorem formatMessages_calls_iff :
    (formatMessages messages).flatMap assistantCalls = messages.flatMap assistantCalls ↔
      KeepsCalls messages := by
  cases messages with
  | nil => simp [formatMessages, KeepsCalls]
  | cons message =>
    rw [formatMessages_cons]
    exact formatFrom_calls_iff (formatMessage_represents message)

theorem formatMessages_quotes_iff :
    occurrences '"' (messages.flatMap userTexts) ≤
        occurrences '"' ((formatMessages messages).flatMap userTexts) ↔
      keepsQuotes messages = true := by
  cases messages with
  | nil => simp [keepsQuotes]
  | cons message rest =>
    have represents := formatMessage_represents message
    have most := formatFrom_quotes_le represents rest
    rw [formatMessages_cons,keepsQuotes,← formatFrom_quotes_iff represents fun _ =>
      startsWith_fillContent message,fillContent_occurrences,flatMap_cons,occurrences_append]
    rw [fillContent_occurrences] at most
    omega

theorem formatMessages_parts (keeps : keepsQuotes messages = true) :
    PartsOf (messages.flatMap userTexts) ((formatMessages messages).flatMap userTexts) := by
  cases messages with
  | nil => exact partsOf_nil _
  | cons message =>
    rw [formatMessages_cons]
    exact formatFrom_parts (formatMessage_represents message)
      (fun _ => startsWith_fillContent message) keeps (fillContent_parts message)

end

end NewApi
