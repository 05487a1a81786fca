import Mathlib.Data.Set.Basic
import NewApi.JoinedTexts

/-!
# The snippet of a chat that a review reads

The messages are taken from the last one backwards, up to a number of messages and of runes.
-/

namespace NewApi

open List

/-- The content of a message as far as its text is taken from it. -/
inductive ReviewContent where
  | absent (reasoningContent : String)
  | text (text : String)
  | parts (typesAndTexts : List (String × String))
  | other (printed : String)

structure ReviewMessage where
  role : String
  content : ReviewContent

def extractMessageText (message : ReviewMessage) : String :=
  match message.content with
  | .absent text | .text text | .other text => text
  | .parts parts => joinedLines (((parts.filter (·.1 = "text")).map Prod.snd).filter (· ≠ ""))

def truncateRunes (text : String) (limit : Nat) : String :=
  if limit = 0 then ""
  else if text.length ≤ limit then text
  else .ofList (text.toList.take limit) ++ "..."

abbrev SnippetPart := String × String

/-- The messages with a text that are not the system's, the last one first. -/
def spokenParts (messages : List ReviewMessage) : List SnippetPart :=
  ((messages.filter (·.role ≠ "system")).reverse.map fun message =>
    (message.role, extractMessageText message)).filter (·.2 ≠ "")

/-- What the loop backwards keeps after `count` messages with `total` runes, and its total. -/
def collectParts : List SnippetPart → Nat → Nat → List SnippetPart × Nat
  | [], _, total => ([], total)
  | (role, text) :: earlier, count, total =>
    if 20 ≤ count then ([], total)
    else if 4000 < total + text.length then
      let text := truncateRunes text (4000 - total)
      if text = "" then ([], total) else ([(role, text)], total + text.length)
    else
      let kept := collectParts earlier (count + 1) (total + text.length)
      ((role, text) :: kept.1, kept.2)

def systemPart (messages : List ReviewMessage) : Option SnippetPart :=
  ((messages.find? (·.role = "system")).map fun message =>
    ("system", truncateRunes (extractMessageText message) 200)).filter (·.2 ≠ "")

def SnippetPart.print (part : SnippetPart) : String :=
  "[" ++ part.1 ++ "] " ++ part.2

def snippetText (messages : List ReviewMessage) : String :=
  let collected := collectParts (spokenParts messages) 0 0
  joinedLines (((systemPart messages).toList ++ collected.1.reverse).map SnippetPart.print ++
    if 4000 ≤ collected.2 then ["...[truncated]"] else [])

def extractLLMReviewSnippet (mask : String → String) (messages : List ReviewMessage) : String :=
  mask (snippetText messages)

/-- The parts show the text of a message of the user, or its beginning. -/
def Shows (parts : List SnippetPart) (last : SnippetPart) : Prop :=
  ∃ shown ∈ parts, shown.1 = "user" ∧
    ∃ piece, piece ≠ [] ∧ piece <+: last.2.toList ∧ piece <+: shown.2.toList

/-- The last message of the user that has a text is among the parts. -/
def ShowsLastUser (messages : List ReviewMessage) : Prop :=
  ∀ last ∈ (spokenParts messages).find? (·.1 = "user"),
    Shows (collectParts (spokenParts messages) 0 0).1 last

/-- Fewer messages and runes than the caps come after the last message of the user. -/
def UserWithinCaps (messages : List ReviewMessage) : Prop :=
  (∃ part ∈ spokenParts messages, part.1 = "user") →
    let later := (spokenParts messages).takeWhile (·.1 ≠ "user")
    later.length < 20 ∧ (later.map (·.2.length)).sum < 4000

def roleRunes (messages : List ReviewMessage) : Nat :=
  ((collectParts (spokenParts messages) 0 0).1.map (·.1.length)).sum

variable {parts : List SnippetPart} {count total : Nat}

theorem prefix_truncateRunes (text : String) {limit : Nat} (some_ : 0 < limit) :
    text.toList.take limit <+: (truncateRunes text limit).toList := by
  unfold truncateRunes
  split_ifs
  · omega
  · exact take_prefix _ _
  · simp

theorem shows_collectParts_iff (count : Nat) {last : SnippetPart}
    (spoken : ∀ part ∈ parts, part.2 ≠ "") (within : total ≤ 4000)
    (isLast : parts.find? (·.1 = "user") = some last) :
    Shows (collectParts parts count total).1 last ↔
      count + (parts.takeWhile (·.1 ≠ "user")).length < 20 ∧
        total + ((parts.takeWhile (·.1 ≠ "user")).map (·.2.length)).sum < 4000 := by
  fun_induction collectParts parts count total with
  | case1 => cases isLast
  | case2 => exact iff_of_false (by simp [Shows]) (by omega)
  | case3 role text earlier count total room long cut empty =>
    have positive : 0 < text.length := length_pos (spoken _ mem_cons_self)
    have full : ¬0 < 4000 - total := fun some_ => by
      have shown := (prefix_truncateRunes text some_).length_le
      rw [show truncateRunes text (4000 - total) = "" from empty,length_take,
        String.length_toList] at shown
      have : "".toList.length = 0 := rfl
      omega
    exact iff_of_false (by simp [Shows]) (by omega)
  | case4 role text earlier count total room long cut some_ =>
    have left : 0 < 4000 - total :=
      Nat.pos_of_ne_zero fun none => some_ (by simp [cut,truncateRunes,none])
    by_cases user : role = "user"
    · have isText : last = (role,text) := by simpa [user,eq_comm] using isLast
      refine iff_of_true ⟨_,mem_cons_self,user,text.toList.take (4000 - total),?_,?_,
        prefix_truncateRunes text left⟩ ?_
      · simp_all
        omega
      · rw [isText]
        exact take_prefix _ _
      · simp [user]
        omega
    · refine iff_of_false (by simp [Shows,user]) ?_
      simp [user]
      omega
  | case5 role text earlier count total room fits kept ih =>
    have positive : 0 < text.length := length_pos (spoken _ mem_cons_self)
    by_cases user : role = "user"
    · have isText : last = (role,text) := by simpa [user,eq_comm] using isLast
      refine iff_of_true ⟨_,mem_cons_self,user,text.toList,?_,?_,prefix_rfl⟩ ?_
      · simpa using spoken _ mem_cons_self
      · exact isText ▸ prefix_rfl
      · simp [user]
        omega
    · have rest := ih (forall_mem_cons.mp spoken).2 (by omega) (by simpa [user] using isLast)
      have skips : Shows ((role,text) :: kept.1) last ↔ Shows kept.1 last := by simp [Shows,user]
      rw [skips,rest]
      simp [user]
      omega

theorem length_truncateRunes_le (text : String) (limit : Nat) :
    (truncateRunes text limit).length ≤ limit + 3 := by
  unfold truncateRunes
  split_ifs
  · simp
  · omega
  · rw [String.length_append,String.length_ofList,length_take]
    exact Nat.add_le_add_right (min_le_left _ _) 3

theorem collectParts_within (parts : List SnippetPart) (count : Nat) (within : total ≤ 4000) :
    (collectParts parts count total).1.length + count ≤ max 20 count ∧
      total + ((collectParts parts count total).1.map (·.2.length)).sum ≤ 4003 := by
  fun_induction collectParts parts count total with
  | case1 | case2 | case3 =>
    simp
    omega
  | case4 role text earlier count total room long cut =>
    have := length_truncateRunes_le text (4000 - total)
    simp [cut]
    omega
  | case5 role text earlier count total room fits kept ih =>
    simp [kept]
    omega

theorem printed_runes (parts : List SnippetPart) :
    ((parts.map SnippetPart.print).map fun text => text.length + 1).sum =
      (parts.map (·.1.length)).sum + (parts.map (·.2.length)).sum + 4 * parts.length := by
  induction parts with
  | nil => rfl
  | cons part rest ih =>
    simp only [map_cons,sum_cons,length_cons,SnippetPart.print,String.length_append,
      show "[".length = 1 from rfl,show "] ".length = 2 from rfl]
    omega

theorem snippetText_length (messages : List ReviewMessage) :
    roleRunes messages ≤ (snippetText messages).length + 1 ∧
      (snippetText messages).length ≤ roleRunes messages + 4400 := by
  have within := collectParts_within (spokenParts messages) 0 (Nat.zero_le 4000)
  have system : (((systemPart messages).toList.map SnippetPart.print).map
      fun text => text.length + 1).sum ≤ 213 := by
    rw [printed_runes,systemPart]
    cases messages.find? (·.role = "system") with
    | none => simp
    | some message =>
      have := length_truncateRunes_le (extractMessageText message) 200
      simp only [Option.map_some,Option.filter_some]
      split_ifs <;> simp [show "system".length = 6 from rfl]
      omega
  simp only [snippetText,roleRunes,length_joinedLines,map_append,sum_append,printed_runes] at *
  split_ifs <;> simp [show "...[truncated]".length = 14 from rfl] <;> omega

/-- The last message of the user is shown and the length is bounded, throughout a set of bodies,
exactly where both caps leave room for it and the roles that are kept are bounded. -/
theorem snippet_shown_and_bounded_iff (bodies : Set (List ReviewMessage)) :
    ((∀ messages ∈ bodies, ShowsLastUser messages) ∧
        ∃ bound, ∀ messages ∈ bodies, (snippetText messages).length ≤ bound) ↔
      (∀ messages ∈ bodies, UserWithinCaps messages) ∧
        ∃ bound, ∀ messages ∈ bodies, roleRunes messages ≤ bound := by
  refine and_congr (forall₂_congr fun messages _ => ?_) ⟨?_,?_⟩
  · have spoken : ∀ part ∈ spokenParts messages, part.2 ≠ "" := by
      simp [spokenParts]
    unfold ShowsLastUser UserWithinCaps
    cases isLast : (spokenParts messages).find? (·.1 = "user") with
    | none =>
      have silent := find?_eq_none.mp isLast
      exact iff_of_true nofun fun ⟨part,member,user⟩ =>
        absurd user (by simpa using silent part member)
    | some last =>
      have spoke : ∃ part ∈ spokenParts messages, part.1 = "user" :=
        ⟨last,mem_of_find?_eq_some isLast,by simpa using find?_some isLast⟩
      simpa [spoke] using shows_collectParts_iff 0 spoken (Nat.zero_le 4000) isLast
  · exact fun ⟨bound,short⟩ => ⟨bound + 1,fun messages member =>
      (snippetText_length messages).1.trans (Nat.succ_le_succ (short messages member))⟩
  · exact fun ⟨bound,short⟩ => ⟨bound + 4400,fun messages member =>
      (snippetText_length messages).2.trans (Nat.add_le_add_right (short messages member) _)⟩

/-- Twenty answers after the message of the user leave nothing of it. -/
theorem user_message_dropped :
    let messages : List ReviewMessage :=
      ⟨"user", .text "zz"⟩ :: replicate 20 ⟨"assistant", .text "a"⟩
    (spokenParts messages).find? (·.1 = "user") = some ("user", "zz") ∧
      'z' ∉ (snippetText messages).toList := by
  decide +kernel

end NewApi
