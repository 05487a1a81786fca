import Mathlib.Algebra.Ring.Nat
import Mathlib.Data.List.Basic

/-!
# Texts one after another

`joined` puts texts together. A list of texts is part of a list of outputs when
each of them has a place of its own in one of the outputs, in the same order.
-/

namespace NewApi

open List

def joined : List String → String
  | [] => ""
  | text :: texts => text ++ joined texts

theorem joined_append (first second : List String) :
    joined (first ++ second) = joined first ++ joined second := by
  induction first with
  | nil => simp [joined]
  | cons text texts ih => simp [joined,ih,String.append_assoc]

variable {texts : List String}

theorem joined_eq_empty : joined texts = "" ↔ ∀ text ∈ texts, text = "" := by
  induction texts with
  | nil => simp [joined]
  | cons text texts ih => simp [joined,ih]

theorem joined_eq_last_iff :
    joined texts = texts.getLast?.getD "" ↔ ∀ text ∈ texts.dropLast, text = "" := by
  rcases eq_nil_or_concat' texts with rfl | ⟨init,last,rfl⟩
  · simp [joined]
  · rw [joined_append,← joined_eq_empty]
    simp [joined]

theorem joined_eq_first_iff :
    joined texts = texts.head?.getD "" ↔ ∀ text ∈ texts.tail, text = "" := by
  cases texts with
  | nil => simp [joined]
  | cons =>
    rw [← joined_eq_empty]
    exact String.append_eq_left_iff

theorem joined_length_le {text : String} (member : text ∈ texts) :
    text.length ≤ (joined texts).length := by
  induction texts with
  | nil => simp at member
  | cons first rest ih =>
    rw [joined,String.length_append]
    rcases mem_cons.mp member with rfl | later
    · omega
    · have := ih later
      omega

theorem length_pos {text : String} (some_ : text ≠ "") : 0 < text.length := by
  have := mt String.length_eq_zero_iff.mp some_
  omega

section

/-- Texts with a line break between each two of them. -/
def joinedLines : List String → String
  | [] => ""
  | [text] => text
  | text :: texts => text ++ "\n" ++ joinedLines texts

variable {texts : List String}

theorem joinedLines_cons_of_ne_nil (text : String) (some : texts ≠ []) :
    joinedLines (text :: texts) = text ++ "\n" ++ joinedLines texts := by
  cases texts with
  | nil => exact absurd rfl some
  | cons => rfl

theorem joinedLines_concat (some : texts ≠ []) (text : String) :
    joinedLines (texts ++ [text]) = joinedLines texts ++ "\n" ++ text := by
  induction texts with
  | nil => exact absurd rfl some
  | cons first texts ih =>
    cases texts with
    | nil => rfl
    | cons next texts =>
      have tail := ih (cons_ne_nil next texts)
      rw [cons_append,joinedLines_cons_of_ne_nil first (by simp),tail,
        joinedLines_cons_of_ne_nil first (cons_ne_nil next texts)]
      simp only [String.append_assoc]

theorem length_joinedLines (texts : List String) :
    (joinedLines texts).length = (texts.map fun text => text.length + 1).sum - 1 := by
  induction texts with
  | nil => rfl
  | cons text texts ih =>
    cases texts with
    | nil => simp [joinedLines]
    | cons next texts =>
      rw [joinedLines_cons_of_ne_nil text (cons_ne_nil next texts),String.length_append,
        String.length_append,ih]
      simp only [map_cons,sum_cons,show "\n".length = 1 from rfl]
      omega

theorem length_le_joinedLines {text : String} (member : text ∈ texts) :
    text.length ≤ (joinedLines texts).length := by
  rw [length_joinedLines]
  induction texts with
  | nil => exact absurd member not_mem_nil
  | cons first texts ih =>
    rw [map_cons,sum_cons]
    rcases mem_cons.mp member with rfl | later
    · omega
    · have := ih later
      omega

end

section

def occurrences (c : Char) (texts : List String) : Nat :=
  (texts.map fun text => text.toList.count c).sum

variable {c : Char}

@[simp]
theorem occurrences_nil : occurrences c [] = 0 := rfl

@[simp]
theorem occurrences_cons (text : String) (texts : List String) :
    occurrences c (text :: texts) = text.toList.count c + occurrences c texts := rfl

@[simp]
theorem occurrences_append (first second : List String) :
    occurrences c (first ++ second) = occurrences c first + occurrences c second := by
  simp [occurrences]

theorem count_joined (texts : List String) :
    (joined texts).toList.count c = occurrences c texts := by
  induction texts with
  | nil => rfl
  | cons text texts ih => simp [joined,ih]

theorem occurrences_le_of_sublist {first second : List String} (sublist : first.Sublist second) :
    occurrences c first ≤ occurrences c second := by
  induction sublist with
  | slnil => exact Nat.le_refl _
  | cons =>
    rw [occurrences_cons]
    omega
  | cons_cons =>
    rw [occurrences_cons,occurrences_cons]
    omega

theorem occurrences_filter_ne_empty (texts : List String) :
    occurrences c (texts.filter (· ≠ "")) = occurrences c texts := by
  induction texts with
  | nil => rfl
  | cons text texts ih =>
    by_cases empty : text = ""
    · rw [filter_cons_of_neg (by simp [empty]),ih,empty]
      simp
    · rw [filter_cons_of_pos (by simp [empty]),occurrences_cons,occurrences_cons,ih]

end

section

/-- Each text has a place of its own in the outputs, in order. -/
def PartsOf (texts outputs : List String) : Prop :=
  ∃ pieces : List (List String), outputs = pieces.map joined ∧ texts.Sublist pieces.flatten

variable {texts moreTexts outputs moreOutputs : List String}

theorem partsOf_nil (outputs : List String) : PartsOf [] outputs :=
  ⟨outputs.map ([·]),by simp [joined,Function.comp_def],nil_sublist _⟩

theorem partsOf_self (texts : List String) : PartsOf texts texts := by
  refine ⟨texts.map ([·]),by simp [joined,Function.comp_def],?_⟩
  have whole : (texts.map ([·])).flatten = texts := by
    induction texts with
    | nil => rfl
    | cons text texts ih => simp [ih]
  rw [whole]

theorem PartsOf.of_sublist (parts : PartsOf texts outputs) (fewer : moreTexts.Sublist texts) :
    PartsOf moreTexts outputs := by
  obtain ⟨pieces,whole,sublist⟩ := parts
  exact ⟨pieces,whole,fewer.trans sublist⟩

theorem PartsOf.append (parts : PartsOf texts outputs) (more : PartsOf moreTexts moreOutputs) :
    PartsOf (texts ++ moreTexts) (outputs ++ moreOutputs) := by
  obtain ⟨pieces,whole,sublist⟩ := parts
  obtain ⟨morePieces,moreWhole,moreSublist⟩ := more
  refine ⟨pieces ++ morePieces,by simp [whole,moreWhole],?_⟩
  rw [flatten_append]
  exact sublist.append moreSublist

theorem PartsOf.prepend (parts : PartsOf texts outputs) (first : List String) :
    PartsOf texts (first ++ outputs) := by
  simpa using (partsOf_nil first).append parts

theorem PartsOf.continue {output : String} (parts : PartsOf texts [output])
    (separator text : String) : PartsOf (texts ++ [text]) [output ++ separator ++ text] := by
  obtain ⟨pieces,whole,sublist⟩ := parts
  obtain ⟨piece,rfl,rfl⟩ := map_eq_singleton_iff.mp whole.symm
  refine ⟨[piece ++ [separator, text]],?_,?_⟩
  · simp [joined_append,joined,String.append_assoc]
  · rw [flatten_singleton] at sublist ⊢
    apply sublist.append
    exact sublist_cons_self separator [text]

theorem PartsOf.occurrences_le (parts : PartsOf texts outputs) (c : Char) :
    occurrences c texts ≤ occurrences c outputs := by
  obtain ⟨pieces,rfl,sublist⟩ := parts
  have counted : occurrences c pieces.flatten = occurrences c (pieces.map joined) := by
    clear sublist
    induction pieces with
    | nil => rfl
    | cons piece pieces ih => simp [count_joined,ih]
  rw [← counted]
  exact occurrences_le_of_sublist sublist

end

end NewApi
