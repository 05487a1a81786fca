import Mathlib.Data.List.DropRight
import Mathlib.Data.List.Infix

/-!
# The string functions of the Go standard library

Strings are handled as lists of characters, so that every function here
computes on literals.
-/

namespace NewApi.GoStrings

open List

def isSpace (c : Char) : Bool :=
  c.toNat ∈ [0x09, 0x0A, 0x0B, 0x0C, 0x0D, 0x20, 0x85, 0xA0, 0x1680, 0x2028, 0x2029, 0x202F,
    0x205F, 0x3000] || (0x2000 ≤ c.toNat && c.toNat ≤ 0x200A)

/-- Drop a leading and a trailing run of characters. -/
def trimFunc (drop : Char → Bool) (text : String) : String :=
  String.ofList ((text.toList.dropWhile drop).reverse.dropWhile drop).reverse

def trimSpace (text : String) : String :=
  trimFunc isSpace text

/-- The lower case of a character, where it is an ASCII letter; two characters beyond
ASCII have one, the Kelvin sign and the dotted capital I. -/
def lowerASCII (c : Char) : Char :=
  if c.toNat = 0x212A then 'k' else if c.toNat = 0x130 then 'i' else c.toLower

def toLower (text : String) : String :=
  String.ofList (text.toList.map lowerASCII)

def contains (text part : String) : Bool :=
  text.toList.tails.any (part.toList.isPrefixOf ·)

def hasPrefix (text start : String) : Bool :=
  start.toList.isPrefixOf text.toList

def hasSuffix (text ending : String) : Bool :=
  ending.toList.isSuffixOf text.toList

/-- `strings.Trim` with a cutset of one character. -/
def trim (text : String) (cut : Char) : String :=
  trimFunc (· == cut) text

def split (text : String) (separator : Char) : List String :=
  (text.toList.splitOn separator).map String.ofList

theorem split_ne_nil (text : String) (separator : Char) : split text separator ≠ [] := by
  simp [split]

variable {text : String} {parts : List String}

theorem trimFunc_of_clean_ends {drop : Char → Bool}
    (first : ∀ c rest, text.toList = c :: rest → drop c = false)
    (last : ∀ front c, text.toList = front ++ [c] → drop c = false) :
    trimFunc drop text = text := by
  have leading : text.toList.dropWhile drop = text.toList := by
    cases chars : text.toList with
    | nil => rfl
    | cons c rest => simp [first c rest chars]
  have trailing : text.toList.reverse.dropWhile drop = text.toList.reverse := by
    cases chars : text.toList.reverse with
    | nil => rfl
    | cons c rest =>
      have ends := last rest.reverse c (by simpa using congrArg reverse chars)
      simp [ends]
  rw [trimFunc,leading,trailing,reverse_reverse,String.ofList_toList]

theorem trim_eq_self_of_split {separator : Char}
    (nonempty : "" ∉ split text separator) : trim text separator = text := by
  have noEmptyEntry : [] ∉ text.toList.splitOnP (· == separator) := by
    intro member
    exact nonempty (mem_map.mpr ⟨[],member,rfl⟩)
  refine trimFunc_of_clean_ends (fun c rest chars => ?_) (fun front c chars => ?_)
  · by_contra isSeparator
    rw [chars,splitOnP_cons_eq_if_modifyHead,if_pos (by simpa using isSeparator)]
      at noEmptyEntry
    simp at noEmptyEntry
  · by_contra isSeparator
    rw [chars,splitOnP_append_cons front [] (by simpa using isSeparator)] at noEmptyEntry
    simp at noEmptyEntry

theorem trimFunc_idem (drop : Char → Bool) (text : String) :
    trimFunc drop (trimFunc drop text) = trimFunc drop text := by
  have trimmed : (trimFunc drop text).toList = (text.toList.dropWhile drop).rdropWhile drop := by
    simp [trimFunc,rdropWhile]
  refine trimFunc_of_clean_ends (fun c rest chars => ?_) (fun front c chars => ?_)
  · rw [trimmed] at chars
    have leading := rdropWhile_prefix drop (text.toList.dropWhile drop)
    rw [chars] at leading
    obtain ⟨more,whole⟩ := leading
    have nonempty : text.toList.dropWhile drop ≠ [] := by simp [← whole]
    have head := head_dropWhile_not drop nonempty
    simpa [← whole] using head
  · rw [trimmed] at chars
    have last := rdropWhile_last_not drop (text.toList.dropWhile drop) (by simp [chars])
    simpa [chars] using last

theorem trimSpace_idem (text : String) : trimSpace (trimSpace text) = trimSpace text :=
  trimFunc_idem isSpace text

example : trimSpace " \t vip\n" = "vip" := by decide

theorem trimSpace_eq_empty_iff :
    trimSpace text = "" ↔ ∀ c ∈ text.toList, isSpace c := by
  rw [trimSpace,trimFunc,String.ofList_eq_empty_iff,reverse_eq_nil_iff,
    dropWhile_eq_nil_iff]
  constructor
  · intro ends
    by_contra notAll
    push Not at notAll
    have some_ : text.toList.dropWhile isSpace ≠ [] := by
      rw [Ne,dropWhile_eq_nil_iff]
      push Not
      exact notAll
    have head := head_dropWhile_not isSpace some_
    rw [ends _ (mem_reverse.mpr (head_mem some_))] at head
    cases head
  · intro all c member
    exact all c (dropWhile_subset _ (mem_reverse.mp member))

section

variable {cut : Char} {first second : String}

def startsWith (text : String) (c : Char) : Bool :=
  text.toList.head? = some c

def endsWith (text : String) (c : Char) : Bool :=
  text.toList.getLast? = some c

variable {list : List Char} (separator : Char)

theorem trim_append_separator (kept : separator ≠ cut) :
    (trim (first ++ String.singleton separator ++ second) cut).toList =
      first.toList.dropWhile (· == cut) ++ separator :: second.toList.rdropWhile (· == cut) := by
  have stops : (separator == cut) = false := by simpa using kept
  have leading : (first.toList ++ separator :: second.toList).dropWhile (· == cut) =
      first.toList.dropWhile (· == cut) ++ separator :: second.toList := by
    rw [dropWhile_append]
    split
    case isTrue empty => simp [List.isEmpty_iff.mp empty,stops]
    case isFalse => rfl
  have trailing : ∀ front : List Char,
      (second.toList.reverse ++ separator :: front).dropWhile (· == cut) =
        second.toList.reverse.dropWhile (· == cut) ++ separator :: front := by
    intro front
    rw [dropWhile_append]
    split
    case isTrue empty => simp [List.isEmpty_iff.mp empty,stops]
    case isFalse => rfl
  simp only [trim,trimFunc,String.toList_append,String.toList_singleton,append_assoc,
    singleton_append,leading,reverse_append,reverse_cons,
    trailing,rdropWhile]
  simp

theorem dropWhile_eq_self_of_head (other : list.head? ≠ some cut) :
    list.dropWhile (· == cut) = list := by
  cases list with
  | nil => rfl
  | cons c =>
    have different : (c == cut) = false := by simpa using other
    simp [different]

theorem count_dropWhile_le (cut : Char) (list : List Char) :
    (list.dropWhile (· == cut)).count cut ≤ list.count cut :=
  (dropWhile_sublist _).count_le cut

theorem count_dropWhile_lt (starts : list.head? = some cut) :
    (list.dropWhile (· == cut)).count cut < list.count cut := by
  cases list with
  | nil => cases starts
  | cons c rest =>
    obtain rfl : c = cut := by simpa using starts
    have := count_dropWhile_le c rest
    simp only [dropWhile_cons,beq_self_eq_true,if_true,count_cons_self]
    omega

theorem trim_of_clean (kept : separator ≠ cut) (cleanStart : startsWith first cut = false)
    (cleanEnd : endsWith second cut = false) :
    trim (first ++ String.singleton separator ++ second) cut =
      first ++ String.singleton separator ++ second := by
  have head : first.toList.head? ≠ some cut := by simpa [startsWith] using cleanStart
  have last : second.toList.reverse.head? ≠ some cut := by
    simpa [endsWith] using cleanEnd
  apply String.toList_injective
  rw [trim_append_separator separator kept,rdropWhile,dropWhile_eq_self_of_head head,
    dropWhile_eq_self_of_head last]
  simp

theorem count_trim_lt (kept : separator ≠ cut)
    (cutOff : startsWith first cut = true ∨ endsWith second cut = true) :
    (trim (first ++ String.singleton separator ++ second) cut).toList.count cut <
      first.toList.count cut + second.toList.count cut := by
  have front := count_dropWhile_le cut first.toList
  have back := count_dropWhile_le cut second.toList.reverse
  rw [trim_append_separator separator kept,count_append,count_cons_of_ne kept,
    rdropWhile,count_reverse]
  rw [count_reverse] at back
  rcases cutOff with starts | ends
  · have head : first.toList.head? = some cut := by simpa [startsWith] using starts
    have := count_dropWhile_lt head
    omega
  · have last : second.toList.reverse.head? = some cut := by
      simpa [endsWith] using ends
    have := count_dropWhile_lt last
    rw [count_reverse] at this
    omega

theorem startsWith_trim (kept : separator ≠ cut) :
    startsWith (trim (first ++ String.singleton separator ++ second) cut) cut = false := by
  rw [startsWith,trim_append_separator separator kept]
  cases front : first.toList.dropWhile (· == cut) with
  | nil => simpa using kept
  | cons =>
    have nonempty : first.toList.dropWhile (· == cut) ≠ [] := by simp [front]
    have head := head_dropWhile_not (· == cut) nonempty
    simpa [front] using head

end

def digitsValue (digits : List Char) : Option Int :=
  if digits ≠ [] ∧ digits.all Char.isDigit then some (Nat.ofDigitChars 10 digits 0) else none

/-- `strconv.Atoi`; a number that an `int` cannot hold stays a number here. -/
def atoi (text : String) : Option Int :=
  match text.toList with
  | '-' :: digits => (digitsValue digits).map fun value => -value
  | '+' :: digits => digitsValue digits
  | digits => digitsValue digits

theorem toList_toString (number : Nat) : (toString number).toList = Nat.toDigits 10 number := by
  rw [Nat.toString_eq_ofList_toDigits,String.toList_ofList]

theorem isDigit_of_mem_toString {number : Nat} {c : Char} (member : c ∈ (toString number).toList) :
    c.isDigit := by
  rw [toList_toString] at member
  exact Nat.isDigit_of_mem_toDigits (by decide) (by decide) member

theorem toString_injective : Function.Injective (toString : Nat → String) := by
  intro first second same
  have digits : Nat.toDigits 10 first = Nat.toDigits 10 second := by
    rw [← toList_toString,← toList_toString,same]
  calc
    first = Nat.ofDigitChars 10 (Nat.toDigits 10 first) 0 :=
      (Nat.ofDigitChars_toDigits (by decide) (by decide)).symm
    _ = second := by rw [digits,Nat.ofDigitChars_toDigits (by decide) (by decide)]

theorem atoi_toString (number : Nat) : atoi (toString number) = some (number : Int) := by
  have digits : digitsValue (toString number).toList = some (number : Int) := by
    have all : (toString number).toList.all Char.isDigit = true :=
      all_eq_true.mpr fun _ => isDigit_of_mem_toString
    have some_ : (toString number).toList ≠ [] := by
      rw [toList_toString]
      exact Nat.toDigits_ne_nil
    rw [digitsValue,if_pos ⟨some_,all⟩,toList_toString,
      Nat.ofDigitChars_toDigits (by decide) (by decide)]
  unfold atoi
  split
  · rename_i rest split
    exact absurd (isDigit_of_mem_toString (split ▸ mem_cons_self)) (by decide)
  · rename_i rest split
    exact absurd (isDigit_of_mem_toString (split ▸ mem_cons_self)) (by decide)
  · exact digits

def joinDots (parts : List String) : String :=
  ".".intercalate parts

/-- Parts without a dot are told apart again. -/
theorem split_joinDots (some_ : parts ≠ [])
    (clean : ∀ part ∈ parts, '.' ∉ part.toList) : split (joinDots parts) '.' = parts := by
  have chars : (joinDots parts).toList.splitOn '.' = parts.map String.toList := by
    rw [joinDots,String.toList_intercalate]
    apply splitOn_intercalate
    · intro chars member
      obtain ⟨part,partMember,rfl⟩ := mem_map.mp member
      exact clean part partMember
    · simpa using some_
  rw [split,chars]
  simp

theorem mem_joinDots {part : String} {c : Char} (member : part ∈ parts)
    (inside : c ∈ part.toList) : c ∈ (joinDots parts).toList := by
  induction parts with
  | nil => cases member
  | cons first rest induction =>
    cases rest with
    | nil =>
      obtain rfl := mem_singleton.mp member
      simpa [joinDots] using inside
    | cons =>
      rw [joinDots,String.intercalate_cons_cons,String.toList_append,String.toList_append]
      rcases mem_cons.mp member with rfl | later
      · exact mem_append_left _ (mem_append_left _ inside)
      · exact mem_append_right _ (induction later)

end NewApi.GoStrings
