import Mathlib.Data.List.Basic

/-!
# JSON strings

`encoding/json` writes a string between quotes and escapes quotes, backslashes,
control characters, the characters that mean something in HTML, and two line
separators.
-/

namespace NewApi.JsonStrings

open List

def hexDigit (value : Nat) : Char :=
  if value < 10 then Char.ofNat (48 + value) else Char.ofNat (87 + value)

def hexValue (c : Char) : Option Nat :=
  if '0' ≤ c ∧ c ≤ '9' then some (c.toNat - 48)
  else if 'a' ≤ c ∧ c ≤ 'f' then some (c.toNat - 87)
  else if 'A' ≤ c ∧ c ≤ 'F' then some (c.toNat - 55)
  else none

def hexNumber (w x y z : Char) : Option Nat := do
  let w ← hexValue w
  let x ← hexValue x
  let y ← hexValue y
  let z ← hexValue z
  return ((w * 16 + x) * 16 + y) * 16 + z

theorem hexValue_hexDigit : ∀ value < 16, hexValue (hexDigit value) = some value := by
  decide

theorem hexNumber_hexDigits {number : Nat} (small : number < 65536) :
    hexNumber (hexDigit (number / 4096)) (hexDigit (number / 256 % 16))
      (hexDigit (number / 16 % 16)) (hexDigit (number % 16)) = some number := by
  rw [hexNumber,hexValue_hexDigit _ (by omega),hexValue_hexDigit _ (by omega),
    hexValue_hexDigit _ (by omega),hexValue_hexDigit _ (by omega)]
  apply congrArg some
  omega

/-- The characters that are written as a number. -/
def numbered (c : Char) : Bool :=
  c.toNat < 0x20 || c = '<' || c = '>' || c = '&' || c.toNat = 0x2028 || c.toNat = 0x2029

def escaped (c : Char) : List Char :=
  if c = '"' then ['\\', '"']
  else if c = '\\' then ['\\', '\\']
  else if c.toNat = 0x08 then ['\\', 'b']
  else if c.toNat = 0x0C then ['\\', 'f']
  else if c = '\n' then ['\\', 'n']
  else if c = '\r' then ['\\', 'r']
  else if c = '\t' then ['\\', 't']
  else if numbered c then
    ['\\', 'u', hexDigit (c.toNat / 4096), hexDigit (c.toNat / 256 % 16),
      hexDigit (c.toNat / 16 % 16), hexDigit (c.toNat % 16)]
  else [c]

/-- `json.Marshal` of a string. -/
def quote (text : String) : String :=
  String.ofList ('"' :: (text.toList.flatMap escaped ++ ['"']))

def isSurrogate (number : Nat) : Bool :=
  0xD800 ≤ number && number < 0xE000

def replacement : Char := Char.ofNat 0xFFFD

def surrogatePair (high low : Nat) : Option Char :=
  if high < 0xDC00 ∧ 0xDC00 ≤ low ∧ low < 0xE000 then
    some (Char.ofNat ((high - 0xD800) * 0x400 + (low - 0xDC00) + 0x10000))
  else none

def unescaped (c : Char) : Option Char :=
  if c = '"' ∨ c = '\\' ∨ c = '/' then some c
  else if c = 'b' then some (Char.ofNat 0x08)
  else if c = 'f' then some (Char.ofNat 0x0C)
  else if c = 'n' then some '\n'
  else if c = 'r' then some '\r'
  else if c = 't' then some '\t'
  else none

/-- The character after a high surrogate, which is replaced when there is no low one. -/
def readLow (high : Nat) (rest : List Char) : Char × List Char :=
  match rest with
  | '\\' :: 'u' :: w :: x :: y :: z :: more =>
    match (hexNumber w x y z).bind (surrogatePair high) with
    | some pair => (pair, more)
    | none => (replacement, rest)
  | _ => (replacement, rest)

def readChar : List Char → Option (Char × List Char)
  | '\\' :: 'u' :: w :: x :: y :: z :: rest =>
    (hexNumber w x y z).map fun number =>
      if isSurrogate number then readLow number rest else (Char.ofNat number, rest)
  | '\\' :: escape :: rest => (unescaped escape).map fun char => (char, rest)
  | c :: rest => if c = '\\' ∨ c.toNat < 0x20 then none else some (c, rest)
  | [] => none

/-- Read up to the closing quote; what comes after it is returned as well. A character is
read in each round. -/
def readBody : Nat → List Char → Option (List Char × List Char)
  | 0, _ => none
  | _ + 1, [] => none
  | rounds + 1, c :: rest =>
    if c = '"' then some ([], rest)
    else
      match readChar (c :: rest) with
      | none => none
      | some (char, more) => (readBody rounds more).map fun read => (char :: read.1, read.2)

/-- `json.Unmarshal` of a text without surrounding space into a string. -/
def unquote (text : String) : Option String :=
  match text.toList with
  | '"' :: body =>
    match readBody body.length body with
    | some (chars, []) => some (String.ofList chars)
    | _ => none
  | _ => none

variable {c : Char}

theorem readChar_numbered (rest : List Char) (small : c.toNat < 0xD800) :
    readChar ('\\' :: 'u' :: hexDigit (c.toNat / 4096) :: hexDigit (c.toNat / 256 % 16) ::
      hexDigit (c.toNat / 16 % 16) :: hexDigit (c.toNat % 16) :: rest) = some (c, rest) := by
  have single : isSurrogate c.toNat = false := by
    simp [isSurrogate]
    omega
  simp [readChar, hexNumber_hexDigits (show c.toNat < 65536 by omega), single]

theorem readChar_plain (rest : List Char) (notBackslash : c ≠ '\\')
    (visible : ¬ c.toNat < 0x20) : readChar (c :: rest) = some (c, rest) := by
  unfold readChar
  split
  · rename_i given
    simp only [cons.injEq] at given
    exact absurd given.1 notBackslash
  · rename_i given
    simp only [cons.injEq] at given
    exact absurd given.1 notBackslash
  · rename_i given
    obtain ⟨rfl, rfl⟩ := cons.inj given
    simp [notBackslash, visible]
  · rename_i given
    exact absurd given nofun

theorem toNat_lt_of_numbered (isNumbered : numbered c = true) : c.toNat < 0xD800 := by
  simp only [numbered, Bool.or_eq_true, decide_eq_true_eq] at isNumbered
  rcases isNumbered with (((((small | rfl) | rfl) | rfl) | isLine) | isParagraph)
  · omega
  · decide
  · decide
  · decide
  · omega
  · omega

theorem eq_ofNat {number : Nat} (same : c.toNat = number) : Char.ofNat number = c := by
  rw [← same, Char.ofNat_toNat]

theorem readChar_escaped (c : Char) (rest : List Char) :
    readChar (escaped c ++ rest) = some (c, rest) := by
  unfold escaped
  split_ifs with quote backslash backspace formFeed newline carriageReturn tab isNumbered
  · simp [readChar, unescaped, quote]
  · simp [readChar, unescaped, backslash]
  · simpa [readChar, unescaped] using eq_ofNat backspace
  · simpa [readChar, unescaped] using eq_ofNat formFeed
  · simp [readChar, unescaped, newline]
  · simp [readChar, unescaped, carriageReturn]
  · simp [readChar, unescaped, tab]
  · exact readChar_numbered rest (toNat_lt_of_numbered isNumbered)
  · apply readChar_plain rest backslash
    intro control
    simp [numbered, control] at isNumbered

/-- An escaped character does not look like the closing quote. -/
theorem escaped_eq_cons (c : Char) : ∃ first more, escaped c = first :: more ∧ first ≠ '"' := by
  unfold escaped
  split_ifs with quote
  all_goals first
    | exact ⟨_, _, rfl, by decide⟩
    | exact ⟨_, _, rfl, quote⟩

theorem readBody_flatMap_escaped (chars rest : List Char) {rounds : Nat}
    (enough : chars.length < rounds) :
    readBody rounds (chars.flatMap escaped ++ '"' :: rest) = some (chars, rest) := by
  induction chars generalizing rounds with
  | nil =>
    cases rounds with
    | zero => exact absurd enough (Nat.not_lt_zero _)
    | succ => simp [readBody]
  | cons c chars induction =>
    cases rounds with
    | zero => exact absurd enough (Nat.not_lt_zero _)
    | succ rounds =>
      have remaining : chars.length < rounds := by
        rw [length_cons] at enough
        omega
      rw [flatMap_cons, append_assoc]
      obtain ⟨first, more, split, notQuote⟩ := escaped_eq_cons c
      have read := readChar_escaped c (chars.flatMap escaped ++ '"' :: rest)
      rw [split, cons_append] at read ⊢
      simp only [readBody, notQuote, if_false, read, induction remaining, Option.map_some]

theorem length_le_flatMap_escaped (chars : List Char) :
    chars.length ≤ (chars.flatMap escaped).length := by
  induction chars with
  | nil => exact Nat.le_refl _
  | cons c =>
    obtain ⟨first,more,split,-⟩ := escaped_eq_cons c
    rw [flatMap_cons,split,length_append,length_cons,length_cons]
    omega

/-- What was written is read back. -/
theorem unquote_quote (text : String) : unquote (quote text) = some text := by
  have enough : text.toList.length < (text.toList.flatMap escaped ++ ['"']).length := by
    have := length_le_flatMap_escaped text.toList
    rw [length_append,length_singleton]
    omega
  have body := readBody_flatMap_escaped text.toList [] enough
  simp only [unquote,quote,String.toList_ofList,body,String.ofList_toList]

end NewApi.JsonStrings
