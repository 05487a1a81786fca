import Mathlib.Data.List.Sort
import Mathlib.Data.Prod.Lex
import Mathlib.Data.Rat.Defs
import Mathlib.Data.String.Basic
import NewApi.GoStrings

/-!
# The price of a tool for a model

The built-in prices and those of the operator become an index of tool defaults and of model
prefixes, the longest first.
-/

namespace NewApi

open GoStrings List

/-- The price in dollars for a thousand calls, for each key that has one. -/
abbrev ToolPrices := String → Option ℚ

def hardcodedToolPrices : List (String × ℚ) :=
  [("web_search", 10), ("web_search_preview", 10), ("file_search", 5 / 2), ("google_search", 14),
    ("image_generation", 150), ("web_search_preview:gpt-4o*", 25),
    ("web_search_preview:gpt-4.1*", 25), ("web_search_preview:gpt-4o-mini*", 25),
    ("web_search_preview:gpt-4.1-mini*", 25)]

def isValidToolPrice (price : ℚ) : Bool := 0 ≤ price

def mergedToolPrices (prices : ToolPrices) : ToolPrices := fun key =>
  ((prices key).filter isValidToolPrice).or (hardcodedToolPrices.lookup key)

/-- The tool of a key and what follows the first colon, without one closing star. -/
def parseToolKey (key : String) : String × Option String :=
  match key.toList.span (· ≠ ':') with
  | (_, []) => (key, none)
  | (tool, _ :: part) =>
    (.ofList tool, some (.ofList (if part.getLast? = some '*' then part.dropLast else part)))

structure PrefixEntry where
  modelPrefix : String
  price : ℚ

/-- The longer prefix in bytes comes first. -/
def PrefixEntry.place (entry : PrefixEntry) : ℕᵒᵈ ×ₗ String :=
  toLex (.toDual entry.modelPrefix.utf8ByteSize, entry.modelPrefix)

structure ToolPriceIndex where
  defaults : ToolPrices
  prefixes : String → List PrefixEntry

/-- The index, for the order in which the loop happens to visit the merged map. -/
def rebuildToolPriceIndex (merged : List (String × ℚ)) : ToolPriceIndex where
  defaults tool := (merged.find? (parseToolKey ·.1 = (tool, none))).map Prod.snd
  prefixes tool :=
    (merged.filterMap fun entry =>
      match parseToolKey entry.1 with
      | (_, none) => none
      | (owner, some part) => if owner = tool then some ⟨part, entry.2⟩ else none).insertionSort
        (Order.Preimage PrefixEntry.place (· ≤ ·))

def getToolPriceForModel (index : ToolPriceIndex) (tool model : String) : ℚ :=
  match (index.prefixes tool).find? fun e => model ≠ "" ∧ hasPrefix model e.modelPrefix with
  | some entry => entry.price
  | none => (index.defaults tool).getD 0

/-- The order in which a loop visits the entries of a map. -/
def Visits (order : List (String × ℚ)) (prices : ToolPrices) : Prop :=
  ∀ key price, (key, price) ∈ order ↔ prices key = some price

/-- No two keys stand for the same tool and prefix at different prices. -/
def PricedAlike (order : List (String × ℚ)) : Prop :=
  ∀ entry ∈ order, ∀ other ∈ order,
    parseToolKey entry.1 = parseToolKey other.1 → entry.2 = other.2

/-- A price that a map gives for a tool and a prefix, or for the tool alone. -/
def Gives (prices : ToolPrices) (tool : String) (part : Option String) (price : ℚ) : Prop :=
  ∃ key, parseToolKey key = (tool, part) ∧ prices key = some price

/-- The operator's price or, where the operator gives none, the built-in one. -/
def Effective (prices : ToolPrices) (tool : String) (part : Option String) (price : ℚ) : Prop :=
  Gives prices tool part price ∨
    (∀ other, ¬Gives prices tool part other) ∧
      Gives (hardcodedToolPrices.lookup ·) tool part price

/-- The tool default applies to every model, a prefix to the names that start with it. -/
def Applies (model : String) (part : Option String) : Prop :=
  ∀ start ∈ part, model ≠ "" ∧ hasPrefix model start

/-- The price of the longest prefix that applies, else the default of the tool, else zero. -/
def DocumentedPrice (prices : ToolPrices) (tool model : String) (price : ℚ) : Prop :=
  (∃ part, Applies model part ∧ Effective prices tool part price ∧
    ∀ start other, Applies model (some start) → Effective prices tool (some start) other →
      ∃ chosen ∈ part, start.length ≤ chosen.length) ∨
    price = 0 ∧ ∀ part other, Applies model part → ¬Effective prices tool part other

variable {prices : ToolPrices} {order : List (String × ℚ)} {tool model : String}

theorem mem_prefixes {entry : PrefixEntry} :
    entry ∈ (rebuildToolPriceIndex order).prefixes tool ↔
      ∃ key, (key, entry.price) ∈ order ∧ parseToolKey key = (tool, some entry.modelPrefix) := by
  simp only [rebuildToolPriceIndex,mem_insertionSort,mem_filterMap]
  constructor
  · rintro ⟨⟨key,price⟩,member,made⟩
    split at made
    · cases made
    · grind
  · rintro ⟨key,member,parsed⟩
    exact ⟨_,member,by simp [parsed]⟩

theorem prefix_length_le {part other : String} (starts : hasPrefix model part)
    (otherStarts : hasPrefix model other) (bytes : other.utf8ByteSize ≤ part.utf8ByteSize) :
    other.length ≤ part.length := by
  by_contra longer
  have isStart := isPrefixOf_iff_prefix.mp starts
  have otherIsStart := isPrefixOf_iff_prefix.mp otherStarts
  obtain ⟨rest,split⟩ := prefix_of_prefix_length_le isStart otherIsStart (not_le.mp longer).le
  have same : other = part ++ String.ofList rest := by
    rw [← String.toList_inj,← split]
    simp
  rw [same,String.utf8ByteSize_append] at bytes
  have none : String.ofList rest = "" := by
    rw [← String.utf8ByteSize_eq_zero_iff]
    omega
  simp [same,none] at longer

theorem bytes_le_of_find? {entries : List PrefixEntry} {entry other : PrefixEntry}
    {test : PrefixEntry → Bool}
    (sorted : entries.Pairwise (Order.Preimage PrefixEntry.place (· ≤ ·)))
    (found : entries.find? test = some entry) (member : other ∈ entries) (passes : test other) :
    other.modelPrefix.utf8ByteSize ≤ entry.modelPrefix.utf8ByteSize := by
  obtain ⟨-,front,rest,rfl,failed⟩ := find?_eq_some_iff_append.mp found
  rcases mem_append.mp member with earlier | later
  · exact absurd passes (by simpa using failed other earlier)
  · rcases mem_cons.mp later with rfl | later
    · rfl
    · have placed := rel_of_pairwise_cons (pairwise_append.mp sorted).2.1 later
      exact Prod.Lex.monotone_fst_ofLex placed

theorem effective_iff (valid : ∀ key price, prices key = some price → 0 ≤ price)
    (visits : Visits order (mergedToolPrices prices)) (alike : PricedAlike order) (tool : String)
    (part : Option String) (price : ℚ) : Effective prices tool part price ↔
      ∃ key, (key, price) ∈ order ∧ parseToolKey key = (tool, part) := by
  have merged : ∀ {key other}, prices key = some other → (key, other) ∈ order := by
    intro key other priced
    rw [visits,mergedToolPrices,priced]
    simp [isValidToolPrice,valid key other priced]
  have builtin : ∀ {key other}, (∀ other, ¬Gives prices tool part other) →
      parseToolKey key = (tool, part) →
      ((key, other) ∈ order ↔ hardcodedToolPrices.lookup key = some other) := by
    intro key other unpriced parsed
    have own : prices key = none :=
      Option.eq_none_iff_forall_ne_some.mpr fun other found => unpriced other ⟨key,parsed,found⟩
    rw [visits,mergedToolPrices,own]
    simp
  constructor
  · rintro (⟨key,parsed,priced⟩ | ⟨unpriced,key,parsed,priced⟩)
    · exact ⟨key,merged priced,parsed⟩
    · exact ⟨key,(builtin unpriced parsed).mpr priced,parsed⟩
  · rintro ⟨key,member,parsed⟩
    by_cases operator : ∃ other, Gives prices tool part other
    · obtain ⟨other,otherKey,otherParsed,priced⟩ := operator
      obtain rfl := alike _ member _ (merged priced) (parsed.trans otherParsed.symm)
      exact .inl ⟨otherKey,otherParsed,priced⟩
    · have unpriced := not_exists.mp operator
      exact .inr ⟨unpriced,key,parsed,(builtin unpriced parsed).mp member⟩

end NewApi
