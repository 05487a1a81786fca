import Mathlib.Data.List.Sort
import NewApi.GoStrings
import NewApi.ReviewSnippet

/-!
# The request body that a review reads

Values are masked on the way down, except for the lists of texts that forms have.
-/

namespace NewApi

open GoStrings List

/-- A decoded body: JSON, or a form, whose fields are lists of texts. -/
inductive ReviewValue where
  | null
  | bool (value : Bool)
  | number (value : Rat)
  | string (text : String)
  | strings (texts : List String)
  | array (items : List ReviewValue)
  | object (entries : List (String × ReviewValue))

/-- The tables of `unicode`, and `maskReviewRequestFreeText` after `MaskSensitiveInfo`. -/
structure ReviewTexts where
  toLower : String → String
  isLetterOrDigit : Char → Bool
  mask : String → String

namespace ReviewTexts

variable (texts : ReviewTexts)

def isReviewRequestSensitiveKey (key : String) : Bool :=
  let compact := String.ofList
    ((texts.toLower (trimSpace key)).toList.filter texts.isLetterOrDigit)
  ["authorization", "proxyauthorization", "cookie", "apikey", "accesstoken", "refreshtoken",
    "token", "password", "passwd", "secret", "signature", "privatekey", "jwt", "sessiontoken",
    "clientsecret"].any (contains compact) || ["auth", "token", "key", "sign"].contains compact

def isReviewRequestMediaKey (key : String) : Bool :=
  ! ["files", "filename", "file_name", "content_type", "size"].contains key &&
    ["image", "audio", "video", "file", "media", "base64", "b64", "bytes"].any (contains key)

def isReviewRequestMediaValue (value : String) : Bool :=
  let lower := texts.toLower (trimSpace value)
  let codeChar (c : Char) : Bool := c.isAlphanum || "+/=_-".toList.contains c
  contains lower ";base64," || hasPrefix lower "data:" ||
    128 ≤ value.length && !value.toList.any (" \t\r\n".toList.contains ·) &&
      value.length * 95 ≤ value.toList.countP codeChar * 100

/-- The first entries in the order of their keys. -/
def limitReviewMap (entries : List (String × ReviewValue)) (max : Nat) :
    List (String × ReviewValue) :=
  (entries.insertionSort (·.1 ≤ ·.1)).take max

/-- With the levels that are left. -/
def redactReviewRequestValue : Nat → ReviewValue → ReviewValue
  | 0, _ => .string "[omitted nested value]"
  | left + 1, .object entries =>
    .object ((limitReviewMap entries 40).map fun (key, value) =>
      let lower := texts.toLower key
      (key, if texts.isReviewRequestSensitiveKey lower then .string "***"
        else if isReviewRequestMediaKey lower then .string "[omitted media]"
        else redactReviewRequestValue left value))
  | left + 1, .array items =>
    .array ((items.take 24).map (redactReviewRequestValue left) ++
      if 24 < items.length then [.string "[truncated]"] else [])
  | _ + 1, .string text =>
    .string (if texts.isReviewRequestMediaValue text then "[omitted media]"
      else truncateRunes (texts.mask text) 512)
  | _ + 1, value => value

end ReviewTexts

def runeStart (byte : UInt8) : Bool := byte &&& 0xC0 ≠ 0x80

def runeBoundary (value : List UInt8) : Nat → Nat
  | 0 => 0
  | available + 1 =>
    if value[available + 1]?.any runeStart then available + 1 else runeBoundary value available

def truncateReviewRequestBytesWithSuffix (value : List UInt8) (maxBytes : Nat)
    (suffix : List UInt8) : List UInt8 :=
  if maxBytes = 0 then []
  else if value.length ≤ maxBytes then value
  else if maxBytes ≤ suffix.length then value.take maxBytes
  else value.take (runeBoundary value (maxBytes - suffix.length)) ++ suffix

def marshalBoundedReviewRequestValue (texts : ReviewTexts)
    (marshal : ReviewValue → Option (List UInt8)) (value : ReviewValue) : List UInt8 :=
  match marshal (texts.redactReviewRequestValue 6 value) with
  | none => []
  | some data => truncateReviewRequestBytesWithSuffix data 8192 "...".toUTF8.data.toList

structure ReviewFile where
  filename : String
  contentType : String
  size : Int

abbrev FormValues := List (String × List String)

def parseBoundedReviewMultipart (values : FormValues) (files : List (String × List ReviewFile)) :
    ReviewValue :=
  let fields := values.map fun (key, items) => (key, .strings (items.take 4))
  let fields := if 40 < fields.length then ReviewTexts.limitReviewMap fields 40 else fields
  let files := (files.take 40).mapIdx fun index (key, headers) =>
    (s!"part_{index}", .array ((headers.take 4).map fun header =>
      .object [("name", .string key), ("filename", .string header.filename),
        ("content_type", .string header.contentType), ("size", .number header.size)]))
  .object ((if fields.length = 0 then [] else [("fields", .object fields)]) ++
    if files.length = 0 then [] else [("files", .object files)])

inductive ReviewBody where
  | json (value : ReviewValue)
  | form (values : FormValues)
  | multipart (values : FormValues) (files : List (String × List ReviewFile))

def ReviewBody.value : ReviewBody → ReviewValue
  | .json value => value
  | .form values => .object (values.map fun (key, items) => (key, .strings items))
  | .multipart values files => parseBoundedReviewMultipart values files

inductive HasText (text : String) : ReviewValue → Prop
  | string : HasText text (.string text)
  | strings {texts : List String} (member : text ∈ texts) : HasText text (.strings texts)
  | array {items : List ReviewValue} {item : ReviewValue} (member : item ∈ items)
    (below : HasText text item) : HasText text (.array items)
  | object {entries : List (String × ReviewValue)} {entry : String × ReviewValue}
    (member : entry ∈ entries) (below : HasText text entry.2) : HasText text (.object entries)

/-- Every text passes, maps and arrays are short, and they are nested only so deep. -/
def Captured (passes : String → Prop) : Nat → ReviewValue → Prop
  | _, .string text => passes text
  | _ + 1, .strings texts => texts.length ≤ 25 ∧ ∀ text ∈ texts, passes text
  | left + 1, .array items => items.length ≤ 25 ∧ ∀ item ∈ items, Captured passes left item
  | left + 1, .object entries =>
    entries.length ≤ 40 ∧ ∀ entry ∈ entries, Captured passes left entry.2
  | 0, .strings _ | 0, .array _ | 0, .object _ => False
  | _, _ => True

namespace ReviewTexts

variable (texts : ReviewTexts)

/-- A marker, or the masked form of a text of the request. -/
def Masked (request : ReviewValue) (text : String) : Prop :=
  text ∈ ["***", "[omitted media]", "[omitted nested value]", "[truncated]"] ∨
    ∃ plain, HasText plain request ∧ texts.isReviewRequestMediaValue plain = false ∧
      text = truncateRunes (texts.mask plain) 512

/-- The lists of texts that are reached are short, and pass as they are. -/
def ListsPass (passes : String → Prop) : Nat → ReviewValue → Prop
  | _ + 1, .strings items => items.length ≤ 25 ∧ ∀ item ∈ items, passes item
  | left + 1, .array items => ∀ item ∈ items.take 24, ListsPass passes left item
  | left + 1, .object entries =>
    ∀ entry ∈ limitReviewMap entries 40,
      texts.isReviewRequestSensitiveKey (texts.toLower entry.1) = false →
        isReviewRequestMediaKey (texts.toLower entry.1) = false → ListsPass passes left entry.2
  | _, _ => True

variable {texts} {passes : String → Prop}

theorem mem_of_mem_limitReviewMap {entries : List (String × ReviewValue)} {max : Nat}
    {entry : String × ReviewValue} (member : entry ∈ limitReviewMap entries max) :
    entry ∈ entries :=
  (mem_insertionSort _).mp (mem_of_mem_take member)

theorem captured_redact_iff
    (markers : ∀ text ∈ ["***", "[omitted media]", "[omitted nested value]", "[truncated]"],
      passes text) (left : Nat) {value : ReviewValue}
    (masked : ∀ text, HasText text value → texts.isReviewRequestMediaValue text = false →
      passes (truncateRunes (texts.mask text) 512)) :
    Captured passes left (texts.redactReviewRequestValue left value) ↔
      texts.ListsPass passes left value := by
  simp only [forall_mem_cons] at markers
  obtain ⟨hidden,media,nested,cut,-⟩ := markers
  induction left generalizing value with
  | zero => simpa [redactReviewRequestValue,Captured,ListsPass] using nested
  | succ left ih =>
    cases value with
    | null | bool | number => simp [redactReviewRequestValue,Captured,ListsPass]
    | strings items => simp [redactReviewRequestValue,Captured,ListsPass]
    | string text =>
      simp only [redactReviewRequestValue,ListsPass,iff_true]
      split_ifs with isMedia
      · exact media
      · exact masked text .string (by simpa using isMedia)
    | array items =>
      have last : ∀ item ∈ if 24 < items.length then [ReviewValue.string "[truncated]"] else [],
          Captured passes left item := by
        split_ifs <;> simp [Captured,cut]
      have short : ((items.take 24).map (texts.redactReviewRequestValue left) ++
          if 24 < items.length then [ReviewValue.string "[truncated]"] else []).length ≤ 25 := by
        split_ifs <;> simp
      simp only [redactReviewRequestValue,Captured,forall_mem_append,forall_mem_map]
      rw [and_iff_right short,and_iff_left last]
      exact forall₂_congr fun item member =>
        ih fun text below => masked text (.array (mem_of_mem_take member) below)
    | object entries =>
      have short : (limitReviewMap entries 40).length ≤ 40 := by simp [limitReviewMap]
      simp only [redactReviewRequestValue,Captured,length_map,short,true_and,
        forall_mem_map]
      refine forall₂_congr fun entry member => ?_
      split_ifs with sensitive isMedia
      · simp [sensitive,Captured,hidden]
      · simp [isMedia,Captured,media]
      · simpa [sensitive,isMedia] using ih fun text below =>
          masked text (.object (mem_of_mem_limitReviewMap member) below)

end ReviewTexts

theorem runeBoundary_le (value : List UInt8) (available : Nat) :
    runeBoundary value available ≤ available := by
  fun_induction runeBoundary value available with
  | case1 | case2 => exact le_rfl
  | case3 available _ ih => omega

theorem length_truncate_le (value : List UInt8) (maxBytes : Nat) (suffix : List UInt8) :
    (truncateReviewRequestBytesWithSuffix value maxBytes suffix).length ≤ maxBytes := by
  have boundary := runeBoundary_le value (maxBytes - suffix.length)
  unfold truncateReviewRequestBytesWithSuffix
  split_ifs <;> simp <;> omega

theorem captured_masked_iff (texts : ReviewTexts) (value : ReviewValue) :
    Captured (texts.Masked value) 6 (texts.redactReviewRequestValue 6 value) ↔
      texts.ListsPass (texts.Masked value) 6 value :=
  ReviewTexts.captured_redact_iff (fun _ => .inl) 6 fun text has notMedia =>
    .inr ⟨text,has,notMedia,rfl⟩

def starText : ReviewTexts := ⟨toLower, Char.isAlphanum, fun _ => "*"⟩

end NewApi
