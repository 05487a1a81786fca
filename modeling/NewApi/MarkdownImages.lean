import NewApi.GeminiRequest

/-!
# Markdown images in a message for Gemini

A text is a list of characters here.
-/

namespace NewApi

open List

/-- The text before the first occurrence of a separator and the text behind it. -/
def cut (separator : List Char) : List Char → Option (List Char × List Char)
  | [] => none
  | c :: rest =>
    if separator.isPrefixOf (c :: rest) then some ([], (c :: rest).drop separator.length)
    else (cut separator rest).map fun found => (c :: found.1, found.2)

theorem cut_eq_some {separator text before after : List Char}
    (found : cut separator text = some (before, after)) : text = before ++ separator ++ after := by
  fun_induction cut separator text generalizing before with
  | case1 => cases found
  | case2 c rest here =>
    obtain ⟨tail,whole⟩ := isPrefixOf_iff_prefix.mp here
    cases found
    simp [← whole]
  | case3 c rest _ ih =>
    obtain ⟨⟨front,tail⟩,later,same⟩ := Option.map_eq_some_iff.mp found
    cases same
    rw [ih later]
    rfl

structure MarkdownImage where
  textBefore : List Char
  label : List Char
  dataURL : List Char
  after : List Char
deriving DecidableEq, Repr

def MarkdownImage.markdown (image : MarkdownImage) : List Char :=
  image.label ++ "](".toList ++ image.dataURL ++ [')']

def nextImage (text : List Char) : Option MarkdownImage := do
  let (textBefore, opened) ← cut "![".toList text
  let (label, url) ← cut "](data:".toList ("![".toList ++ opened)
  let (dataURL, after) ← cut [')'] ("data:".toList ++ url)
  some { textBefore, label, dataURL, after }

variable {text : List Char} {image : MarkdownImage}

theorem nextImage_eq_some (found : nextImage text = some image) :
    text = image.textBefore ++ image.markdown ++ image.after := by
  simp only [nextImage,Option.bind_eq_bind,Option.bind_eq_some_iff,Prod.exists] at found
  obtain ⟨textBefore,opened,starts,label,url,labelled,dataURL,after,closes,same⟩ := found
  cases same
  have whole : text = textBefore ++ ("![".toList ++ opened) := by simpa using cut_eq_some starts
  rw [whole,cut_eq_some labelled]
  simpa [MarkdownImage.markdown] using cut_eq_some closes

theorem length_after_lt (found : nextImage text = some image) :
    image.after.length < text.length := by
  rw [nextImage_eq_some found]
  simp [MarkdownImage.markdown]
  omega

/-- The images that the loop over a text finds, and what stands behind the last one. -/
def markdownImages (text : List Char) : List MarkdownImage × List Char :=
  match _found : nextImage text with
  | none => ([], text)
  | some image =>
    let later := markdownImages image.after
    (image :: later.1, later.2)
termination_by text.length
decreasing_by exact length_after_lt _found

theorem markdownImages_whole (text : List Char) :
    (markdownImages text).1.flatMap (fun image => image.textBefore ++ image.markdown) ++
      (markdownImages text).2 = text := by
  fun_induction markdownImages text with
  | case1 => rfl
  | case2 text image found later ih =>
    rw [flatMap_cons,append_assoc,ih]
    exact (nextImage_eq_some found).symm

/-- A part for Gemini; an image remembers the markdown it came from. -/
inductive MessagePart where
  | text (own : List Char)
  | inlineData (blob : GeminiBlob) (markdown : List Char)
deriving DecidableEq, Repr

def MessagePart.source : MessagePart → List Char
  | .text own => own
  | .inlineData _ markdown => markdown

def imageParts (decodeBase64FileData : List Char → Except String GeminiBlob) :
    List MarkdownImage → Except String (List MessagePart)
  | [] => .ok []
  | image :: images =>
    match decodeBase64FileData image.dataURL with
    | .error error => .error ("decode markdown base64 image data failed: " ++ error)
    | .ok blob => (imageParts decodeBase64FileData images).map fun later =>
      (if image.textBefore = [] then [] else [.text image.textBefore]) ++
        .inlineData blob image.markdown :: later

def textParts (decodeBase64FileData : List Char → Except String GeminiBlob) (text : List Char) :
    Except String (List MessagePart) :=
  if text = [] then .ok []
  else if (markdownImages text).1 = [] then .ok [.text text]
  else imageParts decodeBase64FileData (markdownImages text).1

theorem imageParts_sources {decodeBase64FileData : List Char → Except String GeminiBlob}
    {images : List MarkdownImage} {parts : List MessagePart}
    (converted : imageParts decodeBase64FileData images = .ok parts) :
    parts.flatMap MessagePart.source =
      images.flatMap fun image => image.textBefore ++ image.markdown := by
  fun_induction imageParts decodeBase64FileData images generalizing parts with
  | case1 =>
    cases converted
    rfl
  | case2 => cases converted
  | case3 image images blob _ ih =>
    cases later : imageParts decodeBase64FileData images with
    | error => simp [later,Except.map] at converted
    | ok =>
      rw [later] at converted
      cases converted
      split <;> simp [*, MessagePart.source]

/-- The parts of a text, with every image replaced by its markdown, are the text itself exactly when
it has no image or ends with one. -/
theorem text_parts_keep_text_iff (decodeBase64FileData : List Char → Except String GeminiBlob)
    (text : List Char) (parts : List MessagePart)
    (converted : textParts decodeBase64FileData text = .ok parts) :
    parts.flatMap MessagePart.source = text ↔
      (markdownImages text).1 = [] ∨ (markdownImages text).2 = [] := by
  have whole := markdownImages_whole text
  unfold textParts at converted
  split_ifs at converted with empty none
  · cases converted
    rw [empty] at whole ⊢
    exact iff_of_true rfl (.inr (append_eq_nil_iff.mp whole).2)
  · cases converted
    exact iff_of_true (append_nil text) (.inl none)
  · rw [imageParts_sources converted,or_iff_right none]
    nth_rewrite 2 [← whole]
    exact self_eq_append_right

theorem image_at_end_kept :
    (markdownImages "see ![a](data:x)".toList).1 ≠ [] ∧
      [MessagePart.text "see ".toList, .inlineData ⟨"image/png", "QQ=="⟩ "![a](data:x)".toList].flatMap
        MessagePart.source = "see ![a](data:x)".toList :=
  ⟨by decide +kernel,(text_parts_keep_text_iff (fun _ => .ok ⟨"image/png", "QQ=="⟩) _ _
    (by decide +kernel)).mpr (.inr (by decide +kernel))⟩

/-- The text behind an image is dropped. -/
theorem caption_dropped :
    textParts (fun _ => .ok ⟨"image/png", "QQ=="⟩) "![a](data:x) caption".toList =
      .ok [.inlineData ⟨"image/png", "QQ=="⟩ "![a](data:x)".toList] := by
  decide +kernel

end NewApi
