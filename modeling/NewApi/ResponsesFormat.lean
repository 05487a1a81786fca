import NewApi.ChatMessages
import NewApi.GoStrings
import NewApi.JsonStrings

/-! # The Responses format -/

namespace NewApi

open JsonStrings GoStrings

inductive OutputType where
  | message
  | reasoning
  | functionCall
  | customToolCall
  | other (name : String)
deriving DecidableEq, Repr

inductive OutputContentType where
  | outputText
  | summaryText
  | other (name : String)
deriving DecidableEq, Repr

structure ResponsesOutputContent where
  type : OutputContentType
  text : String
deriving DecidableEq, Repr

structure ResponsesOutput where
  type : OutputType
  id : String := ""
  status : String := ""
  role : String := ""
  content : List ResponsesOutputContent := []
  callId : String := ""
  name : String := ""
  arguments : String := ""
deriving DecidableEq, Repr

structure ResponsesResponse where
  id : String
  model : String
  status : String
  incompleteReason : Option String
  output : List ResponsesOutput
deriving DecidableEq, Repr

def jsonRawMessageToString (data : String) : String :=
  let trimmed := trimSpace data
  if trimmed = "" ∨ trimmed = "null" then ""
  else if ¬ hasPrefix trimmed "\"" then trimmed
  else (JsonStrings.unquote trimmed).getD trimmed

def ResponsesOutput.argumentsString (output : ResponsesOutput) : String :=
  jsonRawMessageToString output.arguments

/-- The status of a response; a text that is not a JSON string gives none. -/
def responseStatusString (response : ResponsesResponse) : String :=
  trimSpace ((JsonStrings.unquote response.status).getD "")

def isResponsesToolOutputType (type : OutputType) : Bool :=
  type = .functionCall || type = .customToolCall

theorem quote_toList (text : String) : (quote text).toList =
    '"' :: (text.toList.flatMap escaped ++ ['"']) := by
  simp [quote]

theorem trimSpace_quote (text : String) :
    trimSpace (quote text) = quote text := by
  apply trimFunc_of_clean_ends
  · intro c rest split
    rw [quote_toList] at split
    obtain ⟨rfl,-⟩ := List.cons.inj split
    decide
  · intro front c split
    rw [quote_toList,← List.cons_append] at split
    obtain ⟨-,same⟩ := List.append_inj' split rfl
    obtain rfl := List.singleton_inj.mp same
    decide

theorem jsonRawMessageToString_quote (text : String) :
    jsonRawMessageToString (quote text) = text := by
  have notEmpty : quote text ≠ "" := by
    intro same
    have chars := congrArg String.toList same
    simp [quote_toList] at chars
  have notNull : quote text ≠ "null" := by
    intro same
    have chars := congrArg String.toList same
    simp [quote_toList] at chars
  have quoted : hasPrefix (quote text) "\"" = true := by
    simp [hasPrefix,quote_toList]
  simp [jsonRawMessageToString,trimSpace_quote,notEmpty,notNull,quoted,
    unquote_quote]

end NewApi
