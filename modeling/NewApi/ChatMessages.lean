import Mathlib.Data.List.Basic

/-! # The messages of a chat request -/

namespace NewApi

inductive Role where
  /-- The request gives no role. -/
  | unset
  | user
  | assistant
  | system
  | tool
  | other (name : String)
deriving DecidableEq, Repr

structure ToolCallRequest where
  id : String
  name : String
  arguments : String
deriving DecidableEq, Repr

/-- A media part that is not a text refers to a file, or to nothing that can be read. -/
inductive MediaContent (Source : Type) where
  | text (text : String)
  | file (source : Option Source)
deriving DecidableEq, Repr

inductive MessageContent (Source : Type) where
  | null
  | text (text : String)
  | media (parts : List (MediaContent Source))
deriving DecidableEq, Repr

/-- The tool calls are `none` when the message has none at all. -/
structure ChatMessage (Source : Type) where
  role : Role
  content : MessageContent Source
  toolCalls : Option (List ToolCallRequest)
  toolCallId : String
deriving DecidableEq, Repr

variable {Source : Type}

namespace MessageContent

def isString : MessageContent Source → Bool
  | .text _ => true
  | .null | .media _ => false

def partTexts (parts : List (MediaContent Source)) : List String :=
  parts.filterMap fun
    | .text string => some string
    | .file _ => none

def texts : MessageContent Source → List String
  | .null => []
  | .text string => [string]
  | .media parts => partTexts parts

def parse : MessageContent Source → List (MediaContent Source)
  | .null => []
  | .text string => [.text string]
  | .media parts => parts

end MessageContent

namespace ChatMessage

variable (message : ChatMessage Source)

def parseToolCalls : List ToolCallRequest :=
  message.toolCalls.getD []

def stringContent : String :=
  match message.content with
  | .text text => text
  | .null => ""
  | .media parts => String.join (MessageContent.partTexts parts)

def setStringContent (text : String) : ChatMessage Source :=
  { message with content := .text text }

end ChatMessage

end NewApi
