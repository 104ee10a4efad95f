import BlockSheet.Json.Fault

/-!
# Errors at the border

Compiling, normalising and allocating never fail. What can fail is the reading of texts that come
from outside: style trees, option texts, and the blocks and documents handed to the host functions.
-/

namespace BlockSheet

/-- The kinds of text that are read. -/
inductive Payload
  | styleTree
  | options
  | block
  | document

/-- How a message names a kind of text. -/
def Payload.name : Payload → String
  | styleTree => "style tree"
  | options => "options"
  | block => "block"
  | document => "document"

/-- What is wrong with options. -/
inductive OptionFault
  | noRetryBudget
  | idLength (length : Nat)

def OptionFault.message : OptionFault → String
  | noRetryBudget => "idRetryBudget must be at least 1"
  | idLength length => "idLength must be within 1..=12, got " ++ toString length

/-- Why a text from outside is refused. -/
inductive StyleError
  /-- The text is no JSON of the expected type. -/
  | invalidJson (payload : Payload) (cause : Json.Error)
  /-- The text is JSON, but of another kind than an object. -/
  | notAnObject (payload : Payload) (found : String)
  | invalidOptions (fault : OptionFault)

def StyleError.message : StyleError → String
  | invalidJson payload cause => "Invalid " ++ payload.name ++ " JSON: " ++ cause.message
  | notAnObject payload found =>
    "Expected " ++ payload.name ++ " to be an object, found " ++ found
  | invalidOptions fault => "Invalid style options: " ++ fault.message

end BlockSheet
