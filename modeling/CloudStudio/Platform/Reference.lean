import CloudStudio.Data.Text
import CloudStudio.Platform.Database

/-!
# Transaction references

`common/utils/reference.util.ts`.  A reference is the account's 5-character
source code and 15 characters of which the first come from the client.  The
random characters are an argument.
-/

namespace CloudStudio.Platform

open CloudStudio.Data

def SOURCE_CODE_LENGTH : ℕ := 5
def CLIENT_REF_LENGTH : ℕ := 15
def REFERENCE_LENGTH : ℕ := SOURCE_CODE_LENGTH + CLIENT_REF_LENGTH

/-- Sanitizes a client reference: alphanumeric only, at most 15 characters. -/
def sanitizeClientReference (raw : Option String) :
    Except AppError (Option String) :=
  match raw with
  | none => .ok none
  | some raw =>
      let trimmed := Text.toUpperCase (Text.trim raw)
      if trimmed.length = 0 then .ok none
      else if trimmed.toList.all Text.isUpperAlphanumeric ∧
          trimmed.length ≤ CLIENT_REF_LENGTH then .ok (some trimmed)
      else .error (.plain "INVALID_CLIENT_REFERENCE")

/-- The next `count` random characters. -/
def randomChars (random : List Char) (count : ℕ) : String :=
  String.ofList (random.take count)

/-- Builds the final 20-character internal reference. -/
def buildReference (random : List Char) (sourceCode : String)
    (clientReference : Option String) : Except AppError Reference := do
  if sourceCode.length ≠ SOURCE_CODE_LENGTH then
    throw (.plain "INVALID_SOURCE_CODE")
  let client ← sanitizeClientReference clientReference
  let padded :=
    match client with
    | some client =>
        client ++ randomChars random (CLIENT_REF_LENGTH - client.length)
    | none => randomChars random CLIENT_REF_LENGTH
  let reference := sourceCode ++ padded
  if reference.length ≠ REFERENCE_LENGTH then
    throw (.plain "INVALID_REFERENCE_LENGTH")
  return reference

/-- `clientReference?.toUpperCase()`. -/
def upperReference (clientReference : Option String) : Option String :=
  clientReference.map Text.toUpperCase

/-- A member that is absent or empty, as `if (dto.reference)` sees it. -/
def nonEmpty (text : Option String) : Option String :=
  text.filter fun text => text ≠ ""

end CloudStudio.Platform
