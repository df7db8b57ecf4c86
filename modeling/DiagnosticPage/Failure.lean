import DiagnosticPage.Bundle
import DiagnosticPage.Json.Fault
import DiagnosticPage.Template.Basic

/-!
# Failures

What can go wrong between the bytes of a report and its page, and the words for it.
-/

namespace DiagnosticPage

/-- Why a file, or another source of bytes, cannot be used. -/
inductive AccessFault where
  | notFound
  | isDirectory
  | notDirectory
  /-- The bytes are not text in UTF-8. -/
  | notText
  /-- Any other reason, in the words of the system. -/
  | other (text : String)
deriving DecidableEq

/-- The words for a fault of access. -/
def AccessFault.message : AccessFault → String
  | notFound => "No such file or directory (os error 2)"
  | isDirectory => "Is a directory (os error 21)"
  | notDirectory => "Not a directory (os error 20)"
  | notText => "stream did not contain valid UTF-8"
  | other text => text

/-- The words for an entry that has no bundle. -/
def Bundle.Fault.message : Bundle.Fault → String
  | orphanComment text => "Comment has no preceding message to attach to: " ++ Text.quote text
  | noMessages => "Error entry has no messages"
  | tooDeep =>
    "Error entries nested deeper than " ++ String.ofList (Nat.toDigits 10 maxNesting) ++ " levels"

/-- Why a report has no page. -/
inductive Failure where
  /-- The text is not that of a report. -/
  | document (f : Json.Fault)
  /-- An entry of the report has no bundle. -/
  | entry (f : Bundle.Fault)
  /-- The template has no place for the content. -/
  | noMarker
  /-- The bytes of the report cannot be had. -/
  | access (f : AccessFault)
deriving DecidableEq

namespace Failure

/-- The words for a failure. -/
def message : Failure → String
  | document f => "Invalid report JSON: " ++ f.message
  | entry f => f.message
  | noMarker =>
    "Template does not contain the " ++ String.ofList contentMarker ++ " marker"
  | access f => "I/O error: " ++ f.message

/-- The words for a failure, followed by those for the fault beneath it if it has another origin. -/
def causes (f : Failure) : List String :=
  match f with
  | document g => [f.message, g.message]
  | access g => [f.message, g.message]
  | entry _ | noMarker => [f.message]

end Failure

end DiagnosticPage
