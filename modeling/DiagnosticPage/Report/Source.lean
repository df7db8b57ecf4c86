import DiagnosticPage.Failure
import DiagnosticPage.Report.Read

/-!
# Sources of reports

A report may come from a source that hands out its bytes in pieces and may break down.  The pieces
are put together before anything is read, so it does not matter where they are cut; a breakdown
counts before all else, and after it bytes that are not text.
-/

namespace DiagnosticPage

/-- A source of bytes. -/
structure Source where
  /-- The pieces in the order in which they are handed out. -/
  pieces : List ByteArray
  /-- How the source breaks down behind its last piece, if it does. -/
  breakdown : Option AccessFault := none

namespace Source

/-- All bytes of a source. -/
def bytes (s : Source) : ByteArray :=
  s.pieces.foldl ByteArray.append .empty

/-- The text of a source. -/
def text (s : Source) : Except AccessFault String :=
  match s.breakdown with
  | some f => .error f
  | none =>
    match String.fromUTF8? s.bytes with
    | none => .error .notText
    | some text => .ok text

end Source

/-- The report that a source describes. -/
def Report.ofSource (s : Source) : Except Failure Report := do
  let text ← s.text.mapError Failure.access
  (Report.ofText text.toList).mapError Failure.document

end DiagnosticPage
