import DiagnosticPage.Json.Value
import DiagnosticPage.Report.Basic

/-!
# Writing a report

The value that stands for a report.  Optional places are left out when they are not set, and so are
empty lists of nested entries; the context of a message is always there, `null` if need be.
`Report.toText` is the compact text of that value.
-/

namespace DiagnosticPage

open Json

/-- A member that is left out when it is not set. -/
def member? (key : String) (write : α → Value) : Option α → List (String × Value)
  | none => []
  | some x => [(key, write x)]

/-- The value of a natural number. -/
def natValue (n : Nat) : Value :=
  .number (.ofNat n)

/-- The name of a kind. -/
def Kind.name : Kind → String
  | comment => "Comment"
  | blame => "Blame"
  | other => "Other"

/-- The value of a position. -/
def Position.toValue (p : Position) : Value :=
  .object [("line", natValue p.line.toNat), ("column", natValue p.column.toNat)]

/-- The value of a location. -/
def Location.toValue (l : Location) : Value :=
  .object [("start", l.start.toValue), ("end", l.stop.toValue)]

/-- The value of a message. -/
def Message.toValue (m : Message) : Value :=
  .object (
    [("type", .text m.kind.name), ("descr", .text m.description), ("path", .text m.path)] ++
    member? "line" (fun n => natValue n.toNat) m.line ++
    member? "endline" (fun n => natValue n.toNat) m.endLine ++
    [("context", m.context.elim .null .text)] ++
    member? "loc" Location.toValue m.location)

/-- A member with a list as its value, left out when the list is empty. -/
def listMember? (key : String) (items : List Value) : List (String × Value) :=
  if items.isEmpty then [] else [(key, .list items)]

mutual

/-- The value of an entry. -/
def Entry.toValue : Entry → Value
  | ⟨messages, operation, extra, children⟩ =>
    .object (
      [("message", .list (messages.map Message.toValue))] ++
      member? "operation" Message.toValue operation ++
      listMember? "extra" (Entry.toValues extra) ++
      listMember? "children" (Entry.toValues children))

/-- The values of entries. -/
def Entry.toValues : List Entry → List Value
  | [] => []
  | e :: es => e.toValue :: Entry.toValues es

end

namespace Report

/-- The value of a report. -/
def toValue (r : Report) : Value :=
  .object [("passed", .boolean r.passed), ("errors", .list (Entry.toValues r.errors))]

/-- The compact text of a report. -/
def toText (r : Report) : List Char :=
  r.toValue.write

end Report

end DiagnosticPage
