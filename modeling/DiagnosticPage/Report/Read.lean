import DiagnosticPage.Json.Reader
import DiagnosticPage.Report.Basic

/-!
# Reading a report

The fields of the records of a report, in order, and how each is read.  A draft of a record holds
the fields that have been read so far, each in its slot; a field that may be missing has its default
when the draft is completed.  `Report.ofText` reads the text of a whole report.  Readers are told
how many levels are left, `maxLevels` at the outset, and recursion on that number is all that nested
entries need.
-/

namespace DiagnosticPage

open Json Json.Reader Json.Record

/-- The levels that a report may open in its text. -/
def maxLevels : Nat := 127

/-- The reader for what lies one level further down, unless no level is left. -/
def deeper (levels : Nat) (read : Nat → α) : Option α :=
  match levels with
  | 0 => none
  | n + 1 => some (read n)

namespace Position

/-- A position that is being read. -/
structure Draft where
  line : Option UInt32 := none
  column : Option UInt64 := none

/-- The parts of a draft in the order of the fields. -/
def slots : List (Record.Slot Draft) :=
  [⟨"line", true, Draft.line, fun d x => { d with line := some x }, word32⟩,
    ⟨"column", true, Draft.column, fun d x => { d with column := some x }, word64⟩]

/-- The fields of a position. -/
def layout : Record Draft Position where
  name := "Position"
  fields := slots.map Record.Slot.field
  blank := {}
  complete d := do
    let line ← need "line" d.line
    let column ← need "column" d.column
    return ⟨line, column⟩

/-- Reads a position. -/
def reader (levels : Nat) : Reader Position :=
  record "Position" (deeper levels fun _ => layout)

end Position

namespace Location

/-- A location that is being read. -/
structure Draft where
  start : Option Position := none
  stop : Option Position := none

/-- The parts of a draft in the order of the fields, when a number of levels is left for them. -/
def slots (levels : Nat) : List (Record.Slot Draft) :=
  [⟨"start", true, Draft.start, fun d x => { d with start := some x }, Position.reader levels⟩,
    ⟨"end", true, Draft.stop, fun d x => { d with stop := some x }, Position.reader levels⟩]

/-- The fields of a location, when a number of levels is left for them. -/
def layout (levels : Nat) : Record Draft Location where
  name := "Loc"
  fields := (slots levels).map Record.Slot.field
  blank := {}
  complete d := do
    let start ← need "start" d.start
    let stop ← need "end" d.stop
    return ⟨start, stop⟩

/-- Reads a location. -/
def reader (levels : Nat) : Reader Location :=
  record "Loc" (deeper levels layout)

end Location

namespace Kind

/-- The kind with a name.  Every name is that of some kind. -/
def ofName (s : String) : Kind :=
  if s = "Comment" then .comment else if s = "Blame" then .blame else .other

/-- Reads a kind. -/
def reader (levels : Nat) : Reader Kind := fun n =>
  (name (0 < levels) n).map ofName

end Kind

namespace Message

/-- A message that is being read. -/
structure Draft where
  kind : Option Kind := none
  description : Option String := none
  path : Option String := none
  line : Option (Option UInt32) := none
  endLine : Option (Option UInt32) := none
  context : Option (Option String) := none
  location : Option (Option Location) := none

/-- The parts of a draft in the order of the fields, when a number of levels is left for them. -/
def slots (levels : Nat) : List (Record.Slot Draft) :=
  [⟨"type", true, Draft.kind, fun d x => { d with kind := some x }, Kind.reader levels⟩,
    ⟨"descr", true, Draft.description, fun d x => { d with description := some x }, text⟩,
    ⟨"path", false, Draft.path, fun d x => { d with path := some x }, text⟩,
    ⟨"line", false, Draft.line, fun d x => { d with line := some x }, nullable word32⟩,
    ⟨"endline", false, Draft.endLine, fun d x => { d with endLine := some x }, nullable word32⟩,
    ⟨"context", false, Draft.context, fun d x => { d with context := some x }, nullable text⟩,
    ⟨"loc", false, Draft.location, fun d x => { d with location := some x },
      nullable (Location.reader levels)⟩]

/-- The fields of a message, when a number of levels is left for them. -/
def layout (levels : Nat) : Record Draft Message where
  name := "Message"
  fields := (slots levels).map Record.Slot.field
  blank := {}
  complete d := do
    let kind ← need "type" d.kind
    let description ← need "descr" d.description
    return {
      kind, description
      path := d.path.getD ""
      line := d.line.getD none
      endLine := d.endLine.getD none
      context := d.context.getD none
      location := d.location.getD none }

/-- Reads a message. -/
def reader (levels : Nat) : Reader Message :=
  record "Message" (deeper levels layout)

end Message

namespace Entry

/-- An entry that is being read. -/
structure Draft where
  messages : Option (List Message) := none
  operation : Option (Option Message) := none
  extra : Option (List Entry) := none
  children : Option (List Entry) := none

/-- The parts of a draft in the order of the fields, when a number of levels is left for them and
nested entries are read by the given reader. -/
def slots (levels : Nat) (nested : Option (Reader Entry)) : List (Record.Slot Draft) :=
  [⟨"message", true, Draft.messages, fun d x => { d with messages := some x },
      list (deeper levels Message.reader)⟩,
    ⟨"operation", false, Draft.operation, fun d x => { d with operation := some x },
      nullable (Message.reader levels)⟩,
    ⟨"extra", false, Draft.extra, fun d x => { d with extra := some x }, list nested⟩,
    ⟨"children", false, Draft.children, fun d x => { d with children := some x }, list nested⟩]

/-- The fields of an entry, when a number of levels is left for them and nested entries are read
by the given reader. -/
def layout (levels : Nat) (nested : Option (Reader Entry)) : Record Draft Entry where
  name := "ErrorEntry"
  fields := (slots levels nested).map Record.Slot.field
  blank := {}
  complete d := do
    let messages ← need "message" d.messages
    return {
      messages
      operation := d.operation.getD none
      extra := d.extra.getD []
      children := d.children.getD [] }

/-- Reads an entry.  It takes up two levels for each entry that it is nested in, one for the list
and one for the record. -/
def reader : (levels : Nat) → Reader Entry
  | 0 => record "ErrorEntry" (none : Option (Record Draft Entry))
  | 1 => record "ErrorEntry" (some (layout 0 none))
  | levels + 2 => record "ErrorEntry" (some (layout (levels + 1) (some (reader levels))))

end Entry

namespace Report

/-- A report that is being read. -/
structure Draft where
  passed : Option Bool := none
  errors : Option (List Entry) := none

/-- The parts of a draft in the order of the fields, when a number of levels is left for them. -/
def slots (levels : Nat) : List (Record.Slot Draft) :=
  [⟨"passed", true, Draft.passed, fun d x => { d with passed := some x }, boolean⟩,
    ⟨"errors", false, Draft.errors, fun d x => { d with errors := some x },
      list (deeper levels Entry.reader)⟩]

/-- The fields of a report, when a number of levels is left for them. -/
def layout (levels : Nat) : Record Draft Report where
  name := "Report"
  fields := (slots levels).map Record.Slot.field
  blank := {}
  complete d := do
    let passed ← need "passed" d.passed
    return { passed, errors := d.errors.getD [] }

/-- Reads a report. -/
def reader (levels : Nat) : Reader Report :=
  record "Report" (deeper levels layout)

/-- The report in a tree, which nothing may follow. -/
def ofDocument (d : Document) : Except Fault Report := do
  let r ← reader maxLevels d.value
  match d.next.token with
  | .finish => .ok r
  | _ => .error (d.next.fault .trailingCharacters)

/-- The report that a text describes, or the first fault of the text. -/
def ofText (text : List Char) : Except Fault Report :=
  ofDocument (.ofText text)

end Report

end DiagnosticPage
