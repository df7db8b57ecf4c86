import DiagnosticPage.Group

/-!
# Log events

What a run tells about itself.  An event has a level, the part of the program that it comes from,
and a text.
-/

namespace DiagnosticPage

namespace Log

/-- How important an event is, the most important first. -/
inductive Level where
  | error
  | warn
  | info
  | debug
  | trace
deriving DecidableEq

/-- The place of a level among the levels, from one up. -/
def Level.rank : Level → Nat
  | error => 1
  | warn => 2
  | info => 3
  | debug => 4
  | trace => 5

/-- The name of a level in a log line. -/
def Level.name : Level → String
  | error => "ERROR"
  | warn => "WARN"
  | info => "INFO"
  | debug => "DEBUG"
  | trace => "TRACE"

/-- Something that a run tells about itself. -/
structure Event where
  level : Level
  /-- The part of the program that the event comes from. -/
  target : String
  text : String
deriving DecidableEq

/-- An event as a line of a log. -/
def Event.line (e : Event) : String :=
  e.level.name ++ " " ++ e.target ++ ": " ++ e.text

/-- A number in the text of an event. -/
def writeNat (n : Nat) : String :=
  String.ofList (Nat.toDigits 10 n)

/-- The events of making a node ready: one for each comment that joins the message before it. -/
def foldEvents (e : Entry) : List Event :=
  (e.statements.filter Message.isComment).map fun m =>
    ⟨.trace, "flow_report::bundle",
      "folding comment into previous message comment=" ++ m.description⟩

/-- The events of making entries ready, as far as the first node with a fault. -/
def bundleEvents (es : List Entry) : List Event :=
  ((Entry.nodesOf 0 es).takeWhile fun (depth, e) => (e.faultAt depth).isNone).flatMap
    fun (_, e) => foldEvents e

/-- The events of writing the content of a report. -/
def contentEvents (r : Report) : List Event :=
  if r.passed then
    [⟨.debug, "flow_report::render", "report passed, rendering no-errors notice"⟩]
  else
    bundleEvents r.errors ++
      match Bundle.ofEntries r.errors with
      | .error _ => []
      | .ok bundles =>
        [⟨.debug, "flow_report::render",
            "extracted error bundles bundles=" ++ writeNat bundles.length⟩,
          ⟨.debug, "flow_report::render",
            "grouped bundles by source file groups=" ++
              writeNat (Group.ofBundles bundles).length⟩]

end Log

end DiagnosticPage
