import DiagnosticPage.CommandLine.Arguments
import DiagnosticPage.CommandLine.FileTree
import DiagnosticPage.Log.Filter
import DiagnosticPage.Page
import DiagnosticPage.Report.Source
import DiagnosticPage.Template.Standard

/-!
# Runs of the program

A run reads the report, then the template, renders the page and writes it.  The first stage that
fails ends the run, and nothing has been written then.  The first three stages (`produce`) change
nothing; all they need is a supply of bytes, and it does not matter whether that is a system or a
file tree.
-/

namespace DiagnosticPage.CommandLine

/-- A failed run: at which step, and for what reasons, the outermost first. -/
structure Failed where
  step : String
  causes : List String
deriving DecidableEq

namespace Failed

/-- The causes of a failed run with their numbers. -/
def numbered : Nat → List String → List String
  | _, [] => []
  | n, c :: cs => ("    " ++ Log.writeNat n ++ ": " ++ c ++ "\n") :: numbered (n + 1) cs

/-- The text that a failed run ends with.  A single cause has no number. -/
def text (f : Failed) : String :=
  "Error: " ++ f.step ++ "\n\nCaused by:\n" ++
    match f.causes with
    | [c] => "    " ++ c ++ "\n"
    | cs => String.join (numbered 0 cs)

end Failed

/-- Whether a value of an argument stands for standard input or output. -/
def isStandard (path : Option String) : Bool :=
  path.isNone || path == some "-"

/-- An event of the command line. -/
def event (level : Log.Level) (text : String) : Log.Event :=
  ⟨level, "flow_report", text⟩

/-- The first event of a run. -/
def readingEvent (r : Request) : Log.Event :=
  event .debug <|
    match r.input with
    | none | some "-" => "reading report from standard input"
    | some path => "reading report from " ++ path

/-- The report of a run, from the bytes of its input. -/
def readReport (r : Request) (input : FileTree.Opened) : Except Failed Report :=
  let suffix := if isStandard r.input then "" else ": " ++ r.input.getD ""
  match input with
  | .refused f => .error ⟨"Failed to read report" ++ suffix, [f.message]⟩
  | .unreadable f =>
    (Report.ofSource { pieces := [], breakdown := some f }).mapError
      fun f => ⟨"Failed to parse report" ++ suffix, f.causes⟩
  | .bytes b =>
    (Report.ofSource { pieces := [b] }).mapError
      fun f => ⟨"Failed to parse report" ++ suffix, f.causes⟩

/-- The template of a run, from the bytes of its file; without a file, the standard one. -/
def readTemplate (r : Request) (file : FileTree.Opened) : Except Failed Template :=
  match r.template with
  | none => .ok .standard
  | some path =>
    match file with
    | .refused f | .unreadable f => .error ⟨"Failed to read template: " ++ path, [f.message]⟩
    | .bytes b =>
      match String.fromUTF8? b with
      | none => .error ⟨"Failed to read template: " ++ path, [AccessFault.notText.message]⟩
      | some source =>
        match Template.ofSource? source.toList with
        | none => .error ⟨"Invalid template: " ++ path, Failure.noMarker.causes⟩
        | some t => .ok t

/-- What a run knows about itself, and what it has come to. -/
structure Progress (α : Type) where
  events : List Log.Event
  result : Except Failed α

/-- The page of a run, from its report and its template. -/
def render (r : Request) (report : Report) (t : Template) : Progress String :=
  let rendering := event .info <|
    "rendering report passed=" ++ (if report.passed then "true" else "false") ++
      " errors=" ++ Log.writeNat report.errors.length
  let events := [readingEvent r, rendering] ++ Log.contentEvents report
  match report.page { root := r.root } t with
  | .error f => ⟨events, .error ⟨"Failed to render report", (Failure.entry f).causes⟩⟩
  | .ok page => ⟨events, .ok (String.ofList page)⟩

/-! ## Where the bytes come from -/

/-- What a run asks for while it makes its page. -/
structure Supply (m : Type → Type) where
  /-- All bytes of standard input. -/
  standardInput : m FileTree.Opened
  /-- Opens the file with a path. -/
  openFile : String → m FileTree.Opened

section

variable {m : Type → Type} [Monad m] (supply : Supply m) (r : Request)

/-- Opens the input of a run. -/
def openInput : m FileTree.Opened :=
  if isStandard r.input then supply.standardInput else supply.openFile (r.input.getD "")

/-- Opens the template of a run.  Nothing is opened if the run has no template of its own. -/
def openTemplate : m FileTree.Opened :=
  match r.template with
  | none => pure (.refused .notFound)
  | some path => supply.openFile path

/-- The page of a run.  The template is only opened once the report has been read. -/
def produce : m (Progress String) := do
  match readReport r (← openInput supply r) with
  | .error f => return ⟨[readingEvent r], .error f⟩
  | .ok report =>
    match readTemplate r (← openTemplate supply r) with
    | .error f => return ⟨[readingEvent r], .error f⟩
    | .ok t => return render r report t

end

/-- The event of a page that has been written to a file. -/
def wroteEvent (path : String) : Log.Event :=
  event .info ("wrote " ++ path)

/-- The failure of a page that could not be written. -/
def unwritten (path : String) (f : AccessFault) : Failed :=
  ⟨"Failed to write output file: " ++ path, [f.message]⟩

/-! ## A run on a file tree -/

/-- What surrounds a run. -/
structure Surroundings where
  files : FileTree
  input : ByteArray
  /-- The filter for log lines, if one is set. -/
  logFilter : Option String := none

/-- What a run leaves behind. -/
structure Outcome where
  status : Nat
  output : String
  /-- The text of a failure. -/
  errorText : Option String
  events : List Log.Event
  files : FileTree

/-- What surrounds a run supplies it with its bytes. -/
def Surroundings.supply (s : Surroundings) : Supply Id where
  standardInput := pure (.bytes s.input)
  openFile path := pure (s.files.openFile path.toList)

/-- A run that follows a request.  All events are listed, whatever the filter. -/
def perform (s : Surroundings) (r : Request) : Outcome :=
  let ⟨events, result⟩ := (produce s.supply r).run
  match result with
  | .error f => ⟨1, "", some f.text, events, s.files⟩
  | .ok page =>
    if isStandard r.output then ⟨0, page ++ "\n", none, events, s.files⟩
    else
      let path := r.output.getD ""
      match s.files.writeFile path.toList page.toUTF8 with
      | .error f => ⟨1, "", some (unwritten path f).text, events, s.files⟩
      | .ok files => ⟨0, "", none, events ++ [wroteEvent path], files⟩

/-- A run with the given arguments; only the events that pass the filter are kept. -/
def run (s : Surroundings) (args : List String) : Outcome :=
  match meaning args with
  | .misuse => ⟨2, "", none, [], s.files⟩
  | .help => ⟨0, helpText, none, [], s.files⟩
  | .version => ⟨0, versionText, none, [], s.files⟩
  | .run r =>
    let o := perform s r
    { o with events := o.events.filter (Log.Filter.choose s.logFilter r.verbosity).passes }

end DiagnosticPage.CommandLine
