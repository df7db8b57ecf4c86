/-!
# Arguments

An option with a value takes it from the same argument, behind an equals sign or, after its short
name, at once, or from the next argument, which then must not look like an option; a dash alone
does not.  Short names may be joined in one argument.  Two dashes end the options.  Arguments are
taken from left to right, and the first that cannot be used, or asks for help or for the version,
decides.
-/

namespace DiagnosticPage.CommandLine

/-- What a run is asked to do. -/
structure Request where
  input : Option String := none
  root : Option String := none
  template : Option String := none
  output : Option String := none
  /-- How many times more log lines were asked for. -/
  verbosity : Nat := 0
deriving DecidableEq

/-- What a list of arguments means. -/
inductive Meaning where
  | run (r : Request)
  | help
  | version
  /-- The arguments cannot be used. -/
  | misuse
deriving DecidableEq

/-- The parts of a request that are given a value. -/
inductive Slot where
  | input
  | root
  | template
  | output
deriving DecidableEq

/-- The value of a part of a request. -/
def Request.get (r : Request) : Slot → Option String
  | .input => r.input
  | .root => r.root
  | .template => r.template
  | .output => r.output

/-- A request with one part set. -/
def Request.set (r : Request) (v : String) : Slot → Request
  | .input => { r with input := some v }
  | .root => { r with root := some v }
  | .template => { r with template := some v }
  | .output => { r with output := some v }

/-- A request with one part given its value, which must not be empty nor given twice. -/
def Request.give? (r : Request) (s : Slot) (v : List Char) : Option Request :=
  if v.isEmpty || (r.get s).isSome then none else some (r.set (String.ofList v) s)

/-- The greatest verbosity that is counted. -/
def greatestVerbosity : Nat := 255

/-- A request for more log lines. -/
def Request.moreVerbose (r : Request) : Request :=
  { r with verbosity := min (r.verbosity + 1) greatestVerbosity }

/-- What one argument does. -/
inductive Step where
  /-- The request has changed, and the argument is used up. -/
  | done (r : Request)
  /-- The next argument is the value of a part of the request. -/
  | awaits (r : Request) (s : Slot)
  /-- All further arguments are plain. -/
  | endOfOptions
  /-- The meaning of the whole list is settled. -/
  | settled (m : Meaning)
deriving DecidableEq

/-- The step that gives a part of a request its value. -/
def Request.giveStep (r : Request) (s : Slot) (v : List Char) : Step :=
  match r.give? s v with
  | some r => .done r
  | none => .settled .misuse

/-- The part of a request with a long name. -/
def longSlot? (name : List Char) : Option Slot :=
  match String.ofList name with
  | "root" => some .root
  | "template" => some .template
  | "output" => some .output
  | _ => none

/-- The step of an option by its long name, which the argument holds behind two dashes. -/
def longStep (r : Request) (arg : List Char) : Step :=
  let name := arg.takeWhile (· != '=')
  match longSlot? name, arg.dropWhile (· != '=') with
  | some s, [] => .awaits r s
  | some s, _ :: v => r.giveStep s v
  | none, [] =>
    match String.ofList name with
    | "verbose" => .done r.moreVerbose
    | "help" => .settled .help
    | "version" => .settled .version
    | _ => .settled .misuse
  | none, _ :: _ => .settled .misuse

/-- The step of options by their short names, which the argument holds behind a dash. -/
def shortStep (r : Request) : List Char → Step
  | [] => .done r
  | 'v' :: cs => shortStep r.moreVerbose cs
  | 'h' :: _ => .settled .help
  | 'V' :: _ => .settled .version
  | ['o'] => .awaits r .output
  | 'o' :: '=' :: v => r.giveStep .output v
  | 'o' :: v => r.giveStep .output v
  | _ :: _ => .settled .misuse

/-- The step of an argument while options are still possible. -/
def step (r : Request) : List Char → Step
  | ['-', '-'] => .endOfOptions
  | '-' :: '-' :: arg => longStep r arg
  | '-' :: c :: cs => shortStep r (c :: cs)
  | arg => r.giveStep .input arg

/-- Whether an argument looks like an option and so cannot be the value of the one before it. -/
def looksLikeOption : List Char → Bool
  | '-' :: _ :: _ => true
  | _ => false

/-- The meaning of arguments among which there are no options. -/
def plain (r : Request) : List String → Meaning
  | [] => .run r
  | arg :: args =>
    match r.give? .input arg.toList with
    | some r => plain r args
    | none => .misuse

/-- The meaning of arguments, given what has been requested before them. -/
def meaningFrom (r : Request) : List String → Meaning
  | [] => .run r
  | arg :: args =>
    match step r arg.toList with
    | .done r => meaningFrom r args
    | .settled m => m
    | .endOfOptions => plain r args
    | .awaits r s =>
      match args with
      | [] => .misuse
      | v :: args =>
        if looksLikeOption v.toList then .misuse
        else
          match r.give? s v.toList with
          | some r => meaningFrom r args
          | none => .misuse

/-- The meaning of a list of arguments. -/
def meaning (args : List String) : Meaning :=
  meaningFrom {} args

/-- The name and version of the program. -/
def versionText : String :=
  "flow-report 0.1.0\n"

/-- The help on the arguments. -/
def helpText : String :=
  String.intercalate "\n" [
    "Render type-checker JSON error reports as HTML",
    "",
    "Usage: flow-report [OPTIONS] [INPUT]",
    "",
    "Arguments:",
    "  [INPUT]  JSON report to render (reads standard input when omitted or '-')",
    "",
    "Options:",
    "      --root <PATH>      Show file paths relative to this directory",
    "      --template <FILE>  HTML template containing a %content% marker",
    "  -o, --output <FILE>    Write output to FILE (use '--output -' for stdout)",
    "  -v, --verbose...       Verbose logging to stderr (-v for info, -vv for debug)",
    "  -h, --help             Print help",
    "  -V, --version          Print version",
    ""]

end DiagnosticPage.CommandLine
