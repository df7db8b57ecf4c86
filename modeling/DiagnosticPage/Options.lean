import DiagnosticPage.SourcePath

/-!
# Options

What can be chosen about a page.  `Options.shownPath` is the form in which a page shows the path of
a source file; only labels depend on it, never grouping or order.
-/

namespace DiagnosticPage

/-- How a page is to be written. -/
structure Options where
  /-- Paths below this directory are shown from there on. -/
  root : Option String := none
deriving DecidableEq

/-- The form of a path that the reader sees: what follows the root directory if the path lies
below it, and the path as given otherwise. -/
def Options.shownPath (options : Options) (path : String) : String :=
  match options.root with
  | none => path
  | some root =>
    match SourcePath.below root.toList path.toList with
    | none => path
    | some rest => String.ofList rest

end DiagnosticPage
