import DiagnosticPage.Bundle

/-!
# Groups

Bundles are shown by the file of their first message.  The groups stand in the order in which
their files first occur, and a group keeps the order of its bundles: `Group.ofBundles` takes the
bundles one by one, and `Group.insert` never moves a group that is already there.
-/

namespace DiagnosticPage

/-- The bundles of one source file. -/
structure Group where
  source : String
  bundles : List Bundle

namespace Group

/-- Adds a bundle to the group of its file, or as a new last group when its file has none. -/
def insert (b : Bundle) : List Group → List Group
  | [] => [⟨b.primaryPath, [b]⟩]
  | g :: gs =>
    if g.source = b.primaryPath then ⟨g.source, g.bundles ++ [b]⟩ :: gs else g :: insert b gs

/-- Groups bundles by file. -/
def ofBundles (bs : List Bundle) : List Group :=
  bs.foldl (fun gs b => insert b gs) []

end Group

end DiagnosticPage
