/-!
# Templates

A template is a page with a marker where the content belongs.  It is kept as the text before the
first marker and the text behind it, so `Template.fill` puts three texts together, and markers in
the content or behind the first one stay as they are.
-/

namespace DiagnosticPage

/-- The marker that the content of a page takes the place of. -/
def contentMarker : List Char :=
  "%content%".toList

/-- A page around its content. -/
structure Template where
  before : List Char
  after : List Char
deriving DecidableEq

namespace Template

/-- Splits a text at the first place where the marker stands. -/
def splitAtFirst (marker : List Char) : List Char → Option (List Char × List Char)
  | [] => none
  | c :: cs =>
    if marker.isPrefixOf (c :: cs) then some ([], (c :: cs).drop marker.length)
    else (splitAtFirst marker cs).map fun (before, after) => (c :: before, after)

/-- The template that a text describes, if the marker stands in it. -/
def ofSource? (source : List Char) : Option Template :=
  (splitAtFirst contentMarker source).map fun (before, after) => ⟨before, after⟩

/-- The page with the given content. -/
def fill (t : Template) (content : List Char) : List Char :=
  t.before ++ content ++ t.after

end Template

end DiagnosticPage
