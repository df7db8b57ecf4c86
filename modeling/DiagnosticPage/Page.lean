import DiagnosticPage.Group
import DiagnosticPage.Markup
import DiagnosticPage.Options
import DiagnosticPage.Template.Basic

/-!
# Pages

The content of a page is one section for each source file, and in it the bundles of the file with
all that is nested in them.  A message is two lines: the source line with the highlighted part in
an element of its own, and below it carets in the columns of that part, then the description.
A message that points to another file than its section is labelled with that file.

`Message.markup`, `Bundle.markup` and `Group.markup` are trees; `Report.content` is the written
content of a report, and `Report.page` puts it into a template.
-/

namespace DiagnosticPage

namespace Message

/-- The line of carets under the highlight of a source line, and the description after them. -/
def underline (m : Message) : List Markup :=
  [.spaced (List.replicate (Text.width m.cut.before) ' '),
    .text (List.replicate (Text.width m.cut.marked) '^' ++ [' ']),
    .spaced m.description.toList]

/-- The source line of a message, with the highlight in an element of its own. -/
def highlighted (m : Message) : List Markup :=
  [.spaced m.cut.before, .element .theError [.spaced m.cut.marked], .spaced m.cut.after]

/-- The markup of a message.  If it is labelled, the file that it points to is named above its
source line, and the full path is a tooltip on the line number. -/
def markup (options : Options) (labelled : Bool) (m : Message) : Markup :=
  let label :=
    if labelled then
      [.element .alternativeSource [.text (options.shownPath m.path).toList], .lineBreak]
    else []
  let title := if labelled then some m.path else none
  .element (.message m.line) (
    [.lineBreak] ++ label ++
    [.element .context (.element (.line title) [.text (m.lineLabel ++ [':'])] :: m.highlighted),
      .lineBreak,
      .element .messageText (.element (.line none) [] :: m.underline),
      .lineBreak])

end Message

namespace Bundle

mutual

/-- The markup of a bundle in the section of the file `main`. -/
def markupIn (options : Options) (main : String) : Bundle → List Markup
  | ⟨messages, extras, children⟩ =>
    [.element .errorGroup (
        [.lineBreak] ++
        messages.flatMap (fun m => [m.markup options (m.path != main), .lineBreak]) ++
        nestedIn options main .extra extras ++
        nestedIn options main .child children),
      .lineBreak]

/-- The markup of nested bundles, each in an element of its own. -/
def nestedIn (options : Options) (main : String) (e : Element) : List Bundle → List Markup
  | [] => []
  | b :: bs =>
    [.element e ([.lineBreak] ++ markupIn options main b), .lineBreak] ++
      nestedIn options main e bs

end

/-- The markup of a bundle in the section of its own file. -/
def markup (options : Options) (b : Bundle) : List Markup :=
  markupIn options b.primaryPath b

end Bundle

namespace Group

/-- The markup of the section of a file. -/
def markup (options : Options) (g : Group) : Markup :=
  .element .sourceGroup [
    .lineBreak,
    .element .source [
      .text (['\n'] ++ (options.shownPath g.source).toList ++ ['\n']),
      .element .count [.text (['('] ++ Nat.toDigits 10 g.bundles.length ++ " errors)".toList)],
      .lineBreak],
    .lineBreak,
    .element .fileErrors (
      [.lineBreak] ++
      (g.bundles.map fun b => Markup.element .error (b.markup options)).intersperse .lineBreak ++
      [.lineBreak]),
    .lineBreak]

end Group

namespace Report

/-- The content of the page of a check that passed. -/
def noErrors : Markup :=
  .element .heading [.text "No errors".toList]

/-- The content of the page of a report: the notice for a check that passed, whatever errors the
report may list, and the sections of its files otherwise. -/
def markup (options : Options) (r : Report) : Except Bundle.Fault (List Markup) :=
  if r.passed then .ok [noErrors]
  else do
    let bundles ← Bundle.ofEntries r.errors
    return ((Group.ofBundles bundles).map (Group.markup options)).intersperse .lineBreak

/-- The written content of the page of a report. -/
def content (options : Options) (r : Report) : Except Bundle.Fault (List Char) :=
  (r.markup options).map Markup.writeAll

/-- The page of a report. -/
def page (options : Options) (template : Template) (r : Report) : Except Bundle.Fault (List Char) :=
  (r.content options).map template.fill

end Report

end DiagnosticPage
