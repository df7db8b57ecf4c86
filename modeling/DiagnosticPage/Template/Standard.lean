import DiagnosticPage.Template.Basic

/-!
# The standard template

The page that is used when no other template is given.  It styles the elements of a page by their
classes and defines the handler that collapses a section or a bundle.
-/

namespace DiagnosticPage.Template

/-- A text of several lines. -/
def lines (ls : List String) : List Char :=
  (String.intercalate "\n" ls).toList

/-- The standard page before its content. -/
def standardHead : List Char :=
  lines ["<!DOCTYPE html>",
    "<html>",
    "<head>",
    "<meta charset=\"utf-8\">",
    "<title>Type errors</title>",
    "<style>",
    "body \x7b font-family: sans-serif; margin: 1em 2em; color: #222; \x7d",
    ".source-group \x7b margin-bottom: 1em; \x7d",
    ".source \x7b cursor: pointer; font-weight: bold; font-size: 1.1em; \x7d",
    ".source .count \x7b font-weight: normal; color: #888; \x7d",
    ".file-errors \x7b list-style: none; padding-left: 1em; \x7d",
    ".file-errors.collapsed, .error-group.collapsed > .extra, .error-group.collapsed > .child \x7b display: none; \x7d",
    ".error \x7b margin: 0.5em 0; padding: 0.5em; border-left: 3px solid #c00; background: #fafafa; \x7d",
    ".error-group \x7b display: block; cursor: pointer; \x7d",
    ".extra \x7b display: block; margin-left: 1.5em; border-left: 2px dashed #999; padding-left: 0.5em; \x7d",
    ".child \x7b display: block; margin-left: 1.5em; border-left: 2px solid #e90; padding-left: 0.5em; \x7d",
    ".message \x7b display: block; font-family: monospace; margin: 0.25em 0; \x7d",
    ".context, .message-text \x7b display: block; white-space: nowrap; \x7d",
    ".line \x7b display: inline-block; min-width: 5em; color: #888; \x7d",
    ".theError \x7b background: #fdd; color: #c00; \x7d",
    ".message-text \x7b color: #c00; \x7d",
    ".alternative-source \x7b display: block; font-style: italic; color: #555; \x7d",
    "</style>",
    "<script>",
    "function collapse(node, event) \x7b",
    "  event.stopPropagation();",
    "  var target = node.classList.contains('source-group')",
    "    ? node.querySelector('.file-errors')",
    "    : node;",
    "  target.classList.toggle('collapsed');",
    "\x7d",
    "</script>",
    "</head>",
    "<body>",
    ""]

/-- The standard page behind its content. -/
def standardFoot : List Char :=
  lines ["",
    "</body>",
    "</html>",
    ""]

/-- The standard page. -/
def standard : Template :=
  ⟨standardHead, standardFoot⟩

end DiagnosticPage.Template
