import DiagnosticPage.Text.Entity

/-!
# Markup

The content of a page is a tree of elements and text.  The elements form a fixed set, so nothing
that a message says can bring in another one; text and attribute values are escaped when the tree
is written.  Line breaks between elements are text.  `Markup.write` is the only place where markup
becomes characters.
-/

namespace DiagnosticPage

/-- The elements of a page. -/
inductive Element where
  /-- The section of one source file. -/
  | sourceGroup
  /-- The clickable heading of a section. -/
  | source
  /-- The number of errors in a section. -/
  | count
  /-- The list of errors in a section. -/
  | fileErrors
  /-- One error. -/
  | error
  /-- A bundle, which can be collapsed. -/
  | errorGroup
  /-- Supplementary evidence within a bundle. -/
  | extra
  /-- A nested bundle. -/
  | child
  /-- A message, marked with its line number if it has one. -/
  | message (line : Option UInt32)
  /-- The file of a message that points elsewhere than its section. -/
  | alternativeSource
  /-- The source line of a message. -/
  | context
  /-- The place of a line number, with the full path as its tooltip if there is one. -/
  | line (title : Option String)
  /-- The highlighted part of a source line. -/
  | theError
  /-- The line of carets and description below a source line. -/
  | messageText
  /-- The notice of a check that passed. -/
  | heading
deriving DecidableEq

namespace Element

/-- The name in the tags of an element. -/
def tagName : Element → String
  | sourceGroup => "div"
  | source => "a"
  | fileErrors => "ul"
  | error => "li"
  | heading => "h1"
  | _ => "span"

/-- The attributes in the opening tag of an element, in order. -/
def attributes : Element → List (String × String)
  | sourceGroup => [("class", "source-group")]
  | source => [("class", "source"), ("onclick", "collapse(this.parentNode, event)")]
  | count => [("class", "count")]
  | fileErrors => [("class", "file-errors")]
  | error => [("class", "error")]
  | errorGroup => [("onclick", "collapse(this, event)"), ("class", "error-group")]
  | extra => [("class", "extra")]
  | child => [("class", "child")]
  | message none => [("class", "message")]
  | message (some n) =>
    [("class", String.ofList ("message line-".toList ++ Nat.toDigits 10 n.toNat))]
  | alternativeSource => [("class", "alternative-source")]
  | context => [("class", "context")]
  | line none => [("class", "line")]
  | line (some title) => [("class", "line"), ("title", title)]
  | theError => [("class", "theError")]
  | messageText => [("class", "message-text")]
  | heading => []

/-- One attribute as it stands in a tag, after a blank and with its value escaped. -/
def writeAttribute (a : String × String) : List Char :=
  [' '] ++ a.1.toList ++ ['=', '"'] ++ Text.escape a.2.toList ++ ['"']

/-- The opening tag of an element. -/
def openingTag (e : Element) : List Char :=
  ['<'] ++ e.tagName.toList ++ e.attributes.flatMap writeAttribute ++ ['>']

/-- The closing tag of an element. -/
def closingTag (e : Element) : List Char :=
  ['<', '/'] ++ e.tagName.toList ++ ['>']

end Element

/-- A piece of markup. -/
inductive Markup where
  /-- Text as it is. -/
  | text (s : List Char)
  /-- Text whose white space keeps its width. -/
  | spaced (s : List Char)
  /-- An element with what it contains. -/
  | element (e : Element) (body : List Markup)

namespace Markup

/-- The end of a line between two elements. -/
def lineBreak : Markup :=
  .text ['\n']

mutual

/-- The written form of a piece of markup. -/
def write : Markup → List Char
  | text s => Text.escape s
  | spaced s => Text.escapeSpaced s
  | element e body => e.openingTag ++ writeAll body ++ e.closingTag

/-- The written form of several pieces, one after the other. -/
def writeAll : List Markup → List Char
  | [] => []
  | m :: ms => m.write ++ writeAll ms

end

@[simp] theorem writeAll_append (ms ns : List Markup) :
    writeAll (ms ++ ns) = writeAll ms ++ writeAll ns := by
  induction ms with
  | nil => rfl
  | cons m ms ih => simp [writeAll, ih]

end Markup

end DiagnosticPage
