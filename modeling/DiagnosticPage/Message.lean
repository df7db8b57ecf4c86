import DiagnosticPage.Text.Width

/-!
# Messages

A message is one unit of a diagnostic: a description, and the place in a source file that it
points to, with the text of the source line there.  Lines and columns count from one and both ends
of a location belong to it.

`Message.span` gives the columns to highlight, and `Span.cut` the three parts of the line that they
make.  No span is out of range: `Cut.join_cut` says that the parts of any line are the line again.
-/

namespace DiagnosticPage

/-- What a message is for. -/
inductive Kind where
  /-- A note on the message before it. -/
  | comment
  /-- A message that points at source code. -/
  | blame
  /-- Any other kind. -/
  | other
deriving DecidableEq

/-- A place in a source file. -/
structure Position where
  line : UInt32
  column : UInt64
deriving DecidableEq

/-- A range of a source file. -/
structure Location where
  start : Position
  stop : Position
deriving DecidableEq

/-- One textual unit of a diagnostic. -/
structure Message where
  kind : Kind
  /-- The text of the message, as yet unescaped. -/
  description : String
  /-- The source file that the message is about. -/
  path : String := ""
  line : Option UInt32 := none
  endLine : Option UInt32 := none
  /-- The source line at the start of the location. -/
  context : Option String := none
  location : Option Location := none
deriving DecidableEq

/-- The columns of a line that are highlighted: the first and the last one, counted from one. -/
structure Span where
  first : Nat
  last : Nat
deriving DecidableEq

/-- A line in three parts: what precedes the highlight, what lies in it, and what follows. -/
structure Cut where
  before : List Char
  marked : List Char
  after : List Char
deriving DecidableEq

/-- Cuts a line at a span.  Columns beyond the line count as its end, and a span that ends before
it starts is empty, so every span cuts every line. -/
def Span.cut (span : Span) (line : List Char) : Cut :=
  let start := min (span.first - 1) line.length
  let stop := max start (min span.last line.length)
  { before := line.take start
    marked := (line.drop start).take (stop - start)
    after := line.drop stop }

/-- The line that was cut. -/
def Cut.join (c : Cut) : List Char :=
  c.before ++ c.marked ++ c.after

/-- A line that is cut can be joined again. -/
theorem Cut.join_cut (span : Span) (line : List Char) : (span.cut line).join = line := by
  have h : ∀ a b : Nat, line.take a ++ (line.drop a).take (max a b - a) ++ line.drop (max a b)
      = line := by
    intro a b
    rw [List.append_assoc]
    conv => rhs; rw [← List.take_append_drop a line]
    congr 1
    conv => rhs; rw [← List.take_append_drop (max a b - a) (line.drop a)]
    rw [List.drop_drop, Nat.add_sub_cancel' (Nat.le_max_left a b)]
  exact h _ _

namespace Message

/-- Whether a message is a note on the one before it. -/
def isComment (m : Message) : Bool :=
  m.kind == .comment

/-- The source line of a message, empty when there is none. -/
def contextLine (m : Message) : List Char :=
  (m.context.getD "").toList

/-- The highlighted columns of the source line.  Only the first line of a range over several lines
is at hand, so such a range is highlighted to the end of that line. -/
def span (m : Message) : Span :=
  match m.location with
  | none => ⟨0, 0⟩
  | some ⟨start, stop⟩ =>
    ⟨start.column.toNat,
      if start.line = stop.line then stop.column.toNat else m.contextLine.length⟩

/-- The source line of a message, cut at the highlight. -/
def cut (m : Message) : Cut :=
  m.span.cut m.contextLine

/-- The line number shown for a message, or the first and last one of a range. -/
def lineLabel (m : Message) : List Char :=
  match m.line with
  | none => []
  | some line =>
    match m.endLine with
    | none => Nat.toDigits 10 line.toNat
    | some endLine =>
      if line = endLine then Nat.toDigits 10 line.toNat
      else Nat.toDigits 10 line.toNat ++ ['.', '.', '.'] ++ Nat.toDigits 10 endLine.toNat

/-- A message with a note added to its description. -/
def annotate (m : Message) (note : String) : Message :=
  { m with description := m.description ++ ". " ++ note }

end Message

end DiagnosticPage
