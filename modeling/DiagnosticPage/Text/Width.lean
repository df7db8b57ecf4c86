/-!
# Columns of a line

A line of source text is shown with a fixed number of columns for each tab and one column for
every other character.  The carets drawn under a line are counted in these columns, so the page
must give white space exactly the room that `Text.width` counts.
-/

namespace DiagnosticPage

/-- Columns that a tab takes on the page. -/
def tabSize : Nat := 2

namespace Text

/-- Columns that one character takes on the page. -/
def columns (c : Char) : Nat :=
  if c = '\t' then tabSize else 1

/-- Columns that a text takes on the page. -/
def width : List Char → Nat
  | [] => 0
  | c :: s => columns c + width s

@[simp] theorem width_nil : width [] = 0 := rfl

@[simp] theorem width_cons (c : Char) (s : List Char) : width (c :: s) = columns c + width s := rfl

@[simp] theorem width_append (s t : List Char) : width (s ++ t) = width s + width t := by
  induction s with
  | nil => simp
  | cons c s ih => rw [List.cons_append, width_cons, ih, width_cons, Nat.add_assoc]

end Text

end DiagnosticPage
