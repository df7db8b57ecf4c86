import DiagnosticPage.Proofs.Page.Attribution
import DiagnosticPage.Proofs.Page.Views

/-!
# Carets stand below the highlight

A page is seen in cells: tags take no room, and every entity and every other character takes one
cell.  `cells` reads them off any written text.  `twoLines?` reads the block of a message so: the
source line behind its number, cut at the element with the highlight, and the line below it behind
its empty number.

On the page the columns of a text are counted twice, once by `Text.width`, for the carets, and once
by the entities and characters that escaping writes.  Both agree, since what is read back of a text
is the text with its white space spread over its columns (`Text.spread`, `Text.length_spread`).
-/

namespace DiagnosticPage

open Template (splitAtFirst splitAtFirst_append splitAtFirst_self)
open Text (spread)

/-! ### Cells -/

/-- The no-break space. -/
def noBreakSpace : Char :=
  Text.Entity.noBreakSpace.meaning

/-- The cells of a written text: tags are left out, an entity is the character it stands for, and
every other character is itself. -/
def cells (s : List Char) : List Char :=
  Text.unescape noBreakSpace (Scan.read s).texts.flatten

lemma cells_nil : cells [] = [] := rfl

/-- A tag takes no cell. -/
lemma cells_tag_append {t : List Char} (ht : IsTag t) (s : List Char) :
    cells (t ++ s) = cells s := by
  have htexts : (Scan.read (t ++ s)).texts.flatten = (Scan.read s).texts.flatten := by
    rw [Scan.read_tag_append ht]
    rfl
  rw [cells, htexts, cells]

/-- Text in front of a written text is read together with the texts in it. -/
lemma cells_append {x : List Char} (hx : '<' ∉ x) (s : List Char) :
    cells (x ++ s) = Text.unescape noBreakSpace (x ++ (Scan.read s).texts.flatten) := by
  have htexts : (Scan.read (x ++ s)).texts.flatten = x ++ (Scan.read s).texts.flatten := by
    rw [Scan.read_append hx]
    exact List.append_assoc _ _ _
  rw [cells, htexts]

/-- An escaped text has its characters as cells. -/
lemma cells_escape_append (x s : List Char) : cells (Text.escape x ++ s) = x ++ cells s := by
  rw [cells_append (Text.harmless_escape x).less_notMem, Text.unescape_escape_append, cells]

/-- An escaped text whose white space keeps its width has a no-break space in every column of it. -/
lemma cells_escapeSpaced_append (x s : List Char) :
    cells (Text.escapeSpaced x ++ s) = spread noBreakSpace x ++ cells s := by
  rw [cells_append (Text.harmless_escapeSpaced x).less_notMem, Text.unescape_escapeSpaced_append,
    cells]

/-- Escaping with blanks kept gives the cells of a line. -/
lemma cells_escapeSpaced (x : List Char) : cells (Text.escapeSpaced x) = spread noBreakSpace x := by
  have h := cells_escapeSpaced_append x []
  rwa [List.append_nil, cells_nil, List.append_nil] at h

/-! ### Finding the two lines -/

/-- What stands behind the first element that starts with a text. -/
def behindElement? (start s : List Char) : Option (List Char) :=
  (splitAtFirst start s).map fun split =>
    (start ++ split.2).drop (elementText (start ++ split.2)).length

/-- The tag of a line number up to its tooltip. -/
def numberStart : List Char :=
  "<span class=\"line\"".toList

/-- The first element of a kind in a block, behind the line number in it. -/
def lineIn? (start block : List Char) : Option (List Char) := do
  let line ← (elementsAt start.isPrefixOf block).head?
  behindElement? numberStart line

/-- The cells of the two lines of a message, both without the line number. -/
structure TwoLines where
  /-- The source line. -/
  upper : List Char
  /-- The source line before the highlight. -/
  before : List Char
  /-- The highlight. -/
  marked : List Char
  /-- The line below the source line. -/
  lower : List Char
deriving DecidableEq

/-- The two lines in the block of a message. -/
def twoLines? (block : List Char) : Option TwoLines := do
  let upper ← lineIn? "<span class=\"context\">".toList block
  let lower ← lineIn? "<span class=\"message-text\">".toList block
  let (before, rest) ← splitAtFirst "<span class=\"theError\">".toList upper
  let (marked, _) ← splitAtFirst "</span>".toList rest
  return ⟨cells upper, cells before, cells marked, cells lower⟩

/-- A tag is found behind a text without a `<`. -/
lemma splitAtFirst_tag {t x : List Char} (ht : IsTag t) (hx : '<' ∉ x) (s : List Char) :
    splitAtFirst t (x ++ (t ++ s)) = some (x, s) := by
  obtain ⟨body, rfl, -, -⟩ := ht
  rw [splitAtFirst_append (startsNowhere_of_notMem hx), splitAtFirst_self (by simp)]
  simp

/-- What stands behind the line number in an element is what was written there. -/
lemma behindElement?_line {t : List Char} (ht : StartsNowhere numberStart t)
    (title : Option String) (body : List Markup) (s : List Char) :
    behindElement? numberStart (t ++ ((Markup.element (.line title) body).write ++ s)) =
      some s := by
  obtain ⟨z, hz⟩ : ∃ z, (Markup.element (.line title) body).write ++ s = numberStart ++ z := by
    cases title with
    | none => exact ⟨_, by rw [Markup.write]; rfl⟩
    | some title => exact ⟨_, by rw [Markup.write, Element.openingTag_line_some]; rfl⟩
  have hsplit : splitAtFirst numberStart (t ++ (numberStart ++ z)) = some (t, z) := by
    rw [splitAtFirst_append ht, splitAtFirst_self (by decide)]
    simp
  rw [behindElement?, hz, hsplit, Option.map_some, ← hz, elementText_write_append, List.drop_left]

/-- A line is read behind its number, up to the tag that closes it, when it is the only one of its
kind. -/
lemma lineIn?_write {e : Element} (he : StartsNowhere numberStart e.openingTag) {x : Markup}
    {title : Option String} {body rest : List Markup}
    (hfound : Markup.found e.openingTag.isPrefixOf [x] =
      [(Markup.element e (.element (.line title) body :: rest)).write]) :
    lineIn? e.openingTag x.write = some (Markup.writeAll rest ++ e.closingTag) := by
  rw [lineIn?, elementsAt_write e.openingTest_openingTag, hfound, List.head?_cons,
    Option.bind_eq_bind, Option.bind_some, Markup.write, Markup.writeAll, List.append_assoc,
    List.append_assoc]
  exact behindElement?_line he title body _

namespace Message

variable (o : Options) (labelled : Bool) (m : Message)

/-- The source line of a message behind its number. -/
def upperText : List Char :=
  Markup.writeAll m.highlighted ++ Element.context.closingTag

/-- The line below the source line behind its empty number. -/
def lowerText : List Char :=
  Markup.writeAll m.underline ++ Element.messageText.closingTag

/-- The source line is found in the block of a message. -/
lemma lineIn?_context :
    lineIn? "<span class=\"context\">".toList (m.markup o labelled).write = some m.upperText := by
  have hfound : Markup.found Element.context.openingTag.isPrefixOf [m.markup o labelled] =
      [(m.sourceLine (if labelled then some m.path else none)).write] := by
    cases labelled with
    | false => simp [markup, highlighted, underline, sourceLine, Markup.found_element,
        Element.isPrefixOf_openingTag]
    | true => simp [markup, highlighted, underline, sourceLine, Markup.found_element,
        Element.isPrefixOf_openingTag]
  have htag : "<span class=\"context\">".toList = Element.context.openingTag := by decide
  rw [htag, lineIn?_write (by decide) hfound, upperText]

/-- The line below the source line is found in the block of a message. -/
lemma lineIn?_messageText :
    lineIn? "<span class=\"message-text\">".toList (m.markup o labelled).write =
      some m.lowerText := by
  have hfound : Markup.found Element.messageText.openingTag.isPrefixOf [m.markup o labelled] =
      [m.lowerLine.write] := by
    cases labelled with
    | false => simp [markup, highlighted, underline, lowerLine, Markup.found_element,
        Element.isPrefixOf_openingTag]
    | true => simp [markup, highlighted, underline, lowerLine, Markup.found_element,
        Element.isPrefixOf_openingTag]
  have htag : "<span class=\"message-text\">".toList = Element.messageText.openingTag := by decide
  rw [htag, lineIn?_write (by decide) hfound, lowerText]

/-- The source line with its three parts and the tags between them. -/
lemma upperText_eq :
    m.upperText = Text.escapeSpaced m.cut.before ++ (Element.theError.openingTag ++
      (Text.escapeSpaced m.cut.marked ++ (Element.theError.closingTag ++
        (Text.escapeSpaced m.cut.after ++ Element.context.closingTag)))) := by
  simp [upperText, highlighted, Markup.writeAll, Markup.write]

/-! ### The cells of the two lines -/

/-- The three parts of a source line are that line. -/
lemma join_cut : m.cut.before ++ m.cut.marked ++ m.cut.after = m.contextLine :=
  Cut.join_cut m.span m.contextLine

/-- The cells of the source line are those of its context, whatever is highlighted in it. -/
lemma cells_upperText : cells m.upperText = spread noBreakSpace m.contextLine := by
  have hclosing : cells Element.context.closingTag = [] := by decide
  rw [upperText_eq, cells_escapeSpaced_append, cells_tag_append (Element.isTag_openingTag _),
    cells_escapeSpaced_append, cells_tag_append (Element.isTag_closingTag _),
    cells_escapeSpaced_append, hclosing, List.append_nil, ← join_cut, Text.spread_append,
    Text.spread_append, List.append_assoc]

/-- The cells of the line below are as many no-break spaces and carets as the parts of the source
line have columns, a space, and the description. -/
lemma cells_lowerText :
    cells m.lowerText = List.replicate (Text.width m.cut.before) noBreakSpace ++
      (List.replicate (Text.width m.cut.marked) '^' ++
        ' ' :: spread noBreakSpace m.description.toList) := by
  have hclosing : cells Element.messageText.closingTag = [] := by decide
  rw [lowerText, underline]
  simp only [Markup.writeAll, Markup.write, List.append_assoc, List.nil_append]
  rw [cells_escapeSpaced_append, Text.spread_replicate, cells_escape_append,
    cells_escapeSpaced_append, hclosing, List.append_nil, List.append_assoc]
  rfl

/-- The two lines of a message in cells. -/
lemma twoLines?_write_markup :
    twoLines? (m.markup o labelled).write =
      some ⟨spread noBreakSpace m.contextLine, spread noBreakSpace m.cut.before,
        spread noBreakSpace m.cut.marked, cells m.lowerText⟩ := by
  have hopening : "<span class=\"theError\">".toList = Element.theError.openingTag := by decide
  have hclosing : "</span>".toList = Element.theError.closingTag := by decide
  have hstart : splitAtFirst "<span class=\"theError\">".toList m.upperText =
      some (Text.escapeSpaced m.cut.before, Text.escapeSpaced m.cut.marked ++
        (Element.theError.closingTag ++
          (Text.escapeSpaced m.cut.after ++ Element.context.closingTag))) := by
    rw [hopening, upperText_eq, splitAtFirst_tag (Element.isTag_openingTag _)
      (Text.harmless_escapeSpaced _).less_notMem]
  have hend : splitAtFirst "</span>".toList (Text.escapeSpaced m.cut.marked ++
      (Element.theError.closingTag ++
        (Text.escapeSpaced m.cut.after ++ Element.context.closingTag))) =
      some (Text.escapeSpaced m.cut.marked,
        Text.escapeSpaced m.cut.after ++ Element.context.closingTag) := by
    rw [hclosing, splitAtFirst_tag (Element.isTag_closingTag _)
      (Text.harmless_escapeSpaced _).less_notMem]
  rw [twoLines?, lineIn?_context, lineIn?_messageText]
  simp only [hstart, hend, Option.bind_eq_bind, Option.bind_some, cells_escapeSpaced,
    cells_upperText]
  rfl

end Message

/-! ### Alignment -/

/-- The carets of a message stand below its highlight: below the cells before the highlight are
no-break spaces and below those in it carets, then come a space and the description.  So up to that
space a column holds a caret exactly if the source line has its highlight there.  The source line
has the cells of its context. -/
structure TwoLines.Aligned (v : TwoLines) (m : Message) : Prop where
  upper : v.upper = spread noBreakSpace m.contextLine
  highlight : v.before ++ v.marked <+: v.upper
  lower : v.lower = List.replicate v.before.length noBreakSpace ++
    (List.replicate v.marked.length '^' ++ ' ' :: cells (Text.escapeSpaced m.description.toList))
  caret {j : ℕ} (hj : j ≤ v.before.length + v.marked.length) :
    v.lower[j]? = some '^' ↔ v.before.length ≤ j ∧ j < v.before.length + v.marked.length

/-- Behind padding and in front of a space, carets are where they were put. -/
lemma getElem?_carets (k n : ℕ) (rest : List Char) {j : ℕ} (hj : j ≤ k + n) :
    (List.replicate k noBreakSpace ++ (List.replicate n '^' ++ ' ' :: rest))[j]? = some '^' ↔
      k ≤ j ∧ j < k + n := by
  have hpadding : noBreakSpace ≠ '^' := by decide
  rcases Nat.lt_or_ge j k with hbefore | hk
  · rw [List.getElem?_append_left (by simpa using hbefore)]
    simp [hbefore, hpadding]
  · rw [List.getElem?_append_right (by simpa using hk), List.length_replicate]
    rcases Nat.lt_or_ge j (k + n) with hn | hbehind
    · have hcaret : j - k < n := by omega
      rw [List.getElem?_append_left (by simpa using hcaret)]
      simp [hcaret, hk, hn]
    · obtain rfl : j = k + n := Nat.le_antisymm hj hbehind
      rw [List.getElem?_append_right (by simp)]
      simp

/-- Whatever the texts, the location and the options, the block of a message shows two lines, and
the carets in the second one stand below the highlight of the first one. -/
theorem carets_stand_below_highlight (o : Options) (labelled : Bool) (m : Message) :
    ∃ v, twoLines? (m.markup o labelled).write = some v ∧ v.Aligned m := by
  have hlower : cells m.lowerText =
      List.replicate (spread noBreakSpace m.cut.before).length noBreakSpace ++
        (List.replicate (spread noBreakSpace m.cut.marked).length '^' ++
          ' ' :: cells (Text.escapeSpaced m.description.toList)) := by
    rw [Message.cells_lowerText, Text.length_spread, Text.length_spread, cells_escapeSpaced]
  refine ⟨_, m.twoLines?_write_markup o labelled, ?_⟩
  constructor
  case upper => rfl
  case highlight =>
    rw [← m.join_cut, Text.spread_append, Text.spread_append]
    exact List.prefix_append _ _
  case lower => rw [hlower]
  case caret =>
    intro j hj
    rw [hlower]
    exact getElem?_carets _ _ _ hj

example :
    let m : Message :=
      ⟨.blame, "<T> & U", "a.js", some 3, none, some "\té<&nbsp;", some ⟨⟨3, 3⟩, ⟨3, 4⟩⟩⟩
    twoLines? (m.markup {} false).write =
      some ⟨"\u00a0\u00a0é<&nbsp;".toList, "\u00a0\u00a0é".toList, "<&".toList,
        "\u00a0\u00a0\u00a0^^ <T>\u00a0&\u00a0U".toList⟩ := by
  decide

end DiagnosticPage
