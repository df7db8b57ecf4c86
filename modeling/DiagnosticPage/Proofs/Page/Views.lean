import DiagnosticPage.Page
import DiagnosticPage.Proofs.Markup.Unique

/-!
# What is seen of a page

The view of a message is what its written form tells a reader: its line number and the label made
of it, the file it is labelled with, and its texts with tabs as spaces.  Bundles and groups have
views accordingly, and a bundle keeps the tree of its messages.

Written forms are equal exactly if the views are, and this remains so with more text behind them
(`Message.write_markup_append_inj`, `Bundle.writeAll_markupIn_append_inj`,
`Group.write_markup_append_inj`).  The one place where a text does not end at a tag is the line
below a source line.  Its blanks and carets take as many columns as the parts of the source line,
so they are known by then.
-/

namespace DiagnosticPage

open Text (expandTabs)

/-! ### Views -/

/-- What is seen of a message. -/
structure MessageView where
  line : Option UInt32
  lineLabel : List Char
  /-- The file that the message is labelled with, as it is shown and as it is given. -/
  file : Option (String × String)
  before : List Char
  marked : List Char
  after : List Char
  description : List Char
deriving DecidableEq

/-- What is seen of a bundle. -/
inductive BundleView where
  | node (messages : List MessageView) (extras children : List BundleView)

/-- What is seen of a group. -/
structure GroupView where
  source : String
  bundles : List BundleView

/-- The view of a message, which may be labelled with its file. -/
def Message.view (o : Options) (labelled : Bool) (m : Message) : MessageView where
  line := m.line
  lineLabel := m.lineLabel
  file := if labelled then some (o.shownPath m.path, m.path) else none
  before := expandTabs m.cut.before
  marked := expandTabs m.cut.marked
  after := expandTabs m.cut.after
  description := expandTabs m.description.toList

namespace Bundle

mutual

/-- The view of a bundle in the section of the file `main`. -/
def viewIn (o : Options) (main : String) : Bundle → BundleView
  | ⟨messages, extras, children⟩ =>
    .node (messages.map fun m => m.view o (m.path != main)) (viewsIn o main extras)
      (viewsIn o main children)

/-- The views of nested bundles in the section of the file `main`. -/
def viewsIn (o : Options) (main : String) : List Bundle → List BundleView
  | [] => []
  | b :: bs => viewIn o main b :: viewsIn o main bs

end

/-- The view of a bundle in the section of its own file. -/
def view (o : Options) (b : Bundle) : BundleView :=
  viewIn o b.primaryPath b

end Bundle

/-- The view of a group. -/
def Group.view (o : Options) (g : Group) : GroupView where
  source := o.shownPath g.source
  bundles := g.bundles.map (Bundle.view o)

/-! ### Messages -/

namespace Message

variable {o o' : Options} {title title' : Option String} {m m' : Message} {s t : List Char}

/-- The source line of a message behind its line number, with the path as a tooltip if there is
one. -/
def sourceLine (title : Option String) (m : Message) : Markup :=
  .element .context (.element (.line title) [.text (m.lineLabel ++ [':'])] :: m.highlighted)

/-- The line below the source line. -/
def lowerLine (m : Message) : Markup :=
  .element .messageText (.element (.line none) [] :: m.underline)

/-- A source line is cancelled by its number and its three parts. -/
lemma write_sourceLine_append_inj :
    (sourceLine title m).write ++ s = (sourceLine title' m').write ++ t ↔
      title = title' ∧ m.lineLabel = m'.lineLabel ∧
        expandTabs m.cut.before = expandTabs m'.cut.before ∧
        expandTabs m.cut.marked = expandTabs m'.cut.marked ∧
        expandTabs m.cut.after = expandTabs m'.cut.after ∧ s = t := by
  simp only [sourceLine, highlighted, Markup.write, Markup.writeAll, List.append_assoc,
    List.append_nil]
  rw [Element.openingTag_append_inj, Element.openingTag_append_inj,
    escape_append_inj (atTag_closingTag_append _ _) (atTag_closingTag_append _ _),
    Element.closingTag_line, Element.closingTag_line, List.append_cancel_left_eq,
    escapeSpaced_append_inj (atTag_openingTag_append _ _) (atTag_openingTag_append _ _),
    Element.openingTag_append_inj,
    escapeSpaced_append_inj (atTag_closingTag_append _ _) (atTag_closingTag_append _ _),
    List.append_cancel_left_eq,
    escapeSpaced_append_inj (atTag_closingTag_append _ _) (atTag_closingTag_append _ _),
    List.append_cancel_left_eq]
  simp

/-- Below equally wide parts of source lines, the lower lines are cancelled by the
descriptions. -/
lemma write_lowerLine_append_inj (hbefore : Text.width m.cut.before = Text.width m'.cut.before)
    (hmarked : Text.width m.cut.marked = Text.width m'.cut.marked) :
    m.lowerLine.write ++ s = m'.lowerLine.write ++ t ↔
      expandTabs m.description.toList = expandTabs m'.description.toList ∧ s = t := by
  simp only [lowerLine, underline, Markup.write, Markup.writeAll, List.append_assoc,
    List.append_nil, hbefore, hmarked]
  rw [List.append_cancel_left_eq, List.append_cancel_left_eq, List.append_cancel_left_eq,
    List.append_cancel_left_eq, List.append_cancel_left_eq,
    escapeSpaced_append_inj (atTag_closingTag_append _ _) (atTag_closingTag_append _ _),
    List.append_cancel_left_eq]

/-- The two lines of a message, each with its end. -/
def lines (title : Option String) (m : Message) : List Char :=
  (sourceLine title m).write ++ '\n' :: (m.lowerLine.write ++ ['\n'])

/-- The two lines of a message are cancelled by the texts in them. -/
lemma lines_append_inj :
    lines title m ++ s = lines title' m' ++ t ↔
      title = title' ∧ m.lineLabel = m'.lineLabel ∧
        expandTabs m.cut.before = expandTabs m'.cut.before ∧
        expandTabs m.cut.marked = expandTabs m'.cut.marked ∧
        expandTabs m.cut.after = expandTabs m'.cut.after ∧
        expandTabs m.description.toList = expandTabs m'.description.toList ∧ s = t := by
  have hwidth : ∀ x y, expandTabs x = expandTabs y → Text.width x = Text.width y :=
    fun x y h => by rw [← Text.length_expandTabs, h, Text.length_expandTabs]
  simp only [lines, List.append_assoc, List.cons_append, List.nil_append]
  rw [write_sourceLine_append_inj, List.cons.injEq]
  constructor
  · rintro ⟨htitle, hlabel, hbefore, hmarked, hafter, -, hlower⟩
    have hrest := (write_lowerLine_append_inj (hwidth _ _ hbefore) (hwidth _ _ hmarked)).mp hlower
    exact ⟨htitle, hlabel, hbefore, hmarked, hafter, hrest.1, (List.cons.inj hrest.2).2⟩
  · rintro ⟨htitle, hlabel, hbefore, hmarked, hafter, hdescription, rfl⟩
    exact ⟨htitle, hlabel, hbefore, hmarked, hafter, rfl,
      (write_lowerLine_append_inj (hwidth _ _ hbefore) (hwidth _ _ hmarked)).mpr
        ⟨hdescription, rfl⟩⟩

/-- A message without a label is its two lines. -/
lemma write_markup_false (o : Options) (m : Message) (s : List Char) :
    (m.markup o false).write ++ s = (Element.message m.line).openingTag ++
      '\n' :: (lines none m ++ ("</span>".toList ++ s)) := by
  have hparts : m.markup o false = .element (.message m.line)
      [.lineBreak, sourceLine none m, .lineBreak, m.lowerLine, .lineBreak] := rfl
  rw [hparts, Markup.write, Element.closingTag_message]
  simp [Markup.writeAll, lines]

/-- A message with a label is that label and its two lines. -/
lemma write_markup_true (o : Options) (m : Message) (s : List Char) :
    (m.markup o true).write ++ s = (Element.message m.line).openingTag ++
      '\n' :: (Element.alternativeSource.openingTag ++
        (Text.escape (o.shownPath m.path).toList ++ (Element.alternativeSource.closingTag ++
          '\n' :: (lines (some m.path) m ++ ("</span>".toList ++ s))))) := by
  have hparts : m.markup o true = .element (.message m.line)
      [.lineBreak, .element .alternativeSource [.text (o.shownPath m.path).toList], .lineBreak,
        sourceLine (some m.path) m, .lineBreak, m.lowerLine, .lineBreak] := rfl
  have hlabel : (Markup.element .alternativeSource [.text (o.shownPath m.path).toList]).write =
      Element.alternativeSource.openingTag ++ (Text.escape (o.shownPath m.path).toList ++
        Element.alternativeSource.closingTag) := by
    simp [Markup.write, Markup.writeAll]
  rw [hparts, Markup.write, Element.closingTag_message]
  simp [Markup.writeAll, hlabel, lines]

/-- The lines of a message start with the source line, which is no label. -/
lemma stopsBefore_lines (title : Option String) (m : Message) (s : List Char) :
    StopsBefore .alternativeSource (lines title m ++ s) := by
  rw [lines, sourceLine, Markup.write]
  simp only [List.append_assoc]
  exact stopsBefore_openingTag_append (by simp) _

/-- A message is cancelled by its view. -/
theorem write_markup_append_inj (labelled labelled' : Bool) :
    (m.markup o labelled).write ++ s = (m'.markup o' labelled').write ++ t ↔
      m.view o labelled = m'.view o' labelled' ∧ s = t := by
  cases labelled with
  | false =>
    cases labelled' with
    | false =>
      rw [write_markup_false, write_markup_false, Element.openingTag_append_inj, List.cons.injEq,
        lines_append_inj, List.append_cancel_left_eq]
      simp [view, and_assoc]
    | true =>
      rw [write_markup_false, write_markup_true, Element.openingTag_append_inj, List.cons.injEq]
      have hstop := stopsBefore_lines none m ("</span>".toList ++ s)
      exact ⟨fun h => absurd h.2.2 (hstop _), fun h => by simp [view] at h⟩
  | true =>
    cases labelled' with
    | false =>
      rw [write_markup_true, write_markup_false, Element.openingTag_append_inj, List.cons.injEq]
      have hstop := stopsBefore_lines none m' ("</span>".toList ++ t)
      exact ⟨fun h => absurd h.2.2.symm (hstop _), fun h => by simp [view] at h⟩
    | true =>
      rw [write_markup_true, write_markup_true, Element.openingTag_append_inj, List.cons.injEq,
        Element.openingTag_append_inj,
        escape_append_inj (atTag_closingTag_append _ _) (atTag_closingTag_append _ _),
        List.append_cancel_left_eq, List.cons.injEq, lines_append_inj,
        List.append_cancel_left_eq]
      simp only [view, MessageView.mk.injEq, Element.message.injEq, String.toList_inj, if_true,
        Option.some.injEq, Prod.mk.injEq, true_and]
      tauto

/-- A message is not found where no message starts. -/
lemma ne_write_markup (h : ∀ line, StopsBefore (.message line) s) (o : Options) (labelled : Bool)
    (m : Message) (t : List Char) : s ≠ (m.markup o labelled).write ++ t := by
  cases labelled with
  | false => rw [write_markup_false]; exact h _ _
  | true => rw [write_markup_true]; exact h _ _

end Message

/-! ### Bundles -/

namespace Bundle

variable {o o' : Options} {main main' : String}

/-- Behind nested bundles of one kind, no element of another kind starts unless one starts behind
them. -/
lemma stopsBefore_nestedIn {e e' : Element} (hne : e ≠ e') {s : List Char}
    (hs : StopsBefore e' s) (bs : List Bundle) :
    StopsBefore e' (Markup.writeAll (nestedIn o main e bs) ++ s) := by
  cases bs with
  | nil => exact hs
  | cons b bs =>
    rw [nestedIn, Markup.writeAll_append, List.append_assoc, Markup.writeAll, Markup.write]
    simp only [List.append_assoc]
    exact stopsBefore_openingTag_append hne _

/-- The messages of a node are cancelled by their views, where no more messages follow. -/
lemma writeAll_messages_append_inj {s t : List Char}
    (hs : ∀ line, StopsBefore (.message line) s) (ht : ∀ line, StopsBefore (.message line) t)
    (ms ms' : List Message) :
    Markup.writeAll (ms.flatMap fun m => [m.markup o (m.path != main), .lineBreak]) ++ s =
        Markup.writeAll (ms'.flatMap fun m => [m.markup o' (m.path != main'), .lineBreak]) ++ t ↔
      (ms.map fun m => m.view o (m.path != main)) =
        (ms'.map fun m => m.view o' (m.path != main')) ∧ s = t := by
  have hwrite : ∀ (o : Options) (main : String) (ms : List Message),
      Markup.writeAll (ms.flatMap fun m => [m.markup o (m.path != main), .lineBreak]) =
        ms.flatMap fun m => (m.markup o (m.path != main)).write ++ ['\n'] := by
    intro o main ms
    induction ms with
    | nil => rfl
    | cons m ms ih =>
      rw [List.flatMap_cons, List.flatMap_cons, Markup.writeAll_append, ih]
      simp [Markup.writeAll]
  rw [hwrite, hwrite]
  refine flatMap_append_inj (fun m m' s t => ?_) (fun m u => ?_) (fun m u => ?_) ms ms'
  · rw [List.append_assoc, List.append_assoc, Message.write_markup_append_inj,
      List.append_cancel_left_eq]
  · rw [List.append_assoc]
    exact Message.ne_write_markup hs o' _ m _
  · rw [List.append_assoc]
    exact Message.ne_write_markup ht o _ m _

/-- A bundle is the element around its messages and what is nested in it. -/
lemma writeAll_markupIn (o : Options) (main : String) (messages : List Message)
    (extras children : List Bundle) (s : List Char) :
    Markup.writeAll (markupIn o main ⟨messages, extras, children⟩) ++ s =
      Element.errorGroup.openingTag ++ '\n' ::
        (Markup.writeAll (messages.flatMap fun m => [m.markup o (m.path != main), .lineBreak]) ++
          (Markup.writeAll (nestedIn o main .extra extras) ++
            (Markup.writeAll (nestedIn o main .child children) ++
              (Element.errorGroup.closingTag ++ '\n' :: s)))) := by
  simp [markupIn, Markup.writeAll, Markup.write]

/-- Nested bundles are elements around bundles. -/
lemma writeAll_nestedIn_cons (o : Options) (main : String) (e : Element) (b : Bundle)
    (bs : List Bundle) (s : List Char) :
    Markup.writeAll (nestedIn o main e (b :: bs)) ++ s =
      e.openingTag ++ '\n' :: (Markup.writeAll (markupIn o main b) ++
        (e.closingTag ++ '\n' :: (Markup.writeAll (nestedIn o main e bs) ++ s))) := by
  simp [nestedIn, Markup.writeAll, Markup.write]

mutual

/-- A bundle is cancelled by its view. -/
theorem writeAll_markupIn_append_inj : (b b' : Bundle) → (s t : List Char) →
    (Markup.writeAll (b.markupIn o main) ++ s = Markup.writeAll (b'.markupIn o' main') ++ t ↔
      b.viewIn o main = b'.viewIn o' main' ∧ s = t)
  | ⟨messages, extras, children⟩, ⟨messages', extras', children'⟩, s, t => by
    have hmessages : ∀ (o : Options) (main : String) (extras children : List Bundle) (s : List Char)
        (line : Option UInt32), StopsBefore (.message line)
          (Markup.writeAll (nestedIn o main .extra extras) ++
            (Markup.writeAll (nestedIn o main .child children) ++
              (Element.errorGroup.closingTag ++ '\n' :: s))) :=
      fun o main extras children s line => stopsBefore_nestedIn (by simp)
        (stopsBefore_nestedIn (by simp) (stopsBefore_closingTag_append _ _ _) children) extras
    have hextras : ∀ (o : Options) (main : String) (children : List Bundle) (s : List Char),
        StopsBefore .extra (Markup.writeAll (nestedIn o main .child children) ++
          (Element.errorGroup.closingTag ++ '\n' :: s)) :=
      fun o main children s =>
        stopsBefore_nestedIn (by simp) (stopsBefore_closingTag_append _ _ _) children
    rw [writeAll_markupIn, writeAll_markupIn, List.append_cancel_left_eq, List.cons.injEq,
      writeAll_messages_append_inj (hmessages o main extras children s)
        (hmessages o' main' extras' children' t),
      writeAll_nestedIn_append_inj .extra extras extras' (hextras o main children s)
        (hextras o' main' children' t),
      writeAll_nestedIn_append_inj .child children children'
        (stopsBefore_closingTag_append _ _ _) (stopsBefore_closingTag_append _ _ _),
      List.append_cancel_left_eq, List.cons.injEq]
    simp [viewIn, and_assoc]

/-- Nested bundles are cancelled by their views, where no more of their kind follow. -/
theorem writeAll_nestedIn_append_inj (e : Element) : (bs bs' : List Bundle) → {s t : List Char} →
    (hs : StopsBefore e s) → (ht : StopsBefore e t) →
    (Markup.writeAll (nestedIn o main e bs) ++ s = Markup.writeAll (nestedIn o' main' e bs') ++ t ↔
      viewsIn o main bs = viewsIn o' main' bs' ∧ s = t)
  | [], [], s, t, _, _ => by simp [nestedIn, Markup.writeAll, viewsIn]
  | [], b' :: bs', s, t, hs, _ => by
    rw [writeAll_nestedIn_cons]
    exact ⟨fun h => absurd h (hs _), fun h => by simp [viewsIn] at h⟩
  | b :: bs, [], s, t, _, ht => by
    rw [writeAll_nestedIn_cons]
    exact ⟨fun h => absurd h.symm (ht _), fun h => by simp [viewsIn] at h⟩
  | b :: bs, b' :: bs', s, t, hs, ht => by
    rw [writeAll_nestedIn_cons, writeAll_nestedIn_cons, List.append_cancel_left_eq,
      List.cons.injEq, writeAll_markupIn_append_inj b b', List.append_cancel_left_eq,
      List.cons.injEq, writeAll_nestedIn_append_inj e bs bs' hs ht]
    simp [viewsIn, and_assoc]

end

end Bundle

/-! ### Groups -/

namespace Group

variable {o o' : Options}

/-- An error in the list of a section is cancelled by the view of its bundle. -/
lemma write_error_append_inj (b b' : Bundle) (s t : List Char) :
    (Markup.element .error (b.markup o)).write ++ s =
        (Markup.element .error (b'.markup o')).write ++ t ↔
      b.view o = b'.view o' ∧ s = t := by
  rw [Markup.write_element_append_inj, Bundle.markup, Bundle.markup,
    Bundle.writeAll_markupIn_append_inj, List.append_cancel_left_eq]
  simp [Bundle.view]

/-- The text of the heading of a section. -/
def headingText (o : Options) (g : Group) : List Char :=
  ['\n'] ++ (o.shownPath g.source).toList ++ ['\n']

/-- The text of the number of errors of a section. -/
def countText (g : Group) : List Char :=
  ['('] ++ Nat.toDigits 10 g.bundles.length ++ " errors)".toList

/-- A section is its heading and the list of its errors. -/
lemma write_markup (o : Options) (g : Group) (s : List Char) :
    (g.markup o).write ++ s =
      Element.sourceGroup.openingTag ++ '\n' :: (Element.source.openingTag ++
        (Text.escape (headingText o g) ++ (Element.count.openingTag ++
          (Text.escape (countText g) ++ (Element.count.closingTag ++
            '\n' :: (Element.source.closingTag ++ '\n' :: (Element.fileErrors.openingTag ++
              '\n' :: (Markup.writeAll ((g.bundles.map fun b =>
                  .element .error (b.markup o)).intersperse .lineBreak) ++
                '\n' :: (Element.fileErrors.closingTag ++
                  '\n' :: (Element.sourceGroup.closingTag ++ s)))))))))) := by
  simp [markup, Markup.writeAll, Markup.write, headingText, countText]

/-- A section is cancelled by its view. -/
theorem write_markup_append_inj (g g' : Group) (s t : List Char) :
    (g.markup o).write ++ s = (g'.markup o').write ++ t ↔ g.view o = g'.view o' ∧ s = t := by
  have hstop : ∀ (o : Options) (b : Bundle) (s u : List Char),
      Element.fileErrors.closingTag ++ s ≠ (Markup.element .error (b.markup o)).write ++ u := by
    intro o b s u
    rw [Markup.write, List.append_assoc, List.append_assoc]
    exact stopsBefore_closingTag_append _ _ _ _
  rw [write_markup, write_markup, List.append_cancel_left_eq, List.cons.injEq,
    List.append_cancel_left_eq,
    escape_append_inj (atTag_openingTag_append _ _) (atTag_openingTag_append _ _),
    List.append_cancel_left_eq,
    escape_append_inj (atTag_closingTag_append _ _) (atTag_closingTag_append _ _),
    List.append_cancel_left_eq, List.cons.injEq, List.append_cancel_left_eq, List.cons.injEq,
    List.append_cancel_left_eq, List.cons.injEq,
    Markup.intersperse_append_inj (fun _ _ => atTag_write_element_append _ _ _)
      (fun _ _ => atTag_write_element_append _ _ _) write_error_append_inj
      (fun b u => hstop o' b _ u) (fun b u => hstop o b _ u),
    List.append_cancel_left_eq, List.cons.injEq, List.append_cancel_left_eq]
  have hsource : headingText o g = headingText o' g' ↔
      o.shownPath g.source = o'.shownPath g'.source := by
    simp [headingText, String.toList_inj]
  -- the number of errors tells nothing that the errors do not tell
  have hcount : g.bundles.map (Bundle.view o) = g'.bundles.map (Bundle.view o') →
      countText g = countText g' := by
    intro h
    have hlength := congrArg List.length h
    rw [List.length_map, List.length_map] at hlength
    rw [countText, countText, hlength]
  simp only [view, GroupView.mk.injEq, hsource, true_and]
  tauto

end Group

end DiagnosticPage
