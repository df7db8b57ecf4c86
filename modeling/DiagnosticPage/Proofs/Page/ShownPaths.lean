import DiagnosticPage.Proofs.Markup.Scan
import DiagnosticPage.Proofs.Page.Content

/-!
# What depends on the root

Options change nothing but the paths that a page shows, in the labels of messages and in the
headings of sections.  `withoutShownPaths` deletes these from any text: it cuts the text at its tags
and drops what stands between the tag of a label, or of a heading, and the next tag.

On written markup this is the same as to drop, in every element that shows a path, the text in front
of the first element in it (`Markup.withoutPaths`).  That is `withoutPaths_read_writeAll`, proved
in reading order together with the fact that texts in front of a tag can be dropped before or after
writing.  What is left of a page mentions no options.
-/

namespace DiagnosticPage

/-! ### Deleting shown paths from a text -/

/-- Whether a shown path follows a tag: that of a label, or that of the heading of a section. -/
def announcesPath (tag : List Char) : Bool :=
  tag = "<span class=\"alternative-source\">".toList || "<a class=\"source\"".toList.isPrefixOf tag

/-- What is left of a tag and the text behind it when shown paths are deleted. -/
def keptMark (mark : List Char × List Char) : List Char :=
  if announcesPath mark.1 then mark.1 else mark.1 ++ mark.2

/-- The text that was cut at its tags, without the shown paths. -/
def Scan.withoutPaths (s : Scan) : List Char :=
  s.lead ++ s.marks.flatMap keptMark

/-- A text without the shown paths: behind each tag that announces one, everything up to the next
tag is deleted. -/
def withoutShownPaths (s : List Char) : List Char :=
  (Scan.read s).withoutPaths

namespace Scan

/-- Text in front of a scan is kept when the paths are left out. -/
lemma withoutPaths_behindText (x : List Char) (s : Scan) :
    (s.behindText x).withoutPaths = x ++ s.withoutPaths := by
  rw [withoutPaths, withoutPaths, behindText, List.append_assoc]

/-- Behind a tag that announces no path everything is kept. -/
lemma withoutPaths_behindTag {t : List Char} (ht : announcesPath t = false) (s : Scan) :
    (s.behindTag t).withoutPaths = t ++ s.withoutPaths := by
  simp [withoutPaths, behindTag, keptMark, ht]

/-- Behind a tag that announces a path the text in front of the next tag is deleted. -/
lemma withoutPaths_behindTag_of_path {t : List Char} (ht : announcesPath t = true) (s : Scan) :
    (s.behindTag t).withoutPaths = t ++ s.marks.flatMap keptMark := by
  simp [withoutPaths, behindTag, keptMark, ht]

end Scan

/-- Behind a tag that announces a path, the text up to the next `<` is deleted, whatever it is. -/
lemma withoutShownPaths_tag_append {t shown : List Char} (ht : IsTag t)
    (hpath : announcesPath t = true) (hshown : '<' ∉ shown) (rest : List Char) :
    withoutShownPaths (t ++ (shown ++ '<' :: rest)) = t ++ withoutShownPaths ('<' :: rest) := by
  have hmarks : (Scan.read (shown ++ '<' :: rest)).marks = (Scan.read ('<' :: rest)).marks := by
    rw [Scan.read_append hshown]
    rfl
  have hlead : (Scan.read ('<' :: rest)).lead = [] := by
    rw [Scan.read_less_cons]
    rfl
  rw [withoutShownPaths, Scan.read_tag_append ht, Scan.withoutPaths_behindTag_of_path hpath, hmarks,
    withoutShownPaths, Scan.withoutPaths, hlead, List.nil_append]

example : withoutShownPaths
    "<a class=\"source\" id=\"1\">b &gt; c<span>2</span></a>".toList =
      "<a class=\"source\" id=\"1\"><span>2</span></a>".toList := by
  decide

namespace Element

/-- Whether an element shows a path. -/
def showsPath : Element → Bool
  | alternativeSource => true
  | source => true
  | _ => false

/-- The tags that announce a path are those of the elements that show one. -/
lemma announcesPath_openingTag (e : Element) : announcesPath e.openingTag = e.showsPath := by
  cases e using casesByTag with
  | fixed e he =>
    have hall : ∀ e ∈ fixedElements, announcesPath e.openingTag = e.showsPath := by decide
    exact hall e he
  | numbered n => rw [openingTag_message_some]; rfl
  | titled title => rw [openingTag_line_some]; rfl

/-- No closing tag announces a path. -/
lemma announcesPath_closingTag (e : Element) : announcesPath e.closingTag = false := by
  have hall : ∀ name ∈ tagNames, announcesPath (['<', '/'] ++ name.toList ++ ['>']) = false := by
    decide
  exact hall _ e.tagName_mem

end Element

/-! ### Deleting shown paths from markup -/

namespace Markup

/-- Whether a piece of markup is text. -/
def isText : Markup → Bool
  | text _ => true
  | spaced _ => true
  | element _ _ => false

mutual

/-- A piece of markup without the shown paths: in the elements that show one, the text in front of
the first element is dropped. -/
def withoutPaths : Markup → Markup
  | text s => text s
  | spaced s => spaced s
  | element e body =>
    element e
      (if e.showsPath then (withoutPathsAll body).dropWhile isText else withoutPathsAll body)

/-- Several pieces of markup without the shown paths. -/
def withoutPathsAll : List Markup → List Markup
  | [] => []
  | m :: ms => m.withoutPaths :: withoutPathsAll ms

end

/-- The paths are left out piece by piece. -/
lemma withoutPathsAll_eq_map (ms : List Markup) : withoutPathsAll ms = ms.map withoutPaths := by
  induction ms with
  | nil => rfl
  | cons m ms ih => rw [withoutPathsAll, ih, List.map_cons]

/-- The paths are left out of pieces in a row one after the other. -/
lemma withoutPathsAll_append (ms ns : List Markup) :
    withoutPathsAll (ms ++ ns) = withoutPathsAll ms ++ withoutPathsAll ns := by
  simp only [withoutPathsAll_eq_map, List.map_append]

/-- Line breaks show no paths. -/
lemma withoutPathsAll_intersperse (ms : List Markup) :
    withoutPathsAll (ms.intersperse lineBreak) = (withoutPathsAll ms).intersperse lineBreak := by
  have hbreak : lineBreak.withoutPaths = lineBreak := rfl
  rw [withoutPathsAll_eq_map, withoutPathsAll_eq_map, map_intersperse, hbreak]

/-- Shown paths can be deleted from markup before or after it is written.  The same holds when
moreover the text in front of the first tag is dropped, if what follows the markup is at a tag. -/
theorem withoutPaths_read_writeAll (ms : List Markup) (s : List Char) :
    (Scan.read (writeAll ms ++ s)).withoutPaths =
        writeAll (withoutPathsAll ms) ++ (Scan.read s).withoutPaths ∧
      ((Scan.read s).lead = [] →
        (Scan.read (writeAll ms ++ s)).marks.flatMap keptMark =
          writeAll ((withoutPathsAll ms).dropWhile isText) ++ (Scan.read s).withoutPaths) := by
  induction ms using readingInduction generalizing s with
  | nil =>
    refine ⟨rfl, ?_⟩
    intro hs
    simp [writeAll, withoutPathsAll, Scan.withoutPaths, hs]
  | text x ms ih =>
    obtain ⟨ihkept, ihdropped⟩ := ih s
    rw [writeAll, write, List.append_assoc, Scan.read_escape_append]
    refine ⟨?_, ?_⟩
    · rw [Scan.withoutPaths_behindText, ihkept, withoutPathsAll, withoutPaths, writeAll, write,
        List.append_assoc]
    · intro hs
      exact ihdropped hs
  | spaced x ms ih =>
    obtain ⟨ihkept, ihdropped⟩ := ih s
    rw [writeAll, write, List.append_assoc, Scan.read_escapeSpaced_append]
    refine ⟨?_, ?_⟩
    · rw [Scan.withoutPaths_behindText, ihkept, withoutPathsAll, withoutPaths, writeAll, write,
        List.append_assoc]
    · intro hs
      exact ihdropped hs
  | element e body ms ihbody ih =>
    obtain ⟨ihkept, -⟩ := ih s
    have hclosing : (Scan.read (e.closingTag ++ (writeAll ms ++ s))).withoutPaths =
        e.closingTag ++ (writeAll (withoutPathsAll ms) ++ (Scan.read s).withoutPaths) := by
      rw [Scan.read_closingTag_append, Scan.withoutPaths_behindTag e.announcesPath_closingTag,
        ihkept]
    have hattag : (Scan.read (e.closingTag ++ (writeAll ms ++ s))).lead = [] := by
      rw [Scan.read_closingTag_append]
      rfl
    obtain ⟨hbody, hdropped⟩ := ihbody (e.closingTag ++ (writeAll ms ++ s))
    have hkept : (Scan.read (writeAll (element e body :: ms) ++ s)).withoutPaths =
        writeAll (withoutPathsAll (element e body :: ms)) ++ (Scan.read s).withoutPaths := by
      rw [writeAll, write, withoutPathsAll, withoutPaths, writeAll, write]
      simp only [List.append_assoc]
      rw [Scan.read_openingTag_append]
      cases hpath : e.showsPath with
      | false =>
        rw [Scan.withoutPaths_behindTag (e.announcesPath_openingTag.trans hpath), hbody, hclosing]
        rfl
      | true =>
        rw [Scan.withoutPaths_behindTag_of_path (e.announcesPath_openingTag.trans hpath),
          hdropped hattag, hclosing]
        rfl
    refine ⟨hkept, ?_⟩
    intro _
    -- the text is at a tag already, so there is nothing to drop
    have hlead : (Scan.read (writeAll (element e body :: ms) ++ s)).lead = [] := by
      rw [writeAll, write]
      simp only [List.append_assoc]
      rw [Scan.read_openingTag_append]
      rfl
    rw [Scan.withoutPaths, hlead, List.nil_append] at hkept
    exact hkept

/-- Shown paths can be deleted from markup before or after it is written. -/
lemma withoutShownPaths_writeAll (ms : List Markup) :
    withoutShownPaths (writeAll ms) = writeAll (withoutPathsAll ms) := by
  have h := (withoutPaths_read_writeAll ms []).1
  have hnil : (Scan.read []).withoutPaths = [] := rfl
  rwa [List.append_nil, hnil, List.append_nil] at h

end Markup

/-! ### What is left of a page -/

section

variable (o o' : Options)

/-- What is left of a message does not depend on options. -/
lemma Message.withoutPaths_markup (labelled : Bool) (m : Message) :
    (m.markup o labelled).withoutPaths = (m.markup o' labelled).withoutPaths := by
  cases labelled <;> rfl

namespace Bundle

variable (main : String)

/-- What is left of the messages of a bundle does not depend on options. -/
lemma withoutPaths_messages (ms : List Message) :
    Markup.withoutPathsAll (ms.flatMap fun m => [m.markup o (m.path != main), .lineBreak]) =
      Markup.withoutPathsAll (ms.flatMap fun m => [m.markup o' (m.path != main), .lineBreak]) := by
  simp only [Markup.withoutPathsAll_eq_map, List.map_flatMap, List.map_cons,
    Message.withoutPaths_markup o o']

mutual

/-- What is left of a bundle does not depend on options. -/
theorem withoutPaths_markupIn : (b : Bundle) →
    Markup.withoutPathsAll (b.markupIn o main) = Markup.withoutPathsAll (b.markupIn o' main)
  | ⟨messages, extras, children⟩ => by
    have hmessages := withoutPaths_messages o o' main messages
    have hextras := withoutPaths_nestedIn .extra extras
    have hchildren := withoutPaths_nestedIn .child children
    simp only [markupIn, Markup.withoutPathsAll, Markup.withoutPaths,
      Markup.withoutPathsAll_append, hmessages, hextras, hchildren]

/-- What is left of nested bundles does not depend on options. -/
theorem withoutPaths_nestedIn (e : Element) : (bs : List Bundle) →
    Markup.withoutPathsAll (nestedIn o main e bs) = Markup.withoutPathsAll (nestedIn o' main e bs)
  | [] => rfl
  | b :: bs => by
    have hfirst := withoutPaths_markupIn b
    have hrest := withoutPaths_nestedIn e bs
    simp only [nestedIn, Markup.withoutPathsAll, Markup.withoutPaths,
      Markup.withoutPathsAll_append, hfirst, hrest]

end

/-- What is left of a bundle in the section of its own file does not depend on options. -/
lemma withoutPaths_markup (b : Bundle) :
    Markup.withoutPathsAll (b.markup o) = Markup.withoutPathsAll (b.markup o') :=
  withoutPaths_markupIn o o' b.primaryPath b

end Bundle

/-- What is left of a section does not depend on options. -/
lemma Group.withoutPaths_markup (g : Group) :
    (g.markup o).withoutPaths = (g.markup o').withoutPaths := by
  have hitem : ∀ b : Bundle,
      (Markup.element .error (b.markup o)).withoutPaths =
        (Markup.element .error (b.markup o')).withoutPaths := by
    intro b
    simp only [Markup.withoutPaths, Bundle.withoutPaths_markup o o']
  have hitems :
      Markup.withoutPathsAll (g.bundles.map fun b => Markup.element .error (b.markup o)) =
        Markup.withoutPathsAll (g.bundles.map fun b => Markup.element .error (b.markup o')) := by
    rw [Markup.withoutPathsAll_eq_map, Markup.withoutPathsAll_eq_map, List.map_map, List.map_map]
    exact List.map_congr_left fun b _ => hitem b
  simp only [markup, Markup.withoutPaths, Markup.withoutPathsAll, Markup.withoutPathsAll_append,
    Markup.withoutPathsAll_intersperse, hitems]
  -- the shown path of the heading stands in front of the count
  rfl

/-- What is left of the sections of a page does not depend on options. -/
lemma Report.withoutPaths_sections (bs : List Bundle) :
    Markup.withoutPathsAll (sections o bs) = Markup.withoutPathsAll (sections o' bs) := by
  unfold sections
  rw [Markup.withoutPathsAll_intersperse, Markup.withoutPathsAll_intersperse,
    Markup.withoutPathsAll_eq_map, Markup.withoutPathsAll_eq_map, List.map_map, List.map_map]
  exact congrArg _ (List.map_congr_left fun g _ => Group.withoutPaths_markup o o' g)

end

/-- Options change nothing but the shown paths: with any two options a report has the same fault,
or its two pages agree once the shown paths are deleted from them. -/
theorem root_changes_shown_paths_only (o o' : Options) (r : Report) :
    (r.content o).map withoutShownPaths = (r.content o').map withoutShownPaths := by
  cases hpassed : r.passed with
  | true => rw [Report.content_of_passed o hpassed, Report.content_of_passed o' hpassed]
  | false =>
    rw [Report.content_of_failed o hpassed, Report.content_of_failed o' hpassed]
    cases Bundle.ofEntries r.errors with
    | error f => rfl
    | ok bs =>
      have hpages : withoutShownPaths (Markup.writeAll (Report.sections o bs)) =
          withoutShownPaths (Markup.writeAll (Report.sections o' bs)) := by
        rw [Markup.withoutShownPaths_writeAll, Markup.withoutShownPaths_writeAll,
          Report.withoutPaths_sections o o']
      exact congrArg Except.ok hpages

end DiagnosticPage
