import DiagnosticPage.Proofs.Markup.Scan
import DiagnosticPage.Proofs.Page.Content
import Mathlib.Data.List.Forall2

/-!
# No text of a report becomes markup

Cut at its tags, the page of a report is made of permitted tags and of harmless text, and its tags
are nested.  Nothing that a message says can change this, since it holds of all written markup.

More is true of a bundle: `Bundle.SameOutline` relates two bundles that have the same tree of
messages, with the same line numbers and with labels in the same places.  The tags of two such
bundles agree up to the values of their tooltips, whatever else their messages say.
-/

namespace DiagnosticPage

/-- A tag without the value of its tooltip, if it has one. -/
def eraseTitle (tag : List Char) : List Char :=
  if titleMark.isPrefixOf tag then titleMark ++ valueEnd else tag

/-- Without their values, two tooltips look alike. -/
lemma eraseTitle_openingTag_line_some (title : String) :
    eraseTitle (Element.line (some title)).openingTag = titleMark ++ valueEnd := by
  have hmark : titleMark.isPrefixOf
      (titleMark ++ (Text.escape title.toList ++ valueEnd)) = true := by simp
  rw [Element.openingTag_line_some, List.append_assoc, eraseTitle, if_pos hmark]

/-- The tags of a message depend on its line number and on whether it is labelled, up to the
tooltip. -/
lemma Message.erased_tags_markup (o o' : Options) {m m' : Message} (labelled : Bool)
    (hline : m.line = m'.line) :
    (m.markup o labelled).tags.map eraseTitle = (m'.markup o' labelled).tags.map eraseTitle := by
  cases labelled with
  | false => simp [Message.markup, Markup.tags, Markup.tagsAll, highlighted, underline,
      Markup.lineBreak, hline]
  | true => simp [Message.markup, Markup.tags, Markup.tagsAll, highlighted, underline,
      Markup.lineBreak, hline, eraseTitle_openingTag_line_some]

namespace Bundle

mutual

/-- Two bundles, in the sections of the files `main` and `main'`, have messages with the same line
numbers in the same tree, and messages of other files than the section's in the same places. -/
def SameOutline (main main' : String) : Bundle → Bundle → Prop
  | ⟨messages, extras, children⟩, ⟨messages', extras', children'⟩ =>
    List.Forall₂ (fun m m' => m.line = m'.line ∧ (m.path ≠ main ↔ m'.path ≠ main'))
      messages messages' ∧
    SameOutlines main main' extras extras' ∧ SameOutlines main main' children children'

/-- The bundles of two lists have the same outlines one by one. -/
def SameOutlines (main main' : String) : List Bundle → List Bundle → Prop
  | [], [] => True
  | b :: bs, b' :: bs' => SameOutline main main' b b' ∧ SameOutlines main main' bs bs'
  | _, _ => False

end

variable (o o' : Options) {main main' : String}

/-- The tags of two lists of messages agree one by one, up to the tooltips. -/
lemma erased_tags_messages {ms ms' : List Message}
    (h : List.Forall₂ (fun m m' => m.line = m'.line ∧ (m.path ≠ main ↔ m'.path ≠ main')) ms ms') :
    (Markup.tagsAll (ms.flatMap fun m => [m.markup o (m.path != main), .lineBreak])).map
        eraseTitle =
      (Markup.tagsAll (ms'.flatMap fun m => [m.markup o' (m.path != main'), .lineBreak])).map
        eraseTitle := by
  induction h with
  | nil => rfl
  | @cons m m' ms ms' hm _ ih =>
    have hlabel : (m.path != main) = (m'.path != main') := by
      rw [Bool.eq_iff_iff]
      simpa using hm.2
    simp only [List.flatMap_cons, Markup.tagsAll_append, List.map_append, ih]
    congr 1
    simp only [Markup.tagsAll, List.map_append, hlabel, Message.erased_tags_markup o o' _ hm.1]

mutual

/-- The tags of two bundles with the same outline agree up to the tooltips. -/
theorem erased_tags_markupIn : (b b' : Bundle) → SameOutline main main' b b' →
    (Markup.tagsAll (b.markupIn o main)).map eraseTitle =
      (Markup.tagsAll (b'.markupIn o' main')).map eraseTitle
  | ⟨messages, extras, children⟩, ⟨messages', extras', children'⟩, h => by
    obtain ⟨hmessages, hextras, hchildren⟩ := h
    simp only [markupIn, Markup.tagsAll, Markup.tags, Markup.tagsAll_append, List.map_append,
      List.map_cons, erased_tags_messages o o' hmessages,
      erased_tags_nestedIn .extra extras extras' hextras,
      erased_tags_nestedIn .child children children' hchildren]

/-- The tags of two lists of bundles with the same outlines agree up to the tooltips. -/
theorem erased_tags_nestedIn (e : Element) : (bs bs' : List Bundle) →
    SameOutlines main main' bs bs' →
    (Markup.tagsAll (nestedIn o main e bs)).map eraseTitle =
      (Markup.tagsAll (nestedIn o' main' e bs')).map eraseTitle
  | [], [], _ => rfl
  | b :: bs, b' :: bs', h => by
    simp only [nestedIn, Markup.tagsAll, Markup.tags, Markup.tagsAll_append, List.map_append,
      List.map_cons, erased_tags_markupIn b b' h.1, erased_tags_nestedIn e bs bs' h.2]

end

end Bundle

/-- The page of a report is made of permitted tags, which are nested, and of harmless text; and
the tags of two bundles with the same outline agree up to the values of their tooltips. -/
theorem content_safe_and_independent_of_text :
    (∀ (o : Options) (r : Report) (page : List Char), r.content o = .ok page →
      (Scan.read page).text = page ∧ (Scan.read page).Safe ∧ Nested (Scan.read page).tags) ∧
    (∀ (o o' : Options) (b b' : Bundle), Bundle.SameOutline b.primaryPath b'.primaryPath b b' →
      (Scan.read (Markup.writeAll (b.markup o))).tags.map eraseTitle =
        (Scan.read (Markup.writeAll (b'.markup o'))).tags.map eraseTitle) := by
  refine ⟨?_, ?_⟩
  · intro o r page h
    obtain ⟨ms, rfl⟩ := Report.exists_markup_of_content h
    refine ⟨Scan.text_read _, ?_, nested_writeAll ms⟩
    have hsafe := Scan.safe_writeAll ms Scan.safe_read_nil
    rwa [List.append_nil] at hsafe
  · intro o o' b b' h
    rw [Markup.tags_read_writeAll, Markup.tags_read_writeAll]
    exact Bundle.erased_tags_markupIn o o' b b' h

/-- A message made of markup gives a safe page, and a bundle with it, next to a message of another
file, has the tags of a bundle with plain messages. -/
theorem markup_in_messages_stays_text :
    let m : Message :=
      ⟨.blame, "</span><b title=\"&lt;\">", "a'.js", some 7, none, some "\t<i>&", none⟩
    let n : Message := ⟨.other, "plain", "main", some 7, some 9, none, some ⟨⟨7, 0⟩, ⟨9, 4⟩⟩⟩
    (∃ page, Report.content {} ⟨false, [⟨[m], none, [], [⟨[n], none, [], []⟩]⟩]⟩ = .ok page ∧
      (Scan.read page).Safe ∧ Nested (Scan.read page).tags) ∧
    Bundle.SameOutline "a'.js" "main" ⟨[m, n], [], []⟩ ⟨[n, m], [], []⟩ ∧
    (Scan.read (Markup.writeAll (Bundle.markup {} ⟨[m, n], [], []⟩))).tags.map eraseTitle =
      (Scan.read (Markup.writeAll (Bundle.markup ⟨some "/"⟩ ⟨[n, m], [], []⟩))).tags.map
        eraseTitle := by
  intro m n
  have hsame : Bundle.SameOutline "a'.js" "main" ⟨[m, n], [], []⟩ ⟨[n, m], [], []⟩ := by
    simp [Bundle.SameOutline, Bundle.SameOutlines, m, n]
  obtain ⟨page, hpage⟩ : ∃ page,
      Report.content {} ⟨false, [⟨[m], none, [], [⟨[n], none, [], []⟩]⟩]⟩ = .ok page := ⟨_, rfl⟩
  refine ⟨⟨page, hpage, ?_⟩, hsame, ?_⟩
  · exact (content_safe_and_independent_of_text.1 _ _ _ hpage).2
  · exact content_safe_and_independent_of_text.2 _ _ _ _ hsame

end DiagnosticPage
