import DiagnosticPage.Proofs.Page.EveryMessage
import DiagnosticPage.Proofs.Template.Splitting

/-!
# Every message tells its own file

A reader of a page takes the file of a message from the tooltip in its block, and if there is none
from the section that the block stands in.  `fileRead` reads so, from the text of a block and the
file of its section alone: `labelsIn` takes the labels out of a block and `titlesIn` the values of
the attribute `title` in any of its tags, both with their entities replaced; `labelTextsIn` and
`titleTextsIn` leave them as they are written.

A written block has a label and a tooltip exactly if it is labelled (`labelTextsIn_write_markup`,
`titleTextsIn_write_markup`).  Whether it is depends on the path of its section, handed down
unchanged to every node of a bundle, and this path is the one by which the bundle was grouped; so
what is read is the path of the message.
-/

namespace DiagnosticPage

open Template (splitAtFirst splitAtFirst_append splitAtFirst_eq_none_of_notMem)

/-! ### Reading a tag -/

/-- The start of the attribute `title`, up to its value. -/
def titleStart : List Char :=
  ' ' :: "title=\"".toList

/-- The value of the attribute `title` as it is written in a tag, if there is one. -/
def titleText? (tag : List Char) : Option (List Char) :=
  (splitAtFirst titleStart tag).map fun (_, rest) => rest.takeWhile (· != '"')

/-- The value of the attribute `title` in a tag, if there is one. -/
def titleOf? (tag : List Char) : Option String :=
  (splitAtFirst titleStart tag).map fun (_, rest) =>
    String.ofList (Text.unescape ' ' (rest.takeWhile (· != '"')))

/-- The value of a title is what is written, with its entities replaced. -/
lemma titleOf?_eq (tag : List Char) :
    titleOf? tag = (titleText? tag).map fun s => String.ofList (Text.unescape ' ' s) := by
  rw [titleText?, Option.map_map]
  rfl

namespace Element

/-- The tooltip of an element. -/
def title? : Element → Option String
  | line title => title
  | _ => none

/-- The title in an opening tag is the tooltip of its element in escaped form. -/
lemma titleText?_openingTag (e : Element) :
    titleText? e.openingTag = e.title?.map fun title => Text.escape title.toList := by
  cases e using casesByTag with
  | fixed e he =>
    have hall : ∀ e ∈ fixedElements,
        titleText? e.openingTag = e.title?.map fun title => Text.escape title.toList := by decide
    exact hall e he
  | numbered n =>
    have hdigits : ' ' ∉ Nat.toDigits 10 n.toNat := fun h =>
      absurd (Nat.isDigit_of_mem_toDigits (by decide) (by decide) h) (by decide)
    have hrest : ' ' ∉ Nat.toDigits 10 n.toNat ++ valueEnd := by simp [valueEnd, hdigits]
    have hnone : splitAtFirst titleStart (message (some n)).openingTag = none := by
      rw [openingTag_message_some, List.append_assoc, splitAtFirst_append (by decide), titleStart,
        splitAtFirst_eq_none_of_notMem hrest]
      rfl
    rw [titleText?, hnone]
    rfl
  | titled title =>
    have hquote := (Text.harmless_escape title.toList).quote_notMem
    have hvalue : (Text.escape title.toList ++ valueEnd).takeWhile (· != '"') =
        Text.escape title.toList := by
      have hother : ∀ c ∈ Text.escape title.toList, (c != '"') = true := fun c hc =>
        bne_iff_ne.mpr (ne_of_mem_of_not_mem hc hquote)
      rw [List.takeWhile_append_of_pos hother]
      simp [valueEnd]
    have hstart : splitAtFirst titleStart (line (some title)).openingTag =
        some ("<span class=\"line\"".toList, Text.escape title.toList ++ valueEnd) := by
      rw [openingTag_line_some, List.append_assoc]
      rfl
    simp only [titleText?, hstart, Option.map_some, hvalue, title?]

end Element

/-- A closing tag has no title. -/
lemma titleText?_closingTag (e : Element) : titleText? e.closingTag = none := by
  have hall : ∀ name ∈ Element.tagNames,
      titleText? (['<', '/'] ++ name.toList ++ ['>']) = none := by
    decide
  exact hall _ e.tagName_mem

/-! ### Reading the block of a message -/

/-- The text of a written piece, its tags left out and its entities replaced. -/
def textIn (s : List Char) : String :=
  String.ofList (Text.unescape ' ' (Scan.read s).texts.flatten)

/-- The labels in the block of a message as they are written. -/
def labelTextsIn (block : List Char) : List (List Char) :=
  (elementsAt "<span class=\"alternative-source\">".toList.isPrefixOf block).map fun label =>
    (Scan.read label).texts.flatten

/-- The labels in the block of a message. -/
def labelsIn (block : List Char) : List String :=
  (elementsAt "<span class=\"alternative-source\">".toList.isPrefixOf block).map textIn

/-- The titles in the block of a message as they are written. -/
def titleTextsIn (block : List Char) : List (List Char) :=
  (Scan.read block).tags.filterMap titleText?

/-- The titles in the block of a message. -/
def titlesIn (block : List Char) : List String :=
  (Scan.read block).tags.filterMap titleOf?

/-- Labels are what is written, with the entities replaced. -/
lemma labelsIn_eq (block : List Char) :
    labelsIn block = (labelTextsIn block).map fun s => String.ofList (Text.unescape ' ' s) := by
  rw [labelTextsIn, List.map_map]
  rfl

/-- Titles are what is written, with the entities replaced. -/
lemma titlesIn_eq (block : List Char) :
    titlesIn block = (titleTextsIn block).map fun s => String.ofList (Text.unescape ' ' s) := by
  rw [titlesIn, funext titleOf?_eq, titleTextsIn, List.map_filterMap]

/-- The file of a message as it is read off the page: its title, or else the file of the section
around it. -/
def fileRead (sectionFile : String) (block : List Char) : String :=
  (titlesIn block).headD sectionFile

/-- An element that holds nothing but text has that text in escaped form. -/
lemma texts_write_element (e : Element) (s : List Char) :
    (Scan.read (Markup.element e [.text s]).write).texts.flatten = Text.escape s := by
  have hread : Scan.read (Markup.element e [.text s]).write =
      (((Scan.read []).behindTag e.closingTag).behindText (Text.escape s)).behindTag
        e.openingTag := by
    rw [Markup.write, Markup.writeAll, Markup.write, Markup.writeAll, List.append_nil,
      List.append_assoc, Scan.read_openingTag_append, Scan.read_escape_append,
      ← List.append_nil e.closingTag, Scan.read_closingTag_append, List.append_nil]
  rw [hread]
  simp [Scan.texts, Scan.behindTag, Scan.behindText, Scan.read]

namespace Message

variable (o : Options) (m : Message)

/-- A block has the file of its message in escaped form as its label if it is labelled, and no label
otherwise. -/
lemma labelTextsIn_write_markup (labelled : Bool) :
    labelTextsIn (m.markup o labelled).write =
      if labelled then [Text.escape (o.shownPath m.path).toList] else [] := by
  have hfound : Markup.found Element.alternativeSource.openingTag.isPrefixOf
      [m.markup o labelled] = if labelled then
        [(Markup.element .alternativeSource
          [.text (o.shownPath m.path).toList]).write] else [] := by
    cases labelled with
    | false => simp [markup, highlighted, underline, Markup.found_element,
        Element.isPrefixOf_openingTag]
    | true => simp [markup, highlighted, underline, Markup.found_element,
        Element.isPrefixOf_openingTag]
  have helements : elementsAt "<span class=\"alternative-source\">".toList.isPrefixOf
      (m.markup o labelled).write = Markup.found Element.alternativeSource.openingTag.isPrefixOf
        [m.markup o labelled] :=
    elementsAt_write Element.alternativeSource.openingTest_openingTag _
  rw [labelTextsIn, helements, hfound]
  cases labelled with
  | false => rfl
  | true => simp [texts_write_element]

/-- A block has the file of its message as its label if it is labelled, and no label otherwise. -/
lemma labelsIn_write_markup (labelled : Bool) :
    labelsIn (m.markup o labelled).write = if labelled then [o.shownPath m.path] else [] := by
  rw [labelsIn_eq, labelTextsIn_write_markup]
  cases labelled <;> simp [Text.unescape_escape]

/-- A block has the path of its message in escaped form as its title if it is labelled, and no title
otherwise. -/
lemma titleTextsIn_write_markup (labelled : Bool) :
    titleTextsIn (m.markup o labelled).write =
      if labelled then [Text.escape m.path.toList] else [] := by
  rw [titleTextsIn, write_eq_writeAll, Markup.tags_read_writeAll]
  cases labelled with
  | false => simp [markup, highlighted, underline, Markup.tagsAll, Markup.tags, Markup.lineBreak,
      Element.titleText?_openingTag, Element.title?, titleText?_closingTag,
      -Element.closingTag_message, -Element.closingTag_line]
  | true => simp [markup, highlighted, underline, Markup.tagsAll, Markup.tags, Markup.lineBreak,
      Element.titleText?_openingTag, Element.title?, titleText?_closingTag,
      -Element.closingTag_message, -Element.closingTag_line]

/-- A block has the path of its message as its title if it is labelled, and no title otherwise. -/
lemma titlesIn_write_markup (labelled : Bool) :
    titlesIn (m.markup o labelled).write = if labelled then [m.path] else [] := by
  rw [titlesIn_eq, titleTextsIn_write_markup]
  cases labelled <;> simp [Text.unescape_escape]

end Message

/-- In the section of the file `main`, a block is that of a message and tells its file: it has one
label and one title if this is another file than the section's, which are that file, and neither of
them otherwise; so the file that is read off the page is the one of the message. -/
structure TellsFile (o : Options) (main : String) (block : List Char) (m : Message) : Prop where
  written : ∃ labelled, block = (m.markup o labelled).write
  labels : labelsIn block = if m.path = main then [] else [o.shownPath m.path]
  titles : titlesIn block = if m.path = main then [] else [m.path]
  file : fileRead main block = m.path

/-- The block of a message tells its file in every section. -/
lemma Message.tellsFile (o : Options) (main : String) (m : Message) :
    TellsFile o main (m.markup o (m.path != main)).write m := by
  have htitles : titlesIn (m.markup o (m.path != main)).write =
      if m.path = main then [] else [m.path] := by
    rw [titlesIn_write_markup]
    by_cases h : m.path = main <;> simp [h]
  refine ⟨⟨_, rfl⟩, ?_, htitles, ?_⟩
  · rw [labelsIn_write_markup]
    by_cases h : m.path = main <;> simp [h]
  · rw [fileRead, htitles]
    by_cases h : m.path = main <;> simp [h]

/-- The sections of a page belong to the files of the report, and the blocks in a section are the
messages of the entries of its file, however deep these are nested, written for that file. -/
lemma Report.forall₂_blocks {o : Options} {r : Report} {page : List Char}
    (hpassed : r.passed = false) (h : r.content o = .ok page) :
    List.Forall₂ (fun group (file : String × List Entry) => elementsAt startsMessage group =
        (file.2.flatMap Entry.shown).map fun m => (m.markup o (m.path != file.1)).write)
      (elementsAt "<div class=\"source-group\">".toList.isPrefixOf page) r.entriesByFile := by
  obtain ⟨bs, hbs, rfl⟩ := (Report.content_eq_ok_iff hpassed page).mp h
  have hsections := Report.forall₂_ofBundles (Bundle.areBundlesOf_of_ofEntries hbs).forall₂
  have hpage : elementsAt "<div class=\"source-group\">".toList.isPrefixOf
      (Markup.writeAll (Report.sections o bs)) =
        (Group.ofBundles bs).map fun g => (g.markup o).write := Report.elementsAt_sections o bs
  rw [hpage, List.forall₂_map_left_iff]
  refine hsections.imp fun g file hg => ?_
  rw [write_eq_writeAll, elementsAt_writeAll openingTest_startsMessage, Group.found_markup,
    hg.flatMap_messages o, List.map_flatMap]

/-- The sections of a page belong to the files of the report, and in each section the blocks belong
to the messages of the entries of its file, however deep these are nested.  Every block tells the
file of its message. -/
theorem content_tells_file_of_every_message {o : Options} {r : Report} {page : List Char}
    (hpassed : r.passed = false) (h : r.content o = .ok page) :
    List.Forall₂ (fun group (file : String × List Entry) =>
        List.Forall₂ (TellsFile o file.1) (elementsAt startsMessage group)
          (file.2.flatMap Entry.shown))
      (elementsAt "<div class=\"source-group\">".toList.isPrefixOf page) r.entriesByFile := by
  refine (Report.forall₂_blocks hpassed h).imp fun group file hblocks => ?_
  rw [hblocks, List.forall₂_map_left_iff, List.forall₂_same]
  exact fun m _ => m.tellsFile o file.1

/-- An operation of one file, a cause in another one, and below it a message of the first file
again: only the cause has a label, without the root, and a title, and both give its quotes and
brackets as they are. -/
theorem file_of_cause_is_told :
    let message : String → Message := fun path => ⟨.blame, "text", path, none, none, none, none⟩
    let deepest : Entry := ⟨[message "/work/a.js"], none, [], []⟩
    let cause : Entry := ⟨[message "/work/lib/<b\">.js"], none, [deepest], []⟩
    let r : Report := ⟨false, [⟨[], some (message "/work/a.js"), [], [cause]⟩]⟩
    ∃ page group, r.content ⟨some "/work"⟩ = .ok page ∧
      elementsAt "<div class=\"source-group\">".toList.isPrefixOf page = [group] ∧
      (elementsAt startsMessage group).map (fun block => (labelsIn block, titlesIn block)) =
        [([], []), (["lib/<b\">.js"], ["/work/lib/<b\">.js"]), ([], [])] ∧
      (elementsAt startsMessage group).map (fileRead "/work/a.js") =
        ["/work/a.js", "/work/lib/<b\">.js", "/work/a.js"] := by
  intro message deepest cause r
  obtain ⟨page, hpage⟩ : ∃ page, r.content ⟨some "/work"⟩ = .ok page := ⟨_, rfl⟩
  have htold := content_tells_file_of_every_message (r := r) rfl hpage
  have hfiles : r.entriesByFile = [("/work/a.js", r.errors)] := rfl
  have hshown : r.errors.flatMap Entry.shown =
      [message "/work/a.js", message "/work/lib/<b\">.js", message "/work/a.js"] := rfl
  rw [hfiles] at htold
  generalize hgroups : elementsAt "<div class=\"source-group\">".toList.isPrefixOf page = groups
    at htold
  cases htold with
  | cons hblocks hnone =>
    rename_i group groups
    obtain rfl := List.forall₂_nil_right_iff.mp hnone
    rw [hshown] at hblocks
    have hlabel : Options.shownPath ⟨some "/work"⟩ "/work/lib/<b\">.js" = "lib/<b\">.js" := by
      decide
    have hread := map_eq_map_of_forall₂ (fun _ _ hm => TellsFile.file hm) hblocks
    refine ⟨page, group, hpage, hgroups, ?_, hread⟩
    obtain ⟨operation, rest, hfirst, htwo, hall⟩ := List.forall₂_cons_right_iff.mp hblocks
    obtain ⟨cause, rest, hsecond, hone, rfl⟩ := List.forall₂_cons_right_iff.mp htwo
    obtain ⟨last, rest, hthird, hzero, rfl⟩ := List.forall₂_cons_right_iff.mp hone
    obtain rfl := List.forall₂_nil_right_iff.mp hzero
    rw [hall]
    simp [hfirst.labels, hfirst.titles, hsecond.labels, hsecond.titles, hthird.labels,
      hthird.titles, message, hlabel]

end DiagnosticPage
