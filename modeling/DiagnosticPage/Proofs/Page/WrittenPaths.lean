import DiagnosticPage.Proofs.Page.Attribution
import DiagnosticPage.Proofs.Text.Entities

/-!
# Paths as they are written

The label and the title of a message stand on a page in escaped form.  Escaping is a code: the text
that is written decides the text that was meant, and `Text.decode` gives it back by the table of
five entities alone.  So a path can be taken from a page as it was, also one that has the characters
of tags in it, or what looks like an entity.

`escaping_is_a_code` says this of all texts, and of the labels and titles of a page.  Which messages
have them, and why the blocks of a page are those messages, is the matter of
`DiagnosticPage.Proofs.Page.Attribution`.
-/

namespace DiagnosticPage

open Text (Entity)

/-- In the section of the file `main`, the label in the block of a message is decoded to the file of
that message as it is shown, and the title to its path; a message of the section's own file has
neither of them. -/
structure DecodesToPath (o : Options) (main : String) (block : List Char) (m : Message) : Prop where
  labels : (labelTextsIn block).map Text.decode =
    if m.path = main then [] else [(o.shownPath m.path).toList]
  titles : (titleTextsIn block).map Text.decode = if m.path = main then [] else [m.path.toList]

/-- The paths in the block of a message are decoded in every section. -/
lemma Message.decodesToPath (o : Options) (main : String) (m : Message) :
    DecodesToPath o main (m.markup o (m.path != main)).write m := by
  refine ⟨?_, ?_⟩
  · rw [labelTextsIn_write_markup]
    by_cases h : m.path = main <;> simp [h, Text.decode_escape]
  · rw [titleTextsIn_write_markup]
    by_cases h : m.path = main <;> simp [h, Text.decode_escape]

/-- Escaped text has none of the characters that delimit tags and attribute values, every ampersand
in it starts exactly one of the five reserved entities, and decoding these gives the text back; so
different texts are escaped differently.  On the page of a failed check, labels and titles are
decoded to the paths of the messages they stand with. -/
theorem escaping_is_a_code :
    (∀ s, (∀ c ∈ Text.escape s, c ≠ '<' ∧ c ≠ '>' ∧ c ≠ '"' ∧ c ≠ '\'') ∧
      (∀ before after, Text.escape s = before ++ '&' :: after →
        ∃! e, e ∈ Entity.reserved ∧ e.written <+: '&' :: after) ∧
      Text.decode (Text.escape s) = s) ∧
    Function.Injective Text.escape ∧
    ∀ (o : Options) (r : Report) (page : List Char), r.passed = false → r.content o = .ok page →
      List.Forall₂ (fun group (file : String × List Entry) =>
          List.Forall₂ (DecodesToPath o file.1) (elementsAt startsMessage group)
            (file.2.flatMap Entry.shown))
        (elementsAt "<div class=\"source-group\">".toList.isPrefixOf page) r.entriesByFile := by
  refine ⟨fun s => ?_, Text.escape_injective, ?_⟩
  · exact ⟨(Text.harmless_escape s).1, fun _ _ => Text.existsUnique_reserved_of_escape,
      Text.decode_escape s⟩
  · intro o r page hpassed h
    refine (Report.forall₂_blocks hpassed h).imp fun group file hblocks => ?_
    rw [hblocks, List.forall₂_map_left_iff, List.forall₂_same]
    exact fun m _ => m.decodesToPath o file.1

/-- A path that looks as if it had been escaped already: its ampersand is escaped once more, and no
entity is found behind that.  The path is the one that the label and the title on a page are decoded
to. -/
theorem path_that_looks_escaped :
    let path := "/work/&lt;\"<.js"
    let message : String → Message := fun path => ⟨.blame, "text", path, none, none, none, none⟩
    let r : Report := ⟨false, [⟨[message "/work/a.js", message path], none, [], []⟩]⟩
    (Text.escape path.toList = "/work/&amp;lt;&quot;&lt;.js".toList ∧
      (∃! e, e ∈ Entity.reserved ∧ e.written <+: "&amp;lt;&quot;&lt;.js".toList) ∧
      Text.decode (Text.escape path.toList) = path.toList) ∧
    ∃ page group, r.content ⟨some "/work"⟩ = .ok page ∧
      elementsAt "<div class=\"source-group\">".toList.isPrefixOf page = [group] ∧
      (elementsAt startsMessage group).map (fun block =>
          ((labelTextsIn block).map Text.decode, (titleTextsIn block).map Text.decode)) =
        [([], []), (["&lt;\"<.js".toList], [path.toList])] := by
  intro path message r
  obtain ⟨htexts, -, hpages⟩ := escaping_is_a_code
  have hescape : Text.escape path.toList = "/work/&amp;lt;&quot;&lt;.js".toList := by decide
  refine ⟨⟨hescape, (htexts path.toList).2.1 "/work/".toList _ hescape, (htexts _).2.2⟩, ?_⟩
  obtain ⟨page, hpage⟩ : ∃ page, r.content ⟨some "/work"⟩ = .ok page := ⟨_, rfl⟩
  have hdecoded := hpages ⟨some "/work"⟩ r page rfl hpage
  have hfiles : r.entriesByFile = [("/work/a.js", r.errors)] := rfl
  have hshown : r.errors.flatMap Entry.shown = [message "/work/a.js", message path] := rfl
  rw [hfiles] at hdecoded
  obtain ⟨group, rest, hblocks, hnone, hgroups⟩ := List.forall₂_cons_right_iff.mp hdecoded
  obtain rfl := List.forall₂_nil_right_iff.mp hnone
  rw [hshown] at hblocks
  refine ⟨page, group, hpage, hgroups, ?_⟩
  obtain ⟨own, rest, hown, hone, hall⟩ := List.forall₂_cons_right_iff.mp hblocks
  obtain ⟨other, rest, hother, hzero, rfl⟩ := List.forall₂_cons_right_iff.mp hone
  obtain rfl := List.forall₂_nil_right_iff.mp hzero
  have hlabel : Options.shownPath ⟨some "/work"⟩ path = "&lt;\"<.js" := by decide
  have hne : path ≠ "/work/a.js" := by decide
  rw [hall]
  simp [hown.labels, hown.titles, hother.labels, hother.titles, message, hlabel, hne]

end DiagnosticPage
