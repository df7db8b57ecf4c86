import DiagnosticPage.CommandLine.Run
import DiagnosticPage.Proofs.Template.Splitting

/-!
# The place of the content in a template

A template is its text without the first marker in it (`Template.ofSource?_eq_some_iff`), and the
content stands between the two parts of this text.  Neither is looked at again, so a marker in the
content or behind the first one stays, and a page and its template determine the content
(`Template.fill_inj`).  What a report has for content is therefore all that its page depends on.
-/

namespace DiagnosticPage

namespace Template

/-- The marker is not empty. -/
lemma contentMarker_ne_nil : contentMarker ≠ [] := by
  decide

/-- A text is no template exactly if no marker stands in it. -/
lemma ofSource?_eq_none_iff (source : List Char) :
    ofSource? source = none ↔ ¬ contentMarker <:+: source := by
  rw [ofSource?, Option.map_eq_none_iff, splitAtFirst_eq_none_iff contentMarker_ne_nil]

/-- A template has the parts of its text around the first marker. -/
lemma ofSource?_eq_some_iff (source : List Char) (t : Template) :
    ofSource? source = some t ↔ IsFirst contentMarker source t.before t.after := by
  rw [ofSource?, Option.map_eq_some_iff, ← splitAtFirst_eq_some_iff contentMarker_ne_nil]
  constructor
  · rintro ⟨⟨before, after⟩, h, rfl⟩
    exact h
  · intro h
    exact ⟨(t.before, t.after), h, rfl⟩

/-- A page and its template determine the content. -/
lemma fill_inj (t : Template) {content content' : List Char} :
    t.fill content = t.fill content' ↔ content = content' := by
  rw [fill, fill, List.append_left_inj, List.append_right_inj]

end Template

/-- Reports have the same page in a template exactly if they have the same content, or the same
fault. -/
lemma Report.page_eq_page_iff (t : Template) (o o' : Options) (r r' : Report) :
    r.page o t = r'.page o' t ↔ r.content o = r'.content o' := by
  unfold Report.page
  cases r.content o <;> cases r'.content o' <;> simp [Except.map, t.fill_inj]

/-- A file that is a text fails as a template exactly if no marker stands in it. -/
lemma CommandLine.readTemplate_eq_invalid_iff {r : Request} {path source : String} {b : ByteArray}
    (hpath : r.template = some path) (hb : String.fromUTF8? b = some source) :
    readTemplate r (.bytes b) = .error ⟨"Invalid template: " ++ path, Failure.noMarker.causes⟩ ↔
      ¬ contentMarker <:+: source.toList := by
  rw [← Template.ofSource?_eq_none_iff]
  cases h : Template.ofSource? source.toList <;> simp [readTemplate, hpath, hb, h]

namespace Template

/-- A text without a marker is no template, and a run that is given one fails for that reason.  In
every other text the content takes the place of the first marker, and nothing else in the text and
nothing in the content is replaced.  So no two contents have the same page, and no two reports with
different contents have one. -/
theorem content_takes_place_of_first_marker :
    (∀ source, ofSource? source = none ↔ ¬ contentMarker <:+: source) ∧
    (∀ (r : CommandLine.Request) (path source : String) (b : ByteArray), r.template = some path →
      String.fromUTF8? b = some source →
      (CommandLine.readTemplate r (.bytes b) = .error ⟨"Invalid template: " ++ path,
          ["Template does not contain the %content% marker"]⟩ ↔
        ¬ contentMarker <:+: source.toList)) ∧
    (∀ source, contentMarker <:+: source → ∃ t before after, ofSource? source = some t ∧
      IsFirst contentMarker source before after ∧
      ∀ content, t.fill content = before ++ content ++ after) ∧
    (∀ (t : Template) (content content' : List Char),
      t.fill content = t.fill content' ↔ content = content') ∧
    ∀ (t : Template) (o o' : Options) (r r' : Report),
      r.page o t = r'.page o' t ↔ r.content o = r'.content o' := by
  refine ⟨ofSource?_eq_none_iff, fun r path source b hpath hb => ?_, fun source hmarker => ?_,
    fun t content content' => t.fill_inj, Report.page_eq_page_iff⟩
  · exact CommandLine.readTemplate_eq_invalid_iff hpath hb
  · cases h : ofSource? source with
    | none => exact absurd hmarker ((ofSource?_eq_none_iff source).mp h)
    | some t =>
      exact ⟨t, t.before, t.after, rfl, (ofSource?_eq_some_iff source t).mp h, fun content => rfl⟩

/-- A marker may begin where another one breaks off and end where another one would begin, and what
is short of the last character of a marker is none. -/
theorem markers_that_overlap :
    (contentMarker <:+: "%con%%content%content%".toList ∧
      ∃ t, ofSource? "%con%%content%content%".toList = some t ∧
        ∀ content, t.fill content = "%con%".toList ++ content ++ "content%".toList) ∧
    CommandLine.readTemplate { template := some "t" } (.bytes "%%content".toUTF8) =
      .error ⟨"Invalid template: t", ["Template does not contain the %content% marker"]⟩ := by
  obtain ⟨-, hinvalid, hfirst, -⟩ := content_takes_place_of_first_marker
  have hmarker : contentMarker <:+: "%con%%content%content%".toList :=
    ⟨"%con%".toList, "content%".toList, by decide⟩
  have hsplit : splitAtFirst contentMarker "%con%%content%content%".toList =
      some ("%con%".toList, "content%".toList) := by decide
  obtain ⟨t, before, after, ht, hparts, hfill⟩ := hfirst _ hmarker
  rw [← splitAtFirst_eq_some_iff contentMarker_ne_nil, hsplit] at hparts
  obtain ⟨rfl, rfl⟩ := Prod.mk.inj (Option.some.inj hparts)
  have htext : String.fromUTF8? "%%content".toUTF8 = some "%%content" := by decide
  exact ⟨⟨hmarker, t, ht, hfill⟩,
    (hinvalid { template := some "t" } "t" "%%content" _ rfl htext).mpr (by decide)⟩

end Template

end DiagnosticPage
