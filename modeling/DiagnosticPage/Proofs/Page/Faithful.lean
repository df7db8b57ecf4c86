import DiagnosticPage.Proofs.Bundle.Normalization
import DiagnosticPage.Proofs.Group.FirstAppearance
import DiagnosticPage.Proofs.Page.Content
import DiagnosticPage.Proofs.Page.Views

/-!
# Different reports have different pages

Two bundles are written alike exactly if they look alike, and so are two reports.  The notice of a
passed check is not the content of any other page, and there is one report of a failed check whose
page has no content.
-/

namespace DiagnosticPage

namespace Report

variable {o o' : Options}

/-- What is seen of the report of a failed check: the views of its groups. -/
def views (o : Options) (r : Report) : Except Bundle.Fault (List GroupView) :=
  (Bundle.ofEntries r.errors).map fun bs => (Group.ofBundles bs).map (Group.view o)

/-- Sections start at a tag. -/
lemma atTag_write_section (o : Options) (g : Group) (s : List Char) :
    AtTag ((g.markup o).write ++ s) :=
  atTag_write_element_append .sourceGroup _ s

/-- Sections are written alike exactly if they look alike. -/
theorem writeAll_sections_inj (bs bs' : List Bundle) :
    Markup.writeAll (sections o bs) = Markup.writeAll (sections o' bs') ↔
      (Group.ofBundles bs).map (Group.view o) = (Group.ofBundles bs').map (Group.view o') := by
  have hend : ∀ (o : Options) (g : Group) (u : List Char), [] ≠ (g.markup o).write ++ u := by
    intro o g u h
    obtain ⟨v, hv⟩ := atTag_write_section o g u
    rw [hv] at h
    cases h
  have hlines := Markup.intersperse_append_inj (atTag_write_section o) (atTag_write_section o')
    Group.write_markup_append_inj (hend o') (hend o) (Group.ofBundles bs) (Group.ofBundles bs')
  unfold sections
  simpa using hlines

/-- Without bundles there is no section, and with some there is a first one. -/
lemma writeAll_sections_cases (o : Options) (bs : List Bundle) :
    (bs = [] ∧ Markup.writeAll (sections o bs) = []) ∨
      (bs ≠ [] ∧ ∃ s, Markup.writeAll (sections o bs) = Element.sourceGroup.openingTag ++ s) := by
  cases bs with
  | nil => exact Or.inl ⟨rfl, rfl⟩
  | cons b bs =>
    refine Or.inr ⟨by simp, ?_⟩
    rw [sections, Group.ofBundles_cons, List.map_cons]
    generalize (Group.ofBundles _).map (Group.markup o) = rest
    obtain ⟨s, hs⟩ : ∃ s, Markup.writeAll ((Group.markup o ⟨b.primaryPath,
        b :: bs.filter fun c => c.primaryPath = b.primaryPath⟩ :: rest).intersperse .lineBreak) =
        (Group.markup o ⟨b.primaryPath,
          b :: bs.filter fun c => c.primaryPath = b.primaryPath⟩).write ++ s := by
      cases rest <;> exact ⟨_, rfl⟩
    exact ⟨_, hs.trans (Group.write_markup o _ s)⟩

/-- The sections of a page are not the notice of a passed check. -/
lemma writeAll_sections_ne_noErrors (o : Options) (bs : List Bundle) :
    Markup.writeAll (sections o bs) ≠ Markup.writeAll [noErrors] := by
  have hnotice : Markup.writeAll [noErrors] =
      Element.heading.openingTag ++ "No errors</h1>".toList := rfl
  rw [hnotice]
  rcases writeAll_sections_cases o bs with ⟨-, hs⟩ | ⟨-, s, hs⟩
  · rw [hs]
    exact stopsBefore_nil .heading _
  · rw [hs]
    exact stopsBefore_openingTag_append (by simp) s _

/-- The content of a page is the notice exactly if the check passed. -/
lemma content_eq_noErrors_iff (o : Options) (r : Report) :
    r.content o = .ok (Markup.writeAll [noErrors]) ↔ r.passed = true := by
  constructor
  · intro h
    by_contra hpassed
    rw [Bool.not_eq_true] at hpassed
    obtain ⟨bs, -, hbs⟩ := (content_eq_ok_iff hpassed _).mp h
    exact writeAll_sections_ne_noErrors o bs hbs
  · exact content_of_passed o

/-- A page has no content exactly if the check failed without an error. -/
lemma content_eq_nil_iff (o : Options) (r : Report) :
    r.content o = .ok [] ↔ r.passed = false ∧ r.errors = [] := by
  constructor
  · intro h
    cases hpassed : r.passed with
    | true =>
      rw [content_of_passed o hpassed] at h
      exact absurd (Except.ok.inj h) (by decide)
    | false =>
      obtain ⟨bs, hok, hbs⟩ := (content_eq_ok_iff hpassed _).mp h
      rcases writeAll_sections_cases o bs with ⟨rfl, -⟩ | ⟨-, s, hs⟩
      · have hall := (mapM_eq_ok_iff Bundle.ofEntry r.errors []).mp hok
        exact ⟨rfl, List.forall₂_nil_right_iff.mp hall⟩
      · exact absurd (hbs.symm.trans hs) (stopsBefore_nil .sourceGroup s)
  · rintro ⟨hpassed, herrors⟩
    rw [content_of_failed o hpassed, herrors]
    rfl

end Report

/-- Bundles are written alike exactly if they look alike.  So are reports of failed checks, and
those of passed checks are written alike in any case; the notice is the content of passed checks
only, and no content is that of failed checks without errors only. -/
theorem written_alike_iff_seen_alike :
    (∀ (o o' : Options) (b b' : Bundle),
      Markup.writeAll (b.markup o) = Markup.writeAll (b'.markup o') ↔ b.view o = b'.view o') ∧
    (∀ (o o' : Options) (r r' : Report) (page page' : List Char),
      r.content o = .ok page → r'.content o' = .ok page' →
        (page = page' ↔ (r.passed = true ∧ r'.passed = true) ∨
          (r.passed = false ∧ r'.passed = false ∧ r.views o = r'.views o'))) ∧
    (∀ (o : Options) (r : Report),
      r.content o = .ok "<h1>No errors</h1>".toList ↔ r.passed = true) ∧
    (∀ (o : Options) (r : Report),
      r.content o = .ok [] ↔ r.passed = false ∧ r.errors = []) := by
  refine ⟨?_, ?_, Report.content_eq_noErrors_iff, Report.content_eq_nil_iff⟩
  · intro o o' b b'
    have h : Markup.writeAll (b.markup o) ++ [] = Markup.writeAll (b'.markup o') ++ [] ↔
        b.view o = b'.view o' ∧ ([] : List Char) = [] :=
      Bundle.writeAll_markupIn_append_inj b b' [] []
    simpa using h
  · intro o o' r r' page page' h h'
    cases hpassed : r.passed with
    | true =>
      rw [Report.content_of_passed o hpassed] at h
      obtain rfl := Except.ok.inj h
      cases hpassed' : r'.passed with
      | true =>
        rw [Report.content_of_passed o' hpassed'] at h'
        simp [Except.ok.inj h']
      | false =>
        obtain ⟨bs', -, rfl⟩ := (Report.content_eq_ok_iff hpassed' _).mp h'
        simpa using (Report.writeAll_sections_ne_noErrors o' bs').symm
    | false =>
      obtain ⟨bs, hbs, rfl⟩ := (Report.content_eq_ok_iff hpassed _).mp h
      cases hpassed' : r'.passed with
      | true =>
        rw [Report.content_of_passed o' hpassed'] at h'
        obtain rfl := Except.ok.inj h'
        simpa using Report.writeAll_sections_ne_noErrors o bs
      | false =>
        obtain ⟨bs', hbs', rfl⟩ := (Report.content_eq_ok_iff hpassed' _).mp h'
        rw [Report.writeAll_sections_inj, Report.views, Report.views, hbs, hbs']
        simp [Except.map]

/-- A tab is not told apart from the spaces it is shown as, nor a root from none above a path that
does not lie below it; a passed check is told apart from a failed one with the same errors. -/
theorem tab_is_seen_as_spaces :
    let entry : String → Entry := fun text =>
      ⟨[⟨.blame, text, "a.js", some 3, none, some text, none⟩], none, [], []⟩
    ∃ page page' page'', Report.content {} ⟨false, [entry "\tx"]⟩ = .ok page ∧
      Report.content ⟨some "/b"⟩ ⟨false, [entry "  x"]⟩ = .ok page' ∧
      Report.content {} ⟨true, [entry "  x"]⟩ = .ok page'' ∧ page = page' ∧ page' ≠ page'' := by
  intro entry
  obtain ⟨page, h⟩ : ∃ page, Report.content {} ⟨false, [entry "\tx"]⟩ = .ok page := ⟨_, rfl⟩
  obtain ⟨page', h'⟩ : ∃ page, Report.content ⟨some "/b"⟩ ⟨false, [entry "  x"]⟩ = .ok page :=
    ⟨_, rfl⟩
  obtain ⟨page'', h''⟩ : ∃ page, Report.content {} ⟨true, [entry "  x"]⟩ = .ok page := ⟨_, rfl⟩
  obtain ⟨-, hreports, -, -⟩ := written_alike_iff_seen_alike
  refine ⟨page, page', page'', h, h', h'', ?_, ?_⟩
  · exact (hreports _ _ _ _ _ _ h h').mpr (Or.inr ⟨rfl, rfl, rfl⟩)
  · intro heq
    simpa using (hreports _ _ _ _ _ _ h' h'').mp heq

end DiagnosticPage
