import DiagnosticPage.Proofs.Bundle.NormalForm
import DiagnosticPage.Proofs.Group.FirstAppearance
import DiagnosticPage.Proofs.Page.EveryMessage
import DiagnosticPage.Proofs.Page.Views

/-!
# One more error

A page is its sections with line breaks between them, and the list of a section is its items with
line breaks between them.  `Group.sectionText` spells out a section with any number and any list in
it, and `Group.written_eq` says that the sections of a page are of this form.

An error that is added to a report is inserted into the groups of the errors before it
(`Report.groups_withError`).  Hence it makes a new last section, or adds one item to the end of the
list of the section of its file, which then counts one error more.  Nothing else on the page
changes, and no section moves.
-/

namespace DiagnosticPage

/-! ### Pieces with line breaks between them -/

/-- One more piece at the end comes with a separator before it. -/
lemma intercalate_concat {sep : List Char} {xs : List (List Char)} (hxs : xs ≠ [])
    (x : List Char) : sep.intercalate (xs ++ [x]) = sep.intercalate xs ++ sep ++ x := by
  induction xs with
  | nil => exact absurd rfl hxs
  | cons y ys ih =>
    cases ys with
    | nil => simp [List.intercalate]
    | cons z zs =>
      have hrest := ih (by simp)
      rw [List.cons_append] at hrest
      rw [List.cons_append, List.cons_append, List.intercalate_cons_cons, hrest,
        List.intercalate_cons_cons, List.append_assoc, List.append_assoc, List.append_assoc,
        List.append_assoc, List.append_assoc]

/-- Markup with line breaks in it is written with line breaks in it. -/
lemma Markup.writeAll_intersperse (ms : List Markup) :
    writeAll (ms.intersperse lineBreak) = ['\n'].intercalate (ms.map write) := by
  have hflatten : ∀ ns, writeAll ns = (ns.map write).flatten := by
    intro ns
    induction ns with
    | nil => rfl
    | cons n ns ih => rw [writeAll, ih, List.map_cons, List.flatten_cons]
  rw [hflatten, map_intersperse, write_lineBreak, List.intercalate]

/-! ### The text of a section -/

namespace Group

/-- The text of one error in the list of a section. -/
def item (o : Options) (b : Bundle) : List Char :=
  "<li class=\"error\">".toList ++ Markup.writeAll (b.markup o) ++ "</li>".toList

/-- The text of the list of a section. -/
def items (o : Options) (bs : List Bundle) : List Char :=
  ['\n'].intercalate (bs.map (item o))

/-- What stands before the shown path of a section. -/
def sectionStart : List Char :=
  ("<div class=\"source-group\">\n" ++
    "<a class=\"source\" onclick=\"collapse(this.parentNode, event)\">\n").toList

/-- What stands between the shown path of a section and its number of errors. -/
def beforeCount : List Char :=
  "\n<span class=\"count\">(".toList

/-- What stands between the number of errors of a section and their list. -/
def beforeItems : List Char :=
  " errors)</span>\n</a>\n<ul class=\"file-errors\">\n".toList

/-- What stands behind the list of a section. -/
def sectionEnd : List Char :=
  "\n</ul>\n</div>".toList

/-- The text of a section for a file, with a number of errors and a list of them. -/
def sectionText (o : Options) (path : String) (n : ℕ) (list : List Char) : List Char :=
  sectionStart ++ Text.escape (o.shownPath path).toList ++ beforeCount ++ Nat.toDigits 10 n ++
    beforeItems ++ list ++ sectionEnd

/-- The list of a section gets one more item at its end. -/
lemma items_concat (o : Options) {bs : List Bundle} (hbs : bs ≠ []) (b : Bundle) :
    items o (bs ++ [b]) = items o bs ++ '\n' :: item o b := by
  have hne : bs.map (item o) ≠ [] := by simpa using hbs
  unfold items
  rw [List.map_append, List.map_singleton, intercalate_concat hne]
  simp

/-- The items of a section are written as they are in its text. -/
lemma write_items (o : Options) (bs : List Bundle) :
    Markup.writeAll ((bs.map fun b => Markup.element .error (b.markup o)).intersperse .lineBreak) =
      items o bs := by
  have hitem : ∀ b : Bundle, (Markup.element .error (b.markup o)).write = item o b := by
    intro b
    rw [Markup.write]
    rfl
  rw [Markup.writeAll_intersperse, List.map_map, items]
  exact congrArg _ (List.map_congr_left fun b _ => hitem b)

/-- The section of a group as it is written. -/
def written (o : Options) (g : Group) : List Char :=
  (g.markup o).write

/-- A section has the shown path of its file, the number of its bundles and the list of them. -/
lemma written_eq (o : Options) (g : Group) :
    written o g = sectionText o g.source g.bundles.length (items o g.bundles) := by
  have hbreak : Text.escape ['\n'] = ['\n'] := by decide
  have hheading : Text.escape (['\n'] ++ (o.shownPath g.source).toList ++ ['\n']) =
      ['\n'] ++ Text.escape (o.shownPath g.source).toList ++ ['\n'] := by
    rw [Text.escape_append, Text.escape_append, hbreak]
  have hcount : Text.escape (countText g) =
      ['('] ++ Nat.toDigits 10 g.bundles.length ++ " errors)".toList :=
    escape_count g.bundles.length
  have hstart : sectionStart = Element.sourceGroup.openingTag ++
      '\n' :: (Element.source.openingTag ++ ['\n']) := by decide
  have hnumber : beforeCount = '\n' :: (Element.count.openingTag ++ ['(']) := by decide
  have hlist : beforeItems = " errors)".toList ++ (Element.count.closingTag ++
      '\n' :: (Element.source.closingTag ++
        '\n' :: (Element.fileErrors.openingTag ++ ['\n']))) := by decide
  have hfinish : sectionEnd = '\n' :: (Element.fileErrors.closingTag ++
      '\n' :: Element.sourceGroup.closingTag) := by decide
  have hparts := write_markup o g []
  rw [List.append_nil] at hparts
  rw [written, hparts, headingText, hheading, hcount, write_items, sectionText, hstart, hnumber,
    hlist, hfinish]
  simp only [List.append_assoc, List.cons_append, List.nil_append, List.append_nil]

end Group

/-! ### Entries and groups -/

namespace Report

/-- The groups of the bundles of a report. -/
def groups (r : Report) : Except Bundle.Fault (List Group) :=
  (Bundle.ofEntries r.errors).map Group.ofBundles

/-- A report with one more error. -/
def withError (r : Report) (e : Entry) : Report :=
  { r with errors := r.errors ++ [e] }

/-- An error of a report is shown in the section of a file. -/
def HasErrorIn (r : Report) (path : String) : Prop :=
  ∃ e ∈ r.errors, ∃ b, Bundle.ofEntry e = .ok b ∧ b.primaryPath = path

variable {o : Options} {r : Report} {gs : List Group}

/-- The content of a failed check is there exactly if there are groups, and then it is their
sections with line breaks between them. -/
lemma content_eq_ok_iff_groups (hpassed : r.passed = false) (page : List Char) :
    r.content o = .ok page ↔
      ∃ gs, r.groups = .ok gs ∧ ['\n'].intercalate (gs.map (Group.written o)) = page := by
  have hsections : ∀ bs, Markup.writeAll (sections o bs) =
      ['\n'].intercalate ((Group.ofBundles bs).map (Group.written o)) := by
    intro bs
    rw [sections, Markup.writeAll_intersperse, List.map_map]
    rfl
  rw [content_eq_ok_iff hpassed, groups]
  cases Bundle.ofEntries r.errors <;> simp [Except.map, hsections]

/-- A report has groups exactly if each of its errors has a bundle. -/
lemma groups_eq_ok_iff :
    r.groups = .ok gs ↔ ∃ bs, List.Forall₂ (fun e b => Bundle.ofEntry e = .ok b) r.errors bs ∧
      Group.ofBundles bs = gs := by
  have hall := mapM_eq_ok_iff Bundle.ofEntry r.errors
  unfold groups Bundle.ofEntries
  simp only [← hall]
  cases List.mapM Bundle.ofEntry r.errors <;> simp [Except.map]

/-- With one more error that has a bundle, this bundle is inserted into the groups. -/
lemma groups_withError {e : Entry} {b : Bundle} (hgs : r.groups = .ok gs)
    (hb : Bundle.ofEntry e = .ok b) : (r.withError e).groups = .ok (Group.insert b gs) := by
  obtain ⟨bs, hbs, rfl⟩ := groups_eq_ok_iff.mp hgs
  have hone : List.Forall₂ (fun e b => Bundle.ofEntry e = .ok b) [e] [b] := .cons hb .nil
  exact groups_eq_ok_iff.mpr
    ⟨bs ++ [b], List.rel_append hbs hone, Group.ofBundles_concat bs b⟩

/-- The files with an error in their section are those of the groups. -/
lemma hasErrorIn_iff (hgs : r.groups = .ok gs) (path : String) :
    r.HasErrorIn path ↔ path ∈ gs.map Group.source := by
  obtain ⟨bs, hbs, rfl⟩ := groups_eq_ok_iff.mp hgs
  rw [Group.mem_map_source_ofBundles, List.mem_map, HasErrorIn]
  clear hgs
  generalize r.errors = es at hbs
  induction hbs with
  | nil => simp
  | @cons e b es bs hb _ ih => simp [hb, ih]

/-- Without errors there are no groups, and with some there are. -/
lemma groups_eq_nil_iff (hgs : r.groups = .ok gs) : gs = [] ↔ r.errors = [] := by
  obtain ⟨bs, hbs, rfl⟩ := groups_eq_ok_iff.mp hgs
  generalize r.errors = es at hbs
  cases hbs with
  | nil => simp [Group.ofBundles]
  | cons => simp [Group.ofBundles_cons]

/-- No group of a report is empty. -/
lemma bundles_ne_nil_of_mem_groups (hgs : r.groups = .ok gs) {g : Group} (hg : g ∈ gs) :
    g.bundles ≠ [] := by
  obtain ⟨bs, -, rfl⟩ := groups_eq_ok_iff.mp hgs
  exact Group.bundles_ne_nil_of_mem_ofBundles hg

end Report

/-- One more error touches the section of its own file only.  If no error of the report is in that
file, a section with this error alone follows the others.  Otherwise the section of the file has a
number that is greater by one and a list with one more item at its end, while the sections before
it and behind it stay as they are. -/
theorem added_error_changes_own_section {o : Options} {r : Report} {page : List Char} {e : Entry}
    {b : Bundle} (hpassed : r.passed = false) (h : r.content o = .ok page)
    (hb : Bundle.ofEntry e = .ok b) :
    ∃ page', (r.withError e).content o = .ok page' ∧
      (¬ r.HasErrorIn b.primaryPath →
        page' = page ++ (if r.errors.isEmpty then [] else ['\n']) ++
          (Group.markup o ⟨b.primaryPath, [b]⟩).write) ∧
      (r.HasErrorIn b.primaryPath →
        ∃ before cs after, r.groups = .ok (before ++ ⟨b.primaryPath, cs⟩ :: after) ∧ cs ≠ [] ∧
          page = ['\n'].intercalate (before.map (Group.written o) ++
            Group.sectionText o b.primaryPath cs.length (Group.items o cs) ::
              after.map (Group.written o)) ∧
          page' = ['\n'].intercalate (before.map (Group.written o) ++
            Group.sectionText o b.primaryPath (cs.length + 1)
              (Group.items o cs ++ '\n' :: Group.item o b) ::
              after.map (Group.written o))) := by
  obtain ⟨gs, hgs, rfl⟩ := (Report.content_eq_ok_iff_groups hpassed page).mp h
  have hmore := Report.groups_withError hgs hb
  have hpage := (Report.content_eq_ok_iff_groups (o := o) (r := r.withError e) hpassed _).mpr
    ⟨_, hmore, rfl⟩
  refine ⟨_, hpage, ?_, ?_⟩
  · intro hnone
    rw [Report.hasErrorIn_iff hgs] at hnone
    rcases Group.insert_cases b gs with ⟨-, hinsert⟩ | ⟨before, cs, after, rfl, -⟩
    · rw [hinsert, List.map_append, List.map_singleton]
      by_cases hempty : r.errors = []
      · obtain rfl := (Report.groups_eq_nil_iff hgs).mpr hempty
        simp [hempty, Group.written]
      · have hne : gs.map (Group.written o) ≠ [] := by
          simpa [Report.groups_eq_nil_iff hgs] using hempty
        rw [intercalate_concat hne]
        simp [hempty, Group.written]
    · exact absurd (by simp) hnone
  · intro hsome
    rw [Report.hasErrorIn_iff hgs] at hsome
    rcases Group.insert_cases b gs with ⟨hnone, -⟩ | ⟨before, cs, after, rfl, hinsert⟩
    · exact absurd hsome hnone
    · have hcs : cs ≠ [] := Report.bundles_ne_nil_of_mem_groups hgs (g := ⟨b.primaryPath, cs⟩)
        (by simp)
      refine ⟨before, cs, after, hgs, hcs, ?_, ?_⟩
      · rw [List.map_append, List.map_cons, Group.written_eq]
      · rw [hinsert, List.map_append, List.map_cons, Group.written_eq, List.length_append,
          Group.items_concat o hcs]
        rfl

/-- To a page of two files, an error of the first one adds an item at the end of the first section,
and an error of a third file adds a section. -/
theorem errors_added_to_two_files :
    let bundle : String → String → Bundle := fun path text =>
      ⟨[⟨.blame, text, path, some 3, none, none, none⟩], [], []⟩
    let error : String → String → Entry := fun path text => (bundle path text).toEntry
    let r : Report := ⟨false, [error "a.js" "one", error "b.js" "two"]⟩
    let first : List Char := Group.item {} (bundle "a.js" "one")
    let second : List Char := Group.written {} ⟨"b.js", [bundle "b.js" "two"]⟩
    ∃ page page' page'', r.content {} = .ok page ∧
      (r.withError (error "a.js" "more")).content {} = .ok page' ∧
      (r.withError (error "c.js" "more")).content {} = .ok page'' ∧
      page = ['\n'].intercalate [Group.sectionText {} "a.js" 1 first, second] ∧
      page' = ['\n'].intercalate [Group.sectionText {} "a.js" 2
        (first ++ '\n' :: Group.item {} (bundle "a.js" "more")), second] ∧
      page'' = page ++ ['\n'] ++ Group.written {} ⟨"c.js", [bundle "c.js" "more"]⟩ := by
  intro bundle error r first second
  have hgroups : r.groups =
      .ok [⟨"a.js", [bundle "a.js" "one"]⟩, ⟨"b.js", [bundle "b.js" "two"]⟩] :=
    rfl
  obtain ⟨page, hpage⟩ : ∃ page, r.content {} = .ok page :=
    ⟨_, (Report.content_eq_ok_iff_groups rfl _).mpr ⟨_, hgroups, rfl⟩⟩
  have hbundle : ∀ path, Bundle.ofEntry (error path "more") = .ok (bundle path "more") :=
    fun path => rfl
  have hfiles := Report.hasErrorIn_iff hgroups
  obtain ⟨page', hpage', -, hlonger⟩ :=
    added_error_changes_own_section rfl hpage (hbundle "a.js")
  obtain ⟨page'', hpage'', hnew, -⟩ :=
    added_error_changes_own_section rfl hpage (hbundle "c.js")
  have hown : r.HasErrorIn (bundle "a.js" "more").primaryPath := (hfiles "a.js").mpr (by simp)
  have hother : ¬ r.HasErrorIn (bundle "c.js" "more").primaryPath := fun h =>
    absurd ((hfiles "c.js").mp h) (by simp)
  obtain ⟨before, cs, after, hsplit, -, hold, hmore⟩ := hlonger hown
  have hgroup : before = [] ∧ cs = [bundle "a.js" "one"] ∧
      after = [⟨"b.js", [bundle "b.js" "two"]⟩] := by
    have hlist := Except.ok.inj (hgroups.symm.trans hsplit)
    rw [show (bundle "a.js" "more").primaryPath = "a.js" from rfl] at hlist
    -- the second group is that of another file
    cases before with
    | nil => simpa [eq_comm] using hlist
    | cons g before => cases before <;> simp at hlist
  obtain ⟨rfl, rfl, rfl⟩ := hgroup
  simp only [Group.items, List.map_nil, List.map_cons, List.nil_append,
    List.intercalate_singleton] at hold hmore
  exact ⟨page, page', page'', hpage, hpage', hpage'', hold, hmore, hnew hother⟩

end DiagnosticPage
