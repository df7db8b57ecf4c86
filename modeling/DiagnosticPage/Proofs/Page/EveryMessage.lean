import DiagnosticPage.Proofs.Page.Elements

/-!
# Every message is on the page, once and in order

The text of a page holds the messages of the report, and nothing else in it looks like a message.
They stand in the order of the files, of the entries in a file, and of the nodes in an entry.  The
other elements are counted by the nodes of the entries, and every section tells the number of its
errors.

What is found and counted in the text is found and counted in the markup, which is that of the
bundles; `Report.forall₂_ofBundles` takes it from there to the entries, file by file.
-/

namespace DiagnosticPage

open Markup (found markOf total writeAll)

/-! ### Marks in the text of a page -/

/-- The elements that are counted in a page. -/
def countedElements : List Element :=
  [.theError, .errorGroup, .extra, .child, .error, .sourceGroup, .count]

/-- The elements that are counted do not lie within messages, the highlight apart. -/
lemma outsideMessages_markOf {e : Element} (he : e ∈ countedElements) :
    OutsideMessages (markOf e) := by
  simp only [countedElements, List.mem_cons, List.not_mem_nil, or_false] at he
  rcases he with rfl | rfl | rfl | rfl | rfl | rfl | rfl <;> constructor <;> simp [markOf]

/-- What stands around bundles does not count in their nodes. -/
lemma sum_nodeTotal_markOf_eq_zero {e : Element}
    (he : e ∉ [.theError, .errorGroup, .extra, .child]) (bs : List Bundle) :
    (bs.map (Bundle.nodeTotal (markOf e))).sum = 0 := by
  simp only [List.mem_cons, List.not_mem_nil, or_false, not_or] at he
  obtain ⟨hhighlight, hgroup, hextra, hchild⟩ := he
  have hnone : Bundle.nodeTotal (markOf e) = fun _ => 0 := by
    funext b
    simp [Bundle.nodeTotal, markOf, Ne.symm hhighlight, Ne.symm hgroup, Ne.symm hextra,
      Ne.symm hchild]
  simp [hnone]

/-- The class of bundles, as it stands in a tag. -/
def bundleClass : List Char :=
  "class=\"error-group\"".toList

/-- The class of bundles does not stand in a tag with another class and with a value that
varies. -/
lemma occurrences_bundleClass_eq_zero (rest : List Char) {value : List Char} (hrest : 'c' ∉ rest)
    (hother : ∀ t, bundleClass.isPrefixOf ('c' :: (rest ++ t)) = false) (hvalue : '"' ∉ value) :
    occurrences bundleClass ("<span ".toList ++ 'c' :: (rest ++ (value ++ valueEnd))) = 0 := by
  have hend : occurrences bundleClass (value ++ valueEnd) = 0 := by
    refine occurrences_eq_zero (c := '"') ?_
    rw [List.count_append, List.count_eq_zero_of_not_mem hvalue]
    decide
  have hlead : occurrences bundleClass ("<span ".toList ++ 'c' :: (rest ++ (value ++ valueEnd))) =
      occurrences bundleClass ('c' :: (rest ++ (value ++ valueEnd))) :=
    occurrences_append_of_notMem (by decide) _
  have hbehind : occurrences bundleClass (rest ++ (value ++ valueEnd)) =
      occurrences bundleClass (value ++ valueEnd) :=
    occurrences_append_of_notMem hrest _
  rw [hlead, occurrences_cons, hother, hbehind, hend]
  rfl

/-- The class of bundles stands in the tags of bundles alone. -/
lemma occurrences_bundleClass (e : Element) :
    occurrences bundleClass e.openingTag = markOf .errorGroup e := by
  cases e using Element.casesByTag with
  | fixed e he =>
    have hall : ∀ e ∈ Element.fixedElements,
        occurrences bundleClass e.openingTag = markOf .errorGroup e := by decide
    exact hall e he
  | numbered n =>
    have hdigits := (Text.harmless_escape (Nat.toDigits 10 n.toNat)).quote_notMem
    rw [Text.escape_toDigits] at hdigits
    rw [Element.openingTag_message_some, List.append_assoc]
    exact occurrences_bundleClass_eq_zero "lass=\"message line-".toList (by decide)
      (fun _ => rfl) hdigits
  | titled title =>
    have hvalue := (Text.harmless_escape title.toList).quote_notMem
    rw [Element.openingTag_line_some, List.append_assoc]
    exact occurrences_bundleClass_eq_zero "lass=\"line\" title=\"".toList (by decide)
      (fun _ => rfl) hvalue

/-! ### The heading of a section -/

namespace Group

/-- The number of errors as it stands in the heading of a section. -/
def errorCount (n : ℕ) : List Char :=
  "<span class=\"count\">".toList ++ (['('] ++ Nat.toDigits 10 n ++ " errors)".toList) ++
    "</span>".toList

/-- The number of errors needs no escaping. -/
lemma escape_count (n : ℕ) :
    Text.escape (['('] ++ Nat.toDigits 10 n ++ " errors)".toList) =
      ['('] ++ Nat.toDigits 10 n ++ " errors)".toList := by
  have hstart : Text.escape ['('] = ['('] := by decide
  have hend : Text.escape " errors)".toList = " errors)".toList := by decide
  rw [Text.escape_append, Text.escape_append, Text.escape_toDigits, hstart, hend]

/-- The element with the number of errors is written as it is. -/
lemma write_count (n : ℕ) :
    (Markup.element .count [.text (['('] ++ Nat.toDigits 10 n ++ " errors)".toList)]).write =
      errorCount n := by
  rw [Markup.write, Markup.writeAll, Markup.write, Markup.writeAll, escape_count, List.append_nil]
  rfl

/-- A section is found as a whole, and no other section in it. -/
lemma found_sourceGroup (o : Options) (g : Group) :
    found Element.sourceGroup.openingTag.isPrefixOf [g.markup o] = [(g.markup o).write] := by
  refine Markup.found_eq_singleton (by simp [Element.isPrefixOf_openingTag]) ?_
  rw [Element.mark_isPrefixOf]
  refine (total_markup o (outsideMessages_markOf (by decide)) g).trans ?_
  simp [sum_nodeTotal_markOf_eq_zero, markOf]

/-- There is one number of errors in a section, which tells how many there are. -/
lemma elementsAt_count (o : Options) (g : Group) :
    elementsAt Element.count.openingTag.isPrefixOf (g.markup o).write =
      [errorCount g.bundles.length] := by
  have herrors : found Element.count.openingTag.isPrefixOf
      (g.bundles.map fun b => .element .error (b.markup o)) = [] := by
    refine Markup.found_eq_nil ?_
    rw [Element.mark_isPrefixOf, total_errors o (outsideMessages_markOf (by decide))]
    simp [sum_nodeTotal_markOf_eq_zero, markOf]
  rw [elementsAt_write Element.count.openingTest_openingTag, ← write_count]
  simp [markup, Markup.found_element, Element.isPrefixOf_openingTag, herrors]

/-- A section has as many errors as there are bundles in its group. -/
lemma occurrences_error (o : Options) (g : Group) :
    occurrences Element.error.openingTag (g.markup o).write = g.bundles.length := by
  rw [write_eq_writeAll, occurrences_openingTag,
    total_markup o (outsideMessages_markOf (by decide))]
  simp [sum_nodeTotal_markOf_eq_zero, markOf]

end Group

/-! ### From the sections to the entries -/

namespace Report

/-- The files of a report in order of first appearance, each with its entries in their order. -/
def entriesByFile (r : Report) : List (String × List Entry) :=
  (r.errors.map Entry.primaryPath).eraseDups.map fun path =>
    (path, r.errors.filter fun e => e.primaryPath = path)

/-- A section shows the entries of a file. -/
def IsSectionOf (g : Group) (file : String × List Entry) : Prop :=
  (∀ b ∈ g.bundles, b.primaryPath = file.1) ∧ List.Forall₂ Bundle.IsBundleOf g.bundles file.2

/-- The sections of a page show the entries of the files, in order of first appearance. -/
theorem forall₂_ofBundles {r : Report} {bs : List Bundle}
    (h : List.Forall₂ Bundle.IsBundleOf bs r.errors) :
    List.Forall₂ IsSectionOf (Group.ofBundles bs) r.entriesByFile := by
  have hpath : ∀ b e, Bundle.IsBundleOf b e → b.primaryPath = e.primaryPath :=
    fun b e hb => hb.isNodeOf.primaryPath_eq
  unfold entriesByFile
  rw [Group.ofBundles_eq, map_eq_map_of_forall₂ hpath h, List.forall₂_map_left_iff,
    List.forall₂_map_right_iff, List.forall₂_same]
  intro path _
  refine ⟨fun b hb => by simpa using (List.mem_filter.mp hb).2, ?_⟩
  refine List.rel_filter (fun b e hb => ?_) h
  simp [hpath b e hb]

/-- The messages of a section are those of the entries of its file. -/
lemma IsSectionOf.flatMap_messages {g : Group} {file : String × List Entry}
    (h : IsSectionOf g file) (o : Options) :
    (g.bundles.flatMap fun b => b.nodes.flatMap fun n =>
        n.messages.map fun m => (m.markup o (m.path != b.primaryPath)).write) =
      file.2.flatMap fun e => e.shown.map fun m => (m.markup o (m.path != file.1)).write := by
  obtain ⟨hpath, hentries⟩ := h
  have hshown : ∀ b e, Bundle.IsBundleOf b e →
      (b.nodes.flatMap fun n =>
        n.messages.map fun m => (m.markup o (m.path != file.1)).write) =
      e.shown.map fun m => (m.markup o (m.path != file.1)).write := fun b e hb => by
    rw [Entry.shown, List.map_flatMap, List.flatMap_def, List.flatMap_def,
      map_eq_map_of_forall₂ (fun n n' hn => by rw [hn.messages_eq]) (Bundle.forall₂_nodes b e hb)]
  calc _ = g.bundles.flatMap fun b => b.nodes.flatMap fun n =>
        n.messages.map fun m => (m.markup o (m.path != file.1)).write :=
      List.flatMap_congr fun b hb => by rw [hpath b hb]
    _ = _ := by
      rw [List.flatMap_def, List.flatMap_def, map_eq_map_of_forall₂ hshown hentries]

variable (o : Options) (bs : List Bundle)

/-- The elements that are counted in the sections of a page are counted by sections, by errors and
by nodes. -/
lemma total_markOf_sections {e : Element} (he : e ∈ countedElements) :
    total (markOf e) (sections o bs) =
      (Group.ofBundles bs).length *
          (markOf e .sourceGroup + markOf e .source + markOf e .count + markOf e .fileErrors) +
        bs.length * markOf e .error +
        ((Bundle.nodesAll bs).map fun b => markOf e .errorGroup +
          b.messages.length * markOf e .theError + b.extras.length * markOf e .extra +
          b.children.length * markOf e .child).sum :=
  total_sections o (outsideMessages_markOf he) bs

/-- The sections of a page are found in their order. -/
lemma elementsAt_sections :
    elementsAt Element.sourceGroup.openingTag.isPrefixOf (writeAll (sections o bs)) =
      (Group.ofBundles bs).map fun g => (g.markup o).write := by
  rw [elementsAt_writeAll Element.sourceGroup.openingTest_openingTag, sections,
    Markup.found_intersperse, List.map_eq_flatMap, Markup.found_flatMap, List.map_eq_flatMap]
  exact List.flatMap_congr fun g _ => g.found_sourceGroup o

end Report

/-- The messages in the page of a failed check are those of its report, each once: for every file
in order of first appearance, for every entry of it in their order, node by node.  The other
elements are as many as the entries have parts, and every section tells how many errors it has. -/
theorem content_shows_every_message_once {o : Options} {r : Report} {page : List Char}
    (hpassed : r.passed = false) (h : r.content o = .ok page) :
    (elementsAt startsMessage page = r.entriesByFile.flatMap fun file =>
      file.2.flatMap fun e => e.shown.map fun m => (m.markup o (m.path != file.1)).write) ∧
    occurrences "<span class=\"theError\">".toList page =
      ((Entry.nodesAll r.errors).map fun e => e.statements.countP fun m => !m.isComment).sum ∧
    occurrences "class=\"error-group\"".toList page = (Entry.nodesAll r.errors).length ∧
    occurrences "<span class=\"extra\">".toList page =
      ((Entry.nodesAll r.errors).map fun e => e.extra.length).sum ∧
    occurrences "<span class=\"child\">".toList page =
      ((Entry.nodesAll r.errors).map fun e => e.children.length).sum ∧
    occurrences "<li class=\"error\">".toList page = r.errors.length ∧
    occurrences "<div class=\"source-group\">".toList page =
      (r.errors.map Entry.primaryPath).eraseDups.length ∧
    ((elementsAt "<div class=\"source-group\">".toList.isPrefixOf page).map fun group =>
      (elementsAt "<span class=\"count\">".toList.isPrefixOf group,
        occurrences "<li class=\"error\">".toList group)) =
      r.entriesByFile.map fun file => ([Group.errorCount file.2.length], file.2.length) := by
  obtain ⟨bs, hbs, rfl⟩ := (Report.content_eq_ok_iff hpassed page).mp h
  have hbundles := Bundle.areBundlesOf_of_ofEntries hbs
  have hnodes := Bundle.forall₂_nodesAll bs r.errors hbundles
  have hsections := Report.forall₂_ofBundles hbundles.forall₂
  refine ⟨?_, ?_, ?_, ?_, ?_, ?_, ?_, ?_⟩
  · rw [elementsAt_writeAll openingTest_startsMessage, Report.found_sections, List.flatMap_def,
      List.flatMap_def]
    exact congrArg List.flatten
      (map_eq_map_of_forall₂ (fun g file hg => hg.flatMap_messages o) hsections)
  · have hmessages := map_eq_map_of_forall₂
      (fun b e hb => Bundle.length_of_foldComments (Bundle.IsNodeOf.foldComments_eq hb)) hnodes
    refine (occurrences_openingTag .theError _).trans ?_
    rw [Report.total_markOf_sections o bs (by decide), ← hmessages]
    simp [markOf]
  · refine (occurrences_writeAll (p := bundleClass) (by decide) (by decide) (by decide) _).trans ?_
    rw [funext occurrences_bundleClass, Report.total_markOf_sections o bs (by decide),
      ← hnodes.length_eq]
    simp [markOf]
  · have hextras := map_eq_map_of_forall₂ (fun b e hb => Bundle.IsNodeOf.length_extras hb) hnodes
    refine (occurrences_openingTag .extra _).trans ?_
    rw [Report.total_markOf_sections o bs (by decide), ← hextras]
    simp [markOf]
  · have hchildren := map_eq_map_of_forall₂
      (fun b e hb => Bundle.IsNodeOf.length_children hb) hnodes
    refine (occurrences_openingTag .child _).trans ?_
    rw [Report.total_markOf_sections o bs (by decide), ← hchildren]
    simp [markOf]
  · refine (occurrences_openingTag .error _).trans ?_
    rw [Report.total_markOf_sections o bs (by decide), ← hbundles.forall₂.length_eq]
    simp [markOf]
  · refine (occurrences_openingTag .sourceGroup _).trans ?_
    rw [Report.total_markOf_sections o bs (by decide), hsections.length_eq]
    simp [markOf, Report.entriesByFile]
  · have hsection : ∀ g file, Report.IsSectionOf g file →
        (elementsAt Element.count.openingTag.isPrefixOf (g.markup o).write,
          occurrences Element.error.openingTag (g.markup o).write) =
        ([Group.errorCount file.2.length], file.2.length) := fun g file hg => by
      rw [g.elementsAt_count o, g.occurrences_error o, hg.2.length_eq]
    refine (congrArg (List.map _) (Report.elementsAt_sections o bs)).trans ?_
    rw [List.map_map]
    exact map_eq_map_of_forall₂ hsection hsections

/-- A message that reads like a tag, a note on it, and a file that comes up again: the page still
has five messages, those of the first file before those of the second one. -/
theorem messages_of_two_files :
    let message : String → String → Message := fun text path =>
      ⟨.blame, text, path, some 3, none, none, none⟩
    let note : Message := ⟨.comment, "note", "", none, none, none, none⟩
    let inner : Entry := ⟨[message "inner" "a.js"], none, [], []⟩
    let r : Report := ⟨false, [
      ⟨[message "<span class=\"message\">" "a.js", note], none, [inner], []⟩,
      ⟨[message "cause" "b.js"], some (message "operation" "c.js"), [], []⟩,
      ⟨[message "last" "a.js"], none, [], []⟩]⟩
    ∃ page, r.content {} = .ok page ∧
      elementsAt startsMessage page = [
        ((message "<span class=\"message\">. note" "a.js").markup {} false).write,
        ((message "inner" "a.js").markup {} false).write,
        ((message "last" "a.js").markup {} false).write,
        ((message "operation" "c.js").markup {} false).write,
        ((message "cause" "b.js").markup {} true).write] ∧
      occurrences "<span class=\"theError\">".toList page = 5 ∧
      occurrences "class=\"error-group\"".toList page = 4 ∧
      occurrences "<li class=\"error\">".toList page = 3 := by
  intro message note inner r
  obtain ⟨page, hpage⟩ : ∃ page, r.content {} = .ok page := ⟨_, rfl⟩
  obtain ⟨hmessages, hmarks, hgroups, -, -, herrors, -⟩ :=
    content_shows_every_message_once (r := r) rfl hpage
  exact ⟨page, hpage, hmessages.trans rfl, hmarks.trans rfl, hgroups.trans rfl, herrors.trans rfl⟩

end DiagnosticPage
