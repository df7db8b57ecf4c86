import DiagnosticPage.Group
import Mathlib.Tactic.Common

/-!
# Groups in order of first appearance

`Group.ofBundles` adds bundles one by one to the groups that are already there.  It is described
here from the front instead: the first bundle opens a group that takes all later bundles of its
file, and the other bundles are grouped by themselves behind it (`Group.ofBundles_cons`).  Hence
there is one group for each file, in the order in which the files first occur, and it holds the
bundles of that file in their order (`Group.ofBundles_eq`).  All in all the groups hold every
bundle once (`Group.flatMap_bundles_perm`).

Seen from the end, one more bundle is inserted into the groups of those before it
(`Group.ofBundles_concat`), where it makes a new last group or the group of its file longer, and
does nothing else (`Group.insert_cases`).
-/

namespace DiagnosticPage.Group

/-- When bundles are added to groups, the first group takes those of its file and the rest of the
groups takes the others. -/
lemma foldl_insert_cons (g : Group) (gs : List Group) (bs : List Bundle) :
    bs.foldl (fun gs b => insert b gs) (g :: gs) =
      ⟨g.source, g.bundles ++ bs.filter fun b => b.primaryPath = g.source⟩ ::
        (bs.filter fun b => b.primaryPath ≠ g.source).foldl (fun gs b => insert b gs) gs := by
  induction bs generalizing g gs with
  | nil => simp
  | cons b bs ih =>
    by_cases hb : b.primaryPath = g.source
    · rw [List.foldl_cons, insert, if_pos hb.symm, ih]
      simp [hb]
    · rw [List.foldl_cons, insert, if_neg (Ne.symm hb), ih]
      simp [hb]

/-- The first bundle opens the first group, which takes all bundles of its file. -/
theorem ofBundles_cons (b : Bundle) (bs : List Bundle) :
    ofBundles (b :: bs) =
      ⟨b.primaryPath, b :: bs.filter fun c => c.primaryPath = b.primaryPath⟩ ::
        ofBundles (bs.filter fun c => c.primaryPath ≠ b.primaryPath) :=
  foldl_insert_cons ⟨b.primaryPath, [b]⟩ [] bs

/-- There is one group for each file in order of first appearance, with the bundles of the file in
their order. -/
theorem ofBundles_eq (bs : List Bundle) :
    ofBundles bs = (bs.map Bundle.primaryPath).eraseDups.map fun path =>
      ⟨path, bs.filter fun b => b.primaryPath = path⟩ := by
  match bs with
  | [] => rfl
  | b :: bs =>
    have hmap : (bs.map Bundle.primaryPath).filter (fun path => !path == b.primaryPath) =
        (bs.filter fun c => c.primaryPath ≠ b.primaryPath).map Bundle.primaryPath := by
      rw [List.filter_map]
      congr 1
      refine List.filter_congr fun c _ => ?_
      simp [Bool.beq_eq_decide_eq]
    rw [ofBundles_cons, ofBundles_eq (bs.filter fun c => c.primaryPath ≠ b.primaryPath),
      List.map_cons, List.eraseDups_cons, List.map_cons, hmap]
    congr 1
    · simp
    · refine List.map_congr_left fun path hpath => ?_
      -- a later group has another file than the first one, which therefore takes none of its
      -- bundles away
      have hne : path ≠ b.primaryPath := by
        obtain ⟨c, hc, rfl⟩ := List.mem_map.mp (List.mem_eraseDups.mp hpath)
        simpa using (List.mem_filter.mp hc).2
      rw [List.filter_cons_of_neg (by simpa using Ne.symm hne), List.filter_filter]
      congr 1
      refine List.filter_congr fun c _ => ?_
      by_cases hc : c.primaryPath = path
      · simp [hc, hne]
      · simp [hc]
termination_by bs.length
decreasing_by exact Nat.lt_succ_of_le (List.length_filter_le _ _)

/-- No bundle is lost or doubled when it is put into a group. -/
lemma flatMap_bundles_insert_perm (b : Bundle) (gs : List Group) :
    ((insert b gs).flatMap bundles).Perm (gs.flatMap bundles ++ [b]) := by
  induction gs with
  | nil => exact List.Perm.refl _
  | cons g gs ih =>
    by_cases hg : g.source = b.primaryPath
    · rw [insert, if_pos hg, List.flatMap_cons, List.flatMap_cons, List.append_assoc,
        List.append_assoc]
      exact List.Perm.append_left _ List.perm_append_comm
    · rw [insert, if_neg hg, List.flatMap_cons, List.flatMap_cons, List.append_assoc]
      exact List.Perm.append_left _ ih

/-- The groups hold all bundles, each once. -/
theorem flatMap_bundles_perm (bs : List Bundle) :
    ((ofBundles bs).flatMap bundles).Perm bs := by
  have hfold : ∀ gs : List Group,
      ((bs.foldl (fun gs b => insert b gs) gs).flatMap bundles).Perm
        (gs.flatMap bundles ++ bs) := by
    induction bs with
    | nil => intro gs; simp
    | cons b bs ih =>
      intro gs
      refine (ih (insert b gs)).trans ?_
      have hinsert := (flatMap_bundles_insert_perm b gs).append_right bs
      rwa [List.append_assoc] at hinsert
  exact hfold []

/-! ### One more bundle -/

/-- The last bundle is inserted into the groups of those before it. -/
lemma ofBundles_concat (bs : List Bundle) (b : Bundle) :
    ofBundles (bs ++ [b]) = insert b (ofBundles bs) := by
  simp [ofBundles]

/-- A bundle makes a new last group if its file has none, and becomes the last bundle of the group
of its file otherwise. -/
lemma insert_cases (b : Bundle) (gs : List Group) :
    (b.primaryPath ∉ gs.map source ∧ insert b gs = gs ++ [⟨b.primaryPath, [b]⟩]) ∨
      ∃ before cs after, gs = before ++ ⟨b.primaryPath, cs⟩ :: after ∧
        insert b gs = before ++ ⟨b.primaryPath, cs ++ [b]⟩ :: after := by
  induction gs with
  | nil => exact Or.inl ⟨by simp, rfl⟩
  | cons g gs ih =>
    obtain ⟨path, cs⟩ := g
    by_cases hpath : path = b.primaryPath
    · subst hpath
      exact Or.inr ⟨[], cs, gs, rfl, by rw [insert, if_pos rfl]; rfl⟩
    · have hinsert : insert b (⟨path, cs⟩ :: gs) = ⟨path, cs⟩ :: insert b gs := by
        rw [insert, if_neg hpath]
      rcases ih with ⟨hnone, hnew⟩ | ⟨before, ds, after, rfl, hlonger⟩
      · refine Or.inl ⟨?_, by rw [hinsert, hnew]; rfl⟩
        rw [List.map_cons, List.mem_cons, not_or]
        exact ⟨Ne.symm hpath, hnone⟩
      · exact Or.inr ⟨⟨path, cs⟩ :: before, ds, after, rfl, by rw [hinsert, hlonger]; rfl⟩

/-- The groups belong to the files of the bundles, each once, in order of first appearance. -/
lemma sources_ofBundles (bs : List Bundle) :
    (ofBundles bs).map source = (bs.map Bundle.primaryPath).eraseDups := by
  rw [ofBundles_eq, List.map_map]
  exact List.map_id _

/-- There is a group for the files of the bundles and for no others. -/
lemma mem_map_source_ofBundles (path : String) (bs : List Bundle) :
    path ∈ (ofBundles bs).map source ↔ path ∈ bs.map Bundle.primaryPath := by
  rw [sources_ofBundles, List.mem_eraseDups]

/-- No group is empty. -/
lemma bundles_ne_nil_of_mem_ofBundles {g : Group} {bs : List Bundle} (h : g ∈ ofBundles bs) :
    g.bundles ≠ [] := by
  rw [ofBundles_eq] at h
  obtain ⟨path, hpath, rfl⟩ := List.mem_map.mp h
  obtain ⟨b, hb, rfl⟩ := List.mem_map.mp (List.mem_eraseDups.mp hpath)
  exact List.ne_nil_of_mem (List.mem_filter.mpr ⟨hb, by simp⟩)

end DiagnosticPage.Group
