import DiagnosticPage.Proofs.Group.FirstAppearance
import Mathlib.Data.List.Induction
import Mathlib.Data.List.Sort

/-!
# Grouping through a map

Groups can also be collected in a map from files to bundles, provided that it keeps its files in
the order in which they came in.  `OrderedMap` asks for no more than that: what is found under a
file may be exchanged where it stands, and a file that has nothing yet is put behind all others.
`OrderedMap.group` looks up the file of each bundle and then does the one or the other.

Whatever the map is, this gives the groups of `Group.ofBundles` (`OrderedMap.group_eq`).  The
invariant is that the entries of the map are the groups of the bundles taken so far; a bundle more
keeps it, because no file has two entries.

What the groups are is said without either of the two in `IsGroupingOf`: the files, each once and in
the order of their first bundles, and under each the sublist of its bundles.
-/

namespace DiagnosticPage

/-! ### Order of first occurrence -/

/-- Leaving out values does not exchange the first occurrences of those that stay. -/
lemma idxOf_lt_of_filter {α : Type} [DecidableEq α] {p : α → Bool} {a b : α} (ha : p a = true)
    (hb : p b = true) (l : List α) (h : (l.filter p).idxOf a < (l.filter p).idxOf b) :
    l.idxOf a < l.idxOf b := by
  induction l with
  | nil => exact h
  | cons x l ih =>
    by_cases hx : p x = true
    · rw [List.filter_cons_of_pos hx] at h
      by_cases hxa : x = a
      · have hne : x ≠ b := by
          rintro rfl
          simp [hxa] at h
        rw [hxa, List.idxOf_cons_self, List.idxOf_cons_ne _ (hxa ▸ hne)]
        exact Nat.succ_pos _
      · by_cases hxb : x = b
        · simp [hxb] at h
        · rw [List.idxOf_cons_ne _ hxa, List.idxOf_cons_ne _ hxb] at h ⊢
          exact Nat.succ_lt_succ (ih (Nat.lt_of_succ_lt_succ h))
    · have hxa : x ≠ a := fun hxa => hx (hxa ▸ ha)
      have hxb : x ≠ b := fun hxb => hx (hxb ▸ hb)
      rw [List.filter_cons_of_neg hx] at h
      rw [List.idxOf_cons_ne _ hxa, List.idxOf_cons_ne _ hxb]
      exact Nat.succ_lt_succ (ih h)

/-- Without repetitions, values stand in the order in which they first occur. -/
lemma pairwise_idxOf_eraseDups {α : Type} [DecidableEq α] (l : List α) :
    l.eraseDups.Pairwise fun a b => l.idxOf a < l.idxOf b := by
  match l with
  | [] => exact List.Pairwise.nil
  | x :: l =>
    have hne : ∀ {a : α}, a ∈ (l.filter fun b => !b == x).eraseDups → x ≠ a := by
      intro a ha
      rintro rfl
      simpa using (List.mem_filter.mp (List.mem_eraseDups.mp ha)).2
    rw [List.eraseDups_cons, List.pairwise_cons]
    constructor
    · intro a ha
      rw [List.idxOf_cons_self, List.idxOf_cons_ne _ (hne ha)]
      exact Nat.succ_pos _
    · refine (pairwise_idxOf_eraseDups (l.filter fun b => !b == x)).imp_of_mem ?_
      intro a b ha hb hab
      rw [List.idxOf_cons_ne _ (hne ha), List.idxOf_cons_ne _ (hne hb)]
      refine Nat.succ_lt_succ (idxOf_lt_of_filter ?_ ?_ l hab)
      · simpa using (hne ha).symm
      · simpa using (hne hb).symm
termination_by l.length
decreasing_by exact Nat.lt_succ_of_le (List.length_filter_le _ _)

/-! ### Maps that keep their order -/

/-- A map from files to bundles that can be walked in the order in which the files came in. -/
structure OrderedMap (Map : Type) where
  empty : Map
  find? : Map → String → Option (List Bundle)
  /-- Exchanges what is found under a file. -/
  exchange : Map → String → List Bundle → Map
  /-- Adds a file under which nothing is found. -/
  insert : Map → String → List Bundle → Map
  /-- What the map holds, in order. -/
  entries : Map → List (String × List Bundle)
  entries_empty : entries empty = []
  find?_eq (m : Map) (path : String) : find? m path = (entries m).lookup path
  /-- An exchange changes the place of no entry. -/
  entries_exchange (m : Map) (path : String) (bs : List Bundle) : (find? m path).isSome →
    entries (exchange m path bs) =
      (entries m).map fun e => if e.1 = path then (path, bs) else e
  /-- A new file comes last. -/
  entries_insert (m : Map) (path : String) (bs : List Bundle) : find? m path = none →
    entries (insert m path bs) = entries m ++ [(path, bs)]

namespace OrderedMap

variable {Map : Type} (M : OrderedMap Map)

/-- Adds a bundle to those of its file, or as the first one of its file. -/
def take (m : Map) (b : Bundle) : Map :=
  match M.find? m b.primaryPath with
  | some bs => M.exchange m b.primaryPath (bs ++ [b])
  | none => M.insert m b.primaryPath [b]

/-- The groups that are collected in the map when the bundles are taken one by one. -/
def group (bs : List Bundle) : List Group :=
  (M.entries (bs.foldl M.take M.empty)).map fun e => ⟨e.1, e.2⟩

end OrderedMap

namespace Group

/-- A group as an entry of a map. -/
def toEntry (g : Group) : String × List Bundle :=
  (g.source, g.bundles)

/-- Under a file that has no group nothing is found. -/
lemma lookup_toEntry_eq_none_iff (path : String) (gs : List Group) :
    (gs.map toEntry).lookup path = none ↔ path ∉ gs.map source := by
  induction gs with
  | nil => simp
  | cons g gs ih =>
    by_cases hpath : path = g.source
    · simp [toEntry, hpath]
    · have hbeq : (path == g.source) = false := by simpa using hpath
      rw [List.map_cons, toEntry, List.lookup_cons, hbeq]
      simp [ih, hpath]

/-- A bundle whose file has no group becomes a new last group. -/
lemma insert_of_lookup_eq_none {b : Bundle} {gs : List Group}
    (h : (gs.map toEntry).lookup b.primaryPath = none) :
    insert b gs = gs ++ [⟨b.primaryPath, [b]⟩] := by
  have hnone := (lookup_toEntry_eq_none_iff _ _).mp h
  rcases insert_cases b gs with ⟨-, hinsert⟩ | ⟨before, cs, after, rfl, -⟩
  · exact hinsert
  · exact absurd (by simp) hnone

/-- A bundle whose file has a group exchanges what is found under the file, when no file has two
groups. -/
lemma toEntry_insert_of_lookup_eq_some {b : Bundle} {gs : List Group} {bs : List Bundle}
    (hsources : (gs.map source).Nodup) (h : (gs.map toEntry).lookup b.primaryPath = some bs) :
    (insert b gs).map toEntry = (gs.map toEntry).map fun e =>
      if e.1 = b.primaryPath then (b.primaryPath, bs ++ [b]) else e := by
  induction gs with
  | nil => simp at h
  | cons g gs ih =>
    obtain ⟨hnew, hrest⟩ := List.nodup_cons.mp hsources
    by_cases hg : g.source = b.primaryPath
    · -- the other groups belong to other files and stay as they are
      have hothers : (gs.map toEntry).map (fun e =>
          if e.1 = b.primaryPath then (b.primaryPath, bs ++ [b]) else e) = gs.map toEntry := by
        rw [List.map_map]
        refine List.map_congr_left fun g' hg' => if_neg ?_
        rintro (hsame : g'.source = b.primaryPath)
        exact hnew (List.mem_map.mpr ⟨g', hg', hsame.trans hg.symm⟩)
      obtain rfl : g.bundles = bs := by simpa [toEntry, hg] using h
      rw [insert, if_pos hg, List.map_cons, List.map_cons, List.map_cons, hothers]
      simp [toEntry, hg]
    · have hbeq : (b.primaryPath == g.source) = false := by simpa using Ne.symm hg
      rw [List.map_cons, toEntry, List.lookup_cons, hbeq] at h
      rw [insert, if_neg hg, List.map_cons, List.map_cons, List.map_cons, ih hrest h]
      simp [toEntry, hg]

/-- Files stand in the order in which the bundles first show them. -/
def InOrder (bs : List Bundle) (path path' : String) : Prop :=
  (bs.map Bundle.primaryPath).idxOf path < (bs.map Bundle.primaryPath).idxOf path'

/-- The groups of bundles: one for each of their files and for no other, in the order in which the
files first occur, and in each of them the sublist of its bundles. -/
structure IsGroupingOf (gs : List Group) (bs : List Bundle) : Prop where
  mem_sources_iff (path : String) : path ∈ gs.map source ↔ path ∈ bs.map Bundle.primaryPath
  sources_in_order : (gs.map source).Pairwise (InOrder bs)
  bundles_eq : ∀ g ∈ gs, g.bundles = bs.filter fun b => b.primaryPath = g.source

/-- Bundles are grouped by `ofBundles`. -/
lemma isGroupingOf_ofBundles (bs : List Bundle) : IsGroupingOf (ofBundles bs) bs where
  mem_sources_iff path := mem_map_source_ofBundles path bs
  sources_in_order := by
    rw [sources_ofBundles]
    exact pairwise_idxOf_eraseDups _
  bundles_eq := by
    intro g hg
    rw [ofBundles_eq] at hg
    obtain ⟨path, -, rfl⟩ := List.mem_map.mp hg
    rfl

namespace IsGroupingOf

variable {gs gs' : List Group} {bs : List Bundle}

/-- No file has two groups. -/
lemma nodup_sources (h : IsGroupingOf gs bs) : (gs.map source).Nodup :=
  h.sources_in_order.imp fun hlt heq => by simp [InOrder, heq] at hlt

/-- No group is empty. -/
lemma bundles_ne_nil (h : IsGroupingOf gs bs) {g : Group} (hg : g ∈ gs) : g.bundles ≠ [] := by
  obtain ⟨b, hb, hpath⟩ :=
    List.mem_map.mp ((h.mem_sources_iff g.source).mp (List.mem_map_of_mem hg))
  rw [h.bundles_eq g hg]
  exact List.ne_nil_of_mem (List.mem_filter.mpr ⟨hb, by simpa using hpath⟩)

/-- All bundles of a group have its file. -/
lemma primaryPath_eq (h : IsGroupingOf gs bs) {g : Group} (hg : g ∈ gs) {b : Bundle}
    (hb : b ∈ g.bundles) : b.primaryPath = g.source := by
  rw [h.bundles_eq g hg] at hb
  simpa using (List.mem_filter.mp hb).2

/-- Bundles have one grouping. -/
lemma unique (h : IsGroupingOf gs bs) (h' : IsGroupingOf gs' bs) : gs = gs' := by
  have : Std.Irrefl (InOrder bs) := ⟨fun _ => Nat.lt_irrefl _⟩
  have : Std.Antisymm (InOrder bs) := ⟨fun _ _ hlt hgt => absurd hlt (Nat.lt_asymm hgt)⟩
  have hsources : gs.map source = gs'.map source :=
    h.sources_in_order.eq_of_mem_iff h'.sources_in_order fun path =>
      (h.mem_sources_iff path).trans (h'.mem_sources_iff path).symm
  -- a group is made of its file and of what the file has among the bundles
  have hgroups : ∀ {fs : List Group}, IsGroupingOf fs bs → fs = (fs.map source).map fun path =>
      ⟨path, bs.filter fun b => b.primaryPath = path⟩ := by
    intro fs hfs
    rw [List.map_map]
    refine (List.map_id fs).symm.trans (List.map_congr_left fun g hg => ?_)
    rw [Function.comp_apply, ← hfs.bundles_eq g hg]
    rfl
  rw [hgroups h, hgroups h', hsources]

end IsGroupingOf

/-- Groups that are not empty and stand one for each file are the groups of their own bundles. -/
lemma ofBundles_flatMap_bundles {gs : List Group} (hsources : (gs.map source).Nodup)
    (hne : ∀ g ∈ gs, g.bundles ≠ [])
    (hpath : ∀ g ∈ gs, ∀ b ∈ g.bundles, b.primaryPath = g.source) :
    ofBundles (gs.flatMap bundles) = gs := by
  induction gs with
  | nil => rfl
  | cons g gs ih =>
    obtain ⟨path, cs⟩ := g
    obtain ⟨hnew, hrest⟩ := List.nodup_cons.mp hsources
    obtain ⟨b, bs, rfl⟩ := List.exists_cons_of_ne_nil (hne ⟨path, cs⟩ (by simp))
    obtain rfl : b.primaryPath = path := hpath ⟨path, b :: bs⟩ (by simp) b (by simp)
    have hown : ∀ c ∈ bs, c.primaryPath = b.primaryPath := fun c hc =>
      hpath ⟨b.primaryPath, b :: bs⟩ (by simp) c (by simp [hc])
    have hothers : ∀ c ∈ gs.flatMap bundles, c.primaryPath ≠ b.primaryPath := by
      intro c hc heq
      obtain ⟨g, hg, hcg⟩ := List.mem_flatMap.mp hc
      have hsame : g.source = b.primaryPath := (hpath g (by simp [hg]) c hcg).symm.trans heq
      exact hnew (List.mem_map.mpr ⟨g, hg, hsame⟩)
    have hgroups := ih hrest (fun g hg => hne g (by simp [hg])) fun g hg =>
      hpath g (by simp [hg])
    rw [List.flatMap_cons, List.cons_append, ofBundles_cons, List.filter_append,
      List.filter_append, List.filter_eq_self.mpr (by simpa using hown),
      List.filter_eq_nil_iff.mpr (by simpa using hothers), List.append_nil,
      List.filter_eq_nil_iff.mpr (by simpa using hown), List.nil_append,
      List.filter_eq_self.mpr (by simpa using hothers), hgroups]

end Group

namespace OrderedMap

variable {Map : Type} (M : OrderedMap Map)

/-- A bundle that is taken into the map is inserted into the groups, as long as no file has two of
them. -/
lemma entries_take {m : Map} {gs : List Group} (hm : M.entries m = gs.map Group.toEntry)
    (hsources : (gs.map Group.source).Nodup) (b : Bundle) :
    M.entries (M.take m b) = (Group.insert b gs).map Group.toEntry := by
  have hfind : M.find? m b.primaryPath = (gs.map Group.toEntry).lookup b.primaryPath := by
    rw [M.find?_eq, hm]
  rw [take]
  cases h : M.find? m b.primaryPath with
  | none =>
    rw [M.entries_insert m _ _ h, hm, Group.insert_of_lookup_eq_none (hfind.symm.trans h)]
    simp [Group.toEntry]
  | some bs =>
    have hsome : (M.find? m b.primaryPath).isSome := by rw [h]; rfl
    rw [M.entries_exchange m _ _ hsome, hm,
      Group.toEntry_insert_of_lookup_eq_some hsources (hfind.symm.trans h)]

/-- After any bundles the entries of the map are their groups. -/
lemma entries_foldl_take (bs : List Bundle) :
    M.entries (bs.foldl M.take M.empty) = (Group.ofBundles bs).map Group.toEntry := by
  induction bs using List.reverseRecOn with
  | nil => exact M.entries_empty
  | append_singleton bs b ih =>
    have hsources := (Group.isGroupingOf_ofBundles bs).nodup_sources
    rw [List.foldl_append, List.foldl_cons, List.foldl_nil, M.entries_take ih hsources,
      Group.ofBundles_concat]

/-- Every map that keeps its order collects the same groups. -/
lemma group_eq (bs : List Bundle) : M.group bs = Group.ofBundles bs := by
  rw [group, entries_foldl_take, List.map_map]
  exact List.map_id _

/-- The list of its entries serves as such a map. -/
def listed : OrderedMap (List (String × List Bundle)) where
  empty := []
  find? m path := m.lookup path
  exchange m path bs := m.map fun e => if e.1 = path then (path, bs) else e
  insert m path bs := m ++ [(path, bs)]
  entries m := m
  entries_empty := rfl
  find?_eq _ _ := rfl
  entries_exchange _ _ _ _ := rfl
  entries_insert _ _ _ _ := rfl

end OrderedMap

/-- Collected in a map that keeps its order or by themselves, bundles have the same groups, and
these are their grouping and the only one.  So no group is empty and no file has two, the groups
hold every bundle once, and grouping what they hold gives them again. -/
theorem bundles_are_grouped_by_first_appearance {Map : Type} (M : OrderedMap Map)
    (bs : List Bundle) :
    M.group bs = Group.ofBundles bs ∧
    (∀ gs, gs = Group.ofBundles bs ↔ Group.IsGroupingOf gs bs) ∧
    (∀ g ∈ Group.ofBundles bs, g.bundles ≠ []) ∧
    ((Group.ofBundles bs).map Group.source).Nodup ∧
    ((Group.ofBundles bs).flatMap Group.bundles).Perm bs ∧
    Group.ofBundles ((Group.ofBundles bs).flatMap Group.bundles) = Group.ofBundles bs := by
  have hgrouping := Group.isGroupingOf_ofBundles bs
  refine ⟨M.group_eq bs, ?_, ?_, hgrouping.nodup_sources, Group.flatMap_bundles_perm bs, ?_⟩
  · intro gs
    constructor
    · rintro rfl
      exact hgrouping
    · intro hgs
      exact hgs.unique hgrouping
  · exact fun g hg => hgrouping.bundles_ne_nil hg
  · exact Group.ofBundles_flatMap_bundles hgrouping.nodup_sources
      (fun g hg => hgrouping.bundles_ne_nil hg) fun g hg b hb => hgrouping.primaryPath_eq hg hb

/-- A file to which the bundles return keeps its place, and a bundle without messages has a group
like any other. -/
theorem file_returned_to_keeps_its_place :
    let b : String → String → Bundle := fun path text =>
      ⟨[⟨.blame, text, path, none, none, none, none⟩], [], []⟩
    let e : Bundle := ⟨[], [], []⟩
    let bs : List Bundle := [b "z" "1", b "a" "2", b "z" "3", e, b "a" "5"]
    let gs : List Group :=
      [⟨"z", [b "z" "1", b "z" "3"]⟩, ⟨"a", [b "a" "2", b "a" "5"]⟩, ⟨"", [e]⟩]
    OrderedMap.listed.group bs = gs ∧ Group.IsGroupingOf gs bs ∧
      Group.ofBundles (gs.flatMap Group.bundles) = gs := by
  intro b e bs gs
  have hgs : gs = Group.ofBundles bs := rfl
  obtain ⟨hmap, hiff, -, -, -, hagain⟩ :=
    bundles_are_grouped_by_first_appearance OrderedMap.listed bs
  refine ⟨hmap.trans hgs.symm, (hiff gs).mp hgs, ?_⟩
  rw [hgs]
  exact hagain

end DiagnosticPage
