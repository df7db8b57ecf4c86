import DiagnosticPage.Options
import DiagnosticPage.Proofs.SourcePath.Components
import Mathlib.Data.List.DropRight

/-!
# What a path is below a directory

A path that lies below the root directory is shown from there on.  `IsRemainder` says what that
means for the text of the path: it falls into a front with the components of the directory, the
remainder, and an end without components, and the remainder starts with the text of its first
component and ends with that of its last one.  Between these it is what the path has there, so no
separator is respelled.

The proof follows `below` through the pieces of a path.  `after` takes a front of them that stands
for the directory (`exists_append_of_after`), `trim` leaves what lies between the first and the last
component (`exists_append_trim`).  `IsBelow` keeps the three stretches of pieces, and since each of
them is the text of a path with just these pieces, what is known of the pieces is known of the
texts.
-/

namespace DiagnosticPage

namespace SourcePath

/-- The text of a component. -/
def Component.text : Component → List Char
  | root => ['/']
  | name text => text

/-- A text is what a path has below a directory: a stretch of the path behind the components of the
directory, from the first remaining component to the last one. -/
structure IsRemainder (directory path rest : List Char) : Prop where
  ne_nil : rest ≠ []
  stretch : ∃ front behind, path = front ++ rest ++ behind ∧
    partComponents front = partComponents directory
  components_eq : partComponents rest =
    (partComponents path).drop (partComponents directory).length
  starts : ∃ c cs behind, partComponents rest = c :: cs ∧ rest = c.text ++ behind
  ends : ∃ front cs c, partComponents rest = cs ++ [c] ∧ rest = front ++ c.text ∧
    partComponents front = cs
  /-- The root is the only component that ends with a slash. -/
  no_separator_behind : rest = ['/'] ∨ ¬ ['/'] <:+ rest ∧ ¬ ['/', '.'] <:+ rest

/-! ### Single pieces -/

/-- The component of a piece has the text of the piece. -/
lemma text_of_component {path : List Char} {p : Piece} (hp : p ∈ pieces path) {c : Component}
    (hc : p.component = some c) : c.text = p.text := by
  cases hruns : runs path with
  | nil => simp [pieces, hruns] at hp
  | cons run rest =>
    rw [pieces_of_runs hruns, List.mem_cons, List.mem_map] at hp
    rcases hp with rfl | ⟨run, -, rfl⟩
    · by_cases hrun : run = ['/']
      · obtain rfl : .root = c := by simpa [Piece.first, hrun] using hc
        exact hrun.symm
      · obtain rfl : .name run = c := by simpa [Piece.first, hrun] using hc
        rfl
    · by_cases hrun : run = ['/'] ∨ run = ['.']
      · simp [Piece.later, hrun] at hc
      · obtain rfl : .name run = c := by simpa [Piece.later, hrun] using hc
        rfl

/-- A text does not end with a slash if a name stands at its end, and not with a slash and a dot
either unless that is the name. -/
lemma no_separator_behind_name {name : List Char} (hne : name ≠ []) (hslash : '/' ∉ name)
    (front : List Char) (hdot : front = [] ∨ name ≠ ['.']) :
    ¬ ['/'] <:+ front ++ name ∧ ¬ ['/', '.'] <:+ front ++ name := by
  have hlast : ¬ ['/'] <:+ front ++ name := by
    intro h
    have hmem : '/' ∈ name := by
      have hname : ['/'] <:+ name :=
        List.suffix_of_suffix_length_le h (List.suffix_append _ _) (List.length_pos_iff.mpr hne)
      exact hname.subset (by simp)
    exact hslash hmem
  refine ⟨hlast, fun h => ?_⟩
  rcases Nat.lt_or_ge name.length 2 with hshort | hlong
  · obtain ⟨a, rfl⟩ := List.length_eq_one_iff.mp
      (Nat.le_antisymm (Nat.le_of_lt_succ hshort) (List.length_pos_iff.mpr hne))
    obtain ⟨rest, hrest⟩ := h
    have hsplit : (rest ++ ['/']) ++ ['.'] = front ++ [a] := by simpa using hrest
    obtain ⟨hfront, ha⟩ := List.append_inj' hsplit rfl
    rcases hdot with rfl | hdot
    · simp at hfront
    · exact hdot ha.symm
  · have hname : ['/', '.'] <:+ name :=
      List.suffix_of_suffix_length_le h (List.suffix_append _ _) hlong
    exact hslash (hname.subset (by simp))

/-! ### Dropping pieces -/

/-- What is left behind some components has a front with these components before it. -/
lemma exists_append_of_after {cs : List Component} {ps rest : List Piece}
    (h : after cs ps = some rest) :
    ∃ front, ps = front ++ rest ∧ front.filterMap Piece.component = cs := by
  induction ps generalizing cs with
  | nil =>
    cases cs with
    | nil => exact ⟨[], by simpa [after] using h, rfl⟩
    | cons c cs => simp [after] at h
  | cons p ps ih =>
    cases cs with
    | nil => exact ⟨[], by simpa [after] using h, rfl⟩
    | cons c cs =>
      cases hp : p.component with
      | none =>
        simp only [after, hp] at h
        obtain ⟨front, rfl, hfront⟩ := ih h
        exact ⟨p :: front, rfl, by rw [List.filterMap_cons_none hp, hfront]⟩
      | some d =>
        simp only [after, hp, Option.ite_none_right_eq_some] at h
        obtain ⟨rfl, h⟩ := h
        obtain ⟨front, rfl, hfront⟩ := ih h
        exact ⟨p :: front, rfl, by rw [List.filterMap_cons_some hp, hfront]⟩

/-- Nothing is left only if the components do not come first. -/
lemma after_eq_none_iff (cs : List Component) (ps : List Piece) :
    after cs ps = none ↔ ¬ cs <+: ps.filterMap Piece.component := by
  induction ps generalizing cs with
  | nil => cases cs <;> simp [after]
  | cons p ps ih =>
    cases cs with
    | nil => simp [after]
    | cons c cs =>
      cases hp : p.component with
      | none => simp only [after, hp, List.filterMap_cons_none, ih]
      | some d =>
        by_cases hcd : c = d
        · simp [after, hp, hcd, ih, List.cons_prefix_cons]
        · simp [after, hp, hcd, List.cons_prefix_cons]

/-- What lies between the first and the last component is left of pieces. -/
lemma exists_append_trim (ps : List Piece) :
    ∃ front behind, ps = front ++ trim ps ++ behind ∧ (∀ p ∈ front, p.component = none) ∧
      ∀ p ∈ behind, p.component = none := by
  let silent : Piece → Bool := fun p => p.component.isNone
  have hsilent : ∀ {p : Piece}, silent p = true → p.component = none :=
    Option.isNone_iff_eq_none.mp
  refine ⟨ps.takeWhile silent, (ps.dropWhile silent).rtakeWhile silent, ?_, ?_, ?_⟩
  · have hbehind : trim ps ++ (ps.dropWhile silent).rtakeWhile silent = ps.dropWhile silent :=
      List.rdropWhile_append_rtakeWhile
    rw [List.append_assoc, hbehind, List.takeWhile_append_dropWhile]
  · exact fun p hp => hsilent (List.mem_takeWhile_imp hp)
  · exact fun p hp => hsilent (List.mem_rtakeWhile_imp hp)

/-- What is left of pieces starts with a component. -/
lemma isSome_head_trim (ps : List Piece) : ∀ p ∈ (trim ps).head?, p.component.isSome := by
  intro p hp
  obtain ⟨behind, hbehind⟩ : trim ps <+: ps.dropWhile fun p => p.component.isNone :=
    List.rdropWhile_prefix _ _
  have hhead : (ps.dropWhile fun p => p.component.isNone).head? = some p := by
    rw [← hbehind, List.head?_append, hp]
    rfl
  have hnot := List.head?_dropWhile_not (fun p : Piece => p.component.isNone) ps
  rw [hhead] at hnot
  simpa using hnot

/-- What is left of pieces ends with a component. -/
lemma isSome_getLast_trim (ps : List Piece) : ∀ p ∈ (trim ps).getLast?, p.component.isSome := by
  intro p hp
  obtain ⟨hne, rfl⟩ := List.mem_getLast?_eq_getLast hp
  have hnot : ¬ ((trim ps).getLast hne).component.isNone = true := List.rdropWhile_last_not _ _ hne
  simpa [Option.isSome_iff_ne_none] using hnot

/-- Nothing is left where there is no component. -/
lemma trim_eq_nil_iff (ps : List Piece) : trim ps = [] ↔ ps.filterMap Piece.component = [] := by
  obtain ⟨front, behind, hps, hfront, hbehind⟩ := exists_append_trim ps
  constructor
  · intro hnil
    rw [hps, hnil, List.append_nil, List.filterMap_append,
      List.filterMap_eq_nil_iff.mpr hfront, List.filterMap_eq_nil_iff.mpr hbehind,
      List.append_nil]
  · intro hnone
    cases htrim : trim ps with
    | nil => rfl
    | cons p rest =>
      have hmem : p ∈ ps := by
        rw [hps, htrim]
        simp
      have hsome := isSome_head_trim ps p (by simp [htrim])
      rw [List.filterMap_eq_nil_iff.mp hnone p hmem] at hsome
      cases hsome

/-! ### The remainder in pieces -/

/-- The pieces of a path below a directory: those that stand for the directory, those of the
remainder, and behind it some without component. -/
structure IsBelow (directory path : List Char) (front ps behind : List Piece) : Prop where
  pieces_eq : pieces path = front ++ ps ++ behind
  components_front : front.filterMap Piece.component = components directory
  component_behind : ∀ p ∈ behind, p.component = none
  ne_nil : ps ≠ []
  isSome_head : ∀ p ∈ ps.head?, p.component.isSome
  isSome_getLast : ∀ p ∈ ps.getLast?, p.component.isSome

/-- The remainder that is found below a directory is that of the pieces there. -/
lemma exists_isBelow {directory path rest : List Char} (h : below directory path = some rest) :
    ∃ front ps behind, IsBelow directory path front ps behind ∧ rest = ps.flatMap Piece.text := by
  unfold below at h
  cases hafter : after (components directory) (pieces path) with
  | none => simp [hafter] at h
  | some left =>
    obtain ⟨front, hpieces, hfront⟩ := exists_append_of_after hafter
    obtain ⟨skipped, behind, hleft, hskipped, hbehind⟩ := exists_append_trim left
    rw [hafter] at h
    cases htrim : trim left with
    | nil => simp [htrim] at h
    | cons p ps =>
      refine ⟨front ++ skipped, p :: ps, behind, ?_, by simpa [htrim, eq_comm] using h⟩
      have hhead := isSome_head_trim left
      have hlast := isSome_getLast_trim left
      rw [htrim] at hhead hlast hleft
      constructor
      case pieces_eq => rw [hpieces, hleft, List.append_assoc, List.append_assoc, List.append_assoc]
      case components_front =>
        rw [List.filterMap_append, List.filterMap_eq_nil_iff.mpr hskipped, List.append_nil, hfront]
      case component_behind => exact hbehind
      case ne_nil => simp
      case isSome_head => exact hhead
      case isSome_getLast => exact hlast

/-- Nothing is found below a directory unless the path has its components and more. -/
lemma below_eq_none_iff (directory path : List Char) :
    below directory path = none ↔
      ¬ (components directory <+: components path ∧ components directory ≠ components path) := by
  unfold below
  cases hafter : after (components directory) (pieces path) with
  | none =>
    have hfirst : ¬ components directory <+: components path :=
      (after_eq_none_iff _ _).mp hafter
    simp [hfirst]
  | some left =>
    obtain ⟨front, hpieces, hfront⟩ := exists_append_of_after hafter
    have hcomponents : components path =
        components directory ++ left.filterMap Piece.component := by
      rw [components, hpieces, List.filterMap_append, hfront]
    have hnil := trim_eq_nil_iff left
    rw [hcomponents]
    cases htrim : trim left with
    | nil => simp [htrim, hnil.mp htrim]
    | cons p ps =>
      have hsome : left.filterMap Piece.component ≠ [] := fun h => by simp [hnil.mpr h] at htrim
      simp [htrim, hsome]

namespace IsBelow

variable {directory path : List Char} {front ps behind : List Piece}

/-- The remainder has the pieces that it is made of. -/
lemma pieces_rest (h : IsBelow directory path front ps behind) :
    pieces (ps.flatMap Piece.text) = ps :=
  pieces_flatMap_text h.pieces_eq (Or.inr h.isSome_head)

/-- The remainder has the components of its pieces. -/
lemma components_rest (h : IsBelow directory path front ps behind) :
    components (ps.flatMap Piece.text) = ps.filterMap Piece.component := by
  rw [components, h.pieces_rest]

/-- Wherever the remainder is parted, the path is parted there as well. -/
lemma pieces_eq_append (h : IsBelow directory path front ps behind) {init rest : List Piece}
    (hps : ps = init ++ rest) : pieces path = front ++ init ++ (rest ++ behind) := by
  rw [h.pieces_eq, hps, List.append_assoc, List.append_assoc, List.append_assoc]

/-- A front of the remainder has the pieces that it is made of. -/
lemma pieces_init (h : IsBelow directory path front ps behind) {init rest : List Piece}
    (hps : ps = init ++ rest) : pieces (init.flatMap Piece.text) = init := by
  refine pieces_flatMap_text (h.pieces_eq_append hps) (Or.inr ?_)
  intro p hp
  refine h.isSome_head p ?_
  rw [hps, List.head?_append, hp]
  rfl

/-- The part of the path in front of the remainder has the components of the directory. -/
lemma components_front_text (h : IsBelow directory path front ps behind) :
    components (front.flatMap Piece.text) = components directory := by
  have hpieces : pieces path = [] ++ front ++ (ps ++ behind) := by
    rw [h.pieces_eq, List.nil_append, List.append_assoc]
  rw [components, pieces_flatMap_text hpieces (Or.inl rfl), h.components_front]

/-- The path has the components of the directory and then those of the remainder. -/
lemma components_path (h : IsBelow directory path front ps behind) :
    components path = components directory ++ components (ps.flatMap Piece.text) := by
  rw [h.components_rest, components, h.pieces_eq, List.filterMap_append, List.filterMap_append,
    h.components_front, List.filterMap_eq_nil_iff.mpr h.component_behind, List.append_nil]

/-- The pieces of the remainder are pieces of the path. -/
lemma mem_pieces (h : IsBelow directory path front ps behind) {p : Piece} (hp : p ∈ ps) :
    p ∈ pieces path := by
  rw [h.pieces_eq]
  simp [hp]

/-- No piece of the remainder that has others in front of it is the first one of the path. -/
lemma mem_tail_pieces (h : IsBelow directory path front ps behind) {init rest : List Piece}
    (hps : ps = init ++ rest) (hne : front ++ init ≠ []) {p : Piece} (hp : p ∈ rest) :
    p ∈ (pieces path).tail := by
  rw [h.pieces_eq_append hps, List.tail_append_of_ne_nil hne]
  simp [hp]

/-- The remainder starts with a piece that stands for a component. -/
lemma exists_first (h : IsBelow directory path front ps behind) :
    ∃ p rest c, ps = p :: rest ∧ p.component = some c := by
  obtain ⟨p, rest, rfl⟩ := List.exists_cons_of_ne_nil h.ne_nil
  obtain ⟨c, hc⟩ := Option.isSome_iff_exists.mp (h.isSome_head p rfl)
  exact ⟨p, rest, c, rfl, hc⟩

/-- The remainder ends with a piece that stands for a component. -/
lemma exists_last (h : IsBelow directory path front ps behind) :
    ∃ init p c, ps = init ++ [p] ∧ p.component = some c := by
  obtain ⟨init, p, rfl⟩ := (List.eq_nil_or_concat' ps).resolve_left h.ne_nil
  obtain ⟨c, hc⟩ := Option.isSome_iff_exists.mp (h.isSome_getLast p (by simp))
  exact ⟨init, p, c, rfl, hc⟩

/-- The remainder does not end with a separator: its last piece has no slash in it, and is a single
dot only if it is the first one, too. -/
lemma no_separator_behind (h : IsBelow directory path front ps behind) :
    ps.flatMap Piece.text = ['/'] ∨
      ¬ ['/'] <:+ ps.flatMap Piece.text ∧ ¬ ['/', '.'] <:+ ps.flatMap Piece.text := by
  obtain ⟨init, p, c, hps, hc⟩ := h.exists_last
  have hrun : p.text ∈ runs path := by
    rw [← map_text_pieces]
    exact List.mem_map_of_mem (h.mem_pieces (by simp [hps]))
  have hrest : ps.flatMap Piece.text = init.flatMap Piece.text ++ p.text := by
    rw [hps, List.flatMap_append, List.flatMap_singleton]
  -- further on than the start of the path, neither a slash nor a single dot is a component
  have halone : init = [] ∨ p.text ≠ ['/'] ∧ p.text ≠ ['.'] := by
    refine or_iff_not_imp_left.mpr fun hinit => ?_
    have htail := h.mem_tail_pieces hps (by simp [hinit]) (List.mem_singleton_self p)
    exact text_ne_of_isSome (later_text_of_mem_tail htail) (by simp [hc])
  rw [hrest]
  rcases eq_slash_or_notMem_of_mem_runs hrun with hslash | ⟨hne, hslash⟩
  · rcases halone with rfl | hnot
    · exact Or.inl hslash
    · exact absurd hslash hnot.1
  · refine Or.inr (no_separator_behind_name hne hslash _ (halone.imp ?_ And.right))
    rintro rfl
    rfl

/-- What is left of a path is its remainder below the directory. -/
lemma isRemainder (h : IsBelow directory path front ps behind) :
    IsRemainder directory path (ps.flatMap Piece.text) := by
  constructor
  case ne_nil =>
    intro hnil
    exact h.ne_nil (by rw [← h.pieces_rest, hnil]; rfl)
  case stretch =>
    refine ⟨front.flatMap Piece.text, behind.flatMap Piece.text, ?_, ?_⟩
    · rw [← List.flatMap_append, ← List.flatMap_append, ← h.pieces_eq, flatMap_text_pieces]
    · rw [← components_eq_partComponents, ← components_eq_partComponents, h.components_front_text]
  case components_eq =>
    rw [← components_eq_partComponents, ← components_eq_partComponents,
      ← components_eq_partComponents, h.components_path, List.drop_left]
  case starts =>
    obtain ⟨p, rest, c, hps, hc⟩ := h.exists_first
    refine ⟨c, rest.filterMap Piece.component, rest.flatMap Piece.text, ?_, ?_⟩
    · rw [← components_eq_partComponents, h.components_rest, hps, List.filterMap_cons_some hc]
    · rw [text_of_component (h.mem_pieces (by simp [hps])) hc, hps, List.flatMap_cons]
  case ends =>
    obtain ⟨init, p, c, hps, hc⟩ := h.exists_last
    refine ⟨init.flatMap Piece.text, init.filterMap Piece.component, c, ?_, ?_, ?_⟩
    · rw [← components_eq_partComponents, h.components_rest, hps, List.filterMap_append,
        List.filterMap_cons_some hc, List.filterMap_nil]
    · rw [text_of_component (h.mem_pieces (by simp [hps])) hc, hps, List.flatMap_append,
        List.flatMap_singleton]
    · rw [← components_eq_partComponents, components, h.pieces_init hps]
  case no_separator_behind => exact h.no_separator_behind

/-- Behind a directory with components, the components of the remainder are its names. -/
lemma names_rest (h : IsBelow directory path front ps behind) (hne : components directory ≠ []) :
    names (ps.flatMap Piece.text) = components (ps.flatMap Piece.text) := by
  have hfront : front ++ [] ≠ [] := by
    rw [List.append_nil]
    rintro rfl
    exact hne h.components_front.symm
  have hlater : ∀ p ∈ ps, (Piece.later p.text).component = p.component := fun p hp =>
    congrArg Piece.component
      (later_text_of_mem_tail (h.mem_tail_pieces (List.nil_append ps).symm hfront hp))
  rw [← filterMap_later_runs, ← map_text_pieces, List.filterMap_map, components, h.pieces_rest]
  exact List.filterMap_congr hlater

/-- Put behind the directory again, the remainder makes a path with the same components. -/
lemma components_join (h : IsBelow directory path front ps behind)
    (hne : components directory ≠ []) :
    components (directory ++ '/' :: ps.flatMap Piece.text) = components path := by
  have hdirectory : directory ≠ [] := by
    rintro rfl
    exact hne rfl
  rw [components_append_slash hdirectory, h.names_rest hne, h.components_path]

end IsBelow

end SourcePath

/-! ### Shown paths -/

open SourcePath

variable {root path : String}

/-- Below the root, the shown path is what `below` leaves. -/
lemma exists_isBelow_of_root
    (hfirst : components root.toList <+: components path.toList)
    (hmore : components root.toList ≠ components path.toList) :
    ∃ front ps behind, IsBelow root.toList path.toList front ps behind ∧
      (Options.shownPath ⟨some root⟩ path).toList = ps.flatMap Piece.text := by
  cases hbelow : below root.toList path.toList with
  | none => exact absurd ⟨hfirst, hmore⟩ ((below_eq_none_iff _ _).mp hbelow)
  | some rest =>
    obtain ⟨front, ps, behind, h, hrest⟩ := exists_isBelow hbelow
    refine ⟨front, ps, behind, h, ?_⟩
    simp only [Options.shownPath, hbelow, String.toList_ofList, hrest]

/-- Outside the root, a path is shown as it is. -/
lemma shownPath_of_not_below
    (h : ¬ (components root.toList <+: components path.toList ∧
      components root.toList ≠ components path.toList)) :
    Options.shownPath ⟨some root⟩ path = path := by
  simp only [Options.shownPath, (below_eq_none_iff _ _).mpr h]

/-- Only the empty path is shown as an empty one. -/
lemma eq_empty_of_shownPath (o : Options) (h : o.shownPath path = "") : path = "" := by
  cases hroot : o.root with
  | none => simpa [Options.shownPath, hroot] using h
  | some root =>
    obtain rfl : o = ⟨some root⟩ := by rw [← hroot]
    by_cases hbelow : components root.toList <+: components path.toList ∧
        components root.toList ≠ components path.toList
    · obtain ⟨front, ps, behind, hps, hshown⟩ := exists_isBelow_of_root hbelow.1 hbelow.2
      exact absurd (by rw [← hshown, h]; rfl) hps.isRemainder.ne_nil
    · rwa [shownPath_of_not_below hbelow] at h

/-- A path that lies below the root is shown as its remainder there, and this, put behind the root
again, makes a path with the same components unless the root has none.  Every other path is shown as
it is. -/
theorem shown_path_is_remainder_below_root :
    (∀ root path : String,
      partComponents root.toList <+: partComponents path.toList →
      partComponents root.toList ≠ partComponents path.toList →
      IsRemainder root.toList path.toList (Options.shownPath ⟨some root⟩ path).toList ∧
      (partComponents root.toList ≠ [] →
        partComponents (root ++ "/" ++ Options.shownPath ⟨some root⟩ path).toList =
          partComponents path.toList)) ∧
    (∀ root path : String,
      ¬ (partComponents root.toList <+: partComponents path.toList ∧
        partComponents root.toList ≠ partComponents path.toList) →
      Options.shownPath ⟨some root⟩ path = path) ∧
    (∀ path, Options.shownPath ⟨none⟩ path = path) ∧
    ∀ (o : Options) (path : String), o.shownPath path = "" → path = "" := by
  simp only [← components_eq_partComponents]
  refine ⟨fun root path hfirst hmore => ?_, fun root path => shownPath_of_not_below,
    fun path => rfl, fun o path => eq_empty_of_shownPath o⟩
  obtain ⟨front, ps, behind, h, hshown⟩ := exists_isBelow_of_root hfirst hmore
  refine ⟨?_, fun hne => ?_⟩
  · rw [hshown]
    exact h.isRemainder
  · have hjoined : (root ++ "/" ++ Options.shownPath ⟨some root⟩ path).toList =
        root.toList ++ '/' :: ps.flatMap Piece.text := by
      rw [String.toList_append, String.toList_append, hshown, List.append_assoc]
      rfl
    rw [hjoined, h.components_join hne]

/-- Repeated slashes stay between the components that are left, a dot behind them goes, and a
directory with a longer name is a different one. -/
theorem paths_around_a_root :
    (IsRemainder "/work/.".toList "/work//./src/.//a.js/.".toList "src/.//a.js".toList ∧
      partComponents "/work/./src/.//a.js".toList =
        partComponents "/work//./src/.//a.js/.".toList) ∧
    Options.shownPath ⟨some "/work"⟩ "/workspace/a.js" = "/workspace/a.js" ∧
    Options.shownPath ⟨some "/work"⟩ "/work/" = "/work/" := by
  obtain ⟨hbelow, houtside, -, -⟩ := shown_path_is_remainder_below_root
  have hshown : Options.shownPath ⟨some "/work/."⟩ "/work//./src/.//a.js/." = "src/.//a.js" := by
    decide
  obtain ⟨hremainder, hjoined⟩ :=
    hbelow "/work/." "/work//./src/.//a.js/." (by decide) (by decide)
  rw [hshown] at hremainder hjoined
  exact ⟨⟨hremainder, hjoined (by decide)⟩, houtside _ _ (by decide), houtside _ _ (by decide)⟩

end DiagnosticPage
