import DiagnosticPage.SourcePath
import Mathlib.Data.List.Basic
import Mathlib.Data.List.Pairwise
import Mathlib.Data.List.SplitBy

/-!
# Components of a path

`components` is read off the pieces of a path, so that the text of a path is never lost.  Components
can be described without pieces: the path is cut at its slashes, a slash in front of all is the
root, a single dot counts where it is the first part, and of the parts those are names that are
neither empty nor a single dot.  This is `partComponents`, and it is the same
(`components_eq_partComponents`).

Both descriptions go through a path from slash to slash (`slashInduction`).  What is said of the
parts makes it plain what happens when texts are joined by a slash (`components_append_slash`), and
what is said of the pieces, that a stretch of them is cut into the same pieces again
(`pieces_flatMap_text`).
-/

namespace DiagnosticPage.SourcePath

/-! ### From slash to slash -/

/-- What holds of texts without a slash, and of a text with a slash whenever it holds of what
follows the first one, holds of every text. -/
lemma slashInduction {motive : List Char → Prop} (plain : ∀ s, '/' ∉ s → motive s)
    (slash : ∀ s t, '/' ∉ s → motive t → motive (s ++ '/' :: t)) (s : List Char) : motive s := by
  by_cases hs : '/' ∈ s
  · obtain ⟨front, rest, hsplit, hfront⟩ := List.eq_append_cons_of_mem hs
    rw [hsplit]
    exact slash front rest hfront (slashInduction plain slash rest)
  · exact plain s hs
termination_by s.length
decreasing_by
  rw [hsplit, List.length_append, List.length_cons]
  omega

/-- A text without a slash is one run. -/
lemma runs_of_notMem {s : List Char} (hne : s ≠ []) (hs : '/' ∉ s) : runs s = [s] := by
  refine List.splitBy_of_isChain hne (List.Pairwise.isChain ?_)
  refine List.pairwise_of_forall_mem_list fun a ha b hb => ?_
  have hslash : a ≠ '/' ∧ b ≠ '/' := ⟨ne_of_mem_of_not_mem ha hs, ne_of_mem_of_not_mem hb hs⟩
  simpa using hslash

/-- A slash is a run by itself. -/
lemma runs_append_slash (s t : List Char) : runs (s ++ '/' :: t) = runs s ++ ['/'] :: runs t := by
  have hslash : runs ('/' :: t) = ['/'] :: runs t :=
    List.splitBy_append (r := fun a b : Char => a != '/' && b != '/') (l := ['/']) (by simp)
  rw [runs, List.splitBy_append_cons t (by simp), ← runs, ← runs, hslash]

/-- No run of a text without a slash has one. -/
lemma notMem_of_mem_runs {s r : List Char} (hs : '/' ∉ s) (hr : r ∈ runs s) :
    r ≠ [] ∧ '/' ∉ r := by
  have hne : s ≠ [] := by
    rintro rfl
    simp [runs] at hr
  rw [runs_of_notMem hne hs, List.mem_singleton] at hr
  exact hr ▸ ⟨hne, hs⟩

/-- A run is a slash, or has none. -/
lemma eq_slash_or_notMem_of_mem_runs {s r : List Char} (hr : r ∈ runs s) :
    r = ['/'] ∨ r ≠ [] ∧ '/' ∉ r := by
  induction s using slashInduction with
  | plain s hs => exact Or.inr (notMem_of_mem_runs hs hr)
  | slash s t hs ih =>
    rw [runs_append_slash, List.mem_append, List.mem_cons] at hr
    rcases hr with hr | hr | hr
    · exact Or.inr (notMem_of_mem_runs hs hr)
    · exact Or.inl hr
    · exact ih hr

/-! ### Parts between slashes -/

/-- The names among the parts of a text between its slashes.  An empty part is none, and neither is
a single dot. -/
def names (s : List Char) : List Component :=
  ((s.splitOn '/').filter fun part => part ≠ [] ∧ part ≠ ['.']).map .name

/-- The components of a path as its parts between slashes show them: the root if a slash comes
first, a single dot if it is the first part, and the names. -/
def partComponents (path : List Char) : List Component :=
  (if path.head? = some '/' then [.root] else []) ++
    (if (path.splitOn '/').head? = some ['.'] then [.name ['.']] else []) ++ names path

/-- The names of texts that are joined by a slash. -/
lemma names_append_slash (s t : List Char) : names (s ++ '/' :: t) = names s ++ names t := by
  rw [names, List.splitOn_append_cons_self, List.filter_append, List.map_append]
  rfl

/-- A text without a slash is a name or none. -/
lemma names_of_notMem {s : List Char} (hs : '/' ∉ s) :
    names s = if s = [] ∨ s = ['.'] then [] else [.name s] := by
  rw [names, List.splitOn_eq_singleton hs]
  by_cases h : s = [] ∨ s = ['.']
  · rcases h with rfl | rfl <;> simp
  · rw [if_neg h, List.filter_cons_of_pos (by simpa [not_or] using h)]
    rfl

/-- Not being the first piece, a text without a slash stands for its name, if it is one. -/
lemma filterMap_later_runs_of_notMem {s : List Char} (hs : '/' ∉ s) :
    (runs s).filterMap (fun run => (Piece.later run).component) = names s := by
  rw [names_of_notMem hs]
  by_cases hne : s = []
  · simp [hne, runs]
  · have hslash : s ≠ ['/'] := fun h => hs (by simp [h])
    rw [runs_of_notMem hne hs]
    by_cases hdot : s = ['.'] <;> simp [Piece.later, hne, hslash, hdot]

/-- The pieces of a text that are not the first one stand for its names. -/
lemma filterMap_later_runs (s : List Char) :
    (runs s).filterMap (fun run => (Piece.later run).component) = names s := by
  induction s using slashInduction with
  | plain s hs => exact filterMap_later_runs_of_notMem hs
  | slash s t hs ih =>
    rw [runs_append_slash, List.filterMap_append, names_append_slash,
      filterMap_later_runs_of_notMem hs, List.filterMap_cons_none (by simp [Piece.later]), ih]

/-- The pieces of a path are made of its runs. -/
lemma pieces_of_runs {path run : List Char} {rest : List (List Char)}
    (hruns : runs path = run :: rest) : pieces path = .first run :: rest.map .later := by
  rw [pieces, hruns]

/-- A path is its first run and the names behind it. -/
lemma components_of_runs {path run : List Char} {rest : List (List Char)}
    (hruns : runs path = run :: rest) :
    components path = (if run = ['/'] then .root else .name run) ::
      rest.filterMap fun run => (Piece.later run).component := by
  rw [components, pieces_of_runs hruns]
  by_cases hrun : run = ['/'] <;> simp [Piece.first, hrun]

/-- A text without a slash is one component, also if it is a single dot. -/
lemma components_eq_partComponents_of_notMem {s : List Char} (hs : '/' ∉ s) :
    components s = partComponents s := by
  by_cases hne : s = []
  · rw [hne]
    rfl
  · have hname : s ≠ ['/'] := fun h => hs (by simp [h])
    have hhead : s.head? ≠ some '/' := fun h => hs (List.mem_of_mem_head? h)
    rw [components_of_runs (runs_of_notMem hne hs), if_neg hname, partComponents, if_neg hhead,
      List.splitOn_eq_singleton hs, names_of_notMem hs]
    by_cases hdot : s = ['.'] <;> simp [hne, hdot]

/-- When a text is put behind a path and a slash, its names are added to the components. -/
lemma components_append_slash {s : List Char} (hne : s ≠ []) (t : List Char) :
    components (s ++ '/' :: t) = components s ++ names t := by
  cases hruns : runs s with
  | nil => exact absurd (List.splitBy_eq_nil.mp hruns) hne
  | cons run rest =>
    have hjoined : runs (s ++ '/' :: t) = run :: (rest ++ ['/'] :: runs t) := by
      rw [runs_append_slash, hruns, List.cons_append]
    rw [components_of_runs hjoined, components_of_runs hruns, List.filterMap_append,
      List.filterMap_cons_none (by simp [Piece.later]), filterMap_later_runs, List.cons_append]

/-- The parts of a path show the same. -/
lemma partComponents_append_slash {s : List Char} (hne : s ≠ []) (t : List Char) :
    partComponents (s ++ '/' :: t) = partComponents s ++ names t := by
  rw [partComponents, partComponents, names_append_slash, List.splitOn_append_cons_self,
    List.head?_append_of_ne_nil _ hne, List.head?_append_of_ne_nil _ (List.splitOn_ne_nil _ _),
    List.append_assoc, List.append_assoc, List.append_assoc]

/-- The components of a path are those that its parts between slashes show. -/
theorem components_eq_partComponents (path : List Char) :
    components path = partComponents path := by
  by_cases hslash : '/' ∈ path
  · obtain ⟨front, rest, rfl, hfront⟩ := List.eq_append_cons_of_mem hslash
    by_cases hne : front = []
    · subst hne
      rw [components_of_runs (runs_append_slash [] rest), filterMap_later_runs, partComponents,
        List.splitOn_append_cons_self_of_not_mem hfront, names_append_slash]
      rfl
    · rw [components_append_slash hne, partComponents_append_slash hne,
        components_eq_partComponents_of_notMem hfront]
  · exact components_eq_partComponents_of_notMem hslash

/-! ### Stretches of pieces -/

/-- The pieces of a path have the runs of the path as their texts. -/
lemma map_text_pieces (path : List Char) : (pieces path).map Piece.text = runs path := by
  rw [pieces]
  cases runs path with
  | nil => rfl
  | cons run rest => simp [Piece.first, Piece.later, Function.comp_def]

/-- Put together, the pieces of a path are the path. -/
lemma flatMap_text_pieces (path : List Char) : (pieces path).flatMap Piece.text = path := by
  rw [List.flatMap_def, map_text_pieces]
  exact List.flatten_splitBy _ _

/-- Behind the first one, a piece is told from its text. -/
lemma later_text_of_mem_tail {path : List Char} {p : Piece} (hp : p ∈ (pieces path).tail) :
    Piece.later p.text = p := by
  rw [pieces] at hp
  cases hruns : runs path with
  | nil => simp [hruns] at hp
  | cons run rest =>
    rw [hruns] at hp
    obtain ⟨run, -, rfl⟩ := List.mem_map.mp hp
    rfl

/-- A later piece that stands for a component is no slash and no single dot. -/
lemma text_ne_of_isSome {p : Piece} (hlater : Piece.later p.text = p)
    (hp : p.component.isSome) : p.text ≠ ['/'] ∧ p.text ≠ ['.'] := by
  refine not_or.mp fun h => ?_
  rw [← hlater, Piece.later, if_pos h] at hp
  cases hp

/-- A later piece that stands for a component would do so as well as the first piece. -/
lemma first_text_eq {p : Piece} (hlater : Piece.later p.text = p) (hp : p.component.isSome) :
    Piece.first p.text = p := by
  have htext := text_ne_of_isSome hlater hp
  rw [← hlater, Piece.later, Piece.first, if_neg (not_or.mpr htext), if_neg htext.1]

/-- A stretch of the pieces of a path is cut into the same pieces again if it starts with the path
or with a component. -/
lemma pieces_flatMap_text {path : List Char} {before ps behind : List Piece}
    (h : pieces path = before ++ ps ++ behind)
    (hstart : before = [] ∨ ∀ p ∈ ps.head?, p.component.isSome) :
    pieces (ps.flatMap Piece.text) = ps := by
  have hruns : runs (ps.flatMap Piece.text) = ps.map Piece.text := by
    have hstretch : ps.map Piece.text <:+: runs path := by
      rw [← map_text_pieces, h, List.map_append, List.map_append]
      exact List.infix_append _ _ _
    rw [List.flatMap_def]
    refine List.splitBy_flatten (fun hnil => ?_) (fun run hrun => ?_) ?_
    · exact List.nil_notMem_splitBy _ _ (hstretch.subset hnil)
    · exact List.isChain_of_mem_splitBy (hstretch.subset hrun)
    · have hchain := List.isChain_getLast_head_splitBy (fun a b => a != '/' && b != '/') path
      exact List.IsChain.infix hchain hstretch
  cases ps with
  | nil => rfl
  | cons p ps =>
    have htail : ∀ q ∈ ps, Piece.later q.text = q := by
      intro q hq
      have hmem : q ∈ (pieces path).tail := by
        rw [h]
        cases before <;> simp [hq]
      exact later_text_of_mem_tail hmem
    have hfirst : Piece.first p.text = p := by
      cases before with
      | nil =>
        have hpath := map_text_pieces path
        rw [h] at hpath
        rw [pieces_of_runs hpath.symm] at h
        exact (List.cons.inj h).1
      | cons q qs =>
        have hmem : p ∈ (pieces path).tail := by simp [h]
        exact first_text_eq (later_text_of_mem_tail hmem)
          (hstart.resolve_left (by simp) p (by simp))
    have hlater : (ps.map Piece.text).map Piece.later = ps := by
      rw [List.map_map]
      exact (List.map_congr_left htail).trans (List.map_id ps)
    rw [pieces_of_runs (hruns.trans List.map_cons), hfirst, hlater]

end DiagnosticPage.SourcePath
