import DiagnosticPage.Proofs.SourcePath.Remainder

/-!
# Labels below an absolute root

A path that starts with a slash is absolute, and it is the only kind of path that has the root among
its components (`isAbsolute_iff`).  Below an absolute root a path is shown by what follows the
components of the root, and that is never absolute again (`IsBelow.not_isAbsolute_rest`).  So it can
be seen from a label how it came about: an absolute path that is shown as an absolute one is shown
as it is, and one that is not has lost the components of the root and nothing else
(`shownPath_cases`).

Two absolute paths with one label therefore have the same components, and a label is not shortened
once more when it is taken for a path.  Both fail when the root or the paths are relative, since
then a label may look like a path that is shown as it is.
-/

namespace DiagnosticPage

namespace SourcePath

/-- A path that starts at the root of all directories. -/
def IsAbsolute (path : List Char) : Prop :=
  path.head? = some '/'

instance (path : List Char) : Decidable (IsAbsolute path) :=
  inferInstanceAs (Decidable (path.head? = some '/'))

/-- No name is the root. -/
lemma root_notMem_names (s : List Char) : Component.root ∉ names s := by
  simp [names]

/-- A path is absolute exactly if the root is its first component. -/
lemma isAbsolute_iff (path : List Char) :
    IsAbsolute path ↔ (components path).head? = some .root := by
  rw [components_eq_partComponents, partComponents, IsAbsolute]
  by_cases hslash : path.head? = some '/'
  · simp [hslash]
  · rw [if_neg hslash, List.nil_append]
    refine iff_of_false hslash fun hroot => ?_
    rcases List.mem_append.mp (List.mem_of_mem_head? hroot) with hdot | hname
    · split at hdot <;> simp at hdot
    · exact root_notMem_names path hname

/-- An absolute path has a component. -/
lemma IsAbsolute.components_ne_nil {path : List Char} (h : IsAbsolute path) :
    components path ≠ [] := by
  intro hnil
  rw [isAbsolute_iff, hnil] at h
  cases h

/-- A path that begins with the components of an absolute one is absolute. -/
lemma IsAbsolute.of_prefix {directory path : List Char} (hdirectory : IsAbsolute directory)
    (hfirst : components directory <+: components path) : IsAbsolute path := by
  obtain ⟨rest, hrest⟩ := hfirst
  rw [isAbsolute_iff, ← hrest, List.head?_append_of_ne_nil _ hdirectory.components_ne_nil,
    ← isAbsolute_iff]
  exact hdirectory

/-- What is left of a path below an absolute directory is not absolute. -/
lemma IsBelow.not_isAbsolute_rest {directory path : List Char} {front ps behind : List Piece}
    (h : IsBelow directory path front ps behind) (hdirectory : IsAbsolute directory) :
    ¬ IsAbsolute (ps.flatMap Piece.text) := by
  rw [isAbsolute_iff, ← h.names_rest hdirectory.components_ne_nil]
  exact fun hroot => root_notMem_names _ (List.mem_of_mem_head? hroot)

end SourcePath

open SourcePath

variable {root path : String}

/-- With an absolute root, a path that is not absolute is shown as it is. -/
lemma shownPath_of_not_isAbsolute (hroot : IsAbsolute root.toList)
    (hpath : ¬ IsAbsolute path.toList) : Options.shownPath ⟨some root⟩ path = path :=
  shownPath_of_not_below fun hbelow => hpath (hroot.of_prefix hbelow.1)

/-- With an absolute root, a path is shown as it is, or it loses the components of the root and is
not absolute any more. -/
lemma shownPath_cases (hroot : IsAbsolute root.toList) (path : String) :
    Options.shownPath ⟨some root⟩ path = path ∨
      ¬ IsAbsolute (Options.shownPath ⟨some root⟩ path).toList ∧
        components path.toList =
          components root.toList ++ components (Options.shownPath ⟨some root⟩ path).toList := by
  by_cases hbelow : components root.toList <+: components path.toList ∧
      components root.toList ≠ components path.toList
  · obtain ⟨front, ps, behind, h, hshown⟩ := exists_isBelow_of_root hbelow.1 hbelow.2
    rw [hshown]
    exact Or.inr ⟨h.not_isAbsolute_rest hroot, h.components_path⟩
  · exact Or.inl (shownPath_of_not_below hbelow)

/-- Absolute paths with the same label have the same components. -/
lemma components_eq_of_shownPath_eq (hroot : IsAbsolute root.toList) {p q : String}
    (hp : IsAbsolute p.toList) (hq : IsAbsolute q.toList)
    (h : Options.shownPath ⟨some root⟩ p = Options.shownPath ⟨some root⟩ q) :
    components p.toList = components q.toList := by
  rcases shownPath_cases hroot p with hp' | ⟨hp', hcomponents⟩
  · rcases shownPath_cases hroot q with hq' | ⟨hq', -⟩
    · rw [← hp', h, hq']
    · rw [← h, hp'] at hq'
      exact absurd hp hq'
  · rcases shownPath_cases hroot q with hq' | ⟨-, hcomponents'⟩
    · rw [h, hq'] at hp'
      exact absurd hq hp'
    · rw [hcomponents, h, hcomponents']

/-- With an absolute root, a label that is taken for a path is shown as it is. -/
lemma shownPath_shownPath (hroot : IsAbsolute root.toList) (path : String) :
    Options.shownPath ⟨some root⟩ (Options.shownPath ⟨some root⟩ path) =
      Options.shownPath ⟨some root⟩ path := by
  rcases shownPath_cases hroot path with h | ⟨h, -⟩
  · rw [h, h]
  · exact shownPath_of_not_isAbsolute hroot h

/-- With an absolute root, absolute paths have the same label only if they have the same components,
and so name the same file; and what is shown of a path is shown again as it is. -/
theorem absolute_root_keeps_files_apart (root : String) (hroot : IsAbsolute root.toList) :
    (∀ p q : String, IsAbsolute p.toList → IsAbsolute q.toList →
      Options.shownPath ⟨some root⟩ p = Options.shownPath ⟨some root⟩ q →
      partComponents p.toList = partComponents q.toList) ∧
    ∀ path : String,
      Options.shownPath ⟨some root⟩ (Options.shownPath ⟨some root⟩ path) =
        Options.shownPath ⟨some root⟩ path := by
  refine ⟨fun p q hp hq h => ?_, shownPath_shownPath hroot⟩
  rw [← components_eq_partComponents, ← components_eq_partComponents]
  exact components_eq_of_shownPath_eq hroot hp hq h

/-- Two spellings of a file below the root have one label, and a directory with the name of the root
does not shorten a label once more. -/
theorem spellings_below_absolute_root :
    (IsAbsolute "/work".toList ∧ IsAbsolute "//work/./a.js/.".toList ∧
      IsAbsolute "/work//a.js".toList ∧
      Options.shownPath ⟨some "/work"⟩ "//work/./a.js/." =
        Options.shownPath ⟨some "/work"⟩ "/work//a.js") ∧
    partComponents "//work/./a.js/.".toList = partComponents "/work//a.js".toList ∧
    Options.shownPath ⟨some "/work"⟩ (Options.shownPath ⟨some "/work"⟩ "/work/work/a.js") =
      Options.shownPath ⟨some "/work"⟩ "/work/work/a.js" := by
  have hlabel : Options.shownPath ⟨some "/work"⟩ "//work/./a.js/." =
      Options.shownPath ⟨some "/work"⟩ "/work//a.js" := by decide
  obtain ⟨hapart, hagain⟩ := absolute_root_keeps_files_apart "/work" (by decide)
  exact ⟨⟨by decide, by decide, by decide, hlabel⟩,
    hapart _ _ (by decide) (by decide) hlabel, hagain _⟩

/-- A relative path may look like the label of another one, and a relative root may be found in a
label again. -/
example :
    (Options.shownPath ⟨some "/work"⟩ "/work/a.js" = Options.shownPath ⟨some "/work"⟩ "a.js" ∧
      partComponents "/work/a.js".toList ≠ partComponents "a.js".toList) ∧
    Options.shownPath ⟨some "src"⟩ (Options.shownPath ⟨some "src"⟩ "src/src/a.js") ≠
      Options.shownPath ⟨some "src"⟩ "src/src/a.js" := by
  decide

end DiagnosticPage
