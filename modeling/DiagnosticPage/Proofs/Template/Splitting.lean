import DiagnosticPage.Template.Basic
import Mathlib.Data.List.Infix
import Mathlib.Tactic.Common

/-!
# Splitting a text at its first marker

`IsFirst` says by positions what the first marker of a text is: the text consists of a part before
the marker, the marker, and a part behind it, and at no position before that one does a marker
stand.  A marker may end as it begins, so that markers overlap, and one may begin within what turns
out to be none; positions take all of this into account.

`splitAtFirst` goes through a text character by character.  `isFirst_of_prefix_iff` and
`isFirst_cons_iff` say what the first marker has to do with the first character, and
`splitAtFirst_eq_some_iff` and `splitAtFirst_eq_none_iff` follow by induction on the text.

A text that is put together from parts is searched part by part.  For this a marker must not start
in the part in front, not even to be completed by what follows: `StartsNowhere`.
-/

namespace DiagnosticPage

/-- At no place in a text does a marker start, not even where the text ends before the marker
does. -/
def StartsNowhere (p x : List Char) : Prop :=
  ∀ y ∈ x.tails, y ≠ [] → p.isPrefixOf y = false ∧ y.isPrefixOf p = false

instance (p x : List Char) : Decidable (StartsNowhere p x) :=
  inferInstanceAs (Decidable (∀ y ∈ x.tails, y ≠ [] → p.isPrefixOf y = false ∧
    y.isPrefixOf p = false))

/-- A marker starts nowhere in a text without its first character. -/
lemma startsNowhere_of_notMem {c : Char} {p x : List Char} (hx : c ∉ x) :
    StartsNowhere (c :: p) x := by
  intro y hy hne
  cases y with
  | nil => exact absurd rfl hne
  | cons d y =>
    have hd : d ∈ x := ((List.mem_tails _ _).mp hy).subset (by simp)
    have hother : d ≠ c := ne_of_mem_of_not_mem hd hx
    simp [List.isPrefixOf, hother, hother.symm]

namespace Template

/-- A text consists of a part before its first marker, that marker, and a part behind it. -/
structure IsFirst (marker source before after : List Char) : Prop where
  source_eq : source = before ++ marker ++ after
  least : ∀ i, marker <+: source.drop i → before.length ≤ i

variable {marker source before after : List Char} {c : Char}

/-! ### One character -/

/-- When a text begins with a marker, this is the first one. -/
lemma isFirst_of_prefix_iff (h : marker <+: source) :
    IsFirst marker source before after ↔ before = [] ∧ source = marker ++ after := by
  constructor
  · rintro ⟨hsource, hleast⟩
    obtain rfl : before = [] := List.length_eq_zero_iff.mp (Nat.le_zero.mp (hleast 0 h))
    exact ⟨rfl, hsource⟩
  · rintro ⟨rfl, hsource⟩
    exact ⟨hsource, fun i _ => Nat.zero_le i⟩

/-- When a text does not begin with a marker, the first one is that of the rest. -/
lemma isFirst_cons_iff (h : ¬ marker <+: c :: source) :
    IsFirst marker (c :: source) before after ↔
      ∃ front, before = c :: front ∧ IsFirst marker source front after := by
  constructor
  · rintro ⟨hsource, hleast⟩
    cases before with
    | nil => exact absurd ⟨after, hsource.symm⟩ h
    | cons d front =>
      obtain ⟨rfl, hrest⟩ := List.cons.inj hsource
      refine ⟨front, rfl, hrest, fun i hi => ?_⟩
      exact Nat.le_of_succ_le_succ (hleast (i + 1) hi)
  · rintro ⟨front, rfl, hrest, hleast⟩
    refine ⟨by rw [hrest]; rfl, fun i hi => ?_⟩
    cases i with
    | zero => exact absurd hi h
    | succ i => exact Nat.succ_le_succ (hleast i hi)

/-- A text that begins with a marker is split in front of its first character. -/
lemma splitAtFirst_cons_of_pos (h : marker <+: c :: source) :
    splitAtFirst marker (c :: source) = some ([], (c :: source).drop marker.length) := by
  rw [splitAtFirst, if_pos (List.isPrefixOf_iff_prefix.mpr h)]

/-- A text that does not begin with a marker is split where its rest is. -/
lemma splitAtFirst_cons_of_neg (h : ¬ marker <+: c :: source) :
    splitAtFirst marker (c :: source) =
      (splitAtFirst marker source).map fun (before, after) => (c :: before, after) := by
  rw [splitAtFirst, if_neg (mt List.isPrefixOf_iff_prefix.mp h)]

/-! ### The first marker -/

/-- A text is split where the first marker stands in it. -/
theorem splitAtFirst_eq_some_iff (hne : marker ≠ []) :
    splitAtFirst marker source = some (before, after) ↔ IsFirst marker source before after := by
  induction source generalizing before with
  | nil =>
    refine iff_of_false (by simp [splitAtFirst]) fun h => hne ?_
    have hnil := h.source_eq
    simp only [List.nil_eq, List.append_eq_nil_iff] at hnil
    exact hnil.1.2
  | cons c source ih =>
    by_cases hstart : marker <+: c :: source
    · rw [splitAtFirst_cons_of_pos hstart, isFirst_of_prefix_iff hstart]
      obtain ⟨rest, hrest⟩ := hstart
      rw [← hrest, List.drop_left]
      simp [eq_comm]
    · rw [splitAtFirst_cons_of_neg hstart, isFirst_cons_iff hstart,
        Option.map_eq_some_iff]
      constructor
      · rintro ⟨⟨front, rest⟩, hrest, heq⟩
        obtain ⟨rfl, rfl⟩ := Prod.mk.inj heq
        exact ⟨front, rfl, ih.mp hrest⟩
      · rintro ⟨front, rfl, hrest⟩
        exact ⟨(front, after), ih.mpr hrest, rfl⟩

/-- A text is not split exactly if no marker stands in it. -/
theorem splitAtFirst_eq_none_iff (hne : marker ≠ []) :
    splitAtFirst marker source = none ↔ ¬ marker <:+: source := by
  induction source with
  | nil => simp [splitAtFirst, hne]
  | cons c source ih =>
    by_cases hstart : marker <+: c :: source
    · rw [splitAtFirst_cons_of_pos hstart]
      simp [hstart.isInfix]
    · rw [splitAtFirst_cons_of_neg hstart, Option.map_eq_none_iff, ih,
        List.infix_cons_iff]
      simp [hstart]

/-! ### Texts that are put together -/

/-- A marker is found at the start of a text that starts with it. -/
lemma splitAtFirst_self (hne : marker ≠ []) (rest : List Char) :
    splitAtFirst marker (marker ++ rest) = some ([], rest) := by
  rw [splitAtFirst_eq_some_iff hne, isFirst_of_prefix_iff (List.prefix_append marker rest)]
  exact ⟨rfl, rfl⟩

/-- A marker is not found in a text without its first character. -/
lemma splitAtFirst_eq_none_of_notMem (hc : c ∉ source) :
    splitAtFirst (c :: marker) source = none := by
  rw [splitAtFirst_eq_none_iff (List.cons_ne_nil c marker)]
  exact fun h => hc (h.subset (by simp))

/-- A marker is looked for behind a text in which it does not start. -/
lemma splitAtFirst_append {front : List Char} (hfront : StartsNowhere marker front)
    (rest : List Char) :
    splitAtFirst marker (front ++ rest) =
      (splitAtFirst marker rest).map fun (before, after) => (front ++ before, after) := by
  induction front with
  | nil => simp
  | cons c front ih =>
    obtain ⟨hshort, hlong⟩ := hfront (c :: front) (by simp) (by simp)
    have hstart : ¬ marker <+: c :: (front ++ rest) := by
      intro h
      rcases List.prefix_or_prefix_of_prefix h (List.prefix_append (c :: front) rest) with h' | h'
      · exact absurd (List.isPrefixOf_iff_prefix.mpr h') (by simp [hshort])
      · exact absurd (List.isPrefixOf_iff_prefix.mpr h') (by simp [hlong])
    have htail : StartsNowhere marker front := fun y hy => hfront y (by simp [hy])
    rw [List.cons_append, splitAtFirst_cons_of_neg hstart, ih htail]
    simp [Function.comp_def]

end Template

end DiagnosticPage
