import DiagnosticPage.Page
import Mathlib.Tactic.Common

/-!
# The content of a page, case by case

A report of a passed check has the notice as its content.  A report of a failed check has the
sections of its bundles, one below the other, or the fault of its entries.
-/

namespace DiagnosticPage

/-- A function is applied to pieces with a separator between them as it is to the pieces and to the
separator. -/
lemma map_intersperse {α β : Type} (f : α → β) (sep : α) (xs : List α) :
    (xs.intersperse sep).map f = (xs.map f).intersperse (f sep) := by
  induction xs with
  | nil => rfl
  | cons x xs ih =>
    cases xs with
    | nil => rfl
    | cons y ys =>
      rw [List.intersperse_cons_cons, List.map_cons, List.map_cons, ih]
      rfl

namespace Report

variable {o : Options} {r : Report}

/-- The markup of the sections of some bundles. -/
def sections (o : Options) (bs : List Bundle) : List Markup :=
  ((Group.ofBundles bs).map (Group.markup o)).intersperse .lineBreak

/-- A passed check has the notice as its content. -/
lemma content_of_passed (o : Options) (h : r.passed = true) :
    r.content o = .ok (Markup.writeAll [noErrors]) := by
  unfold content markup
  rw [if_pos h]
  rfl

/-- A failed check has the written sections of its bundles as its content. -/
lemma content_of_failed (o : Options) (h : r.passed = false) :
    r.content o =
      (Bundle.ofEntries r.errors).map fun bs => Markup.writeAll (sections o bs) := by
  unfold content markup
  rw [if_neg (by simp [h])]
  cases Bundle.ofEntries r.errors <;> rfl

/-- The content of a failed check has a fault exactly if the bundles of its entries have it. -/
lemma content_eq_error_iff (h : r.passed = false) (f : Bundle.Fault) :
    r.content o = .error f ↔ Bundle.ofEntries r.errors = .error f := by
  rw [content_of_failed o h]
  cases Bundle.ofEntries r.errors <;> simp [Except.map]

/-- The content of a failed check is there exactly if its entries have bundles. -/
lemma content_eq_ok_iff (h : r.passed = false) (page : List Char) :
    r.content o = .ok page ↔
      ∃ bs, Bundle.ofEntries r.errors = .ok bs ∧ Markup.writeAll (sections o bs) = page := by
  rw [content_of_failed o h]
  cases Bundle.ofEntries r.errors <;> simp [Except.map]

/-- The content of a page is written markup. -/
lemma exists_markup_of_content {page : List Char} (h : r.content o = .ok page) :
    ∃ ms, Markup.writeAll ms = page := by
  cases hpassed : r.passed with
  | true =>
    rw [content_of_passed o hpassed] at h
    exact ⟨_, Except.ok.inj h⟩
  | false =>
    obtain ⟨bs, -, hbs⟩ := (content_eq_ok_iff hpassed page).mp h
    exact ⟨_, hbs⟩

end Report

end DiagnosticPage
