import DiagnosticPage.Proofs.Bundle.Nodes

/-!
# Bundles as normal forms

A bundle can be read as an entry again: it has messages and nested bundles, and lacks only an
operation.  This is `Bundle.toEntry`.  Making that entry ready a second time gives the bundle back
exactly if the bundle is in normal form, `Bundle.IsNormal`: every node shows a message, no message
is a comment, and no node lies too deep.

Every bundle of an entry is in normal form (`isNormalAt_of_ofEntryAt`), so entries are made ready
once and for all.  Both directions go node by node.  What happens at a single node is said by
`ofEntryAt_eq_ok_iff`, and about its messages by `statementsOf_eq_ok_iff`: folding leaves no
comment, and where there is none it changes nothing.
-/

namespace DiagnosticPage.Bundle

/-! ### Messages of a node -/

/-- When comments are folded into a message that is none, no comment is left. -/
lemma isComment_of_mem_foldInto {m : Message} (hm : m.isComment = false) (xs : List Message) :
    ∀ n ∈ foldInto m xs, n.isComment = false := by
  induction xs generalizing m with
  | nil =>
    intro n hn
    obtain rfl : n = m := by simpa [foldInto] using hn
    exact hm
  | cons x xs ih =>
    intro n hn
    rw [foldInto] at hn
    by_cases hx : x.isComment = true
    · rw [if_pos hx] at hn
      -- a note changes the description of a message and leaves its kind
      have hnoted : (m.annotate x.description).isComment = false := hm
      exact ih hnoted n hn
    · rw [if_neg hx] at hn
      rcases List.mem_cons.mp hn with rfl | hn
      · exact hm
      · exact ih (by simpa using hx) n hn

/-- Where there is no comment, nothing is folded. -/
lemma foldInto_of_no_comment (m : Message) {xs : List Message}
    (hxs : ∀ x ∈ xs, x.isComment = false) : foldInto m xs = m :: xs := by
  induction xs generalizing m with
  | nil => rfl
  | cons x xs ih =>
    have hx : x.isComment = false := hxs x (by simp)
    have hrest : ∀ y ∈ xs, y.isComment = false := fun y hy => hxs y (by simp [hy])
    rw [foldInto, hx, if_neg (by simp), ih x hrest]

/-- No comment is left among folded messages. -/
lemma isComment_of_foldComments {ms shown : List Message} (h : foldComments ms = .ok shown) :
    ∀ m ∈ shown, m.isComment = false := by
  cases ms with
  | nil =>
    obtain rfl : [] = shown := Except.ok.inj h
    simp
  | cons m ms =>
    obtain ⟨hm, rfl⟩ := (foldComments_cons_eq_ok_iff m ms shown).mp h
    exact isComment_of_mem_foldInto hm ms

/-- Folding keeps messages as they are exactly if there is no comment among them. -/
lemma foldComments_eq_self_iff (ms : List Message) :
    foldComments ms = .ok ms ↔ ∀ m ∈ ms, m.isComment = false := by
  constructor
  · exact isComment_of_foldComments
  · intro h
    cases ms with
    | nil => rfl
    | cons m ms =>
      have hm : m.isComment = false := h m (by simp)
      have hrest : ∀ x ∈ ms, x.isComment = false := fun x hx => h x (by simp [hx])
      rw [foldComments, hm, if_neg (by simp), foldInto_of_no_comment m hrest]

/-- A node shows its folded statements if there are any. -/
lemma statementsOf_eq_ok_iff (e : Entry) (shown : List Message) :
    statementsOf e = .ok shown ↔ foldComments e.statements = .ok shown ∧ shown ≠ [] := by
  unfold statementsOf
  cases foldComments e.statements with
  | error f => simp
  | ok ms =>
    cases ms with
    | nil =>
      simp only [reduceCtorEq, Except.ok.injEq, false_iff, not_and, not_not]
      exact Eq.symm
    | cons m ms =>
      simp only [Except.ok.injEq, iff_self_and]
      rintro rfl
      simp

/-! ### Single nodes -/

/-- An entry has a bundle exactly if it does not lie too deep, its statements can be shown, and what
is nested in it has bundles one level below. -/
lemma ofEntryAt_eq_ok_iff (depth : ℕ) (e : Entry) (b : Bundle) :
    ofEntryAt depth e = .ok b ↔ depth ≤ maxNesting ∧ statementsOf e = .ok b.messages ∧
      ofEntriesAt (depth + 1) e.extra = .ok b.extras ∧
      ofEntriesAt (depth + 1) e.children = .ok b.children := by
  obtain ⟨messages, operation, extra, children⟩ := e
  obtain ⟨shown, extras, nested⟩ := b
  rw [ofEntryAt]
  by_cases hdepth : maxNesting < depth
  · rw [if_pos hdepth]
    simp [Nat.not_le.mpr hdepth]
  · rw [if_neg hdepth]
    simp only [Nat.not_lt.mp hdepth, true_and]
    cases statementsOf ⟨messages, operation, extra, children⟩ with
    | error f => simp [bind, Except.bind]
    | ok ms =>
      cases ofEntriesAt (depth + 1) extra with
      | error f => simp [bind, Except.bind]
      | ok bs =>
        cases ofEntriesAt (depth + 1) children <;> simp [bind, Except.bind, pure, Except.pure]

/-- Entries have bundles exactly if each of them has one. -/
lemma ofEntriesAt_eq_ok_iff (depth : ℕ) (es : List Entry) (bs : List Bundle) :
    ofEntriesAt depth es = .ok bs ↔
      List.Forall₂ (fun e b => ofEntryAt depth e = .ok b) es bs := by
  have hmap : ofEntriesAt depth es = es.mapM (ofEntryAt depth) := by
    induction es with
    | nil => rfl
    | cons e es ih => rw [ofEntriesAt, List.mapM_cons, ih]
  rw [hmap, mapM_eq_ok_iff]

/-! ### Normal forms -/

mutual

/-- The nodes of a bundle in reading order, each with the level on which it lies if the bundle lies
on the given one. -/
def nodesAt (depth : ℕ) : Bundle → List (ℕ × Bundle)
  | ⟨messages, extras, children⟩ =>
    (depth, ⟨messages, extras, children⟩) ::
      (nodesOf (depth + 1) extras ++ nodesOf (depth + 1) children)

/-- The nodes of several bundles on one level, one after the other. -/
def nodesOf (depth : ℕ) : List Bundle → List (ℕ × Bundle)
  | [] => []
  | b :: bs => nodesAt depth b ++ nodesOf depth bs

end

/-- A node on a level is as the nodes of bundles are meant to be. -/
structure NormalNode (depth : ℕ) (b : Bundle) : Prop where
  messages_ne_nil : b.messages ≠ []
  no_comment : ∀ m ∈ b.messages, m.isComment = false
  depth_le : depth ≤ maxNesting

/-- All nodes of a bundle on the given level are as they are meant to be. -/
def IsNormalAt (depth : ℕ) (b : Bundle) : Prop :=
  ∀ n ∈ b.nodesAt depth, NormalNode n.1 n.2

/-- A bundle is in normal form: every node has messages and no comment among them, and lies at most
`maxNesting` levels below the root. -/
def IsNormal (b : Bundle) : Prop :=
  b.IsNormalAt 0

/-- A bundle is normal if its root is and all that is nested in it. -/
lemma isNormalAt_iff (depth : ℕ) (b : Bundle) :
    b.IsNormalAt depth ↔ NormalNode depth b ∧
      (∀ n ∈ nodesOf (depth + 1) b.extras, NormalNode n.1 n.2) ∧
      ∀ n ∈ nodesOf (depth + 1) b.children, NormalNode n.1 n.2 := by
  obtain ⟨messages, extras, children⟩ := b
  simp [IsNormalAt, nodesAt, or_imp, forall_and]

/-- Bundles on one level are normal if each of them is. -/
lemma forall_nodesOf_cons_iff (depth : ℕ) (b : Bundle) (bs : List Bundle) :
    (∀ n ∈ nodesOf depth (b :: bs), NormalNode n.1 n.2) ↔
      b.IsNormalAt depth ∧ ∀ n ∈ nodesOf depth bs, NormalNode n.1 n.2 := by
  simp only [nodesOf, List.mem_append, or_imp, forall_and, IsNormalAt]

/-! ### Bundles read as entries -/

mutual

/-- A bundle as an entry that has the same messages and no operation. -/
def toEntry : Bundle → Entry
  | ⟨messages, extras, children⟩ => ⟨messages, none, toEntries extras, toEntries children⟩

/-- Bundles as entries, one by one. -/
def toEntries : List Bundle → List Entry
  | [] => []
  | b :: bs => toEntry b :: toEntries bs

end

/-- Read as an entry, a bundle shows its own messages exactly if there are any and no comment is
among them. -/
lemma statementsOf_toEntry_iff (b : Bundle) :
    statementsOf b.toEntry = .ok b.messages ↔
      b.messages ≠ [] ∧ ∀ m ∈ b.messages, m.isComment = false := by
  obtain ⟨messages, extras, children⟩ := b
  have hstatements : (toEntry ⟨messages, extras, children⟩).statements = messages := rfl
  rw [statementsOf_eq_ok_iff, hstatements, foldComments_eq_self_iff, and_comm]

mutual

/-- On any level, a bundle read as an entry is its own bundle exactly if it is normal. -/
theorem ofEntryAt_toEntry_iff (depth : ℕ) : (b : Bundle) →
    (ofEntryAt depth b.toEntry = .ok b ↔ b.IsNormalAt depth)
  | ⟨messages, extras, children⟩ => by
    have hroot := statementsOf_toEntry_iff ⟨messages, extras, children⟩
    have hextras := ofEntriesAt_toEntries_iff (depth + 1) extras
    have hchildren := ofEntriesAt_toEntries_iff (depth + 1) children
    rw [ofEntryAt_eq_ok_iff, isNormalAt_iff, hroot]
    simp only [toEntry, hextras, hchildren]
    constructor
    · rintro ⟨hdepth, ⟨hne, hcomment⟩, hnested⟩
      exact ⟨⟨hne, hcomment, hdepth⟩, hnested⟩
    · rintro ⟨⟨hne, hcomment, hdepth⟩, hnested⟩
      exact ⟨hdepth, ⟨hne, hcomment⟩, hnested⟩

/-- The same for bundles on one level. -/
theorem ofEntriesAt_toEntries_iff (depth : ℕ) : (bs : List Bundle) →
    (ofEntriesAt depth (toEntries bs) = .ok bs ↔ ∀ n ∈ nodesOf depth bs, NormalNode n.1 n.2)
  | [] => by simp [toEntries, nodesOf, ofEntriesAt]
  | b :: bs => by
    have hfirst := ofEntryAt_toEntry_iff depth b
    have hrest := ofEntriesAt_toEntries_iff depth bs
    rw [ofEntriesAt_eq_ok_iff] at hrest ⊢
    rw [toEntries, List.forall₂_cons, hfirst, hrest, forall_nodesOf_cons_iff]

end

mutual

/-- What an entry has as its bundle is normal. -/
theorem isNormalAt_of_ofEntryAt {depth : ℕ} : (e : Entry) → {b : Bundle} →
    ofEntryAt depth e = .ok b → b.IsNormalAt depth
  | ⟨messages, operation, extra, children⟩, b, h => by
    obtain ⟨hdepth, hshown, hextra, hchildren⟩ := (ofEntryAt_eq_ok_iff _ _ _).mp h
    obtain ⟨hfold, hne⟩ := (statementsOf_eq_ok_iff _ _).mp hshown
    have hroot : NormalNode depth b := ⟨hne, isComment_of_foldComments hfold, hdepth⟩
    have hextras := normalNode_of_ofEntriesAt extra hextra
    have hnested := normalNode_of_ofEntriesAt children hchildren
    exact (isNormalAt_iff depth b).mpr ⟨hroot, hextras, hnested⟩

/-- What entries have as their bundles is normal. -/
theorem normalNode_of_ofEntriesAt {depth : ℕ} : (es : List Entry) → {bs : List Bundle} →
    ofEntriesAt depth es = .ok bs → ∀ n ∈ nodesOf depth bs, NormalNode n.1 n.2
  | [], bs, h => by
    obtain rfl : [] = bs := Except.ok.inj h
    simp [nodesOf]
  | e :: es, bs, h => by
    rw [ofEntriesAt_eq_ok_iff] at h
    obtain ⟨b, rest, hfirst, hall, rfl⟩ := List.forall₂_cons_left_iff.mp h
    have hrest := normalNode_of_ofEntriesAt es ((ofEntriesAt_eq_ok_iff _ _ _).mpr hall)
    have hb := isNormalAt_of_ofEntryAt e hfirst
    exact (forall_nodesOf_cons_iff depth b rest).mpr ⟨hb, hrest⟩

end

/-- Read as an entry, a bundle is its own bundle exactly if it is in normal form, and what an entry
has as its bundle is in normal form; so making an entry ready a second time changes nothing. -/
theorem normal_iff_own_bundle :
    (∀ b : Bundle, ofEntry b.toEntry = .ok b ↔ b.IsNormal) ∧
    ∀ (e : Entry) (b : Bundle), ofEntry e = .ok b → b.IsNormal ∧ ofEntry b.toEntry = .ok b := by
  refine ⟨ofEntryAt_toEntry_iff 0, ?_⟩
  intro e b h
  have hnormal : b.IsNormal := isNormalAt_of_ofEntryAt e h
  exact ⟨hnormal, (ofEntryAt_toEntry_iff 0 b).mpr hnormal⟩

/-- An entry with an operation and notes has a bundle in normal form, which is its own bundle.  A
bundle with a comment at a nested node is not its own one, and therefore not in normal form. -/
theorem folded_entry_is_its_own_bundle :
    let m : Message := ⟨.blame, "m", "a", some 1, none, none, none⟩
    let note : Message := ⟨.comment, "note", "", none, none, none, none⟩
    let e : Entry := ⟨[note, m], some m, [⟨[m, note], none, [], []⟩], [⟨[m], none, [], []⟩]⟩
    let b : Bundle := ⟨[m.annotate "note", m], [⟨[m.annotate "note"], [], []⟩], [⟨[m], [], []⟩]⟩
    let c : Bundle := ⟨[m.annotate "note", m], [⟨[m, note], [], []⟩], [⟨[m], [], []⟩]⟩
    ofEntry e = .ok b ∧ b.IsNormal ∧ ofEntry b.toEntry = .ok b ∧
      ofEntry c.toEntry = .ok b ∧ ¬ c.IsNormal := by
  intro m note e b c
  obtain ⟨hiff, hall⟩ := normal_iff_own_bundle
  have hbundle : ofEntry e = .ok b := rfl
  have hother : ofEntry c.toEntry = .ok b := rfl
  refine ⟨hbundle, (hall e b hbundle).1, (hall e b hbundle).2, hother, ?_⟩
  intro hnormal
  have hown := (hiff c).mpr hnormal
  rw [hother] at hown
  simp [b, c] at hown

end DiagnosticPage.Bundle
