import DiagnosticPage.Proofs.Bundle.Normalization

/-!
# The nodes of an entry and of its bundle

An entry and its bundle are the same tree.  `Entry.nodes` and `Bundle.nodes` list the nodes of the
two in reading order, to any depth, and `Bundle.forall₂_nodes` relates the lists node by node: a
node of the bundle shows the folded messages of the entry's node and has as many nested nodes.

What is read off the nodes of a report's bundles can therefore be read off the report itself: the
messages in their order (`Entry.shown`), the path by which an entry is grouped
(`Entry.primaryPath`), and the number of messages, which is the number of statements that are no
comments.
-/

namespace DiagnosticPage

/-- Lists that are related one by one have the same image if related values have. -/
lemma map_eq_map_of_forall₂ {α β γ : Type} {R : α → β → Prop} {f : α → γ} {g : β → γ}
    (hfg : ∀ a b, R a b → f a = g b) {xs : List α} {ys : List β} (h : List.Forall₂ R xs ys) :
    xs.map f = ys.map g := by
  induction h with
  | nil => rfl
  | cons hab _ ih => rw [List.map_cons, List.map_cons, hfg _ _ hab, ih]

namespace Entry

mutual

/-- The nodes of an entry in reading order: a node, its supplementary evidence, its nested
entries. -/
def nodes : Entry → List Entry
  | ⟨messages, operation, extra, children⟩ =>
    ⟨messages, operation, extra, children⟩ :: (nodesAll extra ++ nodesAll children)

/-- The nodes of several entries, one after the other. -/
def nodesAll : List Entry → List Entry
  | [] => []
  | e :: es => nodes e ++ nodesAll es

end

/-- The messages of a node with the comments folded; there are none if a comment comes first. -/
def folded (e : Entry) : List Message :=
  match Bundle.foldComments e.statements with
  | .ok shown => shown
  | .error _ => []

/-- The messages of an entry in reading order, node by node. -/
def shown (e : Entry) : List Message :=
  e.nodes.flatMap folded

/-- The path of the first statement of an entry. -/
def primaryPath (e : Entry) : String :=
  match e.statements with
  | [] => ""
  | m :: _ => m.path

end Entry

namespace Bundle

mutual

/-- The nodes of a bundle in reading order. -/
def nodes : Bundle → List Bundle
  | ⟨messages, extras, children⟩ =>
    ⟨messages, extras, children⟩ :: (nodesAll extras ++ nodesAll children)

/-- The nodes of several bundles, one after the other. -/
def nodesAll : List Bundle → List Bundle
  | [] => []
  | b :: bs => nodes b ++ nodesAll bs

end

/-! ### Folding, counted -/

/-- Of a message and the statements behind it, every statement that is no comment becomes a
message. -/
lemma length_foldInto (m : Message) (xs : List Message) :
    (foldInto m xs).length = xs.countP (fun x => !x.isComment) + 1 := by
  induction xs generalizing m with
  | nil => rfl
  | cons x xs ih =>
    rw [foldInto]
    by_cases hx : x.isComment = true
    · rw [if_pos hx, ih]
      simp [hx]
    · rw [if_neg hx, List.length_cons, ih]
      simp [hx]

/-- Every statement that is no comment becomes a message. -/
lemma length_of_foldComments {ms shown : List Message} (h : foldComments ms = .ok shown) :
    shown.length = ms.countP fun m => !m.isComment := by
  cases ms with
  | nil =>
    obtain rfl : [] = shown := Except.ok.inj h
    rfl
  | cons m ms =>
    obtain ⟨hm, rfl⟩ := (foldComments_cons_eq_ok_iff m ms shown).mp h
    rw [length_foldInto]
    simp [hm]

/-! ### From a bundle to its entry -/

/-- A node of a bundle shows the messages of a node of an entry, and as much is nested in it. -/
structure IsNodeOf (b : Bundle) (e : Entry) : Prop where
  foldComments_eq : foldComments e.statements = .ok b.messages
  length_extras : b.extras.length = e.extra.length
  length_children : b.children.length = e.children.length

/-- The messages of a node are the folded ones. -/
lemma IsNodeOf.messages_eq {b : Bundle} {e : Entry} (h : IsNodeOf b e) :
    b.messages = e.folded := by
  unfold Entry.folded
  rw [h.foldComments_eq]

/-- A bundle is grouped by the path of the first statement of its entry. -/
lemma IsNodeOf.primaryPath_eq {b : Bundle} {e : Entry} (h : IsNodeOf b e) :
    b.primaryPath = e.primaryPath := by
  have hfold := h.foldComments_eq
  unfold primaryPath Entry.primaryPath
  cases hstatements : e.statements with
  | nil =>
    rw [hstatements] at hfold
    rw [← Except.ok.inj hfold]
  | cons m ms =>
    rw [hstatements] at hfold
    obtain ⟨-, hmessages⟩ := (foldComments_cons_eq_ok_iff m ms b.messages).mp hfold
    obtain ⟨n, ns, hinto, hpath⟩ := foldInto_eq_cons m ms
    rw [← hmessages, hinto]
    exact hpath

/-- Bundles that belong to entries are related to them one by one. -/
lemma AreBundlesOf.forall₂ : {bs : List Bundle} → {es : List Entry} → AreBundlesOf bs es →
    List.Forall₂ IsBundleOf bs es
  | [], [], _ => .nil
  | _ :: _, _ :: _, h => .cons h.1 (AreBundlesOf.forall₂ h.2)

/-- The root of a bundle is a node of the root of its entry. -/
lemma IsBundleOf.isNodeOf {b : Bundle} {e : Entry} (h : IsBundleOf b e) : IsNodeOf b e := by
  obtain ⟨messages, extras, children⟩ := b
  obtain ⟨statements, operation, extra, nested⟩ := e
  obtain ⟨hfold, hextras, hchildren⟩ := h
  exact ⟨hfold, hextras.forall₂.length_eq, hchildren.forall₂.length_eq⟩

mutual

/-- The nodes of a bundle are those of its entry, in the same order. -/
theorem forall₂_nodes : (b : Bundle) → (e : Entry) → IsBundleOf b e →
    List.Forall₂ IsNodeOf b.nodes e.nodes
  | ⟨messages, extras, children⟩, ⟨statements, operation, extra, nested⟩, h => by
    have hroot := h.isNodeOf
    obtain ⟨-, hextras, hchildren⟩ := h
    exact .cons hroot
      (List.rel_append (forall₂_nodesAll extras extra hextras)
        (forall₂_nodesAll children nested hchildren))

/-- The same for the bundles of several entries. -/
theorem forall₂_nodesAll : (bs : List Bundle) → (es : List Entry) → AreBundlesOf bs es →
    List.Forall₂ IsNodeOf (nodesAll bs) (Entry.nodesAll es)
  | [], [], _ => .nil
  | b :: bs, e :: es, h =>
    List.rel_append (forall₂_nodes b e h.1) (forall₂_nodesAll bs es h.2)

end

/-- Entries that have bundles belong to them. -/
lemma areBundlesOf_of_ofEntries {es : List Entry} {bs : List Bundle}
    (h : ofEntries es = .ok bs) : AreBundlesOf bs es := by
  have hall := (mapM_eq_ok_iff ofEntry es bs).mp h
  clear h
  induction hall with
  | nil => trivial
  | @cons e b es bs hb _ ih => exact ⟨isBundleOf_of_ofEntry hb, ih⟩

end Bundle

end DiagnosticPage
