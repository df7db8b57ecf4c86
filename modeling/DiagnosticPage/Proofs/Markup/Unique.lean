import DiagnosticPage.Proofs.Markup.Tags

/-!
# Written markup is read in one way

Two texts that start with written markup agree exactly if the markup is alike and what follows it
agrees.  This is stated piece by piece, as a rule for cancelling the piece on both sides: a tag
(`Element.openingTag_append_inj`), a text in front of a tag (`escape_append_inj`,
`escapeSpaced_append_inj`), an element (`Markup.write_element_append_inj`).

A list of pieces has no end of its own.  It is cancelled if what follows it does not look like one
more piece (`flatMap_append_inj`); `StopsBefore` says this of the elements of one kind.
-/

namespace DiagnosticPage

open Text (expandTabs)

/-! ### Text in front of a tag -/

/-- A text that starts with a tag, or at least with the character that opens one. -/
def AtTag (s : List Char) : Prop :=
  ∃ t, s = '<' :: t

/-- An opening tag begins with a tag. -/
lemma atTag_openingTag_append (e : Element) (s : List Char) : AtTag (e.openingTag ++ s) := by
  obtain ⟨body, hbody, -, -⟩ := e.isTag_openingTag
  exact ⟨body ++ ['>'] ++ s, by rw [hbody, List.cons_append]⟩

/-- A closing tag begins with a tag. -/
lemma atTag_closingTag_append (e : Element) (s : List Char) : AtTag (e.closingTag ++ s) := by
  obtain ⟨body, hbody, -, -⟩ := e.isTag_closingTag
  exact ⟨body ++ ['>'] ++ s, by rw [hbody, List.cons_append]⟩

/-- A written element begins with a tag. -/
lemma atTag_write_element_append (e : Element) (body : List Markup) (s : List Char) :
    AtTag ((Markup.element e body).write ++ s) := by
  rw [Markup.write, List.append_assoc, List.append_assoc]
  exact atTag_openingTag_append e _

section

variable {x y s t : List Char} (hs : AtTag s) (ht : AtTag t)
include hs ht

/-- Texts in which no tag opens are cancelled in front of tags. -/
lemma append_inj_of_atTag (hx : '<' ∉ x) (hy : '<' ∉ y) :
    x ++ s = y ++ t ↔ x = y ∧ s = t := by
  obtain ⟨s, rfl⟩ := hs
  obtain ⟨t, rfl⟩ := ht
  rw [append_cons_inj hx hy, List.cons.injEq]
  simp

/-- In front of tags, escaped texts are alike exactly if the texts are the same. -/
lemma escape_append_inj : Text.escape x ++ s = Text.escape y ++ t ↔ x = y ∧ s = t := by
  rw [append_inj_of_atTag hs ht (Text.harmless_escape x).less_notMem
    (Text.harmless_escape y).less_notMem, Text.escape_injective.eq_iff]

/-- In front of tags, escaped texts with their full width are alike exactly if the texts differ in
nothing but tabs and the spaces these are shown as. -/
lemma escapeSpaced_append_inj :
    Text.escapeSpaced x ++ s = Text.escapeSpaced y ++ t ↔ expandTabs x = expandTabs y ∧ s = t := by
  rw [append_inj_of_atTag hs ht (Text.harmless_escapeSpaced x).less_notMem
    (Text.harmless_escapeSpaced y).less_notMem, Text.escapeSpaced_eq_iff]

end

/-! ### Tags and elements -/

section

variable {e e' : Element} {s t : List Char}

/-- An opening tag is cancelled with its element. -/
lemma Element.openingTag_append_inj :
    e.openingTag ++ s = e'.openingTag ++ t ↔ e = e' ∧ s = t := by
  rw [e.isTag_openingTag.append_inj e'.isTag_openingTag, openingTag_inj]

/-- An element is cancelled from the front: first its tag, then its body and its end. -/
lemma Markup.write_element_append_inj {body body' : List Markup} :
    (element e body).write ++ s = (element e' body').write ++ t ↔
      e = e' ∧ writeAll body ++ (e.closingTag ++ s) = writeAll body' ++ (e'.closingTag ++ t) := by
  rw [write, write]
  simp only [List.append_assoc]
  exact Element.openingTag_append_inj

end

/-! ### Lists of pieces -/

/-- No element of one kind starts where a text starts. -/
def StopsBefore (e : Element) (s : List Char) : Prop :=
  ∀ t, s ≠ e.openingTag ++ t

/-- At its end, a text stops before every element. -/
lemma stopsBefore_nil (e : Element) : StopsBefore e [] := by
  intro t h
  obtain ⟨u, hu⟩ := atTag_openingTag_append e t
  rw [hu] at h
  cases h

/-- Where an element ends, none starts. -/
lemma stopsBefore_closingTag_append (e e' : Element) (s : List Char) :
    StopsBefore e (e'.closingTag ++ s) := by
  intro t h
  rw [e'.isTag_closingTag.append_inj e.isTag_openingTag] at h
  exact Element.openingTag_ne_closingTag e e' h.1.symm

/-- Where an element starts, none of another kind does. -/
lemma stopsBefore_openingTag_append {e e' : Element} (h : e' ≠ e) (s : List Char) :
    StopsBefore e (e'.openingTag ++ s) := by
  intro t ht
  exact h (Element.openingTag_append_inj.mp ht).1

section

variable {α β γ : Type} {view : α → γ} {view' : β → γ}

/-- If single pieces are cancelled by what is seen of them, so are lists of pieces, in front of
texts that do not look like one more piece. -/
theorem flatMap_append_inj {f : α → List Char} {g : β → List Char}
    (hinj : ∀ a b s t, f a ++ s = g b ++ t ↔ view a = view' b ∧ s = t) {s t : List Char}
    (hs : ∀ b u, s ≠ g b ++ u) (ht : ∀ a u, t ≠ f a ++ u) (xs : List α) (ys : List β) :
    xs.flatMap f ++ s = ys.flatMap g ++ t ↔ xs.map view = ys.map view' ∧ s = t := by
  induction xs generalizing ys with
  | nil =>
    cases ys with
    | nil => simp
    | cons y ys =>
      have hne : s ≠ (y :: ys).flatMap g ++ t := by
        rw [List.flatMap_cons, List.append_assoc]
        exact hs y _
      simp only [List.flatMap_nil, List.nil_append, List.map_nil, List.map_cons]
      exact ⟨fun h => absurd h hne, fun h => absurd h.1 (by simp)⟩
  | cons x xs ih =>
    cases ys with
    | nil =>
      have hne : t ≠ (x :: xs).flatMap f ++ s := by
        rw [List.flatMap_cons, List.append_assoc]
        exact ht x _
      simp only [List.flatMap_nil, List.nil_append, List.map_nil, List.map_cons]
      exact ⟨fun h => absurd h.symm hne, fun h => absurd h.1 (by simp)⟩
    | cons y ys =>
      rw [List.flatMap_cons, List.flatMap_cons, List.append_assoc, List.append_assoc, hinj, ih,
        List.map_cons, List.map_cons, List.cons.injEq, and_assoc]

namespace Markup

@[simp] lemma write_lineBreak : lineBreak.write = ['\n'] := rfl

/-- Pieces with line breaks between them and one behind them are lines, if there are any. -/
lemma writeAll_intersperse_cons (m : Markup) (ms : List Markup) (s : List Char) :
    writeAll ((m :: ms).intersperse lineBreak) ++ '\n' :: s =
      (m :: ms).flatMap (fun n => n.write ++ ['\n']) ++ s := by
  induction ms generalizing m with
  | nil => simp [writeAll]
  | cons n ms ih =>
    rw [List.intersperse_cons_cons, writeAll, writeAll, List.append_assoc, List.append_assoc, ih,
      write_lineBreak]
    simp

/-- Elements with line breaks between them are cancelled by what is seen of each of them, in front
of a line break and of texts that do not look like one more element. -/
theorem intersperse_append_inj {f : α → Markup} {g : β → Markup}
    (hf : ∀ a s, AtTag ((f a).write ++ s)) (hg : ∀ b s, AtTag ((g b).write ++ s))
    (hinj : ∀ a b s t, (f a).write ++ s = (g b).write ++ t ↔ view a = view' b ∧ s = t)
    {s t : List Char} (hs : ∀ b u, s ≠ (g b).write ++ u) (ht : ∀ a u, t ≠ (f a).write ++ u)
    (xs : List α) (ys : List β) :
    writeAll ((xs.map f).intersperse lineBreak) ++ '\n' :: s =
        writeAll ((ys.map g).intersperse lineBreak) ++ '\n' :: t ↔
      xs.map view = ys.map view' ∧ s = t := by
  -- a line break is no tag, so no elements at all are told apart from some elements
  have hbreak : ∀ u v : List Char, AtTag v → '\n' :: u ≠ v := by
    rintro u v ⟨w, rfl⟩ h
    exact absurd (List.cons.inj h).1 (by decide)
  cases xs with
  | nil =>
    cases ys with
    | nil => simp [writeAll]
    | cons y ys =>
      rw [List.map_cons, writeAll_intersperse_cons, List.flatMap_cons, List.append_assoc,
        List.append_assoc]
      exact ⟨fun h => absurd h (hbreak _ _ (hg y _)), fun h => absurd h.1 (by simp)⟩
  | cons x xs =>
    cases ys with
    | nil =>
      rw [List.map_cons, writeAll_intersperse_cons, List.flatMap_cons, List.append_assoc,
        List.append_assoc]
      exact ⟨fun h => absurd h.symm (hbreak _ _ (hf x _)), fun h => absurd h.1 (by simp)⟩
    | cons y ys =>
      have hline : ∀ a b s t, ((f a).write ++ ['\n']) ++ s = ((g b).write ++ ['\n']) ++ t ↔
          view a = view' b ∧ s = t := fun a b s t => by
        rw [List.append_assoc, List.append_assoc, hinj, List.append_cancel_left_eq]
      have hlines := flatMap_append_inj hline (s := s) (t := t)
        (fun b u h => hs b (['\n'] ++ u) (by rw [h, List.append_assoc]))
        (fun a u h => ht a (['\n'] ++ u) (by rw [h, List.append_assoc])) (x :: xs) (y :: ys)
      rw [List.map_cons, List.map_cons, writeAll_intersperse_cons, writeAll_intersperse_cons]
      simpa only [List.flatMap_cons, List.flatMap_map, List.map_cons] using hlines

end Markup

end

end DiagnosticPage
