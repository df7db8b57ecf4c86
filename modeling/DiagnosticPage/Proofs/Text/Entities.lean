import DiagnosticPage.Proofs.Text.Escaping

/-!
# Entities as a code

Escaping without regard to white space uses five of the entities, those of the characters that
markup gives a meaning of its own (`Entity.reserved`).  They make a code: no entity is the beginning
of another one (`eq_of_written_prefix`), so a text starts with at most one of them, and in escaped
text every ampersand starts exactly one (`existsUnique_reserved_of_escape`).

`decode` reads that code.  It knows the five entities as a table and goes over a text from left to
right in one pass: where an entity stands it is replaced, and reading goes on behind it, so what
comes out is never read again.  `decode_escape_append` says that this undoes escaping, whatever text
follows; in particular an escaped ampersand is not taken together with what stands behind it, even
if the two look like an entity that has been escaped twice.
-/

namespace DiagnosticPage.Text

/-! ### The entities of escaped text -/

namespace Entity

/-- The entities of the characters that markup gives a meaning of its own. -/
def reserved : List Entity :=
  [ampersand, less, greater, quote, apostrophe]

/-- The reserved entities as they are written. -/
example : reserved.map (String.ofList ∘ written) =
    ["&amp;", "&lt;", "&gt;", "&quot;", "&#39;"] := by
  decide

/-- Every entity but the no-break space is reserved. -/
lemma mem_reserved_iff {e : Entity} : e ∈ reserved ↔ e ≠ noBreakSpace := by
  cases e <;> decide

/-- An entity starts with an ampersand. -/
lemma written_eq_cons (e : Entity) : e.written = '&' :: e.written.tail := by
  cases e <;> rfl

/-- A text starts with one entity at most. -/
lemma eq_of_written_prefix {e e' : Entity} {s : List Char} (h : e.written <+: s)
    (h' : e'.written <+: s) : e = e' := by
  have hcode : ∀ e e' : Entity, e.written <+: e'.written → e = e' := by
    intro e e'
    cases e <;> cases e' <;> decide
  rcases List.prefix_or_prefix_of_prefix h h' with hprefix | hprefix
  · exact hcode e e' hprefix
  · exact (hcode e' e hprefix).symm

end Entity

/-- In escaped text, every ampersand starts a reserved entity. -/
lemma ampersandsStart_escape (s : List Char) :
    AmpersandsStart (· ∈ Entity.reserved) (escape s) := by
  induction s with
  | nil => exact ampersandsStart_nil
  | cons c s ih =>
    rw [escape_cons]
    refine AmpersandsStart.append ?_ ih
    rcases escapeChar_cases c with ⟨e, hne, he, -⟩ | ⟨h, hamp, -⟩
    · rw [he]
      exact ampersandsStart_written (Entity.mem_reserved_iff.mpr hne)
    · rw [h]
      exact ampersandsStart_singleton hamp

/-- In escaped text, every ampersand starts exactly one reserved entity. -/
lemma existsUnique_reserved_of_escape {s before after : List Char}
    (h : escape s = before ++ '&' :: after) :
    ∃! e, e ∈ Entity.reserved ∧ e.written <+: '&' :: after := by
  obtain ⟨e, hreserved, he⟩ := ampersandsStart_escape s before after h
  exact ⟨e, ⟨hreserved, he⟩, fun e' h' => Entity.eq_of_written_prefix h'.2 he⟩

/-! ### Decoding -/

/-- The reserved entity with which a text starts, if there is one. -/
def startingEntity? (s : List Char) : Option Entity :=
  Entity.reserved.find? fun e => e.written.isPrefixOf s

/-- Replaces the reserved entities of a text by the characters that they stand for, from left to
right.  The first `passed` characters are left out: they belong to an entity that has been
replaced. -/
def decodeFrom : ℕ → List Char → List Char
  | _, [] => []
  | passed + 1, _ :: s => decodeFrom passed s
  | 0, c :: s =>
    match startingEntity? (c :: s) with
    | some e => e.meaning :: decodeFrom (e.written.length - 1) s
    | none => c :: decodeFrom 0 s

/-- A text with the reserved entities replaced by the characters that they stand for. -/
def decode (s : List Char) : List Char :=
  decodeFrom 0 s

@[simp] lemma decode_nil : decode [] = [] := rfl

/-- The entity with which a text starts is found. -/
lemma startingEntity?_written_append {e : Entity} (he : e ∈ Entity.reserved) (t : List Char) :
    startingEntity? (e.written ++ t) = some e := by
  cases hfound : startingEntity? (e.written ++ t) with
  | none =>
    have hnone := List.find?_eq_none.mp hfound e he
    simp at hnone
  | some e' =>
    have htest : e'.written.isPrefixOf (e.written ++ t) = true := by
      simpa using List.find?_some hfound
    have hprefix := List.isPrefixOf_iff_prefix.mp htest
    rw [Entity.eq_of_written_prefix hprefix (List.prefix_append e.written t)]

/-- A character other than an ampersand starts no entity. -/
lemma startingEntity?_cons_of_ne {c : Char} (hc : c ≠ '&') (t : List Char) :
    startingEntity? (c :: t) = none := by
  refine List.find?_eq_none.mpr fun e _ => ?_
  rw [Entity.written_eq_cons]
  simp [List.isPrefixOf, hc.symm]

/-- Decoding passes over the rest of an entity. -/
lemma decodeFrom_append (s t : List Char) : decodeFrom s.length (s ++ t) = decode t := by
  induction s with
  | nil => rfl
  | cons c s ih => exact ih

/-- A reserved entity is decoded to its character, and decoding goes on behind it. -/
lemma decode_written_append {e : Entity} (he : e ∈ Entity.reserved) (t : List Char) :
    decode (e.written ++ t) = e.meaning :: decode t := by
  have hstart := startingEntity?_written_append he t
  have hlength : e.written.length - 1 = e.written.tail.length := List.length_tail.symm
  rw [Entity.written_eq_cons, List.cons_append] at hstart ⊢
  rw [decode, decodeFrom, hstart]
  simp only [hlength, decodeFrom_append]

/-- A character other than an ampersand is kept. -/
lemma decode_cons_of_ne {c : Char} (hc : c ≠ '&') (t : List Char) :
    decode (c :: t) = c :: decode t := by
  rw [decode, decodeFrom, startingEntity?_cons_of_ne hc]
  rfl

/-- Decoding undoes the escaping of one character. -/
lemma decode_escapeChar_append (c : Char) (t : List Char) :
    decode (escapeChar c ++ t) = c :: decode t := by
  rcases escapeChar_cases c with ⟨e, hne, he, hmeaning⟩ | ⟨h, hamp, -⟩
  · rw [he, decode_written_append (Entity.mem_reserved_iff.mpr hne), hmeaning]
  · rw [h, List.singleton_append, decode_cons_of_ne hamp]

/-- Decoding undoes escaping, whatever text follows. -/
theorem decode_escape_append (s t : List Char) : decode (escape s ++ t) = s ++ decode t := by
  induction s with
  | nil => rfl
  | cons c s ih =>
    rw [escape_cons, List.append_assoc, decode_escapeChar_append, ih, List.cons_append]

/-- Decoding undoes escaping. -/
lemma decode_escape (s : List Char) : decode (escape s) = s := by
  have h := decode_escape_append s []
  rwa [List.append_nil, decode_nil, List.append_nil] at h

/-- What an escaped ampersand stands before is not decoded together with it. -/
example : decode "&amp;lt;&amp;amp;&nbsp;&lt".toList = "&lt;&amp;&nbsp;&lt".toList := by
  decide

end DiagnosticPage.Text
