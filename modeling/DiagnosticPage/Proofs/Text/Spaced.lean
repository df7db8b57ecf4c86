import DiagnosticPage.Proofs.Text.Escaping
import Mathlib.Data.List.Count

/-!
# Text that keeps the width of its white space

`escapeSpaced` writes each character for itself.  The same comes out when whole texts are replaced,
one pass after the other: the text is escaped, then the tabs are replaced in what was written, and
then the spaces in what has come of that (`escapeInPasses`).  A later pass goes over the entities
that an earlier one has put in, and finds nothing there, since no entity has white space in it
(`blank_notMem_written`).

What such a text says is told without a decoder, too.  `Reads` cuts it into signs, each an entity or
a character that opens none, and takes each sign for the character that it stands for.  Whatever the
text, there is one way to do so (`reads_escapeSpaced_iff`), and it gives a no-break space for every
column of white space and every other character as it was.  Hence the number of characters that are
read is the width that `width` counts.
-/

namespace DiagnosticPage.Text

/-! ### Passes over whole texts -/

/-- A text with a replacement in the place of each occurrence of a character. -/
def replaceAll (c : Char) (replacement s : List Char) : List Char :=
  s.flatMap fun d => if d = c then replacement else [d]

/-- A character is replaced piece by piece. -/
@[simp] lemma replaceAll_append (c : Char) (replacement s t : List Char) :
    replaceAll c replacement (s ++ t) =
      replaceAll c replacement s ++ replaceAll c replacement t := by
  simp [replaceAll]

/-- Where a character does not occur, nothing is replaced. -/
lemma replaceAll_of_notMem {c : Char} {s : List Char} (hc : c ∉ s) (replacement : List Char) :
    replaceAll c replacement s = s := by
  have hkeep : ∀ d ∈ s, (if d = c then replacement else [d]) = [d] := fun d hd =>
    if_neg (ne_of_mem_of_not_mem hd hc)
  unfold replaceAll
  rw [List.flatMap_congr hkeep, List.flatMap_singleton']

/-- No-break spaces in the place of a tab. -/
def writtenTab : List Char :=
  (List.replicate tabSize Entity.noBreakSpace.written).flatten

/-- A text that is escaped in a first pass; a second one replaces tabs and a third one spaces. -/
def escapeInPasses (s : List Char) : List Char :=
  replaceAll ' ' Entity.noBreakSpace.written (replaceAll '\t' writtenTab (escape s))

/-- No entity has white space in it. -/
lemma blank_notMem_written (e : Entity) : '\t' ∉ e.written ∧ ' ' ∉ e.written := by
  cases e <;> decide

/-- Only white space has white space in its written form. -/
lemma blank_notMem_escapeChar {c : Char} (htab : c ≠ '\t') (hspace : c ≠ ' ') :
    '\t' ∉ escapeChar c ∧ ' ' ∉ escapeChar c := by
  rcases escapeChar_cases c with ⟨e, -, he, -⟩ | ⟨h, -⟩
  · rw [he]
    exact blank_notMem_written e
  · rw [h]
    exact ⟨by simpa using htab.symm, by simpa using hspace.symm⟩

/-- The two later passes go over the written form of a character as they should. -/
lemma replaceAll_escapeChar (c : Char) :
    replaceAll ' ' Entity.noBreakSpace.written (replaceAll '\t' writtenTab (escapeChar c)) =
      escapeCharSpaced c := by
  by_cases htab : c = '\t'
  · subst htab
    decide
  · by_cases hspace : c = ' '
    · subst hspace
      decide
    · obtain ⟨htab', hspace'⟩ := blank_notMem_escapeChar htab hspace
      rw [replaceAll_of_notMem htab', replaceAll_of_notMem hspace', escapeCharSpaced,
        if_neg (not_or.mpr ⟨htab, hspace⟩)]

/-- The passes write what is written character by character. -/
theorem escapeInPasses_eq (s : List Char) : escapeInPasses s = escapeSpaced s := by
  induction s with
  | nil => rfl
  | cons c s ih =>
    rw [escapeSpaced_cons, ← ih, ← replaceAll_escapeChar, escapeInPasses, escape_cons,
      replaceAll_append, replaceAll_append]
    rfl

/-! ### Signs -/

/-- A sign of a written text: an entity, or a character that opens none. -/
inductive Sign where
  | entity (e : Entity)
  | plain (c : Char) (hc : c ≠ '&')

namespace Sign

/-- A sign as it is written. -/
def written : Sign → List Char
  | entity e => e.written
  | plain c _ => [c]

/-- The character that a sign stands for. -/
def meaning : Sign → Char
  | entity e => e.meaning
  | plain c _ => c

end Sign

/-- A written text is a row of signs, and these stand for the characters of the text that is read.
-/
def Reads (written read : List Char) : Prop :=
  ∃ signs : List Sign, written = signs.flatMap Sign.written ∧ read = signs.map Sign.meaning

/-- A text is read in one way only, as entities are replaced from left to right. -/
lemma Reads.unescape_eq {written read : List Char} (h : Reads written read) :
    unescape '\u00a0' written = read := by
  obtain ⟨signs, rfl, rfl⟩ := h
  induction signs with
  | nil => rfl
  | cons sign signs ih =>
    rw [List.flatMap_cons, List.map_cons, ← ih]
    cases sign with
    | entity e =>
      refine (unescape_written_append '\u00a0' e _).trans ?_
      cases e <;> rfl
    | plain c hc => exact unescape_cons_of_ne '\u00a0' hc _

/-- Two texts are read one after the other. -/
lemma Reads.append {written written' read read' : List Char} (h : Reads written read)
    (h' : Reads written' read') : Reads (written ++ written') (read ++ read') := by
  obtain ⟨signs, rfl, rfl⟩ := h
  obtain ⟨signs', rfl, rfl⟩ := h'
  exact ⟨signs ++ signs', by simp, by simp⟩

/-- What is written for a character is read as that character. -/
lemma reads_escapeChar (c : Char) : Reads (escapeChar c) [c] := by
  rcases escapeChar_cases c with ⟨e, -, he, hmeaning⟩ | ⟨h, hamp, -⟩
  · exact ⟨[.entity e], by simp [he, Sign.written], by simp [hmeaning, Sign.meaning]⟩
  · exact ⟨[.plain c hamp], by simp [h, Sign.written], by simp [Sign.meaning]⟩

/-- White space is read as a no-break space for each of its columns. -/
lemma reads_escapeCharSpaced (c : Char) : Reads (escapeCharSpaced c) (spread '\u00a0' [c]) := by
  by_cases htab : c = '\t'
  · subst htab
    exact ⟨List.replicate tabSize (.entity .noBreakSpace), rfl, rfl⟩
  · by_cases hspace : c = ' '
    · subst hspace
      exact ⟨[.entity .noBreakSpace], rfl, rfl⟩
    · rw [escapeCharSpaced, if_neg (not_or.mpr ⟨htab, hspace⟩)]
      simpa [htab, hspace] using reads_escapeChar c

/-- Text that keeps the width of its white space can be read. -/
lemma reads_escapeSpaced (s : List Char) : Reads (escapeSpaced s) (spread '\u00a0' s) := by
  induction s with
  | nil => exact ⟨[], rfl, rfl⟩
  | cons c s ih =>
    have hcons : spread '\u00a0' (c :: s) =
        spread '\u00a0' [c] ++ spread '\u00a0' s := spread_append '\u00a0' [c] s
    rw [escapeSpaced_cons, hcons]
    exact (reads_escapeCharSpaced c).append ih

/-- Text that keeps the width of its white space is read in one way only. -/
lemma reads_escapeSpaced_iff (s read : List Char) :
    Reads (escapeSpaced s) read ↔ read = spread '\u00a0' s := by
  constructor
  · intro h
    rw [← h.unescape_eq, (reads_escapeSpaced s).unescape_eq]
  · rintro rfl
    exact reads_escapeSpaced s

/-! ### Width -/

/-- The width of a text by its tabs and its other characters. -/
lemma width_eq_count (s : List Char) :
    width s = s.countP (· ≠ '\t') + s.count '\t' * tabSize := by
  induction s with
  | nil => rfl
  | cons c s ih =>
    rw [width_cons, ih, columns]
    by_cases htab : c = '\t'
    · subst htab
      rw [if_pos rfl, List.countP_cons_of_neg (by simp), List.count_cons_self, Nat.succ_mul]
      omega
    · rw [if_neg htab, List.countP_cons_of_pos (by simpa using htab), List.count_cons_of_ne htab]
      omega

/-- Text is written in three passes, and what is written for two texts is put together.  Read back,
it has a no-break space for each column of white space and the other characters as they were, and
so it has as many characters as were counted.  Two texts are written alike exactly if they are equal
once their tabs have become spaces. -/
theorem spaced_text_is_read_column_by_column :
    (∀ s, escapeInPasses s = escapeSpaced s) ∧
    (∀ a b, escapeSpaced (a ++ b) = escapeSpaced a ++ escapeSpaced b) ∧
    (∀ a, unescape '\u00a0' (escapeSpaced a) = spread '\u00a0' a ∧
      (∀ read, Reads (escapeSpaced a) read ↔ read = spread '\u00a0' a) ∧
      (spread '\u00a0' a).length = width a ∧
      width a = a.countP (· ≠ '\t') + a.count '\t' * tabSize) ∧
    ∀ a b, escapeSpaced a = escapeSpaced b ↔ expandTabs a = expandTabs b := by
  refine ⟨escapeInPasses_eq, escapeSpaced_append, fun a => ?_, escapeSpaced_eq_iff⟩
  exact ⟨(reads_escapeSpaced a).unescape_eq, reads_escapeSpaced_iff a, length_spread '\u00a0' a,
    width_eq_count a⟩

/-- Text that looks like an entity is not taken for one. -/
example : unescape '\u00a0' (escapeSpaced "&nbsp;\u00a0 &amp;\t".toList) =
    "&nbsp;\u00a0\u00a0&amp;\u00a0\u00a0".toList := by
  decide

end DiagnosticPage.Text
