import DiagnosticPage.Proofs.Markup.Scan
import Mathlib.Algebra.GroupWithZero.Nat
import Mathlib.Data.List.Infix

/-!
# What is found in a written page

`occurrences` counts the places of a text at which another one stands, and `elementsAt` takes from
each place that passes a test the element that starts there, up to the tag that closes it.  Both
look at the text alone.

On written markup they find the elements of the markup.  `Markup.elementsAll` lists these in
reading order, and `elementsAt_writeAll` says that a test of tags finds the written forms of those
elements whose opening tag passes it, `Markup.found`, in this order and no others: no text of a
message starts a tag, and every element is taken to its own end.  Counts are sums over the
elements, `Markup.total`: `occurrences_openingTag` counts the elements with one opening tag, and
`occurrences_writeAll` whatever can stand inside of tags only.
-/

namespace DiagnosticPage

/-! ### Counting places -/

/-- The number of places in a text at which another text stands. -/
def occurrences (p s : List Char) : ℕ :=
  s.tails.countP p.isPrefixOf

@[simp] lemma occurrences_nil {p : List Char} (hp : p ≠ []) : occurrences p [] = 0 := by
  cases p with
  | nil => exact absurd rfl hp
  | cons c p => simp [occurrences]

/-- The first place counts if the text stands there. -/
lemma occurrences_cons (p : List Char) (c : Char) (s : List Char) :
    occurrences p (c :: s) =
      (if p.isPrefixOf (c :: s) = true then 1 else 0) + occurrences p s := by
  unfold occurrences
  rw [List.tails_cons, List.countP_cons, Nat.add_comm]

/-- Places without the first character of a text do not count. -/
lemma occurrences_append_of_notMem {c : Char} {p x : List Char} (hx : c ∉ x) (s : List Char) :
    occurrences (c :: p) (x ++ s) = occurrences (c :: p) s := by
  induction x with
  | nil => rfl
  | cons d x ih =>
    have hd : c ≠ d := fun h => hx (by simp [h])
    have hfirst : (c :: p).isPrefixOf (d :: (x ++ s)) = false := by
      simp [List.isPrefixOf, hd]
    rw [List.cons_append, occurrences_cons, hfirst, ih fun h => hx (by simp [h])]
    simp

/-- A text without a character stands before that character as it stands without it. -/
lemma prefix_append_cons_iff {p x s : List Char} {c : Char} (hc : c ∉ p) :
    p <+: x ++ c :: s ↔ p <+: x := by
  constructor
  · intro h
    rcases List.prefix_or_prefix_of_prefix h (List.prefix_append x (c :: s)) with hp | ⟨z, rfl⟩
    · exact hp
    · cases z with
      | nil => simp
      | cons d z =>
        -- what goes beyond the first part starts with the character
        have hd : d = c := by
          have := (List.prefix_append_right_inj x).mp h
          exact (List.cons_prefix_cons.mp this).1
        exact absurd (by simp [hd]) hc
  · intro h
    exact h.trans (List.prefix_append _ _)

/-- A character that does not occur in a text separates the places at which the text stands. -/
lemma occurrences_append_cons {p x s : List Char} {c : Char} (hp : p ≠ []) (hc : c ∉ p) :
    occurrences p (x ++ c :: s) = occurrences p x + occurrences p s := by
  induction x with
  | nil =>
    have hfirst : p.isPrefixOf (c :: s) = false := by
      rw [Bool.eq_false_iff, ne_eq, List.isPrefixOf_iff_prefix]
      intro h
      have hnil := (prefix_append_cons_iff (x := []) hc).mp h
      exact hp (List.prefix_nil.mp hnil)
    rw [List.nil_append, occurrences_cons, hfirst, occurrences_nil hp]
    rfl
  | cons d x ih =>
    have hfirst : p.isPrefixOf (d :: (x ++ c :: s)) = p.isPrefixOf (d :: x) := by
      rw [Bool.eq_iff_iff, List.isPrefixOf_iff_prefix, List.isPrefixOf_iff_prefix]
      exact prefix_append_cons_iff (x := d :: x) hc
    rw [List.cons_append, occurrences_cons, occurrences_cons, hfirst, ih, Nat.add_assoc]

/-- A text that holds a character more often than another one does not stand in it. -/
lemma occurrences_eq_zero {p s : List Char} {c : Char} (h : s.count c < p.count c) :
    occurrences p s = 0 := by
  unfold occurrences
  rw [List.countP_eq_zero]
  intro t ht hp
  have hpt : p <+: t := List.isPrefixOf_iff_prefix.mp hp
  have hts : t <:+ s := (List.mem_tails _ _).mp ht
  have h₁ := hpt.sublist.count_le c
  have h₂ := hts.sublist.count_le c
  omega

/-! ### Elements of a text -/

namespace Scan

/-- What comes before the tag that closes the outermost of `depth` open elements, and that tag;
everything if the element stays open. -/
def marksUntilClosed : ℕ → List (List Char × List Char) → List Char
  | _, [] => []
  | depth, (tag, x) :: marks =>
    if closes tag then
      if depth ≤ 1 then tag else tag ++ x ++ marksUntilClosed (depth - 1) marks
    else tag ++ x ++ marksUntilClosed (depth + 1) marks

/-- A cut text up to the tag that closes the outermost of `depth` open elements. -/
def untilClosed (depth : ℕ) (s : Scan) : List Char :=
  s.lead ++ marksUntilClosed depth s.marks

/-- Text in front of a scan belongs to what is still open. -/
lemma untilClosed_behindText (depth : ℕ) (x : List Char) (s : Scan) :
    (s.behindText x).untilClosed depth = x ++ s.untilClosed depth := by
  simp [untilClosed, behindText]

/-- An element that is opened has to be closed first. -/
lemma untilClosed_behind_opening (depth : ℕ) (e : Element) (s : Scan) :
    (s.behindTag e.openingTag).untilClosed depth =
      e.openingTag ++ s.untilClosed (depth + 1) := by
  simp [untilClosed, behindTag, marksUntilClosed]

/-- An inner element that is closed leaves the outer one open. -/
lemma untilClosed_behind_closing (depth : ℕ) (e : Element) (s : Scan) :
    (s.behindTag e.closingTag).untilClosed (depth + 2) =
      e.closingTag ++ s.untilClosed (depth + 1) := by
  simp [untilClosed, behindTag, marksUntilClosed]

/-- What was opened first ends where it is closed. -/
lemma untilClosed_behind_last (e : Element) (s : Scan) :
    (s.behindTag e.closingTag).untilClosed 1 = e.closingTag := by
  simp [untilClosed, behindTag, marksUntilClosed]

/-- Written markup lies within every element that is open before it. -/
theorem untilClosed_writeAll (ms : List Markup) (depth : ℕ) (s : List Char) :
    (read (Markup.writeAll ms ++ s)).untilClosed (depth + 1) =
      Markup.writeAll ms ++ (read s).untilClosed (depth + 1) := by
  induction ms using Markup.readingInduction generalizing depth s with
  | nil => rfl
  | text x ms ih =>
    rw [Markup.writeAll, Markup.write, List.append_assoc, List.append_assoc, read_escape_append,
      untilClosed_behindText, ih]
  | spaced x ms ih =>
    rw [Markup.writeAll, Markup.write, List.append_assoc, List.append_assoc,
      read_escapeSpaced_append, untilClosed_behindText, ih]
  | element e body ms ihbody ih =>
    rw [Markup.writeAll, Markup.write]
    simp only [List.append_assoc]
    rw [read_openingTag_append, untilClosed_behind_opening, ihbody, read_closingTag_append,
      untilClosed_behind_closing, ih]

end Scan

/-- The element with which a text starts. -/
def elementText (s : List Char) : List Char :=
  (Scan.read s).untilClosed 0

/-- The elements that start at the places of a text that pass a test. -/
def elementsAt (starts : List Char → Bool) (s : List Char) : List (List Char) :=
  (s.tails.filter starts).map elementText

/-- A written element is taken to its own end, whatever follows. -/
theorem elementText_write_append (e : Element) (body : List Markup) (s : List Char) :
    elementText ((Markup.element e body).write ++ s) = (Markup.element e body).write := by
  rw [elementText, Markup.write]
  simp only [List.append_assoc]
  rw [Scan.read_openingTag_append, Scan.untilClosed_behind_opening, Scan.untilClosed_writeAll,
    Scan.read_closingTag_append, Scan.untilClosed_behind_last]

/-! ### Tests of tags -/

/-- A test that only passes where an opening tag starts, and looks at nothing but the tag. -/
structure OpeningTest (starts : List Char → Bool) : Prop where
  nil : starts [] = false
  cons {c : Char} (hc : c ≠ '<') (s : List Char) : starts (c :: s) = false
  append {t : List Char} (ht : IsTag t) (s : List Char) : starts (t ++ s) = starts t
  closingTag (e : Element) : starts e.closingTag = false

/-- To pass one of two tests of opening tags is such a test again. -/
lemma OpeningTest.or {f g : List Char → Bool} (hf : OpeningTest f) (hg : OpeningTest g) :
    OpeningTest fun s => f s || g s where
  nil := by simp [hf.nil, hg.nil]
  cons hc s := by simp [hf.cons hc, hg.cons hc]
  append ht s := by simp [hf.append ht, hg.append ht]
  closingTag e := by simp [hf.closingTag, hg.closingTag]

/-- To start with a given text is a test of opening tags if that text goes beyond the name of no
closing tag and does not reach beyond the end of a tag. -/
lemma openingTest_isPrefixOf {p : List Char} (hname : ∃ c q, p = '<' :: c :: q ∧ c ≠ '/')
    (hend : '>' ∉ p.dropLast) : OpeningTest p.isPrefixOf := by
  obtain ⟨d, q, rfl, hd⟩ := hname
  refine ⟨rfl, ?_, ?_, ?_⟩
  · intro c hc s
    simp [List.isPrefixOf, Ne.symm hc]
  · intro t ht s
    rw [Bool.eq_iff_iff, List.isPrefixOf_iff_prefix, List.isPrefixOf_iff_prefix]
    constructor
    · intro h
      rcases List.prefix_or_prefix_of_prefix h (List.prefix_append t s) with hp | ⟨z, hz⟩
      · exact hp
      · rcases List.eq_nil_or_concat z with rfl | ⟨z, c, rfl⟩
        · rw [← hz]; simp
        · -- the tag would end before the text does
          obtain ⟨body, rfl, -, -⟩ := ht
          refine absurd ?_ hend
          rw [← hz, List.concat_eq_append, ← List.append_assoc, List.dropLast_concat]
          simp
    · intro h
      exact h.trans (List.prefix_append t s)
  · intro e
    simp [Element.closingTag, List.isPrefixOf, hd]

section

variable {starts : List Char → Bool} (h : OpeningTest starts)
include h

/-- No place in a text without a `<` passes a test of opening tags. -/
lemma OpeningTest.elementsAt_append {x : List Char} (hx : '<' ∉ x) (s : List Char) :
    elementsAt starts (x ++ s) = elementsAt starts s := by
  induction x with
  | nil => rfl
  | cons c x ih =>
    have hc : c ≠ '<' := fun hc => hx (by simp [hc])
    rw [List.cons_append, elementsAt, List.tails_cons, List.filter_cons, h.cons hc]
    exact ih fun hm => hx (by simp [hm])

/-- In a tag, at most the place at its start passes a test of opening tags. -/
lemma OpeningTest.elementsAt_tag_append {t : List Char} (ht : IsTag t) (s : List Char) :
    elementsAt starts (t ++ s) =
      (if starts t = true then [elementText (t ++ s)] else []) ++ elementsAt starts s := by
  have hfirst := h.append ht s
  obtain ⟨body, rfl, hbody, -⟩ := ht
  have hrest : '<' ∉ body ++ ['>'] := by simpa using hbody
  rw [← h.elementsAt_append hrest s, elementsAt, List.cons_append, List.tails_cons,
    List.filter_cons, ← List.cons_append, hfirst]
  split
  · rfl
  · rfl

end

/-! ### Elements of written markup -/

namespace Markup

mutual

/-- The elements in a piece of markup with their bodies, in reading order. -/
def elements : Markup → List (Element × List Markup)
  | text _ => []
  | spaced _ => []
  | element e body => (e, body) :: elementsAll body

/-- The elements in several pieces of markup, one after the other. -/
def elementsAll : List Markup → List (Element × List Markup)
  | [] => []
  | m :: ms => m.elements ++ elementsAll ms

end

@[simp] lemma elementsAll_append (ms ns : List Markup) :
    elementsAll (ms ++ ns) = elementsAll ms ++ elementsAll ns := by
  induction ms with
  | nil => rfl
  | cons m ms ih => simp [elementsAll, ih]

/-- Line breaks between pieces of markup add no elements. -/
lemma elementsAll_intersperse (ms : List Markup) :
    elementsAll (ms.intersperse lineBreak) = elementsAll ms := by
  induction ms with
  | nil => rfl
  | cons m ms ih =>
    cases ms with
    | nil => rfl
    | cons n ns =>
      rw [List.intersperse_cons_cons, elementsAll, elementsAll, ih]
      rfl

/-- The written forms of the elements whose opening tag passes a test, in reading order. -/
def found (starts : List Char → Bool) (ms : List Markup) : List (List Char) :=
  ((elementsAll ms).filter fun x => starts x.1.openingTag).map fun x => (element x.1 x.2).write

/-- One for an element, none for the others. -/
def markOf (e e' : Element) : ℕ :=
  if e' = e then 1 else 0

/-- A number for each element, summed up. -/
def total (w : Element → ℕ) (ms : List Markup) : ℕ :=
  ((elementsAll ms).map fun x => w x.1).sum

section

variable (starts : List Char → Bool) (w : Element → ℕ) (s : List Char) (ms ns : List Markup)

@[simp] lemma found_nil : found starts [] = [] := rfl

@[simp] lemma found_text : found starts (text s :: ms) = found starts ms := rfl

@[simp] lemma found_spaced : found starts (spaced s :: ms) = found starts ms := rfl

@[simp] lemma found_lineBreak : found starts (lineBreak :: ms) = found starts ms := rfl

/-- The elements of pieces in a row are found piece by piece. -/
@[simp] lemma found_append : found starts (ms ++ ns) = found starts ms ++ found starts ns := by
  simp [found]

/-- Line breaks between pieces hide no element and add none. -/
@[simp] lemma found_intersperse :
    found starts (ms.intersperse lineBreak) = found starts ms := by
  unfold found
  rw [elementsAll_intersperse]

/-- What is found in several parts is found in each of them. -/
lemma found_flatMap {α : Type} (f : α → List Markup) (xs : List α) :
    found starts (xs.flatMap f) = xs.flatMap fun x => found starts (f x) := by
  induction xs with
  | nil => rfl
  | cons x xs ih => rw [List.flatMap_cons, found_append, ih, List.flatMap_cons]

/-- An element is found before the elements in it. -/
lemma found_element (e : Element) (body : List Markup) :
    found starts (element e body :: ms) =
      (if starts e.openingTag = true then [(element e body).write] else []) ++
        (found starts body ++ found starts ms) := by
  simp only [found, elementsAll, elements, List.cons_append, List.filter_cons, List.filter_append]
  split <;> simp

@[simp] lemma total_nil : total w [] = 0 := rfl

@[simp] lemma total_text : total w (text s :: ms) = total w ms := rfl

@[simp] lemma total_spaced : total w (spaced s :: ms) = total w ms := rfl

@[simp] lemma total_lineBreak : total w (lineBreak :: ms) = total w ms := rfl

/-- The weights of pieces in a row are added up. -/
@[simp] lemma total_append : total w (ms ++ ns) = total w ms + total w ns := by
  simp [total]

/-- Line breaks between pieces have no weight. -/
@[simp] lemma total_intersperse :
    total w (ms.intersperse lineBreak) = total w ms := by
  unfold total
  rw [elementsAll_intersperse]

/-- The numbers of several parts are summed up. -/
lemma total_flatMap {α : Type} (f : α → List Markup) (xs : List α) :
    total w (xs.flatMap f) = (xs.map fun x => total w (f x)).sum := by
  induction xs with
  | nil => rfl
  | cons x xs ih => rw [List.flatMap_cons, total_append, ih, List.map_cons, List.sum_cons]

/-- The weight of an element is its own and that of its body. -/
@[simp] lemma total_element (e : Element) (body : List Markup) :
    total w (element e body :: ms) = w e + total w body + total w ms := by
  simp [total, elementsAll, elements, Nat.add_assoc]

/-- As many elements are found as pass the test. -/
lemma length_found :
    (found starts ms).length = total (fun e => if starts e.openingTag = true then 1 else 0) ms := by
  unfold found total
  rw [List.length_map]
  induction elementsAll ms with
  | nil => rfl
  | cons x xs ih =>
    rw [List.filter_cons, List.map_cons, List.sum_cons, ← ih]
    by_cases hx : starts x.1.openingTag = true
    · simp [hx, Nat.add_comm]
    · simp [hx]

variable {starts ms}

/-- Nothing is found where no element passes the test. -/
lemma found_eq_nil
    (h : total (fun e => if starts e.openingTag = true then 1 else 0) ms = 0) :
    found starts ms = [] := by
  rw [← length_found] at h
  exact List.length_eq_zero_iff.mp h

/-- An element that passes the test is found alone where no other element does. -/
lemma found_eq_singleton {e : Element} {body : List Markup} (he : starts e.openingTag = true)
    (h : total (fun e => if starts e.openingTag = true then 1 else 0) [element e body] = 1) :
    found starts [element e body] = [(element e body).write] := by
  rw [total_element, if_pos he, total_nil] at h
  have hbody : found starts body = [] := found_eq_nil (by omega)
  rw [found_element, if_pos he, hbody]
  rfl

end

end Markup

open Markup in
/-- A test of opening tags finds the elements whose opening tag passes it, in reading order. -/
theorem elementsAt_writeAll_append {starts : List Char → Bool} (h : OpeningTest starts)
    (ms : List Markup) (s : List Char) :
    elementsAt starts (writeAll ms ++ s) = found starts ms ++ elementsAt starts s := by
  induction ms using Markup.readingInduction generalizing s with
  | nil => rfl
  | text x ms ih =>
    rw [writeAll, write, List.append_assoc,
      h.elementsAt_append (Text.harmless_escape x).less_notMem, ih, found_text]
  | spaced x ms ih =>
    rw [writeAll, write, List.append_assoc,
      h.elementsAt_append (Text.harmless_escapeSpaced x).less_notMem, ih, found_spaced]
  | element e body ms ihbody ih =>
    have htext := elementText_write_append e body (writeAll ms ++ s)
    rw [write] at htext
    rw [writeAll, write, found_element, write]
    simp only [List.append_assoc] at htext ⊢
    rw [h.elementsAt_tag_append e.isTag_openingTag, htext, ihbody,
      h.elementsAt_tag_append e.isTag_closingTag, h.closingTag, ih]
    rfl

/-- A test of opening tags finds in written markup the elements whose opening tag passes it, in
reading order. -/
theorem elementsAt_writeAll {starts : List Char → Bool} (h : OpeningTest starts)
    (ms : List Markup) : elementsAt starts (Markup.writeAll ms) = Markup.found starts ms := by
  have hall := elementsAt_writeAll_append h ms []
  have hnil : elementsAt starts [] = [] := by simp [elementsAt, h.nil]
  rwa [List.append_nil, hnil, List.append_nil] at hall

/-- A single piece is written as a row of one. -/
lemma write_eq_writeAll (x : Markup) : x.write = Markup.writeAll [x] := by
  simp [Markup.writeAll]

/-- A test of opening tags finds in one written piece the elements of that piece. -/
lemma elementsAt_write {starts : List Char → Bool} (h : OpeningTest starts) (x : Markup) :
    elementsAt starts x.write = Markup.found starts [x] := by
  rw [write_eq_writeAll, elementsAt_writeAll h]

/-! ### Counting in written markup -/

/-- An opening tag tests for itself. -/
lemma Element.openingTest_openingTag (e : Element) : OpeningTest e.openingTag.isPrefixOf := by
  obtain ⟨body, hbody, -, hgreater⟩ := e.isTag_openingTag
  refine openingTest_isPrefixOf ?_ ?_
  · have hcloses := e.closes_openingTag
    cases body with
    | nil => exact ⟨'>', [], by simpa using hbody, by decide⟩
    | cons c body =>
      refine ⟨c, body ++ ['>'], by simpa using hbody, ?_⟩
      rintro rfl
      rw [hbody] at hcloses
      simp [closes, List.isPrefixOf] at hcloses
  · rw [hbody, ← List.cons_append, List.dropLast_concat]
    simpa using hgreater

/-- An opening tag starts with no other one. -/
lemma Element.isPrefixOf_openingTag (e e' : Element) :
    e.openingTag.isPrefixOf e'.openingTag = decide (e' = e) := by
  rw [Bool.eq_iff_iff, List.isPrefixOf_iff_prefix, decide_eq_true_eq]
  constructor
  · rintro ⟨z, hz⟩
    rw [← List.append_nil e'.openingTag, e.isTag_openingTag.append_inj e'.isTag_openingTag] at hz
    exact (openingTag_injective hz.1).symm
  · rintro rfl
    exact List.prefix_rfl

/-- The test for the opening tag of an element counts that element. -/
lemma Element.mark_isPrefixOf (e : Element) :
    (fun e' => if e.openingTag.isPrefixOf e'.openingTag = true then 1 else 0) =
      Markup.markOf e := by
  funext e'
  unfold Markup.markOf
  rw [e.isPrefixOf_openingTag]
  simp

/-- The opening tag of an element occurs in written markup once for each such element. -/
theorem occurrences_openingTag (e : Element) (ms : List Markup) :
    occurrences e.openingTag (Markup.writeAll ms) =
      Markup.total (Markup.markOf e) ms := by
  have hfound := congrArg List.length (elementsAt_writeAll e.openingTest_openingTag ms)
  rw [Markup.length_found, e.mark_isPrefixOf] at hfound
  rw [occurrences, List.countP_eq_length_filter]
  simpa [elementsAt] using hfound

section

variable {p : List Char} (hless : '<' ∉ p) (hgreater : '>' ∉ p) (hquote : '"' ∈ p)
include hless hgreater hquote

/-- What holds a quote and no bracket stands within tags: in a tag behind text without a quote it
stands as often as in the tag. -/
lemma occurrences_text_tag {x t : List Char} (hx : '"' ∉ x) (ht : IsTag t) (s : List Char) :
    occurrences p (x ++ (t ++ s)) = occurrences p t + occurrences p s := by
  have hp : p ≠ [] := List.ne_nil_of_mem hquote
  have hzero : occurrences p x = 0 :=
    occurrences_eq_zero (c := '"') (by
      rw [List.count_eq_zero_of_not_mem hx]
      exact List.count_pos_iff.mpr hquote)
  obtain ⟨body, rfl, -, -⟩ := ht
  have htag : occurrences p ([] ++ '<' :: (body ++ '>' :: [])) = occurrences p body := by
    rw [occurrences_append_cons hp hless, occurrences_append_cons hp hgreater,
      occurrences_nil hp, Nat.zero_add, Nat.add_zero]
  rw [List.nil_append] at htag
  rw [htag, show '<' :: (body ++ ['>']) ++ s = '<' :: (body ++ '>' :: s) by simp,
    occurrences_append_cons hp hless, occurrences_append_cons hp hgreater, hzero, Nat.zero_add]

/-- What holds a quote and no bracket occurs in written markup as often as in its opening tags. -/
theorem occurrences_writeAll (ms : List Markup) :
    occurrences p (Markup.writeAll ms) =
      Markup.total (fun e => occurrences p e.openingTag) ms := by
  have hp : p ≠ [] := List.ne_nil_of_mem hquote
  have hzero : ∀ x, '"' ∉ x → occurrences p x = 0 := fun x hx =>
    occurrences_eq_zero (c := '"') (by
      rw [List.count_eq_zero_of_not_mem hx]
      exact List.count_pos_iff.mpr hquote)
  -- text without a quote in front of the markup never adds an occurrence, if it adds none in
  -- front of what follows the markup
  have hall : ∀ s, (∀ x, '"' ∉ x → occurrences p (x ++ s) = occurrences p s) →
      ∀ x, '"' ∉ x → occurrences p (x ++ (Markup.writeAll ms ++ s)) =
        Markup.total (fun e => occurrences p e.openingTag) ms + occurrences p s := by
    induction ms using Markup.readingInduction with
    | nil =>
      intro s hs x hx
      simpa [Markup.writeAll] using hs x hx
    | text y ms ih =>
      intro s hs x hx
      have hy := (Text.harmless_escape y).quote_notMem
      rw [Markup.writeAll, Markup.write, List.append_assoc, ← List.append_assoc,
        ih s hs _ (by simp [hx, hy]), Markup.total_text]
    | spaced y ms ih =>
      intro s hs x hx
      have hy := (Text.harmless_escapeSpaced y).quote_notMem
      rw [Markup.writeAll, Markup.write, List.append_assoc, ← List.append_assoc,
        ih s hs _ (by simp [hx, hy]), Markup.total_spaced]
    | element e body ms ihbody ih =>
      intro s hs x hx
      have hclosing : ∀ x, '"' ∉ x →
          occurrences p (x ++ (e.closingTag ++ (Markup.writeAll ms ++ s))) =
            occurrences p (Markup.writeAll ms ++ s) := fun x hx => by
        rw [occurrences_text_tag hless hgreater hquote hx e.isTag_closingTag,
          hzero _ e.quote_notMem_closingTag, Nat.zero_add]
      have hbody := ihbody _ (fun x hx => (hclosing x hx).trans (hclosing [] (by simp)).symm)
        [] (by simp)
      rw [List.nil_append] at hbody
      have hrest := ih s hs [] (by simp)
      rw [List.nil_append] at hrest
      rw [Markup.writeAll, Markup.write]
      simp only [List.append_assoc]
      rw [occurrences_text_tag hless hgreater hquote hx e.isTag_openingTag, hbody,
        ← List.nil_append (e.closingTag ++ _), hclosing [] (by simp), hrest, Markup.total_element]
      omega
  have h := hall [] (fun x hx => by rw [List.append_nil, hzero x hx, occurrences_nil hp]) []
    (by simp)
  rwa [List.append_nil, List.nil_append, occurrences_nil hp, Nat.add_zero] at h

end

end DiagnosticPage
