import DiagnosticPage.Proofs.Markup.Tags

/-!
# Cutting a page at its tags

`Scan.read` cuts any text at its tags, from left to right and without knowing what the text is
meant to be: a tag runs from a `<` to the next `>`, and what lies between tags is text.  Nothing
is lost (`Scan.text_read`).  A page is read piece by piece: text without a `<` goes in front of
what follows (`Scan.read_append`), and so does a tag (`Scan.read_tag_append`).

Two properties of a cut text are defined here and proved of all written markup.  `Scan.Safe` says
that its tags are permitted ones and its texts harmless, and `Nested` that each tag which closes
an element closes the innermost one that is open, and that none stays open at the end.
-/

namespace DiagnosticPage

open Text (Harmless)

/-- A text cut at its tags: what comes before the first tag, then each tag with the text between
it and the next one. -/
structure Scan where
  lead : List Char
  marks : List (List Char × List Char)

namespace Scan

mutual

/-- Cuts a text at its tags. -/
def read : List Char → Scan
  | [] => ⟨[], []⟩
  | c :: s =>
    if c = '<' then ⟨[], (c :: (readTag s).1, (readTag s).2.lead) :: (readTag s).2.marks⟩
    else ⟨c :: (read s).lead, (read s).marks⟩

/-- What is left of a tag, and the text behind it cut at its tags. -/
def readTag : List Char → List Char × Scan
  | [] => ([], ⟨[], []⟩)
  | c :: s => if c = '>' then ([c], read s) else (c :: (readTag s).1, (readTag s).2)

end

/-- The tags of a cut text. -/
def tags (s : Scan) : List (List Char) :=
  s.marks.map Prod.fst

/-- The texts of a cut text, which lie before, between and behind its tags. -/
def texts (s : Scan) : List (List Char) :=
  s.lead :: s.marks.map Prod.snd

/-- The pieces of a cut text put together. -/
def text (s : Scan) : List Char :=
  s.lead ++ s.marks.flatMap fun m => m.1 ++ m.2

/-- A cut text with more text in front of it. -/
def behindText (x : List Char) (s : Scan) : Scan :=
  ⟨x ++ s.lead, s.marks⟩

/-- A cut text with a tag in front of it. -/
def behindTag (t : List Char) (s : Scan) : Scan :=
  ⟨[], (t, s.lead) :: s.marks⟩

/-- Text in front of a scan is text of the whole. -/
@[simp] lemma text_behindText (x : List Char) (s : Scan) :
    (s.behindText x).text = x ++ s.text := by
  simp [text, behindText]

/-- A tag in front of a scan is text of the whole. -/
@[simp] lemma text_behindTag (t : List Char) (s : Scan) :
    (s.behindTag t).text = t ++ s.text := by
  simp [text, behindTag]

@[simp] lemma tags_behindText (x : List Char) (s : Scan) : (s.behindText x).tags = s.tags := rfl

@[simp] lemma tags_behindTag (t : List Char) (s : Scan) :
    (s.behindTag t).tags = t :: s.tags := rfl

/-- A tag is read from where it opens. -/
lemma read_less_cons (s : List Char) :
    read ('<' :: s) = (readTag s).2.behindTag ('<' :: (readTag s).1) := by
  simp [read, behindTag]

/-- Anything else is read as text. -/
lemma read_cons_of_ne {c : Char} (hc : c ≠ '<') (s : List Char) :
    read (c :: s) = (read s).behindText [c] := by
  simp [read, hc, behindText]

/-- Cutting a text at its tags loses nothing, neither outside of a tag nor inside of one. -/
lemma text_read_and_readTag (s : List Char) :
    (read s).text = s ∧ (readTag s).1 ++ (readTag s).2.text = s := by
  induction s with
  | nil => simp [read, readTag, text]
  | cons c s ih =>
    obtain ⟨ihread, ihtag⟩ := ih
    constructor
    · by_cases hc : c = '<'
      · subst hc
        rw [read_less_cons, text_behindTag, List.cons_append, ihtag]
      · rw [read_cons_of_ne hc, text_behindText, ihread, List.singleton_append]
    · by_cases hc : c = '>'
      · simp [readTag, hc, ihread]
      · simp [readTag, hc, ihtag]

/-- The pieces of a cut text are the text. -/
theorem text_read (s : List Char) : (read s).text = s :=
  (text_read_and_readTag s).1

/-- Text in which no tag opens goes in front of what follows. -/
theorem read_append {x : List Char} (hx : '<' ∉ x) (s : List Char) :
    read (x ++ s) = (read s).behindText x := by
  induction x with
  | nil => rfl
  | cons c x ih =>
    have hc : c ≠ '<' := fun h => hx (by simp [h])
    have htail : '<' ∉ x := fun h => hx (by simp [h])
    rw [List.cons_append, read_cons_of_ne hc, ih htail]
    rfl

/-- What is left of a tag ends with its first `>`. -/
lemma readTag_append {body : List Char} (hbody : '>' ∉ body) (s : List Char) :
    readTag (body ++ '>' :: s) = (body ++ ['>'], read s) := by
  induction body with
  | nil => simp [readTag]
  | cons c body ih =>
    have hc : c ≠ '>' := fun h => hbody (by simp [h])
    have htail : '>' ∉ body := fun h => hbody (by simp [h])
    rw [List.cons_append, readTag, if_neg hc, ih htail]
    rfl

/-- A tag goes in front of what follows. -/
theorem read_tag_append {t : List Char} (ht : IsTag t) (s : List Char) :
    read (t ++ s) = (read s).behindTag t := by
  obtain ⟨body, rfl, -, hbody⟩ := ht
  have hsplit : '<' :: (body ++ ['>']) ++ s = '<' :: (body ++ '>' :: s) := by simp
  rw [hsplit, read_less_cons, readTag_append hbody]

/-- The opening tag of an element is read as one tag. -/
lemma read_openingTag_append (e : Element) (s : List Char) :
    read (e.openingTag ++ s) = (read s).behindTag e.openingTag :=
  read_tag_append e.isTag_openingTag s

/-- The closing tag of an element is read as one tag. -/
lemma read_closingTag_append (e : Element) (s : List Char) :
    read (e.closingTag ++ s) = (read s).behindTag e.closingTag :=
  read_tag_append e.isTag_closingTag s

/-- Escaped text is read as text. -/
lemma read_escape_append (x s : List Char) :
    read (Text.escape x ++ s) = (read s).behindText (Text.escape x) :=
  read_append (Text.harmless_escape x).less_notMem s

/-- Escaped text with its blanks kept is read as text. -/
lemma read_escapeSpaced_append (x s : List Char) :
    read (Text.escapeSpaced x ++ s) = (read s).behindText (Text.escapeSpaced x) :=
  read_append (Text.harmless_escapeSpaced x).less_notMem s

end Scan

/-! ### Induction in reading order -/

/-- Induction on pieces of markup in the order in which they are written: a piece of text stands
before others, and so does an element, whose body is markup again. -/
@[elab_as_elim]
theorem Markup.readingInduction {P : List Markup → Prop} (nil : P [])
    (text : ∀ x ms, P ms → P (.text x :: ms)) (spaced : ∀ x ms, P ms → P (.spaced x :: ms))
    (element : ∀ e body ms, P body → P ms → P (.element e body :: ms)) : ∀ ms, P ms
  | [] => nil
  | .text x :: ms => text x ms (readingInduction nil text spaced element ms)
  | .spaced x :: ms => spaced x ms (readingInduction nil text spaced element ms)
  | .element e body :: ms =>
    element e body ms (readingInduction nil text spaced element body)
      (readingInduction nil text spaced element ms)

namespace Markup

mutual

/-- The tags of a piece of markup in the order in which they are written. -/
def tags : Markup → List (List Char)
  | text _ => []
  | spaced _ => []
  | element e body => e.openingTag :: (tagsAll body ++ [e.closingTag])

/-- The tags of several pieces, one after the other. -/
def tagsAll : List Markup → List (List Char)
  | [] => []
  | m :: ms => m.tags ++ tagsAll ms

end

@[simp] lemma tagsAll_append (ms ns : List Markup) :
    tagsAll (ms ++ ns) = tagsAll ms ++ tagsAll ns := by
  induction ms with
  | nil => rfl
  | cons m ms ih => simp [tagsAll, ih]

/-- The tags of written markup come before those of what follows it. -/
theorem tags_read_writeAll_append (ms : List Markup) (s : List Char) :
    (Scan.read (writeAll ms ++ s)).tags = tagsAll ms ++ (Scan.read s).tags := by
  induction ms using readingInduction generalizing s with
  | nil => rfl
  | text x ms ih =>
    rw [writeAll, write, List.append_assoc, Scan.read_escape_append, Scan.tags_behindText, ih]
    rfl
  | spaced x ms ih =>
    rw [writeAll, write, List.append_assoc, Scan.read_escapeSpaced_append,
      Scan.tags_behindText, ih]
    rfl
  | element e body ms ihbody ih =>
    rw [writeAll, write]
    simp only [List.append_assoc]
    rw [Scan.read_openingTag_append, Scan.tags_behindTag, ihbody, Scan.read_closingTag_append,
      Scan.tags_behindTag, ih]
    simp [tagsAll, tags]

/-- The tags of written markup are the tags of the markup. -/
theorem tags_read_writeAll (ms : List Markup) : (Scan.read (writeAll ms)).tags = tagsAll ms := by
  have h := tags_read_writeAll_append ms []
  rwa [List.append_nil, show (Scan.read []).tags = [] from rfl, List.append_nil] at h

end Markup

/-! ### Safe texts -/

namespace Scan

/-- The tags of a cut text are permitted ones, and its texts are harmless. -/
structure Safe (s : Scan) : Prop where
  tags_permitted : ∀ t ∈ s.tags, PermittedTag t
  texts_harmless : ∀ x ∈ s.texts, Harmless x

/-- An empty page is safe. -/
lemma safe_read_nil : Safe (read []) := by
  refine ⟨by simp [read, tags], ?_⟩
  intro x hx
  obtain rfl : x = [] := by simpa [read, texts] using hx
  exact Text.harmless_nil

/-- A safe page may be preceded by harmless text. -/
lemma Safe.behindText {x : List Char} {s : Scan} (hs : s.Safe) (hx : Harmless x) :
    (s.behindText x).Safe := by
  refine ⟨hs.tags_permitted, ?_⟩
  intro y hy
  rcases List.mem_cons.mp hy with rfl | h
  · exact hx.append (hs.texts_harmless _ (by simp [texts]))
  · exact hs.texts_harmless y (List.mem_cons_of_mem _ h)

/-- A safe page may be preceded by a permitted tag. -/
lemma Safe.behindTag {t : List Char} {s : Scan} (hs : s.Safe) (ht : PermittedTag t) :
    (s.behindTag t).Safe := by
  constructor
  · intro u hu
    rcases List.mem_cons.mp hu with rfl | h
    · exact ht
    · exact hs.tags_permitted u h
  · intro y hy
    rcases List.mem_cons.mp hy with rfl | h
    · exact Text.harmless_nil
    · exact hs.texts_harmless y h

/-- Written markup is safe in front of a safe text. -/
theorem safe_writeAll (ms : List Markup) {s : List Char} (hs : (read s).Safe) :
    (read (Markup.writeAll ms ++ s)).Safe := by
  induction ms using Markup.readingInduction generalizing s with
  | nil => exact hs
  | text x ms ih =>
    rw [Markup.writeAll, Markup.write, List.append_assoc, read_escape_append]
    exact (ih hs).behindText (Text.harmless_escape x)
  | spaced x ms ih =>
    rw [Markup.writeAll, Markup.write, List.append_assoc, read_escapeSpaced_append]
    exact (ih hs).behindText (Text.harmless_escapeSpaced x)
  | element e body ms ihbody ih =>
    rw [Markup.writeAll, Markup.write]
    simp only [List.append_assoc]
    rw [read_openingTag_append]
    refine (ihbody ?_).behindTag e.permitted_openingTag
    rw [read_closingTag_append]
    exact (ih hs).behindTag e.permitted_closingTag

end Scan

/-! ### Nested tags -/

/-- Whether a tag closes an element. -/
def closes (tag : List Char) : Bool :=
  ['<', '/'].isPrefixOf tag

/-- The name in a tag. -/
def nameIn (tag : List Char) : List Char :=
  (tag.drop (if closes tag then 2 else 1)).takeWhile fun c => c != ' ' && c != '>'

/-- The names of the elements that are open behind some tags, the innermost first, when the given
ones are open before them.  There is no answer when a tag closes an element other than the
innermost one. -/
def openBehind : List (List Char) → List (List Char) → Option (List (List Char))
  | names, [] => some names
  | names, tag :: tags =>
    if closes tag then
      match names with
      | [] => none
      | name :: outer => if name = nameIn tag then openBehind outer tags else none
    else openBehind (nameIn tag :: names) tags

/-- Every tag that closes an element closes the innermost open one, and in the end none is
open. -/
def Nested (tags : List (List Char)) : Prop :=
  openBehind [] tags = some []

namespace Element

/-- An opening tag does not close an element. -/
@[simp] lemma closes_openingTag (e : Element) : closes e.openingTag = false := by
  cases e using casesByTag with
  | fixed e he =>
    have hall : ∀ e ∈ fixedElements, closes e.openingTag = false := by decide
    exact hall e he
  | numbered n => rw [openingTag_message_some]; rfl
  | titled title => rw [openingTag_line_some]; rfl

/-- A closing tag closes an element. -/
@[simp] lemma closes_closingTag (e : Element) : closes e.closingTag = true := rfl

/-- The name in the opening tag of an element is its own. -/
lemma nameIn_openingTag (e : Element) : nameIn e.openingTag = e.tagName.toList := by
  cases e using casesByTag with
  | fixed e he =>
    have hall : ∀ e ∈ fixedElements, nameIn e.openingTag = e.tagName.toList := by decide
    exact hall e he
  | numbered n => rw [openingTag_message_some, tagName_message]; rfl
  | titled title => rw [openingTag_line_some, tagName_line]; rfl

/-- The name in the closing tag of an element is its own. -/
lemma nameIn_closingTag (e : Element) : nameIn e.closingTag = e.tagName.toList := by
  have hall : ∀ name ∈ tagNames,
      nameIn (['<', '/'] ++ name.toList ++ ['>']) = name.toList := by decide
  exact hall _ (tagName_mem e)

end Element

/-- The tags of markup leave the elements open that were open before. -/
theorem openBehind_tagsAll (ms : List Markup) (names tags : List (List Char)) :
    openBehind names (Markup.tagsAll ms ++ tags) = openBehind names tags := by
  induction ms using Markup.readingInduction generalizing names tags with
  | nil => rfl
  | text x ms ih => exact ih names tags
  | spaced x ms ih => exact ih names tags
  | element e body ms ihbody ih =>
    simp only [Markup.tagsAll, Markup.tags, List.cons_append, List.append_assoc, openBehind,
      e.closes_openingTag, Bool.false_eq_true, if_false]
    -- the body leaves the element open, and the closing tag then closes it
    rw [ihbody]
    simp only [openBehind, e.closes_closingTag, e.nameIn_openingTag, e.nameIn_closingTag, if_true]
    exact ih names tags

/-- The tags of written markup are nested. -/
theorem nested_writeAll (ms : List Markup) : Nested (Scan.read (Markup.writeAll ms)).tags := by
  rw [Nested, Markup.tags_read_writeAll]
  have h := openBehind_tagsAll ms [] []
  rwa [List.append_nil] at h

end DiagnosticPage
