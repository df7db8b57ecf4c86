import DiagnosticPage.Markup
import DiagnosticPage.Proofs.Text.Escaping

/-!
# The tags of a page

A written tag has one `<`, at its start, and one `>`, at its end.  `IsTag` says so; two tags with
something behind them are therefore equal only piece by piece (`IsTag.append_inj`).

`PermittedTag` spells out the tags that a page may hold, without mention of elements: those in
`fixedTags`, the tag of a message with a line number, and the tag of a line number with a tooltip.
`Element.casesByTag` splits the elements accordingly: the fixed ones are checked one by one, the
other two by the parts of their tags.  The tags of elements are permitted, and an opening tag
determines its element (`Element.openingTag_injective`): `Element.ofOpeningTag` reads it back.
-/

namespace DiagnosticPage

/-- A written tag: one `<` at its start, one `>` at its end. -/
def IsTag (t : List Char) : Prop :=
  ∃ body, t = '<' :: (body ++ ['>']) ∧ '<' ∉ body ∧ '>' ∉ body

/-- Two texts agree exactly if they agree up to the first occurrence of a character and behind
it. -/
lemma append_cons_inj {c : Char} {x y s t : List Char} (hx : c ∉ x) (hy : c ∉ y) :
    x ++ c :: s = y ++ c :: t ↔ x = y ∧ s = t := by
  constructor
  · intro h
    rcases List.append_eq_append_iff.mp h with ⟨mid, rfl, h₂⟩ | ⟨mid, rfl, h₂⟩
    · cases mid with
      | nil => simpa using h₂
      | cons d mid => simp_all
    · cases mid with
      | nil => simpa [eq_comm] using h₂
      | cons d mid => simp_all
  · rintro ⟨rfl, rfl⟩
    rfl

/-- Where two texts start with tags, they agree exactly if the tags agree and the rests do. -/
lemma IsTag.append_inj {a b s t : List Char} (ha : IsTag a) (hb : IsTag b) :
    a ++ s = b ++ t ↔ a = b ∧ s = t := by
  obtain ⟨x, rfl, -, hx⟩ := ha
  obtain ⟨y, rfl, -, hy⟩ := hb
  simp only [List.cons_append, List.append_assoc, List.cons.injEq, true_and, List.nil_append,
    List.append_cancel_right_eq]
  exact append_cons_inj hx hy

/-! ### The tags that a page may hold -/

/-- The tags without a part that varies. -/
def fixedTags : List (List Char) :=
  ["<div class=\"source-group\">",
    "<a class=\"source\" onclick=\"collapse(this.parentNode, event)\">",
    "<span class=\"count\">",
    "<ul class=\"file-errors\">",
    "<li class=\"error\">",
    "<span onclick=\"collapse(this, event)\" class=\"error-group\">",
    "<span class=\"extra\">",
    "<span class=\"child\">",
    "<span class=\"message\">",
    "<span class=\"alternative-source\">",
    "<span class=\"context\">",
    "<span class=\"line\">",
    "<span class=\"theError\">",
    "<span class=\"message-text\">",
    "<h1>",
    "</div>", "</a>", "</ul>", "</li>", "</span>", "</h1>"].map String.toList

/-- The start of the tag of a message with a line number. -/
def numberMark : List Char :=
  "<span class=\"message line-".toList

/-- The start of the tag of a line number with a tooltip. -/
def titleMark : List Char :=
  "<span class=\"line\" title=\"".toList

/-- The end of a tag behind an attribute value. -/
def valueEnd : List Char :=
  ['"', '>']

/-- The tags that a page may hold. -/
inductive PermittedTag : List Char → Prop
  /-- A tag without a part that varies. -/
  | fixed {t : List Char} (h : t ∈ fixedTags) : PermittedTag t
  /-- The tag of a message with a line number. -/
  | numbered {digits : List Char} (hne : digits ≠ []) (h : ∀ c ∈ digits, c.isDigit = true) :
      PermittedTag (numberMark ++ digits ++ valueEnd)
  /-- The tag of a line number with a tooltip. -/
  | titled {value : List Char} (h : Text.Harmless value) :
      PermittedTag (titleMark ++ value ++ valueEnd)

namespace Element

/-- Messages are spans. -/
@[simp] lemma tagName_message (line : Option UInt32) : (message line).tagName = "span" := by
  simp [tagName]

/-- Lines are spans. -/
@[simp] lemma tagName_line (title : Option String) : (line title).tagName = "span" := by
  simp [tagName]

/-- A message is closed as any span is. -/
@[simp] lemma closingTag_message (line : Option UInt32) :
    (message line).closingTag = "</span>".toList := by
  simp [closingTag]

/-- A line is closed as any span is. -/
@[simp] lemma closingTag_line (title : Option String) :
    (line title).closingTag = "</span>".toList := by
  simp [closingTag]

/-- The names in the tags of a page. -/
def tagNames : List String :=
  ["div", "a", "ul", "li", "span", "h1"]

/-- The names of the attributes in the tags of a page. -/
def attributeNames : List String :=
  ["class", "onclick", "title"]

/-- Every element has one of the names. -/
lemma tagName_mem (e : Element) : e.tagName ∈ tagNames := by
  cases e <;> simp [tagName, tagNames]

/-- Every attribute of an element has one of the names. -/
lemma attributes_mem (e : Element) : ∀ a ∈ e.attributes, a.1 ∈ attributeNames := by
  cases e with
  | message line => cases line <;> simp [attributes, attributeNames]
  | line title => cases title <;> simp [attributes, attributeNames]
  | _ => simp [attributes, attributeNames]

/-- The name in a tag holds no bracket. -/
lemma bracket_notMem_tagName (e : Element) : '<' ∉ e.tagName.toList ∧ '>' ∉ e.tagName.toList := by
  have hall : ∀ name ∈ tagNames, '<' ∉ name.toList ∧ '>' ∉ name.toList := by decide
  exact hall _ (tagName_mem e)

/-- A written attribute holds no bracket. -/
lemma bracket_notMem_writeAttribute {e : Element} {a : String × String} (ha : a ∈ e.attributes) :
    '<' ∉ writeAttribute a ∧ '>' ∉ writeAttribute a := by
  have hall : ∀ key ∈ attributeNames, '<' ∉ key.toList ∧ '>' ∉ key.toList := by decide
  have hkey := hall _ (attributes_mem e a ha)
  have hvalue := Text.harmless_escape a.2.toList
  constructor
  · simp [writeAttribute, hkey.1, hvalue.less_notMem]
  · simp [writeAttribute, hkey.2, hvalue.greater_notMem]

/-- The opening tag of an element is a tag. -/
lemma isTag_openingTag (e : Element) : IsTag e.openingTag := by
  refine ⟨e.tagName.toList ++ e.attributes.flatMap writeAttribute, by simp [openingTag], ?_, ?_⟩
  · simp only [List.mem_append, List.mem_flatMap, not_or, not_exists, not_and]
    exact ⟨(bracket_notMem_tagName e).1, fun a ha => (bracket_notMem_writeAttribute ha).1⟩
  · simp only [List.mem_append, List.mem_flatMap, not_or, not_exists, not_and]
    exact ⟨(bracket_notMem_tagName e).2, fun a ha => (bracket_notMem_writeAttribute ha).2⟩

/-- The closing tag of an element is a tag. -/
lemma isTag_closingTag (e : Element) : IsTag e.closingTag := by
  refine ⟨'/' :: e.tagName.toList, by simp [closingTag], ?_, ?_⟩
  · simpa using (bracket_notMem_tagName e).1
  · simpa using (bracket_notMem_tagName e).2

/-- A closing tag holds no quote. -/
lemma quote_notMem_closingTag (e : Element) : '"' ∉ e.closingTag := by
  have hall : ∀ name ∈ tagNames, '"' ∉ name.toList := by decide
  simpa [closingTag] using hall _ (tagName_mem e)

/-- The opening tag of a message with a line number. -/
lemma openingTag_message_some (n : UInt32) :
    (message (some n)).openingTag = numberMark ++ Nat.toDigits 10 n.toNat ++ valueEnd := by
  have hvalue : Text.escape ("message line-".toList ++ Nat.toDigits 10 n.toNat) =
      "message line-".toList ++ Nat.toDigits 10 n.toNat := by
    rw [Text.escape_append, Text.escape_toDigits]
    rfl
  simp only [openingTag, tagName, attributes, List.flatMap_cons, List.flatMap_nil, writeAttribute,
    String.toList_ofList, hvalue, List.append_assoc, List.append_nil]
  rfl

/-- The opening tag of a line number with a tooltip. -/
lemma openingTag_line_some (title : String) :
    (line (some title)).openingTag = titleMark ++ Text.escape title.toList ++ valueEnd := by
  simp only [openingTag, tagName, attributes, List.flatMap_cons, List.flatMap_nil, writeAttribute,
    List.append_assoc, List.append_nil]
  rfl

/-- The elements whose opening tag has no part that varies. -/
def fixedElements : List Element :=
  [sourceGroup, source, count, fileErrors, error, errorGroup, extra, child, message none,
    alternativeSource, context, line none, theError, messageText, heading]

/-- An element has a tag without a part that varies, or a line number in it, or a tooltip. -/
@[elab_as_elim]
theorem casesByTag {P : Element → Prop} (e : Element) (fixed : ∀ e ∈ fixedElements, P e)
    (numbered : ∀ n, P (message (some n))) (titled : ∀ title, P (line (some title))) : P e := by
  cases e with
  | message line =>
    cases line with
    | none => exact fixed _ (by decide)
    | some n => exact numbered n
  | line title =>
    cases title with
    | none => exact fixed _ (by decide)
    | some title => exact titled title
  | _ => exact fixed _ (by decide)

/-- The tags without a part that varies are those of the elements. -/
lemma fixedTags_eq : fixedTags = fixedElements.map openingTag ++
    tagNames.map fun name => ['<', '/'] ++ name.toList ++ ['>'] := by
  decide

/-- The opening tag of every element is permitted. -/
lemma permitted_openingTag (e : Element) : PermittedTag e.openingTag := by
  cases e using casesByTag with
  | fixed e he =>
    refine .fixed ?_
    rw [fixedTags_eq]
    exact List.mem_append_left _ (List.mem_map_of_mem he)
  | numbered n =>
    rw [openingTag_message_some]
    exact .numbered Nat.toDigits_ne_nil fun c hc =>
      Nat.isDigit_of_mem_toDigits (by decide) (by decide) hc
  | titled title =>
    rw [openingTag_line_some]
    exact .titled (Text.harmless_escape _)

/-- The closing tag of every element is permitted. -/
lemma permitted_closingTag (e : Element) : PermittedTag e.closingTag := by
  refine .fixed ?_
  rw [fixedTags_eq]
  exact List.mem_append_right _ (List.mem_map.mpr ⟨_, tagName_mem e, rfl⟩)

/-! ### Reading an opening tag back -/

/-- What stands in a tag between a mark and the end of the value. -/
def valueAfter (mark tag : List Char) : List Char :=
  (tag.drop mark.length).dropLast.dropLast

/-- The element that an opening tag belongs to. -/
def ofOpeningTag (tag : List Char) : Option Element :=
  match fixedElements.find? fun e => e.openingTag = tag with
  | some e => some e
  | none =>
    if numberMark.isPrefixOf tag then
      some (message (some (UInt32.ofNat (Nat.ofDigitChars 10 (valueAfter numberMark tag) 0))))
    else if titleMark.isPrefixOf tag then
      some (line (some (String.ofList (Text.unescape ' ' (valueAfter titleMark tag)))))
    else none

/-- The value of an attribute is what stands between its mark and its end. -/
lemma valueAfter_append (mark value : List Char) :
    valueAfter mark (mark ++ value ++ valueEnd) = value := by
  have hend : value ++ valueEnd = value ++ ['"'] ++ ['>'] := by simp [valueEnd]
  rw [valueAfter, List.append_assoc, List.drop_left, hend, List.dropLast_concat,
    List.dropLast_concat]

/-- Every element is read back from its opening tag. -/
lemma ofOpeningTag_openingTag (e : Element) : ofOpeningTag e.openingTag = some e := by
  cases e using casesByTag with
  | fixed e he =>
    have hall : ∀ e ∈ fixedElements, ofOpeningTag e.openingTag = some e := by decide
    exact hall e he
  | numbered n =>
    have hnone : (fixedElements.find? fun e => e.openingTag =
        numberMark ++ (Nat.toDigits 10 n.toNat ++ valueEnd)) = none := rfl
    have hmark : numberMark.isPrefixOf
        (numberMark ++ (Nat.toDigits 10 n.toNat ++ valueEnd)) = true := by simp
    rw [openingTag_message_some, ofOpeningTag, List.append_assoc, hnone]
    simp only [hmark, if_true]
    rw [← List.append_assoc, valueAfter_append, Nat.ofDigitChars_ten_toDigits,
      UInt32.ofNat_toNat]
  | titled title =>
    have hnone : (fixedElements.find? fun e => e.openingTag =
        titleMark ++ (Text.escape title.toList ++ valueEnd)) = none := rfl
    have hother : numberMark.isPrefixOf
        (titleMark ++ (Text.escape title.toList ++ valueEnd)) = false := rfl
    have hmark : titleMark.isPrefixOf
        (titleMark ++ (Text.escape title.toList ++ valueEnd)) = true := by simp
    rw [openingTag_line_some, ofOpeningTag, List.append_assoc, hnone]
    simp only [hother, hmark, if_true]
    rw [← List.append_assoc, valueAfter_append, Text.unescape_escape]
    simp

/-- An opening tag determines its element. -/
theorem openingTag_injective : Function.Injective openingTag := by
  intro e e' h
  have hread := congrArg ofOpeningTag h
  rw [ofOpeningTag_openingTag, ofOpeningTag_openingTag] at hread
  exact Option.some.inj hread

/-- An element can be told by its opening tag. -/
@[simp] lemma openingTag_inj {e e' : Element} : e.openingTag = e'.openingTag ↔ e = e' :=
  openingTag_injective.eq_iff

/-- An opening tag is no closing tag. -/
@[simp] lemma openingTag_ne_closingTag (e e' : Element) : e.openingTag ≠ e'.closingTag := by
  intro h
  have hall : ∀ name ∈ tagNames,
      ofOpeningTag (['<', '/'] ++ name.toList ++ ['>']) = none := by decide
  have hnone : ofOpeningTag e'.closingTag = none := hall _ (tagName_mem e')
  rw [← h, ofOpeningTag_openingTag] at hnone
  cases hnone

end Element

end DiagnosticPage
