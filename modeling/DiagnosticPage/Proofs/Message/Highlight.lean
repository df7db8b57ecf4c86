import DiagnosticPage.Message
import Mathlib.Tactic.Common

/-!
# The highlight of a source line

`Span.cut` counts characters, and none of its steps can fail.  A line that is held in bytes is cut
in more steps, and there each of them could: a text can be cut only where a character starts or the
text ends, bounds must be in order, and a difference must not be negative.  `Span.cutInBytes?` takes
these steps one by one and gives up at the first that fails.  None does, whatever the span and the
line are, and the parts are those of `Span.cut` (`Span.cutInBytes?_eq`).

The highlighted columns are those between the ends of the span that the line has
(`Span.marks_cut_iff`).  For a message they are the columns that its location reports.
-/

namespace DiagnosticPage

/-! ### Texts in bytes -/

namespace Text

/-- The bytes at which the characters of a text start, if the first one starts at the given byte. -/
def startsFrom (offset : ℕ) : List Char → List ℕ
  | [] => []
  | c :: s => offset :: startsFrom (offset + c.utf8Size) s

/-- The byte at which a character of a text starts, and the end of the text if there is no such
character. -/
def byteOffset (s : String) (index : ℕ) : ℕ :=
  (startsFrom 0 s.toList)[index]?.getD s.utf8ByteSize

/-- Cuts a text in two at a byte.  There is no cut within a character or behind the end. -/
def splitAtByte? (s : String) (offset : ℕ) : Option (String × String) :=
  if h : String.Pos.Raw.IsValid s ⟨offset⟩ then
    some ((s.sliceTo (s.pos ⟨offset⟩ h)).copy, (s.sliceFrom (s.pos ⟨offset⟩ h)).copy)
  else none

example : splitAtByte? "aé" 1 = some ("a", "é") ∧ splitAtByte? "aé" 2 = none ∧
    splitAtByte? "aé" 4 = none := by
  decide

/-- A character starts behind the bytes of the characters in front of it. -/
lemma getD_startsFrom (offset : ℕ) (s : List Char) (index : ℕ) :
    (startsFrom offset s)[index]?.getD (offset + (String.ofList s).utf8ByteSize) =
      offset + (String.ofList (s.take index)).utf8ByteSize := by
  induction s generalizing offset index with
  | nil => simp [startsFrom]
  | cons c s ih =>
    cases index with
    | zero => simp [startsFrom]
    | succ index =>
      rw [startsFrom, List.getElem?_cons_succ, List.take_succ_cons, String.ofList_cons,
        String.ofList_cons, String.utf8ByteSize_append, String.utf8ByteSize_append,
        String.utf8ByteSize_singleton, ← Nat.add_assoc, ← Nat.add_assoc]
      exact ih (offset + c.utf8Size) index

/-- The offset of a character is the size of what stands in front of it. -/
lemma byteOffset_eq (s : String) (index : ℕ) :
    byteOffset s index = (String.ofList (s.toList.take index)).utf8ByteSize := by
  have h := getD_startsFrom 0 s.toList index
  rwa [Nat.zero_add, Nat.zero_add, String.ofList_toList] at h

/-- Behind a text that it starts with, a text can be cut. -/
lemma splitAtByte?_append (s t : String) : splitAtByte? (s ++ t) s.utf8ByteSize = some (s, t) := by
  have hvalid : String.Pos.Raw.IsValid (s ++ t) ⟨s.utf8ByteSize⟩ :=
    String.Pos.Raw.isValid_iff_exists_append.mpr ⟨s, t, rfl, rfl⟩
  have hsplits : ((s ++ t).pos ⟨s.utf8ByteSize⟩ hvalid).Splits s t := ⟨rfl, String.offset_pos⟩
  rw [splitAtByte?, dif_pos hvalid, hsplits.copy_sliceTo_eq, hsplits.copy_sliceFrom_eq]

/-- Where one of its characters starts, a text can be cut. -/
lemma splitAtByte?_byteOffset (s : String) (index : ℕ) :
    splitAtByte? s (byteOffset s index) =
      some (String.ofList (s.toList.take index), String.ofList (s.toList.drop index)) := by
  have h := splitAtByte?_append (String.ofList (s.toList.take index))
    (String.ofList (s.toList.drop index))
  rwa [← byteOffset_eq, ← String.ofList_append, List.take_append_drop, String.ofList_toList] at h

end Text

/-! ### Cutting a line in bytes -/

/-- The difference of two numbers, unless it is negative. -/
def minus? (m n : ℕ) : Option ℕ :=
  if n ≤ m then some (m - n) else none

/-- The number between two bounds that is nearest to a number, unless the bounds are not in
order. -/
def clamp? (low high n : ℕ) : Option ℕ :=
  if low ≤ high then some (max low (min n high)) else none

namespace Span

/-- Cuts a line at a span, as far as each step succeeds. -/
def cutInBytes? (span : Span) (line : String) : Option Cut := do
  let start := min (span.first - 1) line.length
  let stop ← clamp? start line.length span.last
  let (before, rest) ← Text.splitAtByte? line (Text.byteOffset line start)
  let size ← minus? stop start
  let (marked, after) ← Text.splitAtByte? rest (Text.byteOffset rest size)
  return ⟨before.toList, marked.toList, after.toList⟩

/-- Every line can be cut at every span. -/
lemma cutInBytes?_eq (span : Span) (line : String) :
    span.cutInBytes? line = some (span.cut line.toList) := by
  have hlength : line.toList.length = line.length := String.length_toList
  have hstart : min (span.first - 1) line.length ≤ line.length := Nat.min_le_right _ _
  unfold cutInBytes? cut
  rw [hlength]
  generalize min (span.first - 1) line.length = start at hstart ⊢
  have hstop : start ≤ max start (min span.last line.length) := Nat.le_max_left _ _
  simp only [clamp?, if_pos hstart, minus?, if_pos hstop, Option.bind_eq_bind, Option.bind_some,
    Text.splitAtByte?_byteOffset, String.toList_ofList, List.drop_drop, Nat.add_sub_cancel' hstop]
  rfl

end Span

/-! ### Highlighted columns -/

/-- A column of a line, counted from one, lies in the highlight. -/
def Cut.Marks (c : Cut) (column : ℕ) : Prop :=
  c.before.length < column ∧ column ≤ c.before.length + c.marked.length

namespace Span

variable (span : Span) (line : List Char)

/-- What stands in front of a highlight ends with the line at the latest. -/
lemma length_before_cut : (span.cut line).before.length = min (span.first - 1) line.length := by
  simp [cut]

/-- A highlight ends with the line at the latest, and no sooner than it begins. -/
lemma length_before_marked_cut :
    (span.cut line).before.length + (span.cut line).marked.length =
      max (min (span.first - 1) line.length) (min span.last line.length) := by
  simp only [cut, List.length_take, List.length_drop]
  omega

/-- The columns of a line that lie in the highlight are those of the span. -/
lemma marks_cut_iff {column : ℕ} (hpos : 1 ≤ column) (hle : column ≤ line.length) :
    (span.cut line).Marks column ↔ span.first ≤ column ∧ column ≤ span.last := by
  rw [Cut.Marks, length_before_marked_cut, length_before_cut]
  omega

end Span

namespace Message

/-- The location of a message reports a column of its source line: the column is not in front of the
start, nor behind the end if the end is on the same line. -/
def Reports (m : Message) (column : ℕ) : Prop :=
  ∃ loc, m.location = some loc ∧ loc.start.column.toNat ≤ column ∧
    (loc.start.line ≠ loc.stop.line ∨ column ≤ loc.stop.column.toNat)

/-- Where the highlight of a message starts, as the number of characters in front of it. -/
def highlightStart (m : Message) : ℕ :=
  match m.location with
  | none => 0
  | some loc => min (max loc.start.column.toNat 1 - 1) m.contextLine.length

/-- The span of a message takes in the reported columns of its source line. -/
lemma reports_iff (m : Message) {column : ℕ} (hpos : 1 ≤ column)
    (hle : column ≤ m.contextLine.length) :
    m.Reports column ↔ m.span.first ≤ column ∧ column ≤ m.span.last := by
  unfold Reports span
  cases m.location with
  | none =>
    have hnot : ¬ column ≤ 0 := Nat.not_le.mpr hpos
    simp [hnot]
  | some loc =>
    obtain ⟨start, stop⟩ := loc
    by_cases hline : start.line = stop.line
    · simp [hline]
    · simp [hline, hle]

end Message

/-- The source line of a message can be cut in bytes whatever its location is, and the parts are the
highlight with what is in front of it and behind it.  They make up the line.  A column of the line
lies in the highlight exactly if the location reports it, and also an empty highlight has its
place. -/
theorem highlight_takes_in_reported_columns (m : Message) :
    m.span.cutInBytes? (m.context.getD "") = some m.cut ∧
    m.cut.join = (m.context.getD "").toList ∧
    (∀ column, 1 ≤ column → column ≤ m.contextLine.length →
      (m.cut.Marks column ↔ m.Reports column)) ∧
    m.cut.before.length = m.highlightStart := by
  refine ⟨m.span.cutInBytes?_eq _, Cut.join_cut _ _, ?_, ?_⟩
  · intro column hpos hle
    rw [m.reports_iff hpos hle]
    exact m.span.marks_cut_iff m.contextLine hpos hle
  · rw [Message.cut, Span.length_before_cut, Message.highlightStart, Message.span]
    cases m.location with
    | none => simp
    | some loc =>
      obtain ⟨start, stop⟩ := loc
      simp only
      omega

/-- Columns are those of characters, whatever bytes these take, and columns beyond the line do no
harm.  A highlight that ends before it starts is empty and stands at its start. -/
theorem highlight_behind_wide_characters :
    let m : UInt64 → UInt64 → Message := fun start stop =>
      ⟨.blame, "m", "a.js", some 1, some 1, some "é = ü;", some ⟨⟨1, start⟩, ⟨1, stop⟩⟩⟩
    (m 5 18446744073709551615).span.cutInBytes? "é = ü;" =
      some ⟨"é = ".toList, "ü;".toList, []⟩ ∧
    (m 5 18446744073709551615).cut.Marks 6 ∧ ¬ (m 5 18446744073709551615).cut.Marks 4 ∧
    (m 3 0).span.cutInBytes? "é = ü;" = some ⟨"é ".toList, [], "= ü;".toList⟩ ∧
    ¬ (m 3 0).cut.Marks 3 ∧ (m 3 0).cut.before.length = 2 := by
  intro m
  obtain ⟨hwide, -, hmarks, -⟩ :=
    highlight_takes_in_reported_columns (m 5 18446744073709551615)
  obtain ⟨hempty, -, hnone, hstart⟩ := highlight_takes_in_reported_columns (m 3 0)
  refine ⟨hwide.trans (by decide), ?_, ?_, hempty.trans (by decide), ?_, hstart.trans (by decide)⟩
  · exact (hmarks 6 (by decide) (by decide)).mpr ⟨_, rfl, by decide, Or.inr (by decide)⟩
  · rw [hmarks 4 (by decide) (by decide)]
    rintro ⟨loc, hloc, hfirst, -⟩
    obtain rfl := Option.some.inj hloc
    exact absurd hfirst (by decide)
  · rw [hnone 3 (by decide) (by decide)]
    rintro ⟨loc, hloc, -, hlines | hlast⟩
    · obtain rfl := Option.some.inj hloc
      exact hlines rfl
    · obtain rfl := Option.some.inj hloc
      exact absurd hlast (by decide)

end DiagnosticPage
