import DiagnosticPage.Proofs.Json.Records
import DiagnosticPage.Report.Read

/-!
# The schema of reports

Which values are reports, and which reports they are, said of whole values: what parts a record
has, which of them it needs, and what stands in for the others.  The schema counts the levels that
records and lists may still take up, since a report may open only `maxLevels` of them at once;
what is not a part of any record is not looked at.

`Report.ofText_eq_ok_iff` says that the text of a value is read as a report exactly if the value is
one, and then as that report, however the value is spelled.
-/

namespace DiagnosticPage

open Json

/-! ## The schema -/

namespace Position

/-- The position with the given parts. -/
def ofParts? (g : Parts) : Option Position := do
  let line ← g.needed "line" Value.word32?
  let column ← g.needed "column" Value.word64?
  return ⟨line, column⟩

/-- The position that a value describes. -/
def ofValue? : (levels : Nat) → Value → Option Position
  | 0, _ => none
  | _ + 1, v => (v.parts? ["line", "column"]).bind ofParts?

end Position

namespace Location

/-- The location with the given parts. -/
def ofParts? (levels : Nat) (g : Parts) : Option Location := do
  let start ← g.needed "start" (Position.ofValue? levels)
  let stop ← g.needed "end" (Position.ofValue? levels)
  return ⟨start, stop⟩

/-- The location that a value describes. -/
def ofValue? : (levels : Nat) → Value → Option Location
  | 0, _ => none
  | levels + 1, v => (v.parts? ["start", "end"]).bind (ofParts? levels)

end Location

/-- The kind that a value describes. -/
def Kind.ofValue? (levels : Nat) (v : Value) : Option Kind :=
  (v.name? (0 < levels)).map Kind.ofName

namespace Message

/-- The message with the given parts. -/
def ofParts? (levels : Nat) (g : Parts) : Option Message := do
  let kind ← g.needed "type" (Kind.ofValue? levels)
  let description ← g.needed "descr" Value.text?
  let path ← g.given "path" Value.text? ""
  let line ← g.given "line" (Value.orNull Value.word32?) none
  let endLine ← g.given "endline" (Value.orNull Value.word32?) none
  let context ← g.given "context" (Value.orNull Value.text?) none
  let location ← g.given "loc" (Value.orNull (Location.ofValue? levels)) none
  return { kind, description, path, line, endLine, context, location }

/-- The message that a value describes. -/
def ofValue? : (levels : Nat) → Value → Option Message
  | 0, _ => none
  | levels + 1, v =>
    (v.parts? ["type", "descr", "path", "line", "endline", "context", "loc"]).bind (ofParts? levels)

end Message

/-- What a list describes that takes up one level. -/
def listWithin (levels : Nat) (schema : Nat → Value → Option α) (v : Value) : Option (List α) :=
  match levels with
  | 0 => none
  | levels + 1 => v.listOf (schema levels)

namespace Entry

/-- The entry with the given parts, of which the nested entries are described by a schema. -/
def ofParts? (levels : Nat) (nested : Value → Option (List Entry)) (g : Parts) : Option Entry := do
  let messages ← g.needed "message" (listWithin levels Message.ofValue?)
  let operation ← g.given "operation" (Value.orNull (Message.ofValue? levels)) none
  let extra ← g.given "extra" nested []
  let children ← g.given "children" nested []
  return ⟨messages, operation, extra, children⟩

/-- The entry that a value describes.  Without two levels there is no room for the list of its
messages; a list of nested entries takes up one level more than the entry. -/
def ofValue? : (levels : Nat) → Value → Option Entry
  | levels + 2, v =>
    (v.parts? ["message", "operation", "extra", "children"]).bind
      (ofParts? (levels + 1) (Value.listOf (ofValue? levels)))
  | _, _ => none

end Entry

namespace Report

/-- The report with the given parts. -/
def ofParts? (levels : Nat) (g : Parts) : Option Report := do
  let passed ← g.needed "passed" Value.boolean?
  let errors ← g.given "errors" (listWithin levels Entry.ofValue?) []
  return ⟨passed, errors⟩

/-- The report that a value describes. -/
def ofValue? : (levels : Nat) → Value → Option Report
  | 0, _ => none
  | levels + 1, v => (v.parts? ["passed", "errors"]).bind (ofParts? levels)

end Report

/-! ## Reading by the schema

What `Record.Means` asks of a record is about its slots one by one, and about what it makes of a
draft whose slots are known.  So simplification reads it off the slots and the schemas of their
readers. -/

/-- A record takes up one level more than its fields. -/
lemma gives_recordWithin {σ α : Type} (name : String) {layout : Nat → Record σ α}
    {schema : Nat → Value → Option α} (hzero : schema 0 = fun _ => none)
    (h : ∀ levels, (Reader.record name (some (layout levels))).Gives (schema (levels + 1)))
    (levels : Nat) : (Reader.record name (deeper levels layout)).Gives (schema levels) := by
  cases levels with
  | zero =>
    rw [hzero]
    exact Record.gives_record_none name
  | succ levels => exact h levels

/-- A list takes up one level more than its items. -/
lemma gives_listWithin {read : Nat → Reader α} {schema : Nat → Value → Option α}
    (h : ∀ levels, (read levels).Gives (schema levels)) (levels : Nat) :
    (Reader.list (deeper levels read)).Gives (listWithin levels schema) := by
  cases levels with
  | zero => exact Reader.gives_list_none
  | succ levels => exact Reader.gives_list (h levels)

namespace Position

/-- A position is read as its schema says. -/
lemma layout_means : layout.Means slots ofParts? := by
  constructor <;> simp +contextual [slots, layout, ofParts?, Record.Holds]

/-- A position is read from the values that describe one. -/
@[simp]
lemma gives_reader (levels : Nat) : (reader levels).Gives (ofValue? levels) :=
  gives_recordWithin "Position" rfl (fun _ => layout_means.gives_record "Position") levels

@[simp]
lemma schema_reader (levels : Nat) : (reader levels).schema = ofValue? levels :=
  (gives_reader levels).schema_eq

end Position

namespace Location

/-- A location is read as its schema says. -/
lemma layout_means (levels : Nat) : (layout levels).Means (slots levels) (ofParts? levels) := by
  constructor <;> simp +contextual [slots, layout, ofParts?, Record.Holds]

/-- A location is read from the values that describe one. -/
@[simp]
lemma gives_reader (levels : Nat) : (reader levels).Gives (ofValue? levels) :=
  gives_recordWithin "Loc" rfl (fun levels => (layout_means levels).gives_record "Loc") levels

@[simp]
lemma schema_reader (levels : Nat) : (reader levels).schema = ofValue? levels :=
  (gives_reader levels).schema_eq

end Location

namespace Kind

/-- A kind is read from the values that describe one. -/
@[simp]
lemma gives_reader (levels : Nat) : (reader levels).Gives (ofValue? levels) :=
  (Reader.gives_name (0 < levels)).map ofName

@[simp]
lemma schema_reader (levels : Nat) : (reader levels).schema = ofValue? levels :=
  (gives_reader levels).schema_eq

end Kind

namespace Message

/-- A message is read as its schema says. -/
lemma layout_means (levels : Nat) : (layout levels).Means (slots levels) (ofParts? levels) := by
  constructor <;> simp +contextual [slots, layout, ofParts?, Record.Holds]

/-- A message is read from the values that describe one. -/
@[simp]
lemma gives_reader (levels : Nat) : (reader levels).Gives (ofValue? levels) :=
  gives_recordWithin "Message" rfl (fun levels => (layout_means levels).gives_record "Message")
    levels

@[simp]
lemma schema_reader (levels : Nat) : (reader levels).schema = ofValue? levels :=
  (gives_reader levels).schema_eq

end Message

namespace Entry

/-- An entry is read as its schema says if nested entries are. -/
lemma layout_means (levels : Nat) {nested : Option (Reader Entry)}
    {schema : Value → Option (List Entry)} (h : (Reader.list nested).Gives schema) :
    (layout levels nested).Means (slots levels nested) (ofParts? levels schema) := by
  have hmessages := gives_listWithin Message.gives_reader levels
  constructor <;>
    simp +contextual [slots, layout, ofParts?, Record.Holds, h, h.schema_eq, hmessages,
      hmessages.schema_eq]

/-- An entry is read from the values that describe one, by recursion on the levels left for it. -/
lemma gives_reader : (levels : Nat) → (reader levels).Gives (ofValue? levels)
  | 0 => Record.gives_record_none "ErrorEntry"
  | 1 => by
    -- The one level is taken up by the entry itself, so the list of its messages is refused.
    have hnone : ∀ g, ofParts? 0 (fun _ => none) g = none := by
      intro g
      have hmessages : g.needed "message" (listWithin 0 Message.ofValue?) = none := by
        unfold Parts.needed
        cases g "message" <;> rfl
      rw [ofParts?, hmessages]
      rfl
    intro n v hn
    have hread := (layout_means 0 Reader.gives_list_none).gives_record "ErrorEntry" n v hn
    have hrefused : ∀ x : Option Parts, x.bind (ofParts? 0 fun _ => none) = none := by
      intro x
      cases x with
      | none => rfl
      | some g => exact hnone g
    exact hread.trans (hrefused _)
  | levels + 2 =>
    (layout_means (levels + 1) (Reader.gives_list (gives_reader levels))).gives_record "ErrorEntry"

end Entry

namespace Report

/-- A report is read as its schema says. -/
lemma layout_means (levels : Nat) : (layout levels).Means (slots levels) (ofParts? levels) := by
  have herrors := gives_listWithin Entry.gives_reader levels
  constructor <;>
    simp +contextual [slots, layout, ofParts?, Record.Holds, herrors, herrors.schema_eq]

/-- A report is read from the values that describe one. -/
lemma gives_reader (levels : Nat) : (reader levels).Gives (ofValue? levels) :=
  gives_recordWithin "Report" rfl (fun levels => (layout_means levels).gives_record "Report") levels

/-- However a value is spelled, what is read from its text is what the value describes. -/
lemma toOption_ofText {text : List Char} {v : Value} (h : SpellsDocument text v) :
    (ofText text).toOption = ofValue? maxLevels v := by
  obtain ⟨hvalue, hnext⟩ := isOf_ofText h
  have hread := gives_reader maxLevels _ _ hvalue
  rw [← hread, ofText, ofDocument, hnext]
  cases reader maxLevels (Document.ofText text).value <;> rfl

/-- A report is read from a text that spells a value exactly if the value describes a report
within the levels that may be opened, and then it is that report. -/
theorem ofText_eq_ok_iff {text : List Char} {v : Value} (h : SpellsDocument text v) (r : Report) :
    ofText text = .ok r ↔ ofValue? maxLevels v = some r := by
  rw [← toOption_ofText h, toOption_eq_some_iff]

/-- A document with blanks, escapes, a member that no record knows, records written as lists, and a
kind written as an object is read as a report. -/
theorem lists_and_escapes_are_read :
    let text := " \x7b\"passed\" :false,\"other\":[\t],\r\n" ++
      "\"errors\":[[[[\x7b\"Comment\":null\x7d,\"\\ud83d\\uDE00\\/\"]]]]\x7d"
    let v : Value := .object [("passed", .boolean false), ("other", .list []),
      ("errors", .list [.list [.list [.list [.object [("Comment", .null)], .text "😀/"]]]])]
    let found : Report := ⟨false, [⟨[{ kind := .comment, description := "😀/" }], none, [], []⟩]⟩
    SpellsDocument text.toList v ∧ ofValue? maxLevels v = some found ∧
      ofText text.toList = .ok found := by
  intro text v found
  have hspace : Blank [' '] := by simp [Blank]
  have htab : Blank ['\t'] := by simp [Blank]
  have hline : Blank ['\r', '\n'] := by simp [Blank]
  have hface : SpellsChar ['\\', 'u', 'd', '8', '3', 'd', '\\', 'u', 'D', 'E', '0', '0'] '😀' := by
    have h0 : IsHexDigit '0' 0 := by unfold IsHexDigit; decide
    have h3 : IsHexDigit '3' 3 := by unfold IsHexDigit; decide
    have h8 : IsHexDigit '8' 8 := by unfold IsHexDigit; decide
    have hd : IsHexDigit 'd' 13 := by unfold IsHexDigit; decide
    have hD : IsHexDigit 'D' 13 := by unfold IsHexDigit; decide
    have hE : IsHexDigit 'E' 14 := by unfold IsHexDigit; decide
    exact .pair (i := 0x3d) (j := 0x200) (.mk hd h8 h3 hd rfl) (.mk hD hE h0 h0 rfl) (by decide)
      (by decide) (by decide)
  have hslash : SpellsChar ['\\', '/'] '/' := .letter (by decide)
  have hone : ∀ {t w}, Spells t w → Spells ('[' :: (t ++ [']'])) (.list [w]) :=
    fun h => .list (.last blank_nil h blank_nil)
  have hkind : Spells _ (.object [("Comment", .null)]) :=
    .object (.last (.mk blank_nil (spellsText_flatMap _) blank_nil blank_nil .null blank_nil))
  have hmessage : Spells _ (.list [.object [("Comment", .null)], .text "😀/"]) :=
    .list (.more blank_nil hkind blank_nil
      (.last blank_nil (.text (s := "😀/") (.cons hface (.cons hslash .nil))) blank_nil))
  have hpassed : SpellsMember _ ("passed", .boolean false) :=
    .mk blank_nil (spellsText_flatMap _) hspace blank_nil .false blank_nil
  have hother : SpellsMember _ ("other", .list []) :=
    .mk blank_nil (spellsText_flatMap _) blank_nil blank_nil (.emptyList htab) blank_nil
  have herrors : SpellsMember _ ("errors", _) :=
    .mk hline (spellsText_flatMap _) blank_nil blank_nil (hone (hone (hone hmessage))) blank_nil
  have hdocument : SpellsDocument _ v :=
    .mk hspace (.object (.more hpassed (.more hother (.last herrors)))) blank_nil
  have hspells : SpellsDocument text.toList v := by
    refine Eq.mp (congrArg (SpellsDocument · v) ?_) hdocument
    decide
  have hschema : ofValue? maxLevels v = some found := by decide
  exact ⟨hspells, hschema, (ofText_eq_ok_iff hspells found).mpr hschema⟩

end Report

end DiagnosticPage
