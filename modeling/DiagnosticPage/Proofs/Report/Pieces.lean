import DiagnosticPage.Report.Source
import Mathlib.Data.List.Basic
import Mathlib.Tactic.Common

/-!
# Reports that are read in pieces

A source is asked for bytes again and again until it has none left or breaks down.  `Source.readOn`
is this loop: each piece is put behind the bytes that were read before, and an empty piece is the
end.  With pieces that are not empty, what the loop comes to is known beforehand (`readOn_eq`): all
bytes, in order, or the breakdown.

Where the bytes are cut does not matter, then.  `Source.handedOut` is all that is left of the
pieces, and `Text.encode` says of such bytes which text they are, if they are one.  A report is that
of this text, and a fault of the document is one of the text, with its place.  A breakdown counts
before bytes that are not text, and these before any fault of the document.
-/

namespace DiagnosticPage

namespace Text

/-- The bytes of a text in UTF-8, character by character. -/
def encode (text : List Char) : List UInt8 :=
  text.flatMap String.utf8EncodeChar

/-- The bytes of a text are those that it is stored with. -/
lemma encode_toList (text : String) : encode text.toList = text.toUTF8.data.toList := by
  have hstored : text.toList.utf8Encode = text.toUTF8 := String.utf8Encode_toList
  rw [← hstored, List.utf8Encode, List.toList_data_toByteArray]
  rfl

/-- Bytes are read as a text exactly if they are its bytes. -/
lemma fromUTF8?_eq_some_iff (b : ByteArray) (text : String) :
    String.fromUTF8? b = some text ↔ encode text.toList = b.data.toList := by
  have hsame : encode text.toList = b.data.toList ↔ text.toUTF8 = b := by
    rw [encode_toList, Array.toList_inj, ByteArray.ext_iff]
  rw [hsame, String.fromUTF8?]
  constructor
  · intro h
    split at h
    · cases h
      rfl
    · cases h
  · rintro rfl
    exact dif_pos text.isValidUTF8

end Text

namespace Source

variable {s : Source}

/-- The bytes that a source hands out, whatever pieces they come in. -/
def handedOut (s : Source) : List UInt8 :=
  s.pieces.flatMap fun piece => piece.data.toList

/-- Asks for pieces until there is an empty one or none at all, and puts each behind the bytes that
were read before it. -/
def readOn (breakdown : Option AccessFault) : List ByteArray → ByteArray →
    Except AccessFault ByteArray
  | [], soFar =>
    match breakdown with
    | none => .ok soFar
    | some f => .error f
  | piece :: pieces, soFar =>
    if piece.size = 0 then .ok soFar else readOn breakdown pieces (soFar ++ piece)

/-- The text of a source, from bytes that are read one piece after the other. -/
def readText (s : Source) : Except AccessFault String := do
  let bytes ← readOn s.breakdown s.pieces .empty
  match String.fromUTF8? bytes with
  | none => .error .notText
  | some text => .ok text

/-! ### Reading in pieces -/

/-- After one more piece the loop goes on with what comes behind it. -/
lemma readOn_cons (breakdown : Option AccessFault) {piece : ByteArray} (hpiece : piece.size ≠ 0)
    (pieces : List ByteArray) (soFar : ByteArray) :
    readOn breakdown (piece :: pieces) soFar = readOn breakdown pieces (soFar ++ piece) := by
  rw [readOn, if_neg hpiece]

/-- The loop comes to the breakdown of its source, or to all bytes behind those read before. -/
lemma readOn_eq (breakdown : Option AccessFault) {pieces : List ByteArray}
    (hpieces : ∀ piece ∈ pieces, piece.size ≠ 0) (soFar : ByteArray) :
    readOn breakdown pieces soFar =
      breakdown.elim (.ok (pieces.foldl ByteArray.append soFar)) .error := by
  induction pieces generalizing soFar with
  | nil => cases breakdown <;> rfl
  | cons piece pieces ih =>
    rw [readOn_cons breakdown (hpieces piece (by simp)),
      ih (fun other hother => hpieces other (by simp [hother])), List.foldl_cons,
      ByteArray.append_eq]

/-- What is read in pieces is the text of the bytes put together. -/
lemma readText_eq_text (hpieces : ∀ piece ∈ s.pieces, piece.size ≠ 0) : s.readText = s.text := by
  rw [readText, text, readOn_eq s.breakdown hpieces]
  cases s.breakdown <;> rfl

/-- Pieces that are put behind some bytes leave these and are added in order. -/
lemma toList_foldl_append (pieces : List ByteArray) (soFar : ByteArray) :
    (pieces.foldl ByteArray.append soFar).data.toList =
      soFar.data.toList ++ pieces.flatMap fun piece => piece.data.toList := by
  induction pieces generalizing soFar with
  | nil => simp
  | cons piece pieces ih =>
    rw [List.foldl_cons, ih, ByteArray.append_eq, ByteArray.data_append, Array.toList_append,
      List.append_assoc, List.flatMap_cons]

/-- The bytes put together are those that were handed out. -/
lemma toList_bytes (s : Source) : s.bytes.data.toList = s.handedOut :=
  toList_foldl_append s.pieces .empty

/-- Sources that hand out the same bytes and end alike have the same text. -/
lemma text_congr {s s' : Source} (hbytes : s.handedOut = s'.handedOut)
    (hend : s.breakdown = s'.breakdown) : s.text = s'.text := by
  have hsame : s.bytes = s'.bytes := by
    rw [ByteArray.ext_iff, ← Array.toList_inj, toList_bytes, toList_bytes, hbytes]
  rw [text, text, hsame, hend]

/-- The bytes that are handed out are no text exactly if they are not read as one. -/
lemma forall_encode_ne_iff (s : Source) :
    (∀ text, Text.encode text ≠ s.handedOut) ↔ String.fromUTF8? s.bytes = none := by
  rw [Option.eq_none_iff_forall_ne_some]
  constructor
  · intro hnone text htext
    refine hnone text.toList ?_
    rw [(Text.fromUTF8?_eq_some_iff _ _).mp htext, toList_bytes]
  · intro hnone text htext
    refine hnone (String.ofList text) ?_
    rw [Text.fromUTF8?_eq_some_iff, String.toList_ofList, htext, toList_bytes]

/-- Bytes that are a text are read as this text. -/
lemma text_eq_ok {text : List Char} (hend : s.breakdown = none)
    (htext : Text.encode text = s.handedOut) : s.text = .ok (String.ofList text) := by
  have hbytes : String.fromUTF8? s.bytes = some (String.ofList text) := by
    rw [Text.fromUTF8?_eq_some_iff, String.toList_ofList, htext, toList_bytes]
  simp only [Source.text, hend, hbytes]

/-- Bytes that are no text are the fault. -/
lemma text_eq_error (hend : s.breakdown = none)
    (hnone : ∀ text, Text.encode text ≠ s.handedOut) : s.text = .error .notText := by
  simp only [Source.text, hend, s.forall_encode_ne_iff.mp hnone]

end Source

namespace Report

variable {s : Source}

/-- A report is read from the text of its source. -/
lemma ofSource_of_text {text : String} (h : s.text = .ok text) :
    ofSource s = (ofText text.toList).mapError .document := by
  rw [ofSource, h]
  rfl

/-- A source without text is the failure, whatever its bytes describe. -/
lemma ofSource_of_fault {f : AccessFault} (h : s.text = .error f) :
    ofSource s = .error (.access f) := by
  rw [ofSource, h]
  rfl

/-- However the bytes of a source are cut into pieces, its text is that of the bytes put together,
and the report depends on these alone.  If they are a text, the report or the fault of the document
is that of the text.  If they are none, this is the failure, whatever a reader of the document would
have found before; and if the source breaks down at any place, that is the failure, whatever it has
handed out. -/
theorem report_of_pieces_is_report_of_text (s : Source)
    (hpieces : ∀ piece ∈ s.pieces, piece.size ≠ 0) :
    s.readText = s.text ∧
    (∀ s' : Source, s.handedOut = s'.handedOut → s.breakdown = s'.breakdown →
      ofSource s = ofSource s') ∧
    (∀ text, s.breakdown = none → Text.encode text = s.handedOut →
      ofSource s = (ofText text).mapError .document) ∧
    (s.breakdown = none → (∀ text, Text.encode text ≠ s.handedOut) →
      ofSource s = .error (.access .notText)) ∧
    (∀ f, s.breakdown = some f → ofSource s = .error (.access f)) ∧
    (Failure.access .notText).message = "I/O error: stream did not contain valid UTF-8" := by
  refine ⟨Source.readText_eq_text hpieces, fun s' hbytes hend => ?_, fun text hend htext => ?_,
    fun hend hnone => ?_, fun f hf => ?_, by decide⟩
  · rw [ofSource, ofSource, Source.text_congr hbytes hend]
  · rw [ofSource_of_text (Source.text_eq_ok hend htext), String.toList_ofList]
  · exact ofSource_of_fault (Source.text_eq_error hend hnone)
  · refine ofSource_of_fault ?_
    simp only [Source.text, hf]

/-- The fault behind a report is told at the same place though it is cut within a character there.
A byte that is in no text counts before the word that is none, and a breakdown before a whole
report. -/
theorem report_cut_within_a_character :
    let document := "\x7b\"passed\":true\x7d\u00e9"
    let whole : Source := { pieces := ["\x7b\"passed\":true\x7d".toUTF8, ⟨#[0xc3]⟩, ⟨#[0xa9]⟩] }
    let garbled : Source := { pieces := ["nul".toUTF8, ⟨#[0xff]⟩] }
    let broken : Source :=
      { pieces := ["\x7b\"passed\":".toUTF8, "true\x7d".toUTF8], breakdown := some .isDirectory }
    (whole.readText = .ok document ∧
        ofSource whole = .error (.document ⟨.trailingCharacters, ⟨1, 16⟩⟩)) ∧
      ofSource garbled = .error (.access .notText) ∧
      ofSource broken = .error (.access .isDirectory) := by
  intro document whole garbled broken
  obtain ⟨hread, -, hwhole, -⟩ := report_of_pieces_is_report_of_text whole (by decide)
  obtain ⟨-, -, -, hgarbled, -⟩ := report_of_pieces_is_report_of_text garbled (by decide)
  obtain ⟨-, -, -, -, hbroken, -⟩ := report_of_pieces_is_report_of_text broken (by decide)
  have hdocument : Text.encode document.toList = whole.handedOut := by decide
  have htext : whole.text = .ok document := by
    rw [Source.text_eq_ok rfl hdocument, String.ofList_toList]
  have hfault : ofText document.toList = .error ⟨.trailingCharacters, ⟨1, 16⟩⟩ := by
    unfold document
    rfl
  refine ⟨⟨hread.trans htext, ?_⟩, hgarbled rfl ?_, hbroken _ rfl⟩
  · rw [hwhole _ rfl hdocument, hfault]
    rfl
  · exact garbled.forall_encode_ne_iff.mpr (by decide)

end Report

end DiagnosticPage
