import Mathlib.Logic.Function.Iterate
import DiagnosticPage.Bundle
import DiagnosticPage.Proofs.Report.Levels
import DiagnosticPage.Proofs.Report.Schema

/-!
# Reading what has been written

The compact text of a report is a spelling of its value, the value describes the report within as
many levels as it is deep, and the depth of the value is the number of brackets and braces that are
open at once in the text.  So whether a written report can be read again depends on that number
alone.  `Report.ofText_toText` draws the conclusions: reports that have been read once can be
written and read again, and so can reports that are nested no deeper than a page allows.
-/

namespace DiagnosticPage

open Json

/-! ## Written values can be spelled -/

/-- The literal of a natural number may be written. -/
lemma legal_natValue (n : Nat) : (natValue n).Legal :=
  .number (Literal.legal_ofNat n)

/-- The value of a position may be written. -/
lemma Position.legal_toValue (p : Position) : p.toValue.Legal :=
  .object (by simp [legal_natValue])

/-- The value of a location may be written. -/
lemma Location.legal_toValue (l : Location) : l.toValue.Legal :=
  .object (by simp [Position.legal_toValue])

/-- The value of a message may be written. -/
lemma Message.legal_toValue (m : Message) : m.toValue.Legal := by
  obtain ⟨ms, hms, hall⟩ := m.exists_members
  have hcontext : (m.context.elim Value.null Value.text).Legal := by
    cases m.context with
    | none => exact .null
    | some s => exact .text s
  rw [hms]
  exact .object ((hall Value.Legal).mpr ⟨.text _, .text _, .text _, fun _ _ => legal_natValue _,
    fun _ _ => legal_natValue _, hcontext, fun l _ => l.legal_toValue⟩)

/-- The value of an entry may be written, by induction on the entries nested in it. -/
lemma Entry.legal_toValue (e : Entry) : e.toValue.Legal := by
  induction e using Entry.induct with
  | node e hextra hchildren =>
    obtain ⟨ms, hms, hall⟩ := e.exists_members
    rw [hms]
    refine .object ((hall Value.Legal).mpr ⟨.list ?_, fun m _ => m.legal_toValue, fun _ => .list ?_,
      fun _ => .list ?_⟩)
    · exact List.forall_mem_map.mpr fun m _ => m.legal_toValue
    · exact List.forall_mem_map.mpr hextra
    · exact List.forall_mem_map.mpr hchildren

/-- The value of a report may be written. -/
lemma Report.legal_toValue (r : Report) : r.toValue.Legal := by
  have herrors : (Value.list (r.errors.map Entry.toValue)).Legal :=
    .list (List.forall_mem_map.mpr fun e _ => e.legal_toValue)
  rw [toValue, Entry.toValues_eq]
  exact .object (by simp [herrors, Value.Legal.boolean])

/-- A written report is a document. -/
lemma Report.spells_toText (r : Report) : SpellsDocument r.toText r.toValue := by
  have hdocument := SpellsDocument.mk blank_nil r.legal_toValue.spells_write blank_nil
  simpa [toText] using hdocument

/-! ## Written values describe what has been written -/

/-- A number below a bound is described by its digits. -/
lemma natural?_natValue {n bound : Nat} (h : n < bound) : (natValue n).natural? bound = some n := by
  have hn : Nat.ofDigitChars 10 (Nat.toDigits 10 n) 0 = n := Nat.ofDigitChars_ten_toDigits
  rw [natValue, Literal.ofNat, Value.natural?, hn, if_pos h]

/-- A number of 32 bits is described by its digits. -/
lemma word32?_natValue (n : UInt32) : (natValue n.toNat).word32? = some n := by
  rw [Value.word32?, natural?_natValue n.toNat_lt, Option.map_some, UInt32.ofNat_toNat]

/-- A number of 64 bits is described by its digits. -/
lemma word64?_natValue (n : UInt64) : (natValue n.toNat).word64? = some n := by
  rw [Value.word64?, natural?_natValue n.toNat_lt, Option.map_some, UInt64.ofNat_toNat]

/-- A list is described by the values of its items if each item is by its own. -/
lemma listOf_map {α : Type} {toValue : α → Value} {schema : Value → Option α} {xs : List α}
    (h : ∀ x ∈ xs, schema (toValue x) = some x) :
    (Value.list (xs.map toValue)).listOf schema = some xs := by
  rw [Value.listOf]
  induction xs with
  | nil => rfl
  | cons x xs ih =>
    rw [List.map_cons, List.mapM_cons, h x List.mem_cons_self,
      ih fun y hy => h y (List.mem_cons_of_mem _ hy)]
    rfl

/-- A value that is not `null` describes the same where `null` could stand. -/
lemma orNull_of_some {α : Type} {schema : Value → Option α} {v : Value} {x : α}
    (hv : v ≠ .null) (h : schema v = some x) : v.orNull schema = some (some x) := by
  unfold Value.orNull
  split
  · exact absurd rfl hv
  · rw [h, Option.map_some]

/-- A position is described by its value within as many levels as the value is deep. -/
lemma Position.ofValue?_toValue (p : Position) {levels : Nat} (h : p.toValue.depth ≤ levels) :
    ofValue? levels p.toValue = some p := by
  cases levels with
  | zero => cases h
  | succ levels =>
    simp [ofValue?, toValue, Value.parts?, Value.known, ofParts?, Parts.needed, List.lookup_cons,
      word32?_natValue, word64?_natValue]

/-- A location is described by its value within as many levels as the value is deep. -/
lemma Location.ofValue?_toValue (l : Location) {levels : Nat} (h : l.toValue.depth ≤ levels) :
    ofValue? levels l.toValue = some l := by
  rw [depth_toValue] at h
  obtain ⟨levels, rfl⟩ : ∃ n, levels = n + 1 := ⟨levels - 1, by omega⟩
  have hposition : ∀ p : Position, Position.ofValue? levels p.toValue = some p := fun p =>
    p.ofValue?_toValue (by rw [Position.depth_toValue]; omega)
  simp [ofValue?, toValue, Value.parts?, Value.known, ofParts?, Parts.needed, List.lookup_cons,
    hposition]

/-- The name of a kind names it. -/
lemma Kind.ofName_name (k : Kind) : ofName k.name = k := by
  cases k <;> decide

/-- A message is described by its value within as many levels as the value is deep. -/
lemma Message.ofValue?_toValue (m : Message) {levels : Nat} (h : m.toValue.depth ≤ levels) :
    ofValue? levels m.toValue = some m := by
  cases levels with
  | zero =>
    obtain ⟨ms, hms, -⟩ := m.exists_members
    rw [hms, Value.depth] at h
    omega
  | succ levels =>
    rw [depth_toValue_le_iff] at h
    have hkind : ∀ k : Kind, Kind.ofValue? levels (.text k.name) = some k := by
      intro k
      rw [Kind.ofValue?, Value.name?, Option.map_some, Kind.ofName_name]
    have hline : ∀ n : UInt32, (natValue n.toNat).orNull Value.word32? = some (some n) :=
      fun n => orNull_of_some nofun (word32?_natValue n)
    have hcontext : ∀ c : Option String,
        (c.elim .null .text : Value).orNull Value.text? = some c := by
      intro c
      cases c <;> rfl
    have hlocation : ∀ l : Location, l.toValue.depth ≤ levels →
        l.toValue.orNull (Location.ofValue? levels) = some (some l) :=
      fun l hl => orNull_of_some nofun (l.ofValue?_toValue hl)
    obtain ⟨kind, description, path, _ | line, _ | endLine, context, _ | location⟩ := m <;>
    simp only [Option.mem_def, Option.some.injEq, forall_eq', reduceCtorEq, false_implies,
      implies_true] at h <;>
    simp [ofValue?, toValue, Value.parts?, Value.known, ofParts?, Parts.needed, Parts.given,
      List.lookup_cons, member?, Value.text?, hkind, hline, hcontext, hlocation, h]

/-- An entry is described by its value within as many levels as the value is deep. -/
lemma Entry.ofValue?_toValue (e : Entry) {levels : Nat} (h : e.toValue.depth ≤ levels) :
    ofValue? levels e.toValue = some e := by
  induction e using Entry.induct generalizing levels with
  | node e hextra hchildren =>
    -- The list of the messages is always written, so there are two levels at least.
    obtain ⟨levels, rfl⟩ : ∃ n, levels = n + 2 := by
      obtain ⟨hmessages, -⟩ := (depth_toValue_le_iff (e := e) (n := levels - 1)).mp (by omega)
      rw [Value.depth] at hmessages
      exact ⟨levels - 2, by omega⟩
    obtain ⟨hmessages, hoperation, hdepth, hdepth'⟩ := depth_toValue_le_iff.mp h
    have hlist : (Value.list (e.messages.map Message.toValue)).listOf
        (Message.ofValue? levels) = some e.messages := by
      rw [Value.depth_list_le_iff, List.forall_mem_map] at hmessages
      exact listOf_map fun m hm => m.ofValue?_toValue (hmessages m hm)
    have hnested : ∀ es : List Entry, (∀ x ∈ es, ∀ {levels}, x.toValue.depth ≤ levels →
        ofValue? levels x.toValue = some x) →
        (es ≠ [] → (Value.list (es.map toValue)).depth ≤ levels + 1) → es ≠ [] →
        (Value.list (es.map toValue)).listOf (ofValue? levels) = some es := by
      intro es hes hdepth hne
      have hall := hdepth hne
      rw [Value.depth_list_le_iff, List.forall_mem_map] at hall
      exact listOf_map fun x hx => hes x hx (hall x hx)
    have hextra := hnested e.extra hextra hdepth
    have hchildren := hnested e.children hchildren hdepth'
    have hstated : ∀ m ∈ e.operation, m.toValue.orNull (Message.ofValue? (levels + 1)) =
        some (some m) := fun m hm =>
      orNull_of_some nofun (m.ofValue?_toValue (hoperation m hm))
    obtain ⟨messages, operation, extra, children⟩ := e
    simp only [Option.mem_def] at hlist hextra hchildren hstated
    rw [toValue, toValues_eq, toValues_eq]
    rcases operation with _ | m <;> rcases eq_or_ne extra [] with rfl | hne <;>
    rcases eq_or_ne children [] with rfl | hne' <;>
    simp [ofValue?, Value.parts?, Value.known, ofParts?, Parts.needed, Parts.given,
      List.lookup_cons, member?, listMember?, listWithin, *]

/-- A report is described by its value within as many levels as the value is deep. -/
lemma Report.ofValue?_toValue (r : Report) {levels : Nat} (h : r.toValue.depth ≤ levels) :
    ofValue? levels r.toValue = some r := by
  obtain ⟨levels, rfl⟩ : ∃ n, levels = n + 2 := by
    have herrors := (depth_toValue_le_iff (r := r) (n := levels - 1)).mp (by omega)
    rw [Value.depth] at herrors
    exact ⟨levels - 2, by omega⟩
  have herrors := depth_toValue_le_iff.mp h
  rw [Value.depth_list_le_iff, List.forall_mem_map] at herrors
  have hlist : (Value.list (r.errors.map Entry.toValue)).listOf (Entry.ofValue? levels) =
      some r.errors := listOf_map fun e he => e.ofValue?_toValue (herrors e he)
  rw [toValue, Entry.toValues_eq]
  simp [ofValue?, Value.parts?, Value.known, ofParts?, Parts.needed, Parts.given, List.lookup_cons,
    listWithin, hlist, Value.boolean?]

/-! ## The limit -/

/-- As many levels are open at once in the text of a report as its value is deep. -/
lemma Report.mostOpen_toText (r : Report) : mostOpen r.toText = r.toValue.depth := by
  rw [toText, r.legal_toValue.spells_write.mostOpen_eq]

/-- A message takes up three levels at most: its own, and those of a location and a position. -/
lemma Message.depth_toValue_le (m : Message) : m.toValue.depth ≤ 3 :=
  depth_toValue_le_iff.mpr fun l _ => Nat.le_of_eq l.depth_toValue

/-- The nodes of entries in a row are those of each of them. -/
lemma Entry.forall_nodesOf_iff {depth : Nat} {es : List Entry} {P : Nat × Entry → Prop} :
    (∀ node ∈ nodesOf depth es, P node) ↔ ∀ e ∈ es, ∀ node ∈ nodesAt depth e, P node := by
  induction es with
  | nil => simp [nodesOf]
  | cons e es ih => rw [nodesOf, List.forall_mem_append, ih, List.forall_mem_cons]

/-- An entry whose nodes lie within the allowed levels of nesting is not too deep to be written.
Each level of nesting takes up two levels of the text, for a list and for an entry; the deepest
entry takes up four more, for the list of its messages, a message, a location and a position. -/
lemma Entry.depth_toValue_le (e : Entry) {depth : Nat}
    (h : ∀ node ∈ nodesAt depth e, node.1 ≤ maxNesting) :
    depth ≤ maxNesting ∧ e.toValue.depth ≤ 2 * (maxNesting - depth) + 5 := by
  induction e using Entry.induct generalizing depth with
  | node e hextra hchildren =>
    obtain ⟨messages, operation, extra, children⟩ := e
    rw [nodesAt, List.forall_mem_cons] at h
    obtain ⟨hdepth, hnested⟩ := h
    rw [if_neg (Nat.not_lt.mpr hdepth), List.forall_mem_append, forall_nodesOf_iff,
      forall_nodesOf_iff] at hnested
    have hlist : ∀ es : List Entry, (∀ x ∈ es, x.toValue.depth ≤ 2 * (maxNesting - depth) + 3) →
        (Value.list (es.map toValue)).depth ≤ 2 * (maxNesting - depth) + 4 := fun es hes =>
      Value.depth_list_le_iff.mpr (List.forall_mem_map.mpr hes)
    refine ⟨hdepth, depth_toValue_le_iff.mpr ⟨?_, fun m _ => ?_, fun _ => hlist _ fun x hx => ?_,
      fun _ => hlist _ fun x hx => ?_⟩⟩
    · refine Value.depth_list_le_iff.mpr (List.forall_mem_map.mpr fun m _ => ?_)
      have hm := m.depth_toValue_le
      omega
    · have hm := m.depth_toValue_le
      omega
    · have hx' := hextra x hx (hnested.1 x hx)
      omega
    · have hx' := hchildren x hx (hnested.2 x hx)
      omega

/-- A report whose entries are nested as deeply as a page allows opens no more levels than may be
read. -/
lemma Report.mostOpen_toText_le (r : Report)
    (h : ∀ e ∈ r.errors, ∀ node ∈ e.nodesAt 0, node.1 ≤ maxNesting) :
    mostOpen r.toText ≤ maxLevels := by
  have hentries : ∀ v ∈ r.errors.map Entry.toValue, v.depth ≤ 2 * maxNesting + 5 :=
    List.forall_mem_map.mpr fun e he => (e.depth_toValue_le (h e he)).2
  have herrors : (Value.list (r.errors.map Entry.toValue)).depth ≤ 2 * maxNesting + 6 :=
    Value.depth_list_le_iff.mpr hentries
  have hreport := depth_toValue_le_iff.mpr herrors
  have hlimit : 2 * maxNesting + 6 + 1 ≤ maxLevels := by decide
  rw [mostOpen_toText]
  omega

namespace Report

/-- A written report is read again if its text opens no more levels than a report may. -/
lemma ofText_toText_of_le {r : Report} (h : mostOpen r.toText ≤ maxLevels) :
    ofText r.toText = .ok r := by
  rw [mostOpen_toText] at h
  rw [← toOption_eq_some_iff, toOption_ofText r.spells_toText]
  exact r.ofValue?_toValue h

/-- What has been read opens no more levels when it is written. -/
lemma mostOpen_le_of_ofText {text : List Char} {r : Report} (h : ofText text = .ok r) :
    mostOpen r.toText ≤ maxLevels := by
  obtain ⟨r', hr', hnext⟩ := bind_eq_ok_iff.mp h
  have hdepth : r'.toValue.depth ≤ maxLevels := ensures_reader 125 _ r' hr'
  split at hnext
  · obtain rfl := Except.ok.inj hnext
    rwa [mostOpen_toText]
  · cases hnext

/-- Otherwise a level is refused. -/
lemma ofText_toText_of_lt {r : Report} (h : maxLevels < mostOpen r.toText) :
    ∃ p, ofText r.toText = .error ⟨.tooManyLevels, p⟩ := by
  rw [mostOpen_toText] at h
  obtain ⟨hvalue, -⟩ := isOf_ofText r.spells_toText
  have hdeep : reader r.toValue.depth (Document.ofText r.toText).value = .ok r := by
    rw [← toOption_eq_some_iff, gives_reader _ _ _ hvalue, r.ofValue?_toValue (Nat.le_refl _)]
  rcases agree_reader (Nat.le_of_lt h) (Document.ofText r.toText).value with hsame | ⟨p, hp⟩
  · -- Had it been read after all, it could be written within the levels that were allowed.
    have hdepth : r.toValue.depth ≤ maxLevels := ensures_reader 125 _ r (hsame.trans hdeep)
    omega
  · refine ⟨p, ?_⟩
    rw [ofText, ofDocument, hp]
    rfl

/-- A written report is read again, and is the same, if at most 127 objects and lists are open at
once anywhere in its text; otherwise reading it fails because the limit is exceeded.  So a report
that has been read from any text can be written and read again, and so can a report whose entries
are nested as deeply as a page allows. -/
theorem ofText_toText :
    (∀ r : Report, mostOpen r.toText ≤ 127 → ofText r.toText = .ok r) ∧
    (∀ r : Report, 127 < mostOpen r.toText → ∃ f, ofText r.toText = .error f ∧
      f.cause = .tooManyLevels ∧ f.cause.message = "recursion limit exceeded") ∧
    (∀ text r, ofText text = .ok r → ofText r.toText = .ok r) ∧
    (∀ r : Report, (∀ e ∈ r.errors, ∀ node ∈ e.nodesAt 0, node.1 ≤ maxNesting) →
      ofText r.toText = .ok r) := by
  refine ⟨fun r h => ofText_toText_of_le h, fun r h => ?_, fun text r h => ?_, fun r h => ?_⟩
  · obtain ⟨p, hp⟩ := ofText_toText_of_lt h
    exact ⟨_, hp, rfl, rfl⟩
  · exact ofText_toText_of_le (mostOpen_le_of_ofText h)
  · exact ofText_toText_of_le (mostOpen_toText_le r h)

/-- A chain of entries, each nested in the one before it, is read again up to the limit.  It holds
of shorter chains as well, and of a report read from a text that is not written so. -/
theorem chain_of_entries_is_read_again :
    let place : Message :=
      { kind := .blame, description := "d", path := "p", location := some ⟨⟨1, 2⟩, ⟨3, 4⟩⟩ }
    let nest : Entry → Entry := fun e => ⟨[], none, [], [e]⟩
    let r : Nat → Report := fun n => ⟨false, [nest^[n] ⟨[place], none, [], []⟩]⟩
    let text := "\x7b\"extra\": [1e999], \"passed\": false, " ++
      "\"errors\": [[[[\x7b\"Blame\": null\x7d, \"a\\u0062\"]]]]\x7d"
    let found : Report :=
      ⟨false, [⟨[{ kind := .blame, description := "ab" }], none, [], []⟩]⟩
    ofText (r 60).toText = .ok (r 60) ∧
    (∃ f, ofText (r 61).toText = .error f ∧ f.cause = .tooManyLevels ∧
      f.cause.message = "recursion limit exceeded") ∧
    ofText text.toList = .ok found ∧ ofText found.toText = .ok found ∧
    ofText (r 32).toText = .ok (r 32) := by
  intro place nest r text found
  obtain ⟨hread, hrefused, hagain, hnested⟩ := ofText_toText
  have hfits : mostOpen (r 60).toText ≤ 127 := by
    rw [mostOpen_toText]
    decide +kernel
  have hexceeds : 127 < mostOpen (r 61).toText := by
    rw [mostOpen_toText]
    decide +kernel
  have hfound : ofText text.toList = .ok found := by decide +kernel
  exact ⟨hread _ hfits, hrefused _ hexceeds, hfound, hagain _ _ hfound,
    hnested _ (by decide +kernel)⟩

end Report

end DiagnosticPage
