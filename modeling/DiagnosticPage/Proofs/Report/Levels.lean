import DiagnosticPage.Proofs.Json.Levels
import DiagnosticPage.Proofs.Json.Nesting
import DiagnosticPage.Report.Read
import DiagnosticPage.Report.Write

/-!
# The levels of a report

How deep the value of a report is, part by part, and what the limit on levels does to reading: with
fewer levels a report is read to the same, unless a level is refused, and what has been read within
a number of levels can be written within them.  For the report itself there is one exception, since
a list of no errors is written even if none was read; so `Report.ensures_reader` asks for two
levels.
-/

namespace DiagnosticPage

open Json

/-! ## The values of a report, part by part -/

/-- The values of entries are taken one by one. -/
lemma Entry.toValues_eq (es : List Entry) : Entry.toValues es = es.map Entry.toValue := by
  induction es with
  | nil => rfl
  | cons e es ih => rw [toValues, ih, List.map_cons]

/-- Entries may be reasoned about by the entries nested in them. -/
@[elab_as_elim]
theorem Entry.induct {motive : Entry → Prop}
    (node : ∀ e, (∀ x ∈ e.extra, motive x) → (∀ x ∈ e.children, motive x) → motive e) (e : Entry) :
    motive e :=
  @Entry.rec motive (fun es => ∀ x ∈ es, motive x)
    (fun messages operation extra children hextra hchildren =>
      node ⟨messages, operation, extra, children⟩ hextra hchildren)
    nofun (fun _ _ he hes _ h => by
      rcases List.mem_cons.mp h with rfl | h
      exacts [he, hes _ h]) e

/-- What holds of the values of the members of a message. -/
lemma Message.exists_members (m : Message) : ∃ ms, m.toValue = .object ms ∧
    ∀ Q : Value → Prop, (∀ x ∈ ms, Q x.2) ↔ Q (.text m.kind.name) ∧ Q (.text m.description) ∧
      Q (.text m.path) ∧ (∀ n ∈ m.line, Q (natValue n.toNat)) ∧
      (∀ n ∈ m.endLine, Q (natValue n.toNat)) ∧ Q (m.context.elim .null .text) ∧
      ∀ l ∈ m.location, Q l.toValue := by
  refine ⟨_, rfl, fun Q => ?_⟩
  obtain ⟨kind, description, path, _ | line, _ | endLine, context, _ | location⟩ := m <;>
    simp [member?]

/-- What holds of the values of the members of an entry. -/
lemma Entry.exists_members (e : Entry) : ∃ ms, e.toValue = .object ms ∧
    ∀ Q : Value → Prop, (∀ x ∈ ms, Q x.2) ↔ Q (.list (e.messages.map Message.toValue)) ∧
      (∀ m ∈ e.operation, Q m.toValue) ∧ (e.extra ≠ [] → Q (.list (e.extra.map toValue))) ∧
      (e.children ≠ [] → Q (.list (e.children.map toValue))) := by
  obtain ⟨messages, operation, extra, children⟩ := e
  refine ⟨_, by rw [toValue], fun Q => ?_⟩
  rw [toValues_eq, toValues_eq]
  cases operation <;> cases extra <;> cases children <;> simp [member?, listMember?]

/-! ## Depth -/

/-- A position is an object of numbers. -/
lemma Position.depth_toValue (p : Position) : p.toValue.depth = 1 := rfl

/-- A location is an object of positions. -/
lemma Location.depth_toValue (l : Location) : l.toValue.depth = 2 := rfl

/-- How deep a message is depends on its location alone. -/
lemma Message.depth_toValue_le_iff {m : Message} {n : Nat} :
    m.toValue.depth ≤ n + 1 ↔ ∀ l ∈ m.location, l.toValue.depth ≤ n := by
  obtain ⟨ms, hms, hall⟩ := m.exists_members
  have hnat : ∀ k, (natValue k).depth ≤ n := fun k => Nat.zero_le n
  have htext : ∀ s, (Value.text s).depth ≤ n := fun s => Nat.zero_le n
  have hcontext : (m.context.elim Value.null Value.text).depth ≤ n := by
    cases m.context <;> exact Nat.zero_le n
  rw [hms, Value.depth_object_le_iff, hall (·.depth ≤ n)]
  simp only [hnat, htext, hcontext, implies_true, true_and]

/-- An entry is one level deeper than the deepest of its parts that are written. -/
lemma Entry.depth_toValue_le_iff {e : Entry} {n : Nat} : e.toValue.depth ≤ n + 1 ↔
    (Value.list (e.messages.map Message.toValue)).depth ≤ n ∧
      (∀ m ∈ e.operation, m.toValue.depth ≤ n) ∧
      (e.extra ≠ [] → (Value.list (e.extra.map toValue)).depth ≤ n) ∧
      (e.children ≠ [] → (Value.list (e.children.map toValue)).depth ≤ n) := by
  obtain ⟨ms, hms, hall⟩ := e.exists_members
  rw [hms, Value.depth_object_le_iff, hall (·.depth ≤ n)]

/-- A report is one level deeper than the list of its errors. -/
lemma Report.depth_toValue_le_iff {r : Report} {n : Nat} :
    r.toValue.depth ≤ n + 1 ↔ (Value.list (r.errors.map Entry.toValue)).depth ≤ n := by
  rw [toValue, Value.depth_object_le_iff, Entry.toValues_eq]
  simp [Value.depth]

/-! ## Reading with fewer levels -/

/-- The fields of a slot agree if its readers do. -/
lemma agree_field {σ α : Type} {name : String} {required : Bool} {get : σ → Option α}
    {set : σ → α → σ} {read read' : Reader α} (h : read.Agree read') :
    (Record.Slot.field ⟨name, required, get, set, read⟩).Agree
      (Record.Slot.field ⟨name, required, get, set, read'⟩) :=
  ⟨rfl, rfl, rfl, fun n d => (h n).map (set d)⟩

/-- What grows with the number of levels also does so one level further down, unless no level is
left. -/
lemma deeper_agree {α : Type} {R : α → α → Prop} {read : Nat → α} {levels levels' : Nat}
    (h : ∀ {l l'}, l ≤ l' → R (read l) (read l')) (hle : levels ≤ levels') :
    UnlessMissing R (deeper levels read) (deeper levels' read) := by
  cases levels with
  | zero => exact .missing _
  | succ levels =>
    cases levels' with
    | zero => omega
    | succ levels' => exact .related (h (by omega))

section

variable {levels levels' : Nat} (hle : levels ≤ levels')

include hle

/-- With fewer levels a position is read to the same, unless a level is refused. -/
lemma Position.agree_reader : (reader levels).Agree (reader levels') :=
  Record.agree_record _ (deeper_agree (fun _ => .refl layout) hle)

/-- The fields of a location agree with those for more levels. -/
lemma Location.agree_layout : (layout levels).Agree (layout levels') where
  name := rfl
  blank := rfl
  complete := rfl
  fields := .cons (agree_field (Position.agree_reader hle))
    (.cons (agree_field (Position.agree_reader hle)) .nil)

/-- With fewer levels a location is read to the same, unless a level is refused. -/
lemma Location.agree_reader : (reader levels).Agree (reader levels') :=
  Record.agree_record _ (deeper_agree agree_layout hle)

/-- With fewer levels a kind is read to the same, unless a level is refused. -/
lemma Kind.agree_reader : (reader levels).Agree (reader levels') := by
  have hopen : decide (0 < levels) = true → decide (0 < levels') = true := by
    rw [decide_eq_true_iff, decide_eq_true_iff]
    omega
  exact fun n => (Reader.agree_name hopen n).map ofName

/-- The fields of a message agree with those for more levels. -/
lemma Message.agree_layout : (layout levels).Agree (layout levels') where
  name := rfl
  blank := rfl
  complete := rfl
  fields := by
    have hlocation := Reader.agree_nullable (Location.agree_reader hle)
    exact .cons (agree_field (Kind.agree_reader hle)) <| .cons (.refl _) <| .cons (.refl _) <|
      .cons (.refl _) <| .cons (.refl _) <| .cons (.refl _) <| .cons (agree_field hlocation) .nil

/-- With fewer levels a message is read to the same, unless a level is refused. -/
lemma Message.agree_reader : (reader levels).Agree (reader levels') :=
  Record.agree_record _ (deeper_agree agree_layout hle)

/-- The fields of an entry agree with those for more levels if the readers of nested entries do. -/
lemma Entry.agree_layout {nested nested' : Option (Reader Entry)}
    (h : UnlessMissing Reader.Agree nested nested') :
    (layout levels nested).Agree (layout levels' nested') where
  name := rfl
  blank := rfl
  complete := rfl
  fields := by
    have hmessages := Reader.agree_list (deeper_agree Message.agree_reader hle)
    have hoperation := Reader.agree_nullable (Message.agree_reader hle)
    exact .cons (agree_field hmessages) <| .cons (agree_field hoperation) <|
      .cons (agree_field (Reader.agree_list h)) <| .cons (agree_field (Reader.agree_list h)) .nil

end

/-- With fewer levels an entry is read to the same, unless a level is refused, also in the entries
nested in it. -/
lemma Entry.agree_reader : {levels levels' : Nat} → levels ≤ levels' →
    (reader levels).Agree (reader levels')
  | 0, 0, _ => fun _ => .refl _
  | 0, 1, _ => Record.agree_record _ (.missing _)
  | 0, levels' + 2, _ => Record.agree_record _ (.missing _)
  | 1, 1, _ => fun _ => .refl _
  | 1, levels' + 2, _ => Record.agree_record _ (.related (agree_layout (by omega) (.missing _)))
  | levels + 2, levels' + 2, hle =>
    Record.agree_record _ (.related (agree_layout (by omega) (.related (agree_reader (by omega)))))

namespace Report

variable {levels levels' : Nat} (hle : levels ≤ levels')

include hle

/-- The fields of a report agree with those for more levels. -/
lemma agree_layout : (layout levels).Agree (layout levels') where
  name := rfl
  blank := rfl
  complete := rfl
  fields := by
    have herrors := Reader.agree_list (deeper_agree Entry.agree_reader hle)
    exact .cons (.refl _) <| .cons (agree_field herrors) .nil

/-- With fewer levels a report is read to the same, unless a level is refused. -/
theorem agree_reader : (reader levels).Agree (reader levels') :=
  Record.agree_record _ (deeper_agree agree_layout hle)

end Report

/-! ## The depth of what has been read -/

/-- A list is one level deeper than what has been read into it. -/
lemma ensures_list_deeper {α : Type} {read : Nat → Reader α} {toValue : α → Value}
    (h : ∀ levels, (read levels).Ensures fun x => (toValue x).depth ≤ levels) (levels : Nat) :
    (Reader.list (deeper levels read)).Ensures fun xs =>
      (Value.list (xs.map toValue)).depth ≤ levels := by
  cases levels with
  | zero => exact Reader.ensures_list_none _
  | succ levels =>
    intro n xs hxs
    rw [Value.depth_list_le_iff, List.forall_mem_map]
    exact Reader.ensures_list (h levels) n xs hxs

/-- A position is no deeper than the levels it was read within. -/
lemma Position.ensures_reader (levels : Nat) :
    (reader levels).Ensures fun p => p.toValue.depth ≤ levels := by
  cases levels with
  | zero => exact Record.ensures_record_none _ _
  | succ levels =>
    intro n p _
    rw [depth_toValue]
    omega

/-- A location is no deeper than the levels it was read within. -/
lemma Location.ensures_reader (levels : Nat) :
    (reader levels).Ensures fun l => l.toValue.depth ≤ levels := by
  cases levels with
  | zero => exact Record.ensures_record_none _ _
  | succ levels =>
    -- A location has a start, and reading it has taken up one level more.
    refine Record.ensures_record (I := fun d => ∀ p ∈ d.start, p.toValue.depth ≤ levels) rfl ?_ ?_ _
      nofun
    · simp only [slots, List.forall_mem_cons]
      refine ⟨fun n d p _ hp q hq => ?_, fun _ _ _ hd _ => hd, nofun⟩
      obtain rfl := Option.some.inj hq
      exact Position.ensures_reader levels n p hp
    · rintro ⟨_ | start, _ | stop⟩ l hd hl <;> cases hl
      have hstart := hd start rfl
      rw [Position.depth_toValue] at hstart
      rw [depth_toValue]
      omega

/-- A message is no deeper than the levels it was read within. -/
lemma Message.ensures_reader (levels : Nat) :
    (reader levels).Ensures fun m => m.toValue.depth ≤ levels := by
  cases levels with
  | zero => exact Record.ensures_record_none _ _
  | succ levels =>
    refine Record.ensures_record
      (I := fun d => ∀ x ∈ d.location, ∀ l ∈ x, l.toValue.depth ≤ levels) rfl ?_ ?_ _ nofun
    · have hlocation := Reader.ensures_nullable (Location.ensures_reader levels)
      simp only [slots, List.forall_mem_cons]
      refine ⟨fun _ _ _ hd _ => hd, fun _ _ _ hd _ => hd, fun _ _ _ hd _ => hd,
        fun _ _ _ hd _ => hd, fun _ _ _ hd _ => hd, fun _ _ _ hd _ => hd,
        fun n d x _ hx y hy => ?_, nofun⟩
      obtain rfl := Option.some.inj hy
      exact hlocation n x hx
    · rintro ⟨_ | kind, _ | description, path, line, endLine, context, location⟩ m hd hm <;>
        cases hm
      rw [depth_toValue_le_iff]
      cases location with
      | none => exact nofun
      | some x => exact hd x rfl

namespace Entry

/-- What the slots of a draft hold can be written within a number of levels. -/
structure Draft.Within (levels : Nat) (d : Draft) : Prop where
  messages : ∀ ms ∈ d.messages, (Value.list (ms.map Message.toValue)).depth ≤ levels
  operation : ∀ x ∈ d.operation, ∀ m ∈ x, m.toValue.depth ≤ levels
  extra : ∀ es ∈ d.extra, (Value.list (es.map toValue)).depth ≤ levels
  children : ∀ es ∈ d.children, (Value.list (es.map toValue)).depth ≤ levels

/-- An entry is one level deeper than its fields, if this is known of the entries nested in it. -/
lemma ensures_layout {levels : Nat} {nested : Option (Reader Entry)}
    (h : (Reader.list nested).Ensures fun es => (Value.list (es.map toValue)).depth ≤ levels) :
    (Reader.record "ErrorEntry" (some (layout levels nested))).Ensures
      fun e => e.toValue.depth ≤ levels + 1 := by
  refine Record.ensures_record (I := Draft.Within levels) rfl ?_ ?_ _ ⟨nofun, nofun, nofun, nofun⟩
  · have hmessages := ensures_list_deeper Message.ensures_reader levels
    have hoperation := Reader.ensures_nullable (Message.ensures_reader levels)
    simp only [slots, List.forall_mem_cons]
    refine ⟨fun n d x hd hx => { hd with messages := ?_ },
      fun n d x hd hx => { hd with operation := ?_ },
      fun n d x hd hx => { hd with extra := ?_ },
      fun n d x hd hx => { hd with children := ?_ }, nofun⟩
    · exact fun _ hy => Option.some.inj hy ▸ hmessages n x hx
    · exact fun _ hy => Option.some.inj hy ▸ hoperation n x hx
    · exact fun _ hy => Option.some.inj hy ▸ h n x hx
    · exact fun _ hy => Option.some.inj hy ▸ h n x hx
  · rintro ⟨_ | messages, operation, extra, children⟩ e hd he <;> cases he
    rw [depth_toValue_le_iff]
    refine ⟨hd.messages messages rfl, ?_, ?_, ?_⟩
    · cases operation with
      | none => exact nofun
      | some x => exact hd.operation x rfl
    · cases extra with
      | none => exact fun h => absurd rfl h
      | some es => exact fun _ => hd.extra es rfl
    · cases children with
      | none => exact fun h => absurd rfl h
      | some es => exact fun _ => hd.children es rfl

/-- An entry is no deeper than the levels it was read within. -/
lemma ensures_reader : (levels : Nat) →
    (reader levels).Ensures fun e => e.toValue.depth ≤ levels
  | 0 => Record.ensures_record_none _ _
  | 1 => ensures_layout (Reader.ensures_list_none _)
  | levels + 2 => ensures_layout fun n es hes => by
      have hnested := Reader.ensures_list (ensures_reader levels) n es hes
      exact Value.depth_list_le_iff.mpr (List.forall_mem_map.mpr hnested)

end Entry

/-- What has been read within two levels or more can be written within them. -/
theorem Report.ensures_reader (levels : Nat) :
    (reader (levels + 2)).Ensures fun r => r.toValue.depth ≤ levels + 2 := by
  refine Record.ensures_record
    (I := fun d => ∀ es ∈ d.errors, (Value.list (es.map Entry.toValue)).depth ≤ levels + 1)
    rfl ?_ ?_ _ nofun
  · have herrors := ensures_list_deeper Entry.ensures_reader (levels + 1)
    simp only [slots, List.forall_mem_cons]
    refine ⟨fun _ _ _ hd _ => hd, fun n d es _ hes _ h => ?_, nofun⟩
    exact Option.some.inj h ▸ herrors n es hes
  · rintro ⟨_ | passed, errors⟩ r hd hr <;> cases hr
    rw [depth_toValue_le_iff]
    cases errors with
    | none =>
      rw [Value.depth_list_le_iff]
      exact nofun
    | some es => exact hd es rfl

end DiagnosticPage
