import Mathlib.Data.List.Nodup
import DiagnosticPage.Proofs.Json.Schema

/-!
# What readers make of records

A record is read into the slots of a draft, member by member in the order of the text.
`Record.Means` says what the slots of a record are and what the record is made of: slots do not
interfere with each other, and a draft in which every slot holds what the schema of its reader
assigns is completed to what the parts of the record describe.  Then the order of the members does
not matter, and a part that cannot be read spoils the record whatever else it has;
`Means.gives_record` concludes that the record is read from what describes it.
-/

namespace DiagnosticPage.Json

/-- Faults may be forgotten step by step. -/
@[simp]
lemma toOption_bind {ε α β : Type} (x : Except ε α) (f : α → Except ε β) :
    (x >>= f).toOption = x.toOption.bind fun a => (f a).toOption := by
  cases x <;> rfl

/-- A fault is forgotten before mapping or behind it. -/
@[simp]
lemma toOption_map {ε α β : Type} (f : α → β) (x : Except ε α) :
    (f <$> x).toOption = x.toOption.bind fun a => some (f a) := by
  cases x <;> rfl

/-- Only faults are forgotten. -/
lemma toOption_eq_some_iff {ε α : Type} {x : Except ε α} {a : α} :
    x.toOption = some a ↔ x = .ok a := by
  cases x <;> simp [Except.toOption]

namespace Record

variable {σ α : Type}

/-- Every slot of a draft holds what its schema assigns to its part. -/
def Holds (slots : List (Slot σ)) (g : Parts) (d : σ) : Prop :=
  ∀ s ∈ slots, g.part? s.name s.read.schema = some (s.get d)

/-- What the slots of a record are to satisfy: they have different names and do not interfere with
each other, what is read into them depends on values alone, and a draft whose slots are filled is
completed to what the record is made of. -/
structure Means (r : Record σ α) (slots : List (Slot σ)) (assemble : Parts → Option α) : Prop where
  fields : r.fields = slots.map Slot.field
  nodup : (slots.map Slot.name).Nodup
  gives : ∀ s ∈ slots, s.read.Gives s.read.schema
  blank : ∀ s ∈ slots, s.get r.blank = none
  get_set : ∀ s ∈ slots, ∀ d x, s.get (s.set d x) = some x
  /-- Filling a slot leaves the others alone. -/
  frame : ∀ s ∈ slots, ∀ s' ∈ slots, s'.name ≠ s.name → ∀ d x, s'.get (s.set d x) = s'.get d
  complete : ∀ {g : Parts} {d : σ}, Holds slots g d → (r.complete d).toOption = assemble g
  /-- A part that its schema refuses spoils the record. -/
  spoiled : ∀ {g : Parts}, ∀ s ∈ slots, g.part? s.name s.read.schema = none → assemble g = none
  required : ∀ s ∈ slots, s.required → ∀ {d : σ}, s.get d = none → (r.complete d).toOption = none

/-- Apart from the name of what is missing, a required field is what the draft holds. -/
@[simp]
lemma toOption_need {β : Type} (name : String) (x : Option β) : (need name x).toOption = x := by
  cases x <;> rfl

/-- Members of which none repeats a known key, neither among themselves nor after other parts. -/
def Fresh (keys : List String) (g : Parts) (ms : List (String × Value)) : Prop :=
  ((Value.known keys ms).map Prod.fst).Nodup ∧ ∀ m ∈ Value.known keys ms, g m.1 = none

variable {g : Parts} {keys : List String} {key : String} {v : Value} {ms : List (String × Value)}

/-- A member with a known key is kept. -/
lemma known_cons_of_mem (h : key ∈ keys) :
    Value.known keys ((key, v) :: ms) = (key, v) :: Value.known keys ms :=
  List.filter_cons_of_pos (by simpa using h)

/-- A member with another key is dropped. -/
lemma known_cons_of_not_mem (h : key ∉ keys) :
    Value.known keys ((key, v) :: ms) = Value.known keys ms :=
  List.filter_cons_of_neg (by simpa using h)

/-- Members are fresh if the first of them is and the others are after it. -/
lemma fresh_cons_iff (h : key ∈ keys) : Fresh keys g ((key, v) :: ms) ↔
    g key = none ∧ Fresh keys (Function.update g key (some v)) ms := by
  unfold Fresh
  rw [known_cons_of_mem h, List.map_cons, List.nodup_cons]
  constructor
  · rintro ⟨⟨hnotin, hnodup⟩, hnone⟩
    refine ⟨hnone _ List.mem_cons_self, hnodup, fun m hm => ?_⟩
    have hne : m.1 ≠ key := fun h => hnotin (List.mem_map.mpr ⟨m, hm, h⟩)
    rw [Function.update_of_ne hne]
    exact hnone m (List.mem_cons_of_mem _ hm)
  · rintro ⟨hfirst, hnodup, hnone⟩
    refine ⟨⟨fun hin => ?_, hnodup⟩, fun m hm => ?_⟩
    · obtain ⟨m, hm, rfl⟩ := List.mem_map.mp hin
      have hupdate := hnone m hm
      rw [Function.update_self] at hupdate
      cases hupdate
    · rcases List.mem_cons.mp hm with rfl | hm
      · exact hfirst
      · rcases eq_or_ne m.1 key with heq | hne
        · rw [heq]
          exact hfirst
        · have hupdate := hnone m hm
          rwa [Function.update_of_ne hne] at hupdate

/-- A member with another key makes no difference. -/
lemma fresh_cons_of_not_mem (h : key ∉ keys) :
    Fresh keys g ((key, v) :: ms) ↔ Fresh keys g ms := by
  rw [Fresh, Fresh, known_cons_of_not_mem h]

/-- A slot is empty exactly if there is no part for it. -/
lemma Holds.isSome_get {slots : List (Slot σ)} {d : σ} (hd : Holds slots g d) {s : Slot σ}
    (hs : s ∈ slots) : (s.get d).isSome = (g s.name).isSome := by
  have hslot := hd s hs
  cases hpart : g s.name with
  | none =>
    rw [Parts.part?_of_none hpart] at hslot
    rw [← Option.some.inj hslot]
    rfl
  | some v =>
    rw [Parts.part?_of_some hpart, Option.map_eq_some_iff] at hslot
    obtain ⟨x, -, hx⟩ := hslot
    rw [← hx]
    rfl

/-- The first member is read before the others. -/
lemma readMembers_member (r : Record σ α) (first : Bool) (d : σ) (lead colon : Lexeme)
    (p q : Place) (n : Node) (members : Members) :
    (r.readMembers first d
      (.member lead ⟨.text (.ok key) (.ok ()), p, q⟩ colon n members)).toOption =
        (r.field? d key colon).toOption.bind fun f => (readMember n d f).toOption.bind fun d' =>
          (r.readMembers false d' members).toOption := by
  rw [readMembers]
  simp only [toOption_bind]
  rfl

namespace Means

variable {r : Record σ α} {slots : List (Slot σ)} {assemble : Parts → Option α} {d : σ}
  (hr : r.Means slots assemble)

include hr

/-- The slots of a blank draft hold no parts. -/
lemma holds_blank : Holds slots (fun _ => none) r.blank := by
  intro s hs
  rw [hr.blank s hs]
  rfl

/-- The field of a slot is found by its name. -/
lemma find?_fields {s : Slot σ} (hs : s ∈ slots) :
    r.fields.find? (·.name == s.name) = some s.field := by
  have hname : ((·.name == s.name) ∘ Slot.field : Slot σ → Bool) = (·.name == s.name) := rfl
  rw [hr.fields, List.find?_map, hname]
  cases hfind : slots.find? (·.name == s.name) with
  | none =>
    have hnot := List.find?_eq_none.mp hfind s hs
    simp at hnot
  | some s' =>
    have hname : s'.name = s.name := by simpa using List.find?_some hfind
    rw [List.inj_on_of_nodup_map hr.nodup (List.mem_of_find?_eq_some hfind) hs hname]
    rfl

/-- The field of a slot is found as long as the slot is empty. -/
lemma field?_toOption (hd : Holds slots g d) {s : Slot σ} (hs : s ∈ slots) (next : Lexeme) :
    (r.field? d s.name next).toOption =
      if (g s.name).isSome then none else some (some s.field) := by
  rw [← hd.isSome_get hs, field?, hr.find?_fields hs]
  cases hget : s.get d <;> simp [Slot.field, hget, Except.toOption]

/-- There is no field with a key that is not known. -/
lemma field?_of_not_mem (hkey : key ∉ slots.map Slot.name) (next : Lexeme) :
    r.field? d key next = .ok none := by
  have hfind : r.fields.find? (·.name == key) = none := by
    rw [hr.fields]
    simpa [Slot.field] using hkey
  rw [field?, hfind]

/-- A new part is read into its slot, unless its schema refuses it. -/
lemma read_field (hd : Holds slots g d) {s : Slot σ} (hs : s ∈ slots) {n : Node}
    (hn : n.IsOf v) :
    (s.read.schema v = none ∧ (s.field.read n d).toOption = none) ∨
      ∃ d', (s.field.read n d).toOption = some d' ∧
        Holds slots (Function.update g s.name (some v)) d' := by
  have hread : (s.field.read n d).toOption = (s.read.schema v).map (s.set d) :=
    (hr.gives s hs).map (s.set d) n v hn
  rw [hread]
  cases hschema : s.read.schema v with
  | none => exact .inl ⟨rfl, rfl⟩
  | some x =>
    refine .inr ⟨s.set d x, rfl, fun s' hs' => ?_⟩
    rcases eq_or_ne s'.name s.name with hname | hne
    · obtain rfl := List.inj_on_of_nodup_map hr.nodup hs' hs hname
      rw [hr.get_set s' hs', Parts.part?_of_some (Function.update_self ..), hschema]
      rfl
    · rw [hr.frame s hs s' hs' hne, Parts.part?_update_of_ne hne]
      exact hd s' hs'

/-- A part that its schema refuses spoils the record whatever comes later. -/
lemma assemble_of_refused {s : Slot σ} (hs : s ∈ slots) (hschema : s.read.schema v = none)
    (ms : List (String × Value)) :
    assemble (Parts.extend (Function.update g s.name (some v)) ms) = none := by
  refine hr.spoiled s hs ?_
  rw [Parts.part?_of_some (by simp [Parts.extend]; rfl), hschema]
  rfl

/-- A draft whose slots are filled is finished to what the record is made of. -/
lemma finish_toOption (hd : Holds slots g d) (closing : Lexeme) :
    (r.finish d closing).toOption = assemble g := by
  rw [← hr.complete hd, finish]
  cases r.complete d <;> rfl

/-- Members are read to a record if none of them repeats a known key, in whatever order. -/
lemma readMembers_toOption {members : Members} (hmembers : members.AreOf ms) (first : Bool)
    (hd : Holds slots g d) :
    (Fresh (slots.map Slot.name) g ms → (r.readMembers first d members).toOption =
      assemble (g.extend (Value.known (slots.map Slot.name) ms))) ∧
      (¬ Fresh (slots.map Slot.name) g ms → (r.readMembers first d members).toOption = none) := by
  induction ms generalizing members first g d with
  | nil =>
    cases hmembers
    refine ⟨fun _ => ?_, fun h => absurd ⟨List.nodup_nil, nofun⟩ h⟩
    exact (hr.finish_toOption hd _).trans (by rw [Value.known, List.filter_nil, Parts.extend_nil])
  | cons m ms ih =>
    cases hmembers with
    | @member lead colon p q key n v rest ms hn hrest =>
    rw [readMembers_member]
    by_cases hkey : key ∈ slots.map Slot.name
    · rw [fresh_cons_iff hkey, known_cons_of_mem hkey]
      obtain ⟨s, hs, rfl⟩ := List.mem_map.mp hkey
      rw [hr.field?_toOption hd hs]
      cases hg : g s.name with
      | some w => simp
      | none =>
        rw [if_neg (by simp), Option.bind_some, ← Parts.extend_update hg]
        change (_ → (s.field.read n d).toOption.bind _ = _) ∧
          (_ → (s.field.read n d).toOption.bind _ = _)
        rcases hr.read_field hd hs hn with ⟨hschema, hread⟩ | ⟨d', hread, hd'⟩
        · rw [hread, hr.assemble_of_refused hs hschema]
          exact ⟨fun _ => rfl, fun _ => rfl⟩
        · rw [hread]
          simpa using ih hrest false hd'
    · have hskip : readMember n d none = .ok d := by
        rw [readMember, hn.skip]
        rfl
      rw [hr.field?_of_not_mem hkey, fresh_cons_of_not_mem hkey, known_cons_of_not_mem hkey]
      have hrest := ih hrest false hd
      simpa [Except.toOption, hskip] using hrest

/-- A record may end before the fields that it does not need. -/
lemma finishEarly_toOption (hd : Holds slots g d) {left : List (Slot σ)}
    (hsub : ∀ s ∈ left, s ∈ slots) (hnone : ∀ s ∈ left, g s.name = none) (index : Nat)
    (closing : Lexeme) :
    (r.finishEarly index d closing (left.map Slot.field)).toOption = assemble g := by
  rw [finishEarly]
  split
  · next i hi =>
    have hany : (left.map Slot.field).any Field.required = true := by
      rw [← List.findIdx?_isSome, hi]
      rfl
    obtain ⟨s, hs, hrequired⟩ : ∃ s ∈ left, s.required = true := by
      simpa [Slot.field] using hany
    have hunset : s.get d = none := by
      have hget := hd.isSome_get (hsub s hs)
      rw [hnone s hs] at hget
      simpa using hget
    rw [← hr.complete hd, hr.required s (hsub s hs) hrequired hunset]
    rfl
  · exact hr.finish_toOption hd _

/-- Items are read to a record as its parts in order. -/
lemma readItems_toOption {items : Items} {vs : List Value} (hitems : items.AreOf vs)
    (index : Nat) {left : List (Slot σ)} (hsub : ∀ s ∈ left, s ∈ slots)
    (hnodup : (left.map Slot.name).Nodup) (hnone : ∀ s ∈ left, g s.name = none)
    (hd : Holds slots g d) :
    (r.readItems index d (left.map Slot.field) items).toOption = if vs.length ≤ left.length then
      assemble (g.extend ((left.map Slot.name).zip vs)) else none := by
  induction vs generalizing items index left g d with
  | nil =>
    cases hitems
    rw [if_pos (by simp), List.zip_nil_right, Parts.extend_nil]
    cases left with
    | nil => exact hr.finish_toOption hd _
    | cons s left => exact hr.finishEarly_toOption hd hsub hnone index _
  | cons v vs ih =>
    cases hitems with
    | @item n v rest vs hn hrest =>
    cases left with
    | nil =>
      rw [if_neg (by simp)]
      rfl
    | cons s left =>
      have hs := hsub s List.mem_cons_self
      have hg := hnone s List.mem_cons_self
      rw [List.map_cons, List.nodup_cons] at hnodup
      have hlater : ∀ w, ∀ s' ∈ left, Function.update g s.name (some w) s'.name = none := by
        intro w s' hs'
        have hne : s'.name ≠ s.name := fun h => hnodup.1 (h ▸ List.mem_map_of_mem hs')
        rw [Function.update_of_ne hne]
        exact hnone s' (List.mem_cons_of_mem _ hs')
      have hstep : (r.readItems index d ((s :: left).map Slot.field) (.item n rest)).toOption =
          (s.field.read n d).toOption.bind fun d' =>
            (r.readItems (index + 1) d' (left.map Slot.field) rest).toOption := by
        rw [List.map_cons, readItems, Reader.item_eq hn, toOption_bind]
      rw [hstep, List.map_cons, List.zip_cons_cons, ← Parts.extend_update hg]
      simp only [List.length_cons, Nat.add_le_add_iff_right]
      rcases hr.read_field hd hs hn with ⟨hschema, hread⟩ | ⟨d', hread, hd'⟩
      · rw [hread, hr.assemble_of_refused hs hschema, ite_self]
        rfl
      · rw [hread]
        exact ih hrest (index + 1) (fun s' hs' => hsub s' (List.mem_cons_of_mem _ hs')) hnodup.2
          (hlater v) hd'

/-- A record is read from what describes it. -/
theorem gives_record (name : String) :
    (Reader.record name (some r)).Gives fun v =>
      (v.parts? (slots.map Slot.name)).bind assemble := by
  intro n v hn
  cases hn with
  | list hitems =>
    have hread := hr.readItems_toOption hitems 0 (fun _ hs => hs) hr.nodup (fun _ _ => rfl)
      hr.holds_blank
    rw [Parts.extend_none, ← hr.fields] at hread
    simp only [Reader.record, hread, Value.parts?, List.length_map]
    split <;> rfl
  | object hmembers =>
    obtain ⟨hfresh, hstale⟩ := hr.readMembers_toOption hmembers true hr.holds_blank
    rw [Parts.extend_none] at hfresh
    simp only [Reader.record, Value.parts?]
    split
    · next hnodup => exact hfresh ⟨hnodup, fun _ _ => rfl⟩
    · next hrepeated => exact hstale fun h => hrepeated h.1
  | _ => rfl

end Means

/-- Where no level is left, no record is read. -/
lemma gives_record_none (name : String) :
    (Reader.record name (none : Option (Record σ α))).Gives fun _ => none := by
  intro n v hn
  cases hn <;> rfl

end Record

end DiagnosticPage.Json
