import Mathlib.Data.List.Forall2
import DiagnosticPage.Json.Reader

/-!
# Reading with fewer levels

Readers that may open fewer levels agree with those that may open more, unless they are refused a
level.  `Agree` relates two readings in this way, and is respected by all that readers are put
together with.  So whether a document is too deep does not depend on what else is wrong behind the
place where the last level is used up.

`Reader.Ensures` says that whatever is read has a property; for a record it follows from a property
of its drafts that every field preserves.
-/

namespace DiagnosticPage.Json

/-- Two steps succeed if each of them does. -/
lemma bind_eq_ok_iff {ε α β : Type} {x : Except ε α} {f : α → Except ε β} {b : β} :
    x >>= f = .ok b ↔ ∃ a, x = .ok a ∧ f a = .ok b := by
  cases x <;> simp [bind, Except.bind]

/-- What is mapped has been there before. -/
lemma map_eq_ok_iff {ε α β : Type} {x : Except ε α} {f : α → β} {b : β} :
    x.map f = .ok b ↔ ∃ a, x = .ok a ∧ f a = b := by
  cases x <;> simp [Except.map]

variable {α β σ : Type}

/-! ## Agreement of readings -/

/-- The first reading comes to the same as the second, unless it is refused a level. -/
def Agree (x y : Except Fault α) : Prop :=
  x = y ∨ ∃ p, x = .error ⟨.tooManyLevels, p⟩

/-- Every reading agrees with itself. -/
lemma Agree.refl (x : Except Fault α) : Agree x x :=
  .inl rfl

/-- A reading that is refused a level agrees with every other. -/
lemma agree_refused (p : Place) (y : Except Fault α) : Agree (.error ⟨.tooManyLevels, p⟩) y :=
  .inr ⟨p, rfl⟩

/-- Readings in two steps agree if each step does. -/
lemma Agree.bind {x y : Except Fault α} {f g : α → Except Fault β} (h : Agree x y)
    (hfg : ∀ a, Agree (f a) (g a)) : Agree (x >>= f) (y >>= g) := by
  rcases h with rfl | ⟨p, rfl⟩
  · cases x with
    | error f => exact .refl _
    | ok a => exact hfg a
  · exact agree_refused p _

/-- Readings still agree when their results are mapped. -/
lemma Agree.map {x y : Except Fault α} (h : Agree x y) (f : α → β) :
    Agree (x.map f) (y.map f) := by
  rcases h with rfl | ⟨p, rfl⟩
  · exact .refl _
  · exact agree_refused p _

/-- What is related to something else, unless it is missing. -/
inductive UnlessMissing (R : α → α → Prop) : Option α → Option α → Prop
  | missing (y : Option α) : UnlessMissing R none y
  | related {x y : α} (h : R x y) : UnlessMissing R (some x) (some y)

namespace Reader

/-- Two readers agree on every tree. -/
def Agree (read read' : Reader α) : Prop :=
  ∀ n, Json.Agree (read n) (read' n)

variable {read read' : Reader α}

/-- Readers still agree where `null` may stand for a value. -/
lemma agree_nullable (h : read.Agree read') : (nullable read).Agree (nullable read') := by
  intro n
  unfold nullable
  split
  · exact .refl _
  · exact (h _).map some

/-- Readers agree on the items of a list, the first and the others. -/
lemma agree_item (h : read.Agree read') (first : Bool) :
    (item read first).Agree (item read' first) := by
  intro n
  unfold item
  split
  · exact .refl _
  · exact h n

/-- Readers that agree on every item agree on items in a row. -/
lemma agree_items (h : read.Agree read') :
    (items : Items) → ∀ first, Json.Agree (Reader.items read first items)
      (Reader.items read' first items)
  | .stop _, _ => .refl _
  | .item v rest, first =>
    (agree_item h first v).bind fun _ => (agree_items h rest false).bind fun _ => .refl _

/-- Readers of lists agree if those of their items do. -/
lemma agree_list {read read' : Option (Reader α)} (h : UnlessMissing Agree read read') :
    (list read).Agree (list read') := by
  intro n
  cases n with
  | leaf l => exact .refl _
  | object o members => exact .refl _
  | list o elements =>
    cases h with
    | missing => exact agree_refused _ _
    | related h => exact agree_items h elements true

/-- A name is read to the same whether braces may be opened or not, unless a level is refused. -/
lemma agree_name {mayOpen mayOpen' : Bool} (h : mayOpen → mayOpen') :
    (name mayOpen).Agree (name mayOpen') := by
  intro n
  cases n with
  | leaf l => exact .refl _
  | list o items => exact .refl _
  | object o members =>
    cases mayOpen with
    | false => exact agree_refused _ _
    | true =>
      rw [h rfl]
      exact .refl _

end Reader

namespace Record

/-- Two fields that differ in how they are read only, and agree there. -/
structure Field.Agree (f f' : Field σ) : Prop where
  name : f.name = f'.name
  required : f.required = f'.required
  isSet : f.isSet = f'.isSet
  read : ∀ n d, Json.Agree (f.read n d) (f'.read n d)

/-- Two records that differ in how their fields are read only, and agree there. -/
structure Agree (r r' : Record σ α) : Prop where
  name : r.name = r'.name
  blank : r.blank = r'.blank
  complete : r.complete = r'.complete
  fields : List.Forall₂ Field.Agree r.fields r'.fields

/-- Every field agrees with itself. -/
lemma Field.Agree.refl (f : Field σ) : f.Agree f :=
  ⟨rfl, rfl, rfl, fun _ _ => .refl _⟩

/-- Every record agrees with itself. -/
lemma Agree.refl (r : Record σ α) : r.Agree r :=
  ⟨rfl, rfl, rfl, List.forall₂_same.mpr fun f _ => .refl f⟩

namespace Agree

variable {r r' : Record σ α} (h : r.Agree r')

/-- The first required field is at the same place in fields that agree. -/
lemma findIdx?_required {fs fs' : List (Field σ)} (h : List.Forall₂ Field.Agree fs fs') :
    fs.findIdx? Field.required = fs'.findIdx? Field.required := by
  induction h with
  | nil => rfl
  | cons hf _ ih => rw [List.findIdx?_cons, List.findIdx?_cons, hf.required, ih]

/-- Fields with the same key agree. -/
lemma find?_name {fs fs' : List (Field σ)} (h : List.Forall₂ Field.Agree fs fs') (key : String) :
    Option.Rel Field.Agree (fs.find? (·.name == key)) (fs'.find? (·.name == key)) := by
  induction h with
  | nil => exact .none
  | cons hf _ ih =>
    rw [List.find?_cons, List.find?_cons, hf.name]
    split
    · exact .some hf
    · exact ih

include h

/-- Records that agree are completed alike. -/
lemma finish_eq (d : σ) (closing : Lexeme) : r.finish d closing = r'.finish d closing := by
  rw [finish, finish, h.complete]

/-- A key leads to the same fault, or to fields that agree. -/
lemma field?_agree (d : σ) (key : String) (next : Lexeme) :
    (∃ f, r.field? d key next = .error f ∧ r'.field? d key next = .error f) ∨
      ∃ x x', r.field? d key next = .ok x ∧ r'.field? d key next = .ok x' ∧
        Option.Rel Field.Agree x x' := by
  have hfind := find?_name h.fields key
  unfold field?
  revert hfind
  generalize r.fields.find? (·.name == key) = x, r'.fields.find? (·.name == key) = x'
  rintro (⟨hf⟩ | _)
  · next f f' =>
    have hset : f.isSet d = f'.isSet d := by rw [hf.isSet]
    cases hset' : f'.isSet d with
    | true => exact .inl ⟨_, if_pos (hset.trans hset'), if_pos hset'⟩
    | false => exact .inr ⟨_, _, if_neg (by simp [hset, hset']), if_neg (by simp [hset']), .some hf⟩
  · exact .inr ⟨_, _, rfl, rfl, .none⟩

/-- The members of an object are read alike into drafts of records that agree. -/
lemma readMembers_agree : (members : Members) → ∀ first d,
    Json.Agree (r.readMembers first d members) (r'.readMembers first d members)
  | .stop l, first, d => by
    rw [readMembers, readMembers, h.finish_eq]
    exact .refl _
  | .noKey _ l, first, d => .refl _
  | .noColon _ key l, first, d => by
    refine (Json.Agree.refl _).bind fun text => ?_
    rcases h.field?_agree d text l with ⟨f, hf, hf'⟩ | ⟨x, x', hx, hx', -⟩
    · rw [hf, hf']
      exact .refl _
    · rw [hx, hx']
      exact .refl _
  | .member _ key colon v rest, first, d => by
    refine (Json.Agree.refl _).bind fun text => ?_
    rcases h.field?_agree d text colon with ⟨f, hf, hf'⟩ | ⟨x, x', hx, hx', hrel⟩
    · rw [hf, hf']
      exact .refl _
    · have hmember : Json.Agree (readMember v d x) (readMember v d x') := by
        cases hrel with
        | none => exact .refl _
        | some hf => exact hf.read v d
      rw [hx, hx']
      exact hmember.bind fun d' => readMembers_agree rest false d'

/-- The items of a list are read alike into drafts of records that agree. -/
lemma readItems_agree {fs fs' : List (Field σ)} (hfs : List.Forall₂ Field.Agree fs fs')
    (index : Nat) (d : σ) (items : Items) :
    Json.Agree (r.readItems index d fs items) (r'.readItems index d fs' items) := by
  induction hfs generalizing index d items with
  | nil =>
    cases items with
    | stop l =>
      rw [readItems, readItems, h.finish_eq]
      exact .refl _
    | item v rest => exact .refl _
  | @cons f f' fs fs' hf hfs ih =>
    cases items with
    | stop l =>
      have hearly : r.finishEarly index d l (f :: fs) = r'.finishEarly index d l (f' :: fs') := by
        rw [finishEarly, finishEarly, findIdx?_required (.cons hf hfs), h.finish_eq, h.name,
          h.fields.length_eq]
      rw [readItems, readItems, hearly]
      exact .refl _
    | item v rest =>
      have hitem := Reader.agree_item (fun n => hf.read n d) (index == 0) v
      exact hitem.bind fun d' => ih (index + 1) d' rest

end Agree

/-- Readers of records agree if the records do. -/
theorem agree_record (name : String) {r r' : Option (Record σ α)} (h : UnlessMissing Agree r r') :
    (Reader.record name r).Agree (Reader.record name r') := by
  intro n
  cases n with
  | leaf l => exact .refl _
  | list o items =>
    cases h with
    | missing => exact agree_refused _ _
    | related h =>
      simp only [Reader.record, h.blank]
      exact h.readItems_agree h.fields 0 _ items
  | object o members =>
    cases h with
    | missing => exact agree_refused _ _
    | related h =>
      simp only [Reader.record, h.blank]
      exact h.readMembers_agree members true _

end Record

/-! ## What is read -/

namespace Reader

/-- Whatever is read has a property. -/
def Ensures (read : Reader α) (P : α → Prop) : Prop :=
  ∀ n x, read n = .ok x → P x

variable {read : Reader α} {P : α → Prop}

/-- What may be `null` has the property if it is there. -/
lemma ensures_nullable (h : read.Ensures P) : (nullable read).Ensures fun x => ∀ a ∈ x, P a := by
  intro n x hx a ha
  obtain rfl : x = some a := ha
  unfold nullable at hx
  split at hx
  · cases hx
  · obtain ⟨b, hb, hba⟩ := map_eq_ok_iff.mp hx
    obtain rfl := Option.some.inj hba
    exact h _ _ hb

/-- An item has the property of what its reader reads. -/
lemma ensures_item (h : read.Ensures P) (first : Bool) : (item read first).Ensures P := by
  intro n x hx
  unfold item at hx
  split at hx
  · cases hx
  · exact h n x hx

/-- All items in a row have the property of what their reader reads. -/
lemma ensures_items (h : read.Ensures P) :
    (elements : Items) → ∀ first xs, items read first elements = .ok xs → ∀ x ∈ xs, P x
  | .stop l, first, xs, hxs => by
    unfold items at hxs
    split at hxs
    · cases hxs
      exact nofun
    · cases hxs
  | .item v rest, first, xs, hxs => by
    obtain ⟨x, hx, hrest⟩ := bind_eq_ok_iff.mp hxs
    obtain ⟨xs', hxs', hcons⟩ := bind_eq_ok_iff.mp hrest
    obtain rfl := Except.ok.inj hcons
    exact List.forall_mem_cons.mpr
      ⟨ensures_item h first v x hx, ensures_items h rest false xs' hxs'⟩

/-- All items of a list have the property of what their reader reads. -/
lemma ensures_list (h : read.Ensures P) : (list (some read)).Ensures fun xs => ∀ x ∈ xs, P x := by
  intro n xs hxs
  cases n with
  | list o elements => exact ensures_items h elements true xs hxs
  | _ => cases hxs

/-- Where no level is left, no list is read. -/
lemma ensures_list_none (Q : List α → Prop) : (list (none : Option (Reader α))).Ensures Q := by
  intro n xs hxs
  cases n <;> cases hxs

end Reader

namespace Record

/-- What holds of a draft still holds when a slot of it is filled with what has been read. -/
def Slot.Preserves (s : Slot σ) (I : σ → Prop) : Prop :=
  ∀ n d x, I d → s.read n = .ok x → I (s.set d x)

/-- The field of a slot preserves what filling the slot preserves. -/
lemma Slot.Preserves.field {s : Slot σ} {I : σ → Prop} (h : s.Preserves I) (n : Node) (d d' : σ)
    (hd : I d) (hread : s.field.read n d = .ok d') : I d' := by
  obtain ⟨x, hx, rfl⟩ := map_eq_ok_iff.mp hread
  exact h n d x hd hx

section

variable {r : Record σ α} {I : σ → Prop} {P : α → Prop}
  (hread : ∀ f ∈ r.fields, ∀ n d d', I d → f.read n d = .ok d' → I d')
  (hcomplete : ∀ d x, I d → r.complete d = .ok x → P x)

include hcomplete in
/-- A draft that is completed gives what follows from its property. -/
lemma ensures_finish {d : σ} (hd : I d) {closing : Lexeme} {x : α}
    (hx : r.finish d closing = .ok x) : P x := by
  unfold finish at hx
  split at hx
  · next y hy =>
    obtain rfl := Except.ok.inj hx
    exact hcomplete d y hd hy
  · cases hx

include hread in
/-- Reading a member leaves the property of a draft as it is, whether the member is known or
skipped. -/
lemma ensures_readMember {d d' : σ} (hd : I d) {key : String} {next : Lexeme} {v : Node}
    {f : Option (Field σ)} (hf : r.field? d key next = .ok f) (hd' : readMember v d f = .ok d') :
    I d' := by
  unfold field? at hf
  split at hf
  · cases hf
    obtain ⟨-, -, hsame⟩ := bind_eq_ok_iff.mp hd'
    rwa [← Except.ok.inj hsame]
  · next f' hfind =>
    split at hf
    · cases hf
    · cases hf
      exact hread f' (List.mem_of_find?_eq_some hfind) v d d' hd hd'

include hread hcomplete

/-- A record that is read from members has what follows from the property of its drafts. -/
lemma ensures_readMembers : (members : Members) → ∀ first d x, I d →
    r.readMembers first d members = .ok x → P x
  | .stop l, first, d, x, hd, hx => by
    unfold readMembers at hx
    split at hx
    · exact ensures_finish hcomplete hd hx
    · cases hx
  | .noKey _ l, first, d, x, hd, hx => by
    unfold readMembers at hx
    split at hx <;> cases hx
  | .noColon _ key l, first, d, x, hd, hx => by
    obtain ⟨text, -, hx⟩ := bind_eq_ok_iff.mp hx
    obtain ⟨f, -, hx⟩ := bind_eq_ok_iff.mp hx
    cases hx
  | .member _ key colon v rest, first, d, x, hd, hx => by
    obtain ⟨text, -, hx⟩ := bind_eq_ok_iff.mp hx
    obtain ⟨f, hf, hx⟩ := bind_eq_ok_iff.mp hx
    obtain ⟨d', hd', hx⟩ := bind_eq_ok_iff.mp hx
    exact ensures_readMembers rest false d' x (ensures_readMember hread hd hf hd') hx

/-- A record that is read from items has what follows from the property of its drafts. -/
lemma ensures_readItems {left : List (Field σ)} (hleft : ∀ f ∈ left, f ∈ r.fields) (index : Nat)
    (d : σ) (items : Items) (x : α) (hd : I d) (hx : r.readItems index d left items = .ok x) :
    P x := by
  induction left generalizing index d items with
  | nil =>
    unfold readItems at hx
    cases items with
    | stop l =>
      simp only at hx
      split at hx
      · exact ensures_finish hcomplete hd hx
      · cases hx
      · cases hx
    | item v rest => cases hx
  | cons f left ih =>
    cases items with
    | stop l =>
      unfold readItems finishEarly at hx
      split at hx
      · split at hx
        · cases hx
        · exact ensures_finish hcomplete hd hx
      · cases hx
    | item v rest =>
      obtain ⟨d', hd', hx⟩ := bind_eq_ok_iff.mp hx
      have hitem : (Reader.item (f.read · d) (index == 0)).Ensures I :=
        Reader.ensures_item (fun n d' h => hread f (hleft f List.mem_cons_self) n d d' hd h) _
      exact ih (fun f' hf' => hleft f' (List.mem_cons_of_mem _ hf')) (index + 1) d' rest
        (hitem v d' hd') hx

/-- What holds of the blank draft and stays when a field is read holds of every draft, and so the
record has what follows from it. -/
lemma ensures_of_fields (name : String) (hblank : I r.blank) :
    (Reader.record name (some r)).Ensures P := by
  intro n x hx
  cases n with
  | leaf l => cases hx
  | list o items =>
    exact ensures_readItems hread hcomplete (fun _ hf => hf) 0 _ items x hblank hx
  | object o members => exact ensures_readMembers hread hcomplete members true _ x hblank hx

end

/-- What holds of the blank draft and is preserved by all slots is enough to know what the record
is completed to. -/
theorem ensures_record {r : Record σ α} {slots : List (Slot σ)} {I : σ → Prop} {P : α → Prop}
    (hfields : r.fields = slots.map Slot.field) (hslots : ∀ s ∈ slots, s.Preserves I)
    (hcomplete : ∀ d x, I d → r.complete d = .ok x → P x) (name : String) (hblank : I r.blank) :
    (Reader.record name (some r)).Ensures P := by
  refine ensures_of_fields ?_ hcomplete name hblank
  rw [hfields, List.forall_mem_map]
  exact fun s hs => (hslots s hs).field

/-- Where no level is left, no record is read. -/
lemma ensures_record_none (name : String) (P : α → Prop) :
    (Reader.record name (none : Option (Record σ α))).Ensures P := by
  intro n x hx
  cases n <;> cases hx

end Record

end DiagnosticPage.Json
