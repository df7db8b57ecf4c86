import Mathlib.Logic.Function.Basic
import DiagnosticPage.Json.Reader
import DiagnosticPage.Proofs.Json.Assembling

/-!
# What readers make of values

A schema assigns results to values, without texts, places or an order of reading.  The first part
has the schemas that larger ones are put together from: words, texts, numbers below a bound, lists,
and the members of a record, which is an object without repeated known keys or the list of its
fields.  `Reader.Gives` says that a reader gives what a schema assigns wherever a tree is sound, and
the second part proves it of the readers of words, texts, numbers, lists and names.
-/

namespace DiagnosticPage.Json

/-! ## Schemas of values -/

/-- The members of a record by their keys. -/
abbrev Parts := String → Option Value

namespace Value

/-- A word for a truth value. -/
def boolean? : Value → Option Bool
  | boolean b => some b
  | _ => none

/-- A text. -/
def text? : Value → Option String
  | text s => some s
  | _ => none

/-- A number below a bound that is written in digits only. -/
def natural? (bound : Nat) : Value → Option Nat
  | number ⟨false, ds, none, none⟩ =>
    if Nat.ofDigitChars 10 ds 0 < bound then some (Nat.ofDigitChars 10 ds 0) else none
  | _ => none

/-- A number of 32 bits. -/
def word32? (v : Value) : Option UInt32 :=
  (v.natural? UInt32.size).map UInt32.ofNat

/-- A number of 64 bits. -/
def word64? (v : Value) : Option UInt64 :=
  (v.natural? UInt64.size).map UInt64.ofNat

/-- The word `null`, or what another schema assigns. -/
def orNull (schema : Value → Option α) : Value → Option (Option α)
  | null => some none
  | v => (schema v).map some

/-- A list of what another schema assigns to each item. -/
def listOf (schema : Value → Option α) : Value → Option (List α)
  | list vs => vs.mapM schema
  | _ => none

/-- The members whose keys are among the given ones. -/
def known (keys : List String) (ms : List (String × Value)) : List (String × Value) :=
  ms.filter (·.1 ∈ keys)

/-- The parts of a record with the given keys.  It is an object in which none of these keys is
repeated, whatever other members it has, or the list of the parts in order, of which the last ones
may be left out. -/
def parts? (keys : List String) : Value → Option Parts
  | object ms =>
    if ((known keys ms).map Prod.fst).Nodup then some ((known keys ms).lookup ·) else none
  | list vs => if vs.length ≤ keys.length then some ((keys.zip vs).lookup ·) else none
  | _ => none

/-- A name: a text, or the key of the only member of an object, if that is `null`. -/
def name? (mayOpen : Bool) : Value → Option String
  | text s => some s
  | object [(key, null)] => if mayOpen then some key else none
  | _ => none

end Value

namespace Parts

/-- What a schema assigns to a part that has to be there. -/
def needed (g : Parts) (key : String) (schema : Value → Option α) : Option α :=
  (g key).bind schema

/-- What a schema assigns to a part, or a default if the part is missing. -/
def given (g : Parts) (key : String) (schema : Value → Option α) (default : α) : Option α :=
  match g key with
  | none => some default
  | some v => schema v

/-- What a schema assigns to a part, if the part is there. -/
def part? (g : Parts) (key : String) (schema : Value → Option α) : Option (Option α) :=
  match g key with
  | none => some none
  | some v => (schema v).map some

variable {α : Type} {g g' : Parts} {key : String} {schema : Value → Option α}

/-- A part that has to be there is what an optional one is made of, if there is one. -/
@[simp]
lemma needed_eq (g : Parts) (key : String) (schema : Value → Option α) :
    g.needed key schema = (g.part? key schema).bind id := by
  unfold needed part?
  cases g key with
  | none => rfl
  | some v => simp [Option.bind_map]

/-- A part with a default is an optional one, or the default. -/
@[simp]
lemma given_eq (g : Parts) (key : String) (schema : Value → Option α) (default : α) :
    g.given key schema default = (g.part? key schema).map (Option.getD · default) := by
  unfold given part?
  cases g key with
  | none => rfl
  | some v => simp [Function.comp_def]

/-- Of all parts, only the one with the given key is looked at. -/
lemma part?_congr (h : g key = g' key) : g.part? key schema = g'.part? key schema := by
  unfold part?
  rw [h]

/-- No schema is asked about a part that is missing. -/
lemma part?_of_none (h : g key = none) : g.part? key schema = some none := by
  unfold part?
  rw [h]

/-- A part that is there is what its schema says. -/
lemma part?_of_some {v : Value} (h : g key = some v) :
    g.part? key schema = (schema v).map some := by
  unfold part?
  rw [h]

/-- Replacing another part makes no difference. -/
lemma part?_update_of_ne {k : String} (h : key ≠ k) (g : Parts) (schema : Value → Option α)
    (v : Option Value) : part? (Function.update g k v) key schema = g.part? key schema :=
  part?_congr (Function.update_of_ne h v g)

/-- Parts that come first, and others. -/
def extend (g : Parts) (ms : List (String × Value)) : Parts :=
  fun key => (g key).or (ms.lookup key)

/-- Nothing is added by no members. -/
@[simp]
lemma extend_nil (g : Parts) : g.extend [] = g := by
  funext key
  simp [extend]

/-- Without parts that come first, the members are all there is. -/
@[simp]
lemma extend_none (ms : List (String × Value)) : extend (fun _ => none) ms = (ms.lookup ·) := by
  funext key
  simp [extend]

/-- A new part may be taken from the members to the parts that come first. -/
lemma extend_update (h : g key = none) (v : Value) (ms : List (String × Value)) :
    extend (Function.update g key (some v)) ms = g.extend ((key, v) :: ms) := by
  funext k
  rcases eq_or_ne k key with rfl | hne
  · simp [extend, h]
  · have hbeq : (k == key) = false := by simpa using hne
    simp [extend, Function.update_of_ne hne, List.lookup_cons, hbeq]

end Parts

/-! ## Values that are only skipped -/

mutual

/-- A sound tree is skipped without a fault. -/
theorem Node.IsOf.skip {n : Node} {v : Value} (h : n.IsOf v) : n.skip = .ok () := by
  cases h with
  | list h => exact h.skip
  | object h => exact h.skip true
  | _ => rfl

/-- Sound items are skipped without a fault. -/
theorem Items.AreOf.skip {items : Items} {vs : List Value} (h : items.AreOf vs) :
    items.skip = .ok () := by
  cases h with
  | stop => rfl
  | item h hs => simp [Items.skip, h.skip, hs.skip, bind, Except.bind]

/-- Sound members are skipped without a fault. -/
theorem Members.AreOf.skip {members : Members} {ms : List (String × Value)}
    (h : members.AreOf ms) (first : Bool) : members.skip first = .ok () := by
  cases h with
  | stop => rfl
  | member h hs =>
    simp [Members.skip, Lexeme.spelled, h.skip, hs.skip false, bind, Except.bind]

end

/-- A sound tree does not show that a list was closed behind a comma. -/
lemma Node.IsOf.trailingComma? {n : Node} {v : Value} (h : n.IsOf v) :
    Reader.trailingComma? n = none := by
  cases h <;> rfl

/-! ## Plain trees -/

namespace Value

mutual

/-- A tree of a value, with the start of a document for every place. -/
def toNode : Value → Node
  | null => .leaf ⟨.word .null (.ok ()), .start, .start⟩
  | boolean true => .leaf ⟨.word .true (.ok ()), .start, .start⟩
  | boolean false => .leaf ⟨.word .false (.ok ()), .start, .start⟩
  | number l => .leaf ⟨.number (l.value .start) (.ok ()), .start, .start⟩
  | text s => .leaf ⟨.text (.ok s) (.ok ()), .start, .start⟩
  | list vs => .list ⟨.openList, .start, .start⟩ (toItems vs)
  | object ms => .object ⟨.openObject, .start, .start⟩ (toMembers ms)

/-- Items with the given values. -/
def toItems : List Value → Items
  | [] => .stop ⟨.closeList, .start, .start⟩
  | v :: vs => .item v.toNode (toItems vs)

/-- Members with the given keys and values. -/
def toMembers : List (String × Value) → Members
  | [] => .stop ⟨.closeObject, .start, .start⟩
  | (key, v) :: ms =>
    .member ⟨.comma, .start, .start⟩ ⟨.text (.ok key) (.ok ()), .start, .start⟩
      ⟨.colon, .start, .start⟩ v.toNode (toMembers ms)

end

mutual

/-- The plain tree of a value is sound and has that value. -/
theorem isOf_toNode : (v : Value) → v.toNode.IsOf v
  | null => .null
  | boolean true => .true
  | boolean false => .false
  | number _ => .number
  | text _ => .text
  | list vs => .list (areOf_toItems vs)
  | object ms => .object (areOf_toMembers ms)

/-- The plain items of a list of values have these values. -/
theorem areOf_toItems : (vs : List Value) → (toItems vs).AreOf vs
  | [] => .stop
  | v :: vs => .item v.isOf_toNode (areOf_toItems vs)

/-- The plain members of an object have its keys and values. -/
theorem areOf_toMembers : (ms : List (String × Value)) → (toMembers ms).AreOf ms
  | [] => .stop
  | (_, v) :: ms => .member v.isOf_toNode (areOf_toMembers ms)

end

end Value

/-! ## Readers of single values -/

/-- A reader gives what a schema assigns to the value of a sound tree. -/
def Reader.Gives (read : Reader α) (schema : Value → Option α) : Prop :=
  ∀ n v, n.IsOf v → (read n).toOption = schema v

/-- The schema of a reader: what it makes of the plain tree of a value. -/
def Reader.schema (read : Reader α) (v : Value) : Option α :=
  (read v.toNode).toOption

namespace Reader

/-- A reader has one schema at most. -/
lemma Gives.schema_eq {read : Reader α} {schema : Value → Option α} (h : read.Gives schema) :
    read.schema = schema :=
  funext fun v => h v.toNode v v.isOf_toNode


/-- Truth values are read from the words for them. -/
@[simp]
lemma gives_boolean : Gives boolean Value.boolean? := by
  intro n v h
  cases h <;> rfl

@[simp]
lemma schema_boolean : schema boolean = Value.boolean? :=
  gives_boolean.schema_eq

/-- Texts are read from texts. -/
@[simp]
lemma gives_text : Gives text Value.text? := by
  intro n v h
  cases h with
  | @number p q r l => cases l.value r <;> rfl
  | _ => rfl

@[simp]
lemma schema_text : schema text = Value.text? :=
  gives_text.schema_eq

end Reader

namespace Literal

/-- More digits make no smaller number. -/
lemma le_ofDigitChars (ds : List Char) (n : Nat) : n ≤ Nat.ofDigitChars 10 ds n := by
  induction ds generalizing n with
  | nil => exact Nat.le_refl n
  | cons d ds ih =>
    have hnext := ih (10 * n + (d.toNat - '0'.toNat))
    rw [Nat.ofDigitChars_cons]
    omega

/-- Both ways to append a digit to a number agree. -/
lemma digit_step (n : Nat) (d : Char) :
    n * 10 + digitValue d = 10 * n + (d.toNat - '0'.toNat) := by
  rw [Nat.mul_comm, digitValue]

/-- Digits are taken up whole if their number stays within the bound. -/
lemma absorb_eq {bound n : Nat} {ds : List Char} (h : Nat.ofDigitChars 10 ds n ≤ bound) :
    absorb bound n ds = (Nat.ofDigitChars 10 ds n, []) := by
  induction ds generalizing n with
  | nil => rfl
  | cons d ds ih =>
    rw [Nat.ofDigitChars_cons] at h ⊢
    have hle := le_ofDigitChars ds (10 * n + (d.toNat - '0'.toNat))
    rw [absorb, digit_step, if_pos (by omega)]
    exact ih h

/-- Only then are they taken up whole. -/
lemma ofDigitChars_le_of_absorb {bound n : Nat} {ds : List Char} (hn : n ≤ bound)
    (h : (absorb bound n ds).2 = []) : Nat.ofDigitChars 10 ds n ≤ bound := by
  induction ds generalizing n with
  | nil => exact hn
  | cons d ds ih =>
    rw [absorb, digit_step] at h
    rw [Nat.ofDigitChars_cons]
    split at h
    · next hfits => exact ih hfits h
    · exact absurd h (by simp)

/-- What is rounded is not read as a natural number. -/
lemma decimalValue_ne_natural (l : Literal) (p : Place) (significand : Nat) (exponent : Int)
    (n : Nat) : l.decimalValue p significand exponent ≠ .ok (.natural n) := by
  simp only [decimalValue, signed]
  split
  · split <;> simp
  · split
    · split <;> simp
    · split <;> simp

/-- A literal is a natural number exactly if it has digits only and they fit. -/
lemma value_eq_natural_iff {l : Literal} {p : Place} {n : Nat} :
    l.value p = .ok (.natural n) ↔ ∃ ds, l = ⟨false, ds, none, none⟩ ∧
      n = Nat.ofDigitChars 10 ds 0 ∧ n < UInt64.size := by
  have hgreatest : greatestSignificand + 1 = UInt64.size := rfl
  obtain ⟨negative, ds, fraction, exponent⟩ := l
  constructor
  · intro h
    unfold value at h
    simp only at h
    split at h
    · next hunread =>
      have hle := ofDigitChars_le_of_absorb (Nat.zero_le _) hunread
      rw [absorb_eq hle] at h
      cases negative with
      | true =>
        rw [if_pos rfl] at h
        split at h <;> cases h
      | false =>
        cases h
        exact ⟨ds, rfl, rfl, by omega⟩
    · exact absurd h (decimalValue_ne_natural _ _ _ _ _)
    · exact absurd h (decimalValue_ne_natural _ _ _ _ _)
  · rintro ⟨_, hl, rfl, hfits⟩
    cases hl
    have habsorb : absorb greatestSignificand 0 ds = (Nat.ofDigitChars 10 ds 0, []) :=
      absorb_eq (by omega)
    simp only [value, habsorb]
    rfl

end Literal

namespace Reader

/-- The numbers that are taken are written in digits only and lie below the bound. -/
lemma natural?_eq_some_iff {bound k : Nat} {l : Literal} :
    (Value.number l).natural? bound = some k ↔ ∃ ds, l = ⟨false, ds, none, none⟩ ∧
      k = Nat.ofDigitChars 10 ds 0 ∧ k < bound := by
  unfold Value.natural?
  split
  · next ds hl =>
    cases hl
    rw [Option.ite_none_right_eq_some, Option.some.injEq]
    constructor
    · rintro ⟨hlt, rfl⟩
      exact ⟨ds, rfl, rfl, hlt⟩
    · rintro ⟨_, hl, rfl, hlt⟩
      cases hl
      exact ⟨hlt, rfl⟩
  · next hother =>
    refine ⟨nofun, ?_⟩
    rintro ⟨ds, rfl, -⟩
    exact (hother ds rfl).elim

/-- Numbers below a bound of at most 64 bits are read by their digits. -/
lemma gives_natural {bound : Nat} (hbound : bound ≤ UInt64.size) (expected : Expected) :
    Gives (natural bound expected) (Value.natural? bound) := by
  intro n v h
  cases h with
  | @number p q r l =>
    have hread : ∀ k, (natural bound expected (.leaf ⟨.number (l.value r) (.ok ()), p, q⟩)).toOption
        = some k ↔ l.value r = .ok (.natural k) ∧ k < bound := by
      intro k
      rcases l.value r with f | x | x | x
      · simp [natural, Except.toOption]
      · rcases Nat.lt_or_ge x bound with hlt | hge
        · simp [natural, Except.toOption, hlt]
          grind
        · simp [natural, Except.toOption, Nat.not_lt.mpr hge]
          grind
      · simp [natural, Except.toOption]
      · simp [natural, Except.toOption]
    ext k
    rw [hread, Literal.value_eq_natural_iff, natural?_eq_some_iff]
    constructor
    · rintro ⟨⟨ds, hl, hk, -⟩, hlt⟩
      exact ⟨ds, hl, hk, hlt⟩
    · rintro ⟨ds, hl, hk, hlt⟩
      exact ⟨⟨ds, hl, hk, by omega⟩, hlt⟩
  | _ => rfl

/-- Readers and schemas may be mapped alike. -/
lemma Gives.map {β : Type} {read : Reader α} {schema : Value → Option α} (h : Gives read schema)
    (f : α → β) : Gives (fun n => (read n).map f) (fun v => (schema v).map f) := by
  intro n v hn
  have hread := h n v hn
  change ((read n).map f).toOption = (schema v).map f
  rw [← hread]
  cases read n <;> rfl

/-- Numbers of 32 bits are read by their digits. -/
@[simp]
lemma gives_word32 : Gives word32 Value.word32? :=
  (gives_natural (by decide) .word32).map UInt32.ofNat

@[simp]
lemma schema_word32 : schema word32 = Value.word32? :=
  gives_word32.schema_eq

/-- Numbers of 64 bits are read by their digits. -/
@[simp]
lemma gives_word64 : Gives word64 Value.word64? :=
  (gives_natural (by decide) .word64).map UInt64.ofNat

@[simp]
lemma schema_word64 : schema word64 = Value.word64? :=
  gives_word64.schema_eq

/-- Where `null` may stand for a value, it does so in the schema. -/
@[simp]
lemma gives_nullable {read : Reader α} {schema : Value → Option α} (h : Gives read schema) :
    Gives (nullable read) (Value.orNull schema) := by
  intro n v hn
  have hsome := h.map some n v hn
  cases hn with
  | null => rfl
  | _ => exact hsome

/-- The schema of a reader that takes `null` comes from the schema without it. -/
@[simp]
lemma schema_nullable {read : Reader α} (h : read.Gives read.schema) :
    (nullable read).schema = Value.orNull read.schema :=
  (gives_nullable h).schema_eq

/-! ## Lists -/

/-- A sound item is read in the same way behind a comma. -/
lemma item_eq {n : Node} {v : Value} (h : n.IsOf v) (read : Reader α) (first : Bool) :
    item read first n = read n := by
  unfold item
  rw [h.trailingComma?]
  cases first <;> rfl

/-- Sound items are read one by one. -/
lemma items_toOption {read : Reader α} {schema : Value → Option α} (h : Gives read schema)
    {items : Items} {vs : List Value} (hitems : items.AreOf vs) (first : Bool) :
    (Reader.items read first items).toOption = vs.mapM schema := by
  induction vs generalizing items first with
  | nil =>
    cases hitems
    rfl
  | cons v vs ih =>
    cases hitems with
    | @item n v rest vs hn hrest =>
      have htail := ih hrest false
      rw [Reader.items, item_eq hn, List.mapM_cons, ← h n v hn, ← htail]
      cases read n with
      | error f => rfl
      | ok x => cases Reader.items read false rest <;> rfl

/-- A list is read item by item. -/
lemma gives_list {read : Reader α} {schema : Value → Option α} (h : Gives read schema) :
    Gives (list (some read)) (Value.listOf schema) := by
  intro n v hn
  cases hn with
  | @number p q r l => cases l.value r <;> rfl
  | list hitems => exact items_toOption h hitems true
  | _ => rfl

/-- Where no level is left, no list is read. -/
lemma gives_list_none : Gives (list (none : Option (Reader α))) (fun _ => none) := by
  intro n v hn
  cases hn with
  | _ => rfl

/-! ## Names -/

/-- A name is read from a text or from the only key of an object. -/
lemma gives_name (mayOpen : Bool) : Gives (name mayOpen) (Value.name? mayOpen) := by
  intro n v hn
  cases hn with
  | @object o members ms hmembers =>
    have hshut : ∀ ms, (Value.object ms).name? false = none := by
      intro ms
      unfold Value.name?
      split <;> simp_all
    cases mayOpen with
    | false => rw [hshut]; rfl
    | true =>
      cases hmembers with
      | stop => rfl
      | member hn hrest => cases hn <;> cases hrest <;> rfl
  | _ => rfl

end Reader

end DiagnosticPage.Json
