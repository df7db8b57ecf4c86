import Mathlib.Data.List.Basic
import DiagnosticPage.Json.Value

/-!
# Spellings of values

A value has many texts.  Blanks may stand around every part of it, the characters of its texts may
be escaped in several ways, and exponents have two letters and an optional plus sign.  `Spells`
relates a text to the value that it stands for, without saying how it is read;
`SpellsDocument` allows blanks around the whole.

`Value.Legal.spells_write` shows that the compact text of a value is one of its spellings.
-/

namespace DiagnosticPage.Json

/-! ## Blanks, texts and literals -/

/-- A text of blanks only. -/
def Blank (t : List Char) : Prop :=
  ∀ c ∈ t, c ∈ [' ', '\n', '\t', '\r']

/-- A hexadecimal digit with its value.  The letters may be small or capital. -/
def IsHexDigit (c : Char) (k : Nat) : Prop :=
  k < 16 ∧ (c = Nat.digitChar k ∨ c = (Nat.digitChar k).toUpper)

/-- An escape by four hexadecimal digits, with the number that they spell. -/
inductive SpellsUnit : List Char → Nat → Prop
  | mk {a b c d : Char} {i j k l n : Nat} (ha : IsHexDigit a i) (hb : IsHexDigit b j)
      (hc : IsHexDigit c k) (hd : IsHexDigit d l) (hn : n = ((i * 16 + j) * 16 + k) * 16 + l) :
      SpellsUnit ['\\', 'u', a, b, c, d] n

/-- The letters that stand for a character behind a backslash. -/
def letters : List (Char × Char) :=
  [('"', '"'), ('\\', '\\'), ('/', '/'), ('b', '\x08'), ('f', '\x0c'), ('n', '\n'), ('r', '\r'),
    ('t', '\t')]

/-- A way to write a character between quotes: as it is, by a letter, by its number, or by the
two halves of its number if it has more than sixteen bits. -/
inductive SpellsChar : List Char → Char → Prop
  | plain {c : Char} (h : 0x20 ≤ c.toNat) (hq : c ≠ '"') (hb : c ≠ '\\') : SpellsChar [c] c
  | letter {l c : Char} (h : (l, c) ∈ letters) : SpellsChar ['\\', l] c
  | unit {t : List Char} {c : Char} (h : SpellsUnit t c.toNat) : SpellsChar t c
  | pair {s t : List Char} {c : Char} {i j : Nat} (hs : SpellsUnit s (0xd800 + i))
      (ht : SpellsUnit t (0xdc00 + j)) (hi : i < 0x400) (hj : j < 0x400)
      (hc : c.toNat = 0x10000 + i * 0x400 + j) : SpellsChar (s ++ t) c

/-- A way to write a text between quotes. -/
inductive SpellsText : List Char → List Char → Prop
  | nil : SpellsText [] []
  | cons {t u cs : List Char} {c : Char} (h : SpellsChar t c) (hs : SpellsText u cs) :
      SpellsText (t ++ u) (c :: cs)

/-- A text in quotes. -/
def quoted (t : List Char) : List Char :=
  '"' :: (t ++ ['"'])

/-- At least one decimal digit. -/
def IsDigits (ds : List Char) : Prop :=
  ds ≠ [] ∧ ∀ d ∈ ds, d.isDigit

/-- A literal that may be written: no part of it is without digits, and a zero before the point
stands alone. -/
structure Literal.Legal (l : Literal) : Prop where
  whole : IsDigits l.whole
  leading : l.whole = ['0'] ∨ l.whole.head? ≠ some '0'
  fraction : ∀ ds ∈ l.fraction, IsDigits ds
  exponent : ∀ e ∈ l.exponent, IsDigits e.2

/-- A way to write the sign of an exponent. -/
inductive SpellsSign : List Char → Bool → Prop
  | none : SpellsSign [] false
  | plus : SpellsSign ['+'] false
  | minus : SpellsSign ['-'] true

/-- A way to write an exponent, if there is one. -/
inductive SpellsExponent : List Char → Option (Bool × List Char) → Prop
  | none : SpellsExponent [] none
  | some {e : Char} {s ds : List Char} {negative : Bool} (he : e = 'e' ∨ e = 'E')
      (hs : SpellsSign s negative) : SpellsExponent (e :: (s ++ ds)) (some (negative, ds))

/-- The point of a literal and the digits behind it, if there are any. -/
def fractionPart (fraction : Option (List Char)) : List Char :=
  fraction.elim [] fun ds => '.' :: ds

/-- A way to write a literal. -/
inductive SpellsLiteral : List Char → Literal → Prop
  | mk {l : Literal} {x : List Char} (h : l.Legal) (hx : SpellsExponent x l.exponent) :
      SpellsLiteral
        ((if l.negative then ['-'] else []) ++ (l.whole ++ (fractionPart l.fraction ++ x))) l

/-! ## Values -/

mutual

/-- A way to write a value, without blanks around it. -/
inductive Spells : List Char → Value → Prop
  | null : Spells ['n', 'u', 'l', 'l'] .null
  | true : Spells ['t', 'r', 'u', 'e'] (.boolean true)
  | false : Spells ['f', 'a', 'l', 's', 'e'] (.boolean false)
  | number {t : List Char} {l : Literal} (h : SpellsLiteral t l) : Spells t (.number l)
  | text {t : List Char} {s : String} (h : SpellsText t s.toList) : Spells (quoted t) (.text s)
  | emptyList {b : List Char} (hb : Blank b) : Spells ('[' :: (b ++ [']'])) (.list [])
  | list {t : List Char} {vs : List Value} (h : SpellsItems t vs) : Spells ('[' :: t) (.list vs)
  | emptyObject {b : List Char} (hb : Blank b) : Spells ('\x7b' :: (b ++ ['\x7d'])) (.object [])
  | object {t : List Char} {ms : List (String × Value)} (h : SpellsMembers t ms) :
      Spells ('\x7b' :: t) (.object ms)

/-- A way to write the items of a list, one or more, with the bracket that closes it. -/
inductive SpellsItems : List Char → List Value → Prop
  | last {a t b : List Char} {v : Value} (ha : Blank a) (h : Spells t v) (hb : Blank b) :
      SpellsItems (a ++ (t ++ (b ++ [']']))) [v]
  | more {a t b u : List Char} {v : Value} {vs : List Value} (ha : Blank a) (h : Spells t v)
      (hb : Blank b) (hs : SpellsItems u vs) : SpellsItems (a ++ (t ++ (b ++ ',' :: u))) (v :: vs)

/-- A way to write a member of an object, with blanks around each of its parts. -/
inductive SpellsMember : List Char → String × Value → Prop
  | mk {a k b c t d : List Char} {key : String} {v : Value} (ha : Blank a)
      (hk : SpellsText k key.toList) (hb : Blank b) (hc : Blank c) (h : Spells t v) (hd : Blank d) :
      SpellsMember (a ++ (quoted k ++ (b ++ ':' :: (c ++ (t ++ d))))) (key, v)

/-- A way to write the members of an object, one or more, with the brace that closes it. -/
inductive SpellsMembers : List Char → List (String × Value) → Prop
  | last {t : List Char} {m : String × Value} (h : SpellsMember t m) :
      SpellsMembers (t ++ ['\x7d']) [m]
  | more {t u : List Char} {m : String × Value} {ms : List (String × Value)}
      (h : SpellsMember t m) (hs : SpellsMembers u ms) : SpellsMembers (t ++ ',' :: u) (m :: ms)

end

/-- A way to write a document with the given value. -/
inductive SpellsDocument : List Char → Value → Prop
  | mk {a t b : List Char} {v : Value} (ha : Blank a) (h : Spells t v) (hb : Blank b) :
      SpellsDocument (a ++ (t ++ b)) v

/-- Values may be reasoned about item by item and member by member. -/
@[elab_as_elim]
theorem Value.induct {motive : Value → Prop} (null : motive .null)
    (boolean : ∀ b, motive (.boolean b)) (number : ∀ l, motive (.number l))
    (text : ∀ s, motive (.text s)) (list : ∀ vs, (∀ v ∈ vs, motive v) → motive (.list vs))
    (object : ∀ ms, (∀ m ∈ ms, motive m.2) → motive (.object ms)) (v : Value) : motive v :=
  @Value.rec motive (fun vs => ∀ v ∈ vs, motive v) (fun ms => ∀ m ∈ ms, motive m.2)
    (fun m => motive m.2) null boolean number text list object nofun
    (fun _ _ hv hvs _ h => by
      rcases List.mem_cons.mp h with rfl | h
      exacts [hv, hvs _ h])
    nofun
    (fun _ _ hm hms _ h => by
      rcases List.mem_cons.mp h with rfl | h
      exacts [hm, hms _ h])
    (fun _ _ h => h) v

/-! ## Compact texts -/

/-- A value in which every literal may be written. -/
inductive Value.Legal : Value → Prop
  | null : Legal .null
  | boolean (b : Bool) : Legal (.boolean b)
  | number {l : Literal} (h : l.Legal) : Legal (.number l)
  | text (s : String) : Legal (.text s)
  | list {vs : List Value} (h : ∀ v ∈ vs, Legal v) : Legal (.list vs)
  | object {ms : List (String × Value)} (h : ∀ m ∈ ms, Legal m.2) : Legal (.object ms)

/-- No text at all is blank. -/
lemma blank_nil : Blank [] := nofun

/-- The usual digit of a number below sixteen is a hexadecimal one. -/
lemma isHexDigit_digitChar {k : Nat} (h : k < 16) : IsHexDigit (Nat.digitChar k) k :=
  ⟨h, .inl rfl⟩

/-- A control character is spelled by its code. -/
lemma spellsUnit_writeUnit {n : Nat} (h : n < 0x20) : SpellsUnit (writeUnit n) n :=
  .mk (isHexDigit_digitChar (k := 0) (by decide)) (isHexDigit_digitChar (k := 0) (by decide))
    (isHexDigit_digitChar (by omega)) (isHexDigit_digitChar (by omega)) (by omega)

/-- A character is spelled as it is written. -/
lemma spellsChar_writeChar (c : Char) : SpellsChar (writeChar c) c := by
  unfold writeChar
  split
  case h_8 hq hb _ _ _ _ _ =>
    split
    · next h => exact .unit (spellsUnit_writeUnit h)
    · next h => exact .plain (Nat.le_of_not_lt h) hq hb
  all_goals exact .letter (by decide)

/-- A text is spelled character by character as it is written. -/
lemma spellsText_flatMap (cs : List Char) : SpellsText (cs.flatMap writeChar) cs := by
  induction cs with
  | nil => exact .nil
  | cons c cs ih =>
    rw [List.flatMap_cons]
    exact .cons (spellsChar_writeChar c) ih

/-- A text is written in quotes. -/
lemma writeText_eq (s : String) : writeText s = quoted (s.toList.flatMap writeChar) := by
  simp [writeText, quoted]

/-- The digits of a number begin with a zero only if they are nothing else. -/
lemma head_toDigits (n : Nat) :
    Nat.toDigits 10 n = ['0'] ∨ (Nat.toDigits 10 n).head? ≠ some '0' := by
  induction n using Nat.strongRecOn with
  | ind n ih =>
    rcases Nat.lt_or_ge n 10 with h | h
    · rw [Nat.toDigits_of_lt_base h]
      rcases Nat.eq_zero_or_pos n with rfl | hpos
      · exact .inl rfl
      · right
        simp only [List.head?_cons, ne_eq, Option.some.injEq, Nat.digitChar_eq_zero]
        omega
    · right
      have hne : Nat.toDigits 10 (n / 10) ≠ ['0'] := by
        intro hzero
        have hvalue : Nat.ofDigitChars 10 (Nat.toDigits 10 (n / 10)) 0 = n / 10 :=
          Nat.ofDigitChars_ten_toDigits
        rw [hzero] at hvalue
        have : n / 10 = 0 := hvalue.symm
        omega
      have hhead := (ih (n / 10) (by omega)).resolve_left hne
      rw [Nat.toDigits_of_base_le (by decide) h]
      rwa [List.head?_append_of_ne_nil _ Nat.toDigits_ne_nil]

/-- The literal of a natural number may be written. -/
lemma Literal.legal_ofNat (n : Nat) : (Literal.ofNat n).Legal where
  whole := ⟨Nat.toDigits_ne_nil, fun _ h => Nat.isDigit_of_mem_toDigits (by decide) (by decide) h⟩
  leading := head_toDigits n
  fraction := nofun
  exponent := nofun

/-- A literal is spelled as it is written. -/
lemma Literal.Legal.spellsLiteral_write {l : Literal} (h : l.Legal) : SpellsLiteral l.write l := by
  obtain ⟨x, hx, hwrite⟩ : ∃ x, SpellsExponent x l.exponent ∧ l.write =
      (if l.negative then ['-'] else []) ++ (l.whole ++ (fractionPart l.fraction ++ x)) := by
    obtain ⟨negative, whole, fraction, exponent⟩ := l
    rcases exponent with _ | ⟨_ | _, ds⟩
    · exact ⟨[], .none, by cases fraction <;> simp [write, fractionPart]⟩
    · exact ⟨'e' :: ds, .some (s := []) (.inl rfl) .none,
        by cases fraction <;> simp [write, fractionPart]⟩
    · exact ⟨'e' :: '-' :: ds, .some (s := ['-']) (.inl rfl) .minus,
        by cases fraction <;> simp [write, fractionPart]⟩
  rw [hwrite]
  exact .mk h hx

namespace Value

/-- Items are spelled as they are written if each of them is. -/
lemma spellsItems_write {v : Value} {vs : List Value} (h : ∀ x ∈ v :: vs, Spells x.write x) :
    SpellsItems (writeItems (v :: vs) ++ [']']) (v :: vs) := by
  induction vs generalizing v with
  | nil =>
    have hv := SpellsItems.last blank_nil (h v (by simp)) blank_nil
    simpa [writeItems] using hv
  | cons w vs ih =>
    have hrest := ih fun x hx => h x (List.mem_cons_of_mem _ hx)
    have hv := SpellsItems.more blank_nil (h v (by simp)) blank_nil hrest
    simpa [writeItems] using hv

/-- A member is spelled as it is written if its value is. -/
lemma spellsMember_write {m : String × Value} (h : Spells m.2.write m.2) :
    SpellsMember (writeMember m) m := by
  obtain ⟨key, v⟩ := m
  have hm := SpellsMember.mk blank_nil (spellsText_flatMap key.toList) blank_nil blank_nil h
    blank_nil
  simpa [writeMember, writeText_eq] using hm

/-- Members are spelled as they are written if their values are. -/
lemma spellsMembers_write {m : String × Value} {ms : List (String × Value)}
    (h : ∀ x ∈ m :: ms, Spells x.2.write x.2) :
    SpellsMembers (writeMembers (m :: ms) ++ ['\x7d']) (m :: ms) := by
  induction ms generalizing m with
  | nil => simpa [writeMembers] using SpellsMembers.last (spellsMember_write (h m (by simp)))
  | cons n ms ih =>
    have hrest := ih fun x hx => h x (List.mem_cons_of_mem _ hx)
    have hm := SpellsMembers.more (spellsMember_write (h m (by simp))) hrest
    simpa [writeMembers] using hm

/-- The compact text of a value is one of its spellings. -/
theorem Legal.spells_write {v : Value} (h : v.Legal) : Spells v.write v := by
  induction v using Value.induct with
  | null => simpa [write] using Spells.null
  | boolean b => cases b <;> simpa [write] using by constructor
  | number l =>
    cases h with
    | number hl => simpa [write] using Spells.number hl.spellsLiteral_write
  | text s => simpa [write, writeText_eq] using Spells.text (spellsText_flatMap s.toList)
  | list vs ih =>
    have hvs : ∀ v ∈ vs, v.Legal := by
      cases h with
      | list hvs => exact hvs
    cases vs with
    | nil => simpa [write, writeItems] using Spells.emptyList blank_nil
    | cons v vs =>
      have hitems := spellsItems_write fun x hx => ih x hx (hvs x hx)
      simpa [write] using Spells.list hitems
  | object ms ih =>
    have hms : ∀ m ∈ ms, m.2.Legal := by
      cases h with
      | object hms => exact hms
    cases ms with
    | nil => simpa [write, writeMembers] using Spells.emptyObject blank_nil
    | cons m ms =>
      have hmembers := spellsMembers_write fun x hx => ih x hx (hms x hx)
      simpa [write] using Spells.object hmembers

end Value

end DiagnosticPage.Json
