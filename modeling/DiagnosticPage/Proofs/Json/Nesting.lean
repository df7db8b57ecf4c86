import DiagnosticPage.Proofs.Json.Spelling

/-!
# How deeply values are nested

`Value.depth` is the number of lists and objects that lie within each other in a value, and
`mostOpen` the number of brackets and braces that are open at once in a text, found by reading the
text once from left to right.  `Spells.mostOpen_eq` says that they agree for every spelling of a
value: what stands between quotes opens nothing.
-/

namespace DiagnosticPage.Json

/-! ## Depth -/

namespace Value

mutual

/-- The number of lists and objects of a value that lie within each other. -/
def depth : Value → Nat
  | list items => depthOfItems items + 1
  | object members => depthOfMembers members + 1
  | _ => 0

/-- The depth of the deepest of several items. -/
def depthOfItems : List Value → Nat
  | [] => 0
  | v :: vs => max (depth v) (depthOfItems vs)

/-- The depth of the deepest of several members. -/
def depthOfMembers : List (String × Value) → Nat
  | [] => 0
  | m :: ms => max (depthOfMember m) (depthOfMembers ms)

/-- The depth of the value of a member. -/
def depthOfMember : String × Value → Nat
  | (_, v) => depth v

end

/-- Items are as deep as the deepest of them. -/
lemma depthOfItems_le_iff {vs : List Value} {n : Nat} :
    depthOfItems vs ≤ n ↔ ∀ v ∈ vs, v.depth ≤ n := by
  induction vs with
  | nil => simp [depthOfItems]
  | cons v vs ih => rw [depthOfItems, Nat.max_le, ih, List.forall_mem_cons]

/-- Members are as deep as the deepest of their values. -/
lemma depthOfMembers_le_iff {ms : List (String × Value)} {n : Nat} :
    depthOfMembers ms ≤ n ↔ ∀ m ∈ ms, m.2.depth ≤ n := by
  induction ms with
  | nil => simp [depthOfMembers]
  | cons m ms ih =>
    rw [depthOfMembers, Nat.max_le, ih, List.forall_mem_cons, depthOfMember]

/-- A list is one level deeper than its items. -/
lemma depth_list_le_iff {vs : List Value} {n : Nat} :
    (list vs).depth ≤ n + 1 ↔ ∀ v ∈ vs, v.depth ≤ n := by
  rw [depth, Nat.add_le_add_iff_right, depthOfItems_le_iff]

/-- An object is one level deeper than the values of its members. -/
lemma depth_object_le_iff {ms : List (String × Value)} {n : Nat} :
    (object ms).depth ≤ n + 1 ↔ ∀ m ∈ ms, m.2.depth ≤ n := by
  rw [depth, Nat.add_le_add_iff_right, depthOfMembers_le_iff]

end Value

/-! ## Brackets and braces in a text -/

/-- What is known at a point of a text that is read from left to right. -/
structure Scan where
  /-- The brackets and braces that are open. -/
  opened : Nat := 0
  /-- The most of them that have been open at once. -/
  most : Nat := 0
  /-- Whether the point lies between quotes. -/
  inText : Bool := false
  /-- Whether the next character stands behind a backslash. -/
  escaped : Bool := false

/-- What is known behind a character. -/
def Scan.past (s : Scan) (c : Char) : Scan :=
  if s.escaped then { s with escaped := false }
  else if s.inText then
    if c = '"' then { s with inText := false }
    else if c = '\\' then { s with escaped := true }
    else s
  else if c = '"' then { s with inText := true }
  else if c = '[' ∨ c = '\x7b' then
    { s with opened := s.opened + 1, most := max s.most (s.opened + 1) }
  else if c = ']' ∨ c = '\x7d' then { s with opened := s.opened - 1 }
  else s

/-- The most brackets and braces outside of quotes that are open at once in a text. -/
def mostOpen (text : List Char) : Nat :=
  (text.foldl Scan.past {}).most

namespace Scan

/-- A point outside of quotes. -/
abbrev outside (opened most : Nat) : Scan :=
  ⟨opened, most, false, false⟩

/-- A point between quotes. -/
abbrev within (opened most : Nat) : Scan :=
  ⟨opened, most, true, false⟩

variable {t : List Char} {o m : Nat}

/-- Characters that mean nothing outside of quotes. -/
def Plain (t : List Char) : Prop :=
  ∀ c ∈ t, c ∉ ['"', '[', '\x7b', ']', '\x7d']

/-- Plain characters open nothing. -/
lemma foldl_plain (h : Plain t) : t.foldl past (outside o m) = outside o m := by
  induction t with
  | nil => rfl
  | cons c t ih =>
    have hc := h c List.mem_cons_self
    have hpast : past (outside o m) c = outside o m := by
      simp only [List.mem_cons, List.not_mem_nil, or_false, not_or] at hc
      simp [past, hc]
    rw [List.foldl_cons, hpast]
    exact ih fun d hd => h d (List.mem_cons_of_mem _ hd)

/-- Plain texts may be put together. -/
lemma plain_append {u : List Char} (ht : Plain t) (hu : Plain u) : Plain (t ++ u) :=
  fun c hc => (List.mem_append.mp hc).elim (ht c) (hu c)

/-- Blanks are plain. -/
lemma plain_of_blank (h : Blank t) : Plain t := by
  intro c hc
  have hmem := h c hc
  simp only [List.mem_cons, List.not_mem_nil, or_false] at hmem
  rcases hmem with rfl | rfl | rfl | rfl <;> decide

/-- Digits are plain. -/
lemma plain_of_digits (h : ∀ d ∈ t, d.isDigit) : Plain t := by
  intro c hc hmem
  have hdigit := h c hc
  simp only [List.mem_cons, List.not_mem_nil, or_false] at hmem
  rcases hmem with rfl | rfl | rfl | rfl | rfl <;> simp at hdigit

/-- An exponent is plain. -/
lemma plain_of_spellsExponent {exponent : Option (Bool × List Char)}
    (h : SpellsExponent t exponent) (hdigits : ∀ e ∈ exponent, IsDigits e.2) : Plain t := by
  cases h with
  | none => exact nofun
  | @some e s ds negative he hs =>
    have hsign : Plain s := by cases hs <;> simp [Plain]
    have hletter : Plain [e] := by rcases he with rfl | rfl <;> simp [Plain]
    exact plain_append hletter (plain_append hsign (plain_of_digits (hdigits _ rfl).2))

/-- A literal is plain. -/
lemma plain_of_spellsLiteral {l : Literal} (h : SpellsLiteral t l) : Plain t := by
  obtain @⟨l, x, hl, hx⟩ := h
  have hexponent := plain_of_spellsExponent hx hl.exponent
  have hfraction : Plain (fractionPart l.fraction) := by
    cases hfrac : l.fraction with
    | none => exact nofun
    | some ds =>
      have hdigits := hl.fraction ds hfrac
      exact plain_append (t := ['.']) (by simp [Plain]) (plain_of_digits hdigits.2)
  have hsign : Plain (if l.negative then ['-'] else []) := by
    cases l.negative <;> simp [Plain]
  exact plain_append hsign (plain_append (plain_of_digits hl.whole.2)
    (plain_append hfraction hexponent))

/-- Between quotes, an escape by digits opens nothing. -/
lemma foldl_unit {n : Nat} (h : SpellsUnit t n) : t.foldl past (within o m) = within o m := by
  have hdigit : ∀ {c k}, IsHexDigit c k → c ≠ '"' ∧ c ≠ '\\' := by
    rintro c k ⟨hk, rfl | rfl⟩
    · revert k; decide
    · revert k; decide
  obtain ⟨ha, hb, hc, hd, -⟩ := h
  simp [past, hdigit ha, hdigit hb, hdigit hc, hdigit hd]

/-- Between quotes a character opens nothing, however it is spelled. -/
lemma foldl_char {c : Char} (h : SpellsChar t c) : t.foldl past (within o m) = within o m := by
  cases h with
  | plain hctl hq hb => simp [past, hq, hb]
  | letter h => simp [past]
  | unit h => exact foldl_unit h
  | pair hs ht hi hj hc => rw [List.foldl_append, foldl_unit hs, foldl_unit ht]

/-- Between quotes, no spelling of a text opens anything or ends the text. -/
lemma foldl_text {cs : List Char} (h : SpellsText t cs) :
    t.foldl past (within o m) = within o m := by
  induction h with
  | nil => rfl
  | cons hc hs ih => rw [List.foldl_append, foldl_char hc, ih]

/-- A text in quotes opens nothing. -/
lemma foldl_quoted {cs : List Char} (h : SpellsText t cs) :
    (Json.quoted t).foldl past (outside o m) = outside o m := by
  rw [Json.quoted, List.foldl_cons, List.foldl_append]
  exact congrArg (past · '"') (foldl_text h)

/-- Blanks open nothing. -/
lemma foldl_blank (h : Blank t) : t.foldl past (outside o m) = outside o m :=
  foldl_plain (plain_of_blank h)

/-- A bracket opens one level more. -/
lemma past_bracket : past (outside o m) '[' = outside (o + 1) (max m (o + 1)) := rfl

/-- A brace opens one level more. -/
lemma past_brace : past (outside o m) '\x7b' = outside (o + 1) (max m (o + 1)) := rfl

lemma past_comma : past (outside o m) ',' = outside o m := rfl

lemma past_colon : past (outside o m) ':' = outside o m := rfl

end Scan

open Scan

mutual

/-- A value leaves open what was open before it, and opens as much more as it is deep. -/
theorem Spells.foldl_past {t : List Char} {v : Value} (h : Spells t v) {o m : Nat} (hom : o ≤ m) :
    t.foldl past (outside o m) = outside o (max m (o + v.depth)) := by
  have hflat : outside o m = outside o (max m (o + 0)) := by
    rw [Nat.add_zero, Nat.max_eq_left hom]
  cases h with
  | null => exact (foldl_plain (by simp [Plain])).trans hflat
  | true => exact (foldl_plain (by simp [Plain])).trans hflat
  | false => exact (foldl_plain (by simp [Plain])).trans hflat
  | number h => exact (foldl_plain (plain_of_spellsLiteral h)).trans hflat
  | text h => exact (foldl_quoted h).trans hflat
  | emptyList hb =>
    rw [List.foldl_cons, List.foldl_append, past_bracket, foldl_blank hb]
    rfl
  | @list t vs h =>
    have hdepth : max (max m (o + 1)) (o + 1 + Value.depthOfItems vs) =
        max m (o + (Value.list vs).depth) := by
      rw [Value.depth]
      omega
    rw [List.foldl_cons, past_bracket, h.foldl_past (Nat.le_max_right ..), hdepth]
  | emptyObject hb =>
    rw [List.foldl_cons, List.foldl_append, past_brace, foldl_blank hb]
    rfl
  | @object t ms h =>
    have hdepth : max (max m (o + 1)) (o + 1 + Value.depthOfMembers ms) =
        max m (o + (Value.object ms).depth) := by
      rw [Value.depth]
      omega
    rw [List.foldl_cons, past_brace, h.foldl_past (Nat.le_max_right ..), hdepth]

/-- The items of a list close its bracket. -/
theorem SpellsItems.foldl_past {t : List Char} {vs : List Value} (h : SpellsItems t vs) {o m : Nat}
    (hom : o + 1 ≤ m) : t.foldl past (outside (o + 1) m) =
      outside o (max m (o + 1 + Value.depthOfItems vs)) := by
  cases h with
  | last ha h hb =>
    rw [List.foldl_append, foldl_blank ha, List.foldl_append, h.foldl_past hom, List.foldl_append,
      foldl_blank hb]
    simp [Value.depthOfItems, past]
  | @more a t b u v vs ha h hb hs =>
    rw [List.foldl_append, foldl_blank ha, List.foldl_append, h.foldl_past hom, List.foldl_append,
      foldl_blank hb, List.foldl_cons, past_comma, hs.foldl_past (by omega), Value.depthOfItems]
    congr 1
    omega

/-- A member opens as much as its value. -/
theorem SpellsMember.foldl_past {t : List Char} {m : String × Value} (h : SpellsMember t m)
    {o n : Nat} (hon : o ≤ n) :
    t.foldl past (outside o n) = outside o (max n (o + Value.depthOfMember m)) := by
  cases h with
  | mk ha hk hb hc h hd =>
    rw [List.foldl_append, foldl_blank ha, List.foldl_append, foldl_quoted hk, List.foldl_append,
      foldl_blank hb, List.foldl_cons, past_colon, List.foldl_append, foldl_blank hc,
      List.foldl_append, h.foldl_past hon, foldl_blank hd, Value.depthOfMember]

/-- The members of an object close its brace. -/
theorem SpellsMembers.foldl_past {t : List Char} {ms : List (String × Value)}
    (h : SpellsMembers t ms) {o n : Nat} (hon : o + 1 ≤ n) : t.foldl past (outside (o + 1) n) =
      outside o (max n (o + 1 + Value.depthOfMembers ms)) := by
  cases h with
  | last h =>
    rw [List.foldl_append, h.foldl_past hon]
    simp [Value.depthOfMembers, past]
  | more h hs =>
    rw [List.foldl_append, h.foldl_past hon, List.foldl_cons, past_comma,
      hs.foldl_past (by omega), Value.depthOfMembers]
    congr 1
    omega

end

/-- In every spelling of a value, as many brackets and braces are open at once as it is deep. -/
theorem Spells.mostOpen_eq {t : List Char} {v : Value} (h : Spells t v) :
    mostOpen t = v.depth := by
  rw [mostOpen, h.foldl_past (Nat.le_refl 0)]
  simp

end DiagnosticPage.Json
