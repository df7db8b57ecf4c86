import DiagnosticPage.Text.Entity
import Mathlib.Data.List.Basic
import Mathlib.Tactic.Common

/-!
# What escaping keeps and what it keeps out

Escaped text is *harmless*: it holds none of the characters that open or close a tag or an
attribute value, and an ampersand stands in it only at the start of an entity.  This is
`Harmless`, and it holds of `escape` and of `escapeSpaced` for every text.  `AmpersandsStart` is its
part about ampersands, for any kind of entities.

Escaping loses nothing but the difference between a tab and the spaces it is shown as.  The proof
is a reader, `unescape`, which replaces entities by characters from left to right in one pass.
`unescape_escape_append` says that reading undoes escaping whatever text follows, so an escaped
ampersand never joins what stands behind it to an entity; where white space keeps its width it is
read back column by column (`unescape_escapeSpaced_append`).  `escapeSpaced_eq_iff` follows with
`expandTabs`, the text in which tabs have become spaces.
-/

namespace DiagnosticPage.Text

/-! ### Ampersands -/

/-- Every ampersand of a text starts an entity of a kind. -/
def AmpersandsStart (P : Entity → Prop) (s : List Char) : Prop :=
  ∀ before after, s = before ++ '&' :: after → ∃ e, P e ∧ e.written <+: '&' :: after

variable {P : Entity → Prop}

/-- There is no ampersand in the empty text. -/
lemma ampersandsStart_nil : AmpersandsStart P [] := by
  intro before after h
  simp at h

/-- Ampersands start entities in a text that is put together if they do in its parts. -/
lemma AmpersandsStart.append {s t : List Char} (hs : AmpersandsStart P s)
    (ht : AmpersandsStart P t) : AmpersandsStart P (s ++ t) := by
  intro before after h
  rcases List.append_eq_append_iff.mp h with ⟨mid, rfl, h₂⟩ | ⟨mid, rfl, h₂⟩
  · -- the ampersand stands in the second text
    exact ht mid after h₂
  · cases mid with
    | nil => exact ht [] after h₂.symm
    | cons c mid =>
      -- the ampersand stands in the first text, which holds its entity in full
      obtain ⟨rfl, rfl⟩ : '&' = c ∧ after = mid ++ t := by simpa using h₂
      obtain ⟨e, hP, he⟩ := hs before mid rfl
      exact ⟨e, hP, he.trans ⟨t, by simp⟩⟩

/-- A character other than an ampersand starts nothing. -/
lemma ampersandsStart_singleton {c : Char} (hc : c ≠ '&') : AmpersandsStart P [c] := by
  intro before after h
  have : '&' ∈ [c] := by rw [h]; simp
  exact absurd (List.mem_singleton.mp this).symm hc

/-- The ampersand of an entity starts it. -/
lemma ampersandsStart_written {e : Entity} (he : P e) : AmpersandsStart P e.written := by
  intro before after h
  cases before with
  | nil => exact ⟨e, he, by rw [h]; simp⟩
  | cons c before =>
    -- behind its first character an entity holds no ampersand
    have htail : '&' ∈ e.written.tail := by rw [h]; simp
    exact absurd htail (by cases e <;> decide)

/-! ### Harmless text -/

/-- A written text without the characters that delimit tags and attribute values, and with
ampersands only where an entity starts. -/
def Harmless (s : List Char) : Prop :=
  (∀ c ∈ s, c ≠ '<' ∧ c ≠ '>' ∧ c ≠ '"' ∧ c ≠ '\'') ∧
    ∀ before after, s = before ++ '&' :: after → ∃ e : Entity, e.written <+: '&' :: after

/-- In a harmless text ampersands start entities of any kind. -/
lemma harmless_iff {s : List Char} :
    Harmless s ↔ (∀ c ∈ s, c ≠ '<' ∧ c ≠ '>' ∧ c ≠ '"' ∧ c ≠ '\'') ∧
      AmpersandsStart (fun _ => True) s := by
  simp [Harmless, AmpersandsStart]

/-- The empty text is harmless. -/
lemma harmless_nil : Harmless [] :=
  harmless_iff.mpr ⟨by simp, ampersandsStart_nil⟩

/-- Harmless texts can be put together. -/
lemma Harmless.append {s t : List Char} (hs : Harmless s) (ht : Harmless t) :
    Harmless (s ++ t) := by
  rw [harmless_iff] at hs ht ⊢
  refine ⟨fun c hc => ?_, hs.2.append ht.2⟩
  rcases List.mem_append.mp hc with h | h
  · exact hs.1 c h
  · exact ht.1 c h

/-- A character that needs no escaping is harmless. -/
lemma harmless_singleton {c : Char} (hc : c ≠ '<' ∧ c ≠ '>' ∧ c ≠ '"' ∧ c ≠ '\'')
    (hamp : c ≠ '&') : Harmless [c] :=
  harmless_iff.mpr ⟨by simpa using hc, ampersandsStart_singleton hamp⟩

/-- An entity is harmless. -/
lemma harmless_written (e : Entity) : Harmless e.written :=
  harmless_iff.mpr ⟨by cases e <;> simp [Entity.written], ampersandsStart_written trivial⟩

/-- The written form of one character is an entity, or the character itself if that is
harmless. -/
lemma escapeChar_cases (c : Char) :
    (∃ e : Entity, e ≠ .noBreakSpace ∧ escapeChar c = e.written ∧ e.meaning = c) ∨
      (escapeChar c = [c] ∧ c ≠ '&' ∧ c ≠ '<' ∧ c ≠ '>' ∧ c ≠ '"' ∧ c ≠ '\'') := by
  unfold escapeChar
  split
  · exact Or.inl ⟨.ampersand, by decide, rfl, rfl⟩
  · exact Or.inl ⟨.less, by decide, rfl, rfl⟩
  · exact Or.inl ⟨.greater, by decide, rfl, rfl⟩
  · exact Or.inl ⟨.quote, by decide, rfl, rfl⟩
  · exact Or.inl ⟨.apostrophe, by decide, rfl, rfl⟩
  · rename_i h₁ h₂ h₃ h₄ h₅
    exact Or.inr ⟨rfl, h₁, h₂, h₃, h₄, h₅⟩

/-- The written form of one character is harmless. -/
lemma harmless_escapeChar (c : Char) : Harmless (escapeChar c) := by
  rcases escapeChar_cases c with ⟨e, -, he, -⟩ | ⟨h, hamp, hc⟩
  · rw [he]; exact harmless_written e
  · rw [h]; exact harmless_singleton hc hamp

/-- Several entities in a row are harmless. -/
lemma harmless_flatten_replicate (n : ℕ) (e : Entity) :
    Harmless (List.replicate n e.written).flatten := by
  induction n with
  | zero => exact harmless_nil
  | succ n ih =>
    rw [List.replicate_succ, List.flatten_cons]
    exact (harmless_written e).append ih

/-- The written form of one character with its full width is harmless. -/
lemma harmless_escapeCharSpaced (c : Char) : Harmless (escapeCharSpaced c) := by
  unfold escapeCharSpaced
  split
  · exact harmless_flatten_replicate _ _
  · exact harmless_escapeChar c

/-- Escaped text is harmless. -/
lemma harmless_escape (s : List Char) : Harmless (escape s) := by
  induction s with
  | nil => exact harmless_nil
  | cons c s ih =>
    rw [escape_cons]
    exact (harmless_escapeChar c).append ih

/-- Escaped text whose white space keeps its width is harmless. -/
lemma harmless_escapeSpaced (s : List Char) : Harmless (escapeSpaced s) := by
  induction s with
  | nil => exact harmless_nil
  | cons c s ih =>
    rw [escapeSpaced_cons]
    exact (harmless_escapeCharSpaced c).append ih

/-- No tag opens in a harmless text. -/
lemma Harmless.less_notMem {s : List Char} (h : Harmless s) : '<' ∉ s :=
  fun hm => (h.1 _ hm).1 rfl

/-- No tag closes in a harmless text. -/
lemma Harmless.greater_notMem {s : List Char} (h : Harmless s) : '>' ∉ s :=
  fun hm => (h.1 _ hm).2.1 rfl

/-- No attribute value ends in a harmless text. -/
lemma Harmless.quote_notMem {s : List Char} (h : Harmless s) : '"' ∉ s :=
  fun hm => (h.1 _ hm).2.2.1 rfl

/-! ### Reading escaped text -/

/-- Replaces entities by characters from left to right, the no-break space by `space`. -/
def unescape (space : Char) : List Char → List Char
  | [] => []
  | '&' :: 'a' :: 'm' :: 'p' :: ';' :: s => '&' :: unescape space s
  | '&' :: 'l' :: 't' :: ';' :: s => '<' :: unescape space s
  | '&' :: 'g' :: 't' :: ';' :: s => '>' :: unescape space s
  | '&' :: 'q' :: 'u' :: 'o' :: 't' :: ';' :: s => '"' :: unescape space s
  | '&' :: '#' :: '3' :: '9' :: ';' :: s => '\'' :: unescape space s
  | '&' :: 'n' :: 'b' :: 's' :: 'p' :: ';' :: s => space :: unescape space s
  | c :: s => c :: unescape space s

/-- An entity is read as the character it means, and a no-break space as `space`. -/
lemma unescape_written_append (space : Char) (e : Entity) (t : List Char) :
    unescape space (e.written ++ t) =
      (if e = .noBreakSpace then space else e.meaning) :: unescape space t := by
  cases e <;> simp [Entity.written, Entity.meaning, unescape]

/-- A character that opens no entity is read as it is. -/
lemma unescape_cons_of_ne (space : Char) {c : Char} (hc : c ≠ '&') (t : List Char) :
    unescape space (c :: t) = c :: unescape space t := by
  rw [unescape] <;> simp_all

/-- Reading undoes the escaping of one character. -/
lemma unescape_escapeChar_append (space c : Char) (t : List Char) :
    unescape space (escapeChar c ++ t) = c :: unescape space t := by
  rcases escapeChar_cases c with ⟨e, hne, he, hm⟩ | ⟨h, hamp, -⟩
  · rw [he, unescape_written_append, if_neg hne, hm]
  · rw [h, List.singleton_append, unescape_cons_of_ne space hamp]

/-- Reading undoes escaping, whatever text follows. -/
theorem unescape_escape_append (space : Char) (s t : List Char) :
    unescape space (escape s ++ t) = s ++ unescape space t := by
  induction s with
  | nil => rfl
  | cons c s ih =>
    rw [escape_cons, List.append_assoc, unescape_escapeChar_append, ih, List.cons_append]

/-- Reading undoes escaping. -/
lemma unescape_escape (space : Char) (s : List Char) : unescape space (escape s) = s := by
  have h := unescape_escape_append space s []
  rwa [List.append_nil, unescape, List.append_nil] at h

/-- Different texts have different written forms. -/
theorem escape_injective : Function.Injective escape :=
  Function.LeftInverse.injective (unescape_escape ' ')

/-- A number is written as it is. -/
lemma escape_toDigits (n : ℕ) : escape (Nat.toDigits 10 n) = Nat.toDigits 10 n := by
  have hplain : ∀ c ∈ Nat.toDigits 10 n, escapeChar c = [c] := by
    intro c hc
    have hdigit := Nat.isDigit_of_mem_toDigits (by decide) (by decide) hc
    rcases escapeChar_cases c with ⟨e, hne, -, hm⟩ | ⟨h, -⟩
    · -- no entity stands for a digit
      rw [← hm] at hdigit
      cases e <;> first | exact absurd rfl hne | exact absurd hdigit (by decide)
    · exact h
  unfold escape
  rw [List.flatMap_congr hplain, List.flatMap_singleton']

/-! ### Tabs and spaces -/

/-- A text in which every tab has become as many spaces as it takes columns. -/
def expandTabs (s : List Char) : List Char :=
  s.flatMap fun c => if c = '\t' then List.replicate tabSize ' ' else [c]

@[simp] lemma expandTabs_nil : expandTabs [] = [] := rfl

@[simp] lemma expandTabs_cons (c : Char) (s : List Char) :
    expandTabs (c :: s) =
      (if c = '\t' then List.replicate tabSize ' ' else [c]) ++ expandTabs s := by
  simp [expandTabs]

/-- A text in which white space has become `space`, once for each column that it takes. -/
def spread (space : Char) (s : List Char) : List Char :=
  s.flatMap fun c =>
    if c = '\t' then List.replicate tabSize space else if c = ' ' then [space] else [c]

@[simp] lemma spread_nil (space : Char) : spread space [] = [] := rfl

@[simp] lemma spread_cons (space c : Char) (s : List Char) :
    spread space (c :: s) =
      (if c = '\t' then List.replicate tabSize space else if c = ' ' then [space] else [c]) ++
        spread space s := by
  simp [spread]

/-- Texts are spread piece by piece. -/
@[simp] lemma spread_append (space : Char) (s t : List Char) :
    spread space (s ++ t) = spread space s ++ spread space t := by
  simp [spread]

/-- Spaces become as many of the given ones. -/
lemma spread_replicate (space : Char) (n : ℕ) :
    spread space (List.replicate n ' ') = List.replicate n space := by
  induction n with
  | zero => rfl
  | succ n ih =>
    rw [List.replicate_succ, spread_cons, ih]
    rfl

/-- With a space for each column only tabs change. -/
lemma spread_space (s : List Char) : spread ' ' s = expandTabs s := by
  unfold spread expandTabs
  refine List.flatMap_congr fun c _ => ?_
  by_cases hspace : c = ' ' <;> simp [hspace]

/-- A text takes as many columns as it has characters once its white space takes one for each. -/
lemma length_spread (space : Char) (s : List Char) : (spread space s).length = width s := by
  induction s with
  | nil => rfl
  | cons c s ih =>
    rw [spread_cons, List.length_append, ih, width_cons]
    by_cases htab : c = '\t'
    · simp [htab, columns]
    · by_cases hspace : c = ' ' <;> simp [htab, hspace, columns]

/-- A text takes as many columns as it has characters once tabs have become spaces. -/
lemma length_expandTabs (s : List Char) : (expandTabs s).length = width s := by
  rw [← spread_space, length_spread]

/-- A tab is written like the spaces it is shown as. -/
lemma escapeSpaced_expandTabs (s : List Char) : escapeSpaced (expandTabs s) = escapeSpaced s := by
  induction s with
  | nil => rfl
  | cons c s ih =>
    rw [expandTabs_cons, escapeSpaced_append, ih, escapeSpaced_cons]
    by_cases hc : c = '\t'
    · subst hc; rfl
    · simp [hc]

/-- Reading undoes escaping up to white space, which is read as `space` in each of its columns. -/
theorem unescape_escapeSpaced_append (space : Char) (s t : List Char) :
    unescape space (escapeSpaced s ++ t) = spread space s ++ unescape space t := by
  induction s with
  | nil => rfl
  | cons c s ih =>
    rw [escapeSpaced_cons, spread_cons, List.append_assoc, List.append_assoc, ← ih]
    by_cases htab : c = '\t'
    · subst htab
      exact (unescape_written_append space .noBreakSpace _).trans
        (congrArg (space :: ·) (unescape_written_append space .noBreakSpace _))
    · by_cases hspace : c = ' '
      · subst hspace
        exact unescape_written_append space .noBreakSpace _
      · rw [escapeCharSpaced, if_neg (by simp [htab, hspace]), unescape_escapeChar_append,
          if_neg htab, if_neg hspace, List.singleton_append]

/-- Reading no-break spaces as spaces undoes escaping up to the difference between a tab and the
spaces it is shown as. -/
lemma unescape_escapeSpaced (s : List Char) : unescape ' ' (escapeSpaced s) = expandTabs s := by
  have h := unescape_escapeSpaced_append ' ' s []
  rwa [List.append_nil, unescape, List.append_nil, spread_space] at h

/-- Two texts are written alike exactly if they differ in nothing but tabs and the spaces these
are shown as. -/
theorem escapeSpaced_eq_iff (s t : List Char) :
    escapeSpaced s = escapeSpaced t ↔ expandTabs s = expandTabs t := by
  constructor
  · intro h
    rw [← unescape_escapeSpaced, h, unescape_escapeSpaced]
  · intro h
    rw [← escapeSpaced_expandTabs s, h, escapeSpaced_expandTabs]

end DiagnosticPage.Text
