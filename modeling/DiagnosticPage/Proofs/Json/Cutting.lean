import DiagnosticPage.Json.Lexeme
import DiagnosticPage.Proofs.Json.Spelling

/-!
# Cutting spelled values

The text of a value is cut into lexemes piece by piece.  `CutsInto` says which lexemes are cut off
before a given rest is reached, so that pieces can be put together (`CutsInto.trans`) while each of
them still sees what follows it.  The faults that a lexeme could carry are absent here, and the
places do not matter: they are given by existence only.
-/

namespace DiagnosticPage.Json

/-! ## Pieces of a text -/

/-- Lexemes that are cut off a text at a place before the rest at another place is reached. -/
def CutsInto (p : Place) (t : List Char) (ls : List Lexeme) (q : Place) (u : List Char) : Prop :=
  lexemesFrom 0 p t = ⟨ls ++ (lexemesFrom 0 q u).list, (lexemesFrom 0 q u).stop⟩

/-- Characters that belong to a lexeme already cut are left out. -/
lemma lexemesFrom_eq_drop (taken : Nat) (p : Place) (cs : List Char) :
    lexemesFrom taken p cs = lexemesFrom 0 p (cs.drop taken) := by
  induction cs generalizing taken with
  | nil => cases taken <;> rfl
  | cons c cs ih =>
    cases taken with
    | zero => rfl
    | succ taken => exact ih taken

variable {p q r : Place} {t u v : List Char} {ls ms : List Lexeme}

/-- What follows a piece of text may be cut later. -/
lemma CutsInto.trans (h : CutsInto p t ls q u) (h' : CutsInto q u ms r v) :
    CutsInto p t (ls ++ ms) r v := by
  unfold CutsInto at *
  rw [h, h', List.append_assoc]

/-- Blanks are cut into no lexemes. -/
lemma cutsInto_blank (h : Blank t) (p : Place) (u : List Char) :
    ∃ q, CutsInto p (t ++ u) [] q u := by
  induction t generalizing p with
  | nil => exact ⟨p, rfl⟩
  | cons c t ih =>
    obtain ⟨q, hq⟩ := ih (fun d hd => h d (List.mem_cons_of_mem _ hd)) (p.past c)
    have hc : isBlank c = true := by
      have hmem := h c List.mem_cons_self
      simpa [isBlank, or_assoc] using hmem
    refine ⟨q, ?_⟩
    unfold CutsInto at *
    rw [List.cons_append, lexemesFrom, if_pos hc, hq]

/-- A text that is cut off as one lexeme. -/
lemma cutsInto_of_cut {c : Char} {l : Lexeme} (hc : isBlank c = false)
    (h : cut p c (t ++ u) = (l, u)) : CutsInto p (c :: (t ++ u)) [l] l.behind u := by
  unfold CutsInto
  rw [lexemesFrom, if_neg (by simp [hc]), h]
  have hdrop : (t ++ u).drop ((t ++ u).length - u.length) = u := by simp
  simp only [lexemesFrom_eq_drop (_ - _), hdrop, List.cons_append, List.nil_append]

/-- A text that begins with a mark, which is a lexeme of its own. -/
lemma cutsInto_mark (c : Char) (token : Token) (hc : isBlank c = false)
    (h : ∀ p cs, cut p c cs = cutMark token p c cs) (p : Place) (u : List Char) :
    CutsInto p (c :: u) [⟨token, p, p.past c⟩] (p.past c) u :=
  cutsInto_of_cut (t := []) hc (h p u)

/-! ## Words -/

/-- Letters that are asked for are found where they stand. -/
lemma exists_spell_append (letters : List Char) (p : Place) (u : List Char) :
    ∃ q, spell letters p (letters ++ u) = .ok (q, u) := by
  induction letters generalizing p with
  | nil => exact ⟨p, rfl⟩
  | cons c cs ih =>
    obtain ⟨q, hq⟩ := ih (p.past c)
    exact ⟨q, by simp [spell, hq]⟩

/-- A word is cut off whole. -/
lemma exists_cutWord (w : Word) (p : Place) (u : List Char) :
    ∃ q, cutWord w p (w.tail ++ u) = (⟨.word w (.ok ()), p, q⟩, u) := by
  obtain ⟨q, hq⟩ := exists_spell_append w.tail (p.forward 1) u
  exact ⟨q, by simp [cutWord, hq]⟩

/-! ## Texts -/

namespace Quoted

/-- What has been read of the body of a text, put in front of the rest. -/
abbrev withPrefix (read : List Char) (rest : Except Fault (List Char × Place × List Char)) :
    Except Fault (List Char × Place × List Char) :=
  rest.map fun (text, behind) => (read ++ text, behind)

/-- Characters that were already taken are passed over. -/
lemma body_eq_drop (strict : Bool) (taken : Nat) (p : Place) (cs : List Char) :
    body strict taken p cs = body strict 0 p (cs.drop taken) := by
  induction cs generalizing taken with
  | nil => cases taken <;> rfl
  | cons c cs ih =>
    cases taken with
    | zero => rfl
    | succ taken => exact ih taken

/-- An escape is passed over whole once it has been understood. -/
lemma exists_body_of_escape {strict : Bool} {c : Char}
    (h : ∃ q, escape strict (p.forward 1) (t ++ u) = .ok (c, t.length, q)) :
    ∃ q, body strict 0 p ('\\' :: (t ++ u)) = withPrefix [c] (body strict 0 q u) := by
  obtain ⟨q, hq⟩ := h
  have hdrop : body strict t.length q (t ++ u) = body strict 0 q u := by
    rw [body_eq_drop, List.drop_left]
  refine ⟨q, ?_⟩
  rw [body, if_neg (by decide), if_pos rfl, hq]
  simp only [hdrop]
  cases body strict 0 q u <;> rfl

/-- A hexadecimal digit, small or capital, has its value. -/
lemma hexValue?_eq_some {c : Char} {k : Nat} (h : IsHexDigit c k) : hexValue? c = some k := by
  obtain ⟨hk, rfl | rfl⟩ := h
  · revert k; decide
  · revert k; decide

/-- Four hexadecimal digits are read as the number that they spell. -/
lemma unit_of_spellsUnit {n : Nat} (h : SpellsUnit t n) (p : Place) (u : List Char) :
    ∃ ds, t = '\\' :: 'u' :: ds ∧ ds.length = 4 ∧ unit p (ds ++ u) = .ok n := by
  obtain ⟨ha, hb, hc, hd, rfl⟩ := h
  refine ⟨_, rfl, rfl, ?_⟩
  simp [unit, fourHex?, hexValue?_eq_some ha, hexValue?_eq_some hb, hexValue?_eq_some hc,
    hexValue?_eq_some hd]

/-- A number that is not read strictly stands for itself. -/
lemma exists_body_unit {n : Nat} (h : SpellsUnit t n) (p : Place) (u : List Char) :
    ∃ q, body false 0 p (t ++ u) = withPrefix [Char.ofNat n] (body false 0 q u) := by
  obtain ⟨ds, rfl, hlength, hunit⟩ := unit_of_spellsUnit h ((p.forward 1).forward 1) u
  refine exists_body_of_escape (t := 'u' :: ds) ⟨((p.forward 1).forward 1).forward 4, ?_⟩
  rw [List.cons_append, escape, if_pos rfl, List.length_cons, hlength]
  simp only [unicodeEscape, hunit, bind, Except.bind, pure, Except.pure]
  rfl

/-- No character has the number of a half. -/
lemma not_surrogate (c : Char) :
    isLowSurrogate c.toNat = false ∧ isHighSurrogate c.toNat = false := by
  have hvalid : c.toNat < 0xd800 ∨ 0xdfff < c.toNat ∧ c.toNat < 0x110000 := c.valid
  simp only [isLowSurrogate, isHighSurrogate, Bool.and_eq_false_iff, decide_eq_false_iff_not]
  omega

/-- A character that is not one of a pair is read from its four digits. -/
lemma exists_body_unit_strict {c : Char} (h : SpellsUnit t c.toNat) (p : Place) (u : List Char) :
    ∃ q, body true 0 p (t ++ u) = withPrefix [c] (body true 0 q u) := by
  obtain ⟨ds, rfl, hlength, hunit⟩ := unit_of_spellsUnit h ((p.forward 1).forward 1) u
  obtain ⟨hlow, hhigh⟩ := not_surrogate c
  refine exists_body_of_escape (t := 'u' :: ds) ⟨((p.forward 1).forward 1).forward 4, ?_⟩
  rw [List.cons_append, escape, if_pos rfl, List.length_cons, hlength]
  simp only [unicodeEscape, hunit, hlow, hhigh, Char.ofNat_toNat, bind, Except.bind, pure,
    Except.pure]
  rfl

/-- Two halves of a number give one character if they are read strictly. -/
lemma exists_body_pair_strict {s : List Char} {c : Char} {i j : Nat}
    (hs : SpellsUnit s (0xd800 + i)) (ht : SpellsUnit t (0xdc00 + j)) (hi : i < 0x400)
    (hj : j < 0x400) (hc : c.toNat = 0x10000 + i * 0x400 + j) (p : Place) (u : List Char) :
    ∃ q, body true 0 p (s ++ t ++ u) = withPrefix [c] (body true 0 q u) := by
  obtain ⟨ds, rfl, hds, hfirst⟩ := unit_of_spellsUnit hs ((p.forward 1).forward 1) (t ++ u)
  obtain ⟨es, rfl, hes, hsecond⟩ :=
    unit_of_spellsUnit ht ((((p.forward 1).forward 1).forward 4).forward 2) u
  have hlow : isLowSurrogate (0xd800 + i) = false := by simp [isLowSurrogate]; omega
  have hhigh : isHighSurrogate (0xd800 + i) = true := by simp [isHighSurrogate]; omega
  have hlow' : isLowSurrogate (0xdc00 + j) = true := by simp [isLowSurrogate]; omega
  have hchar :
      Char.ofNat (0x10000 + (0xd800 + i - 0xd800) * 0x400 + (0xdc00 + j - 0xdc00)) = c := by
    rw [Nat.add_sub_cancel_left, Nat.add_sub_cancel_left, ← hc, Char.ofNat_toNat]
  have hdrop : (ds ++ ('\\' :: 'u' :: es ++ u)).drop 4 = '\\' :: 'u' :: es ++ u := by
    rw [← hds, List.drop_left]
  have hsecondUnit : secondUnit (((p.forward 1).forward 1).forward 4)
      ((ds ++ ('\\' :: 'u' :: es ++ u)).drop 4) = .ok (0xdc00 + j) := by
    rw [hdrop]
    exact hsecond
  have hlength : ('u' :: (ds ++ '\\' :: 'u' :: es)).length = 11 := by simp [hds, hes]
  have htext : '\\' :: 'u' :: ds ++ '\\' :: 'u' :: es ++ u =
      '\\' :: ('u' :: (ds ++ '\\' :: 'u' :: es) ++ u) := rfl
  rw [htext]
  refine exists_body_of_escape ⟨(((p.forward 1).forward 1).forward 4).forward 6, ?_⟩
  rw [List.cons_append, escape, if_pos rfl, hlength, List.append_assoc]
  simp only [unicodeEscape, hfirst, hlow, hhigh, hsecondUnit, hlow', hchar, bind, Except.bind,
    pure, Except.pure]
  rfl

/-- A spelled character is read, strictly as itself. -/
lemma exists_body_char {c : Char} (h : SpellsChar t c) (strict : Bool) (p : Place)
    (u : List Char) : ∃ q read, body strict 0 p (t ++ u) = withPrefix read (body strict 0 q u) ∧
      (strict = true → read = [c]) := by
  cases h with
  | plain hctl hq hb =>
    refine ⟨p.past c, [c], ?_, fun _ => rfl⟩
    rw [List.singleton_append, body, if_neg hq, if_neg hb, if_neg (by omega)]
    cases body strict 0 (p.past c) u <;> rfl
  | @letter l c hmem =>
    have hescape : ∃ q, escape strict (p.forward 1) ([l] ++ u) = .ok (c, 1, q) := by
      simp only [letters, List.mem_cons, Prod.mk.injEq, List.not_mem_nil, or_false] at hmem
      rcases hmem with h | h | h | h | h | h | h | h <;> obtain ⟨rfl, rfl⟩ := h <;>
        exact ⟨_, rfl⟩
    obtain ⟨q, hq⟩ := exists_body_of_escape hescape
    exact ⟨q, [c], hq, fun _ => rfl⟩
  | unit h =>
    cases strict with
    | true =>
      obtain ⟨q, hq⟩ := exists_body_unit_strict h p u
      exact ⟨q, [c], hq, fun _ => rfl⟩
    | false =>
      obtain ⟨q, hq⟩ := exists_body_unit h p u
      exact ⟨q, _, hq, nofun⟩
  | @pair s t c i j hs ht hi hj hc =>
    cases strict with
    | true =>
      obtain ⟨q, hq⟩ := exists_body_pair_strict hs ht hi hj hc p u
      exact ⟨q, [c], hq, fun _ => rfl⟩
    | false =>
      obtain ⟨q, hq⟩ := exists_body_unit hs p (t ++ u)
      obtain ⟨q', hq'⟩ := exists_body_unit ht q u
      refine ⟨q', [Char.ofNat (0xd800 + i), Char.ofNat (0xdc00 + j)], ?_, nofun⟩
      rw [List.append_assoc, hq, hq']
      cases body false 0 q' u <;> rfl

/-- A spelled text is read to its closing quote, strictly as itself. -/
lemma exists_body_text {cs : List Char} (h : SpellsText t cs) (strict : Bool) (p : Place)
    (u : List Char) : ∃ q read, body strict 0 p (t ++ '"' :: u) = .ok (read, q, u) ∧
      (strict = true → read = cs) := by
  induction h generalizing p with
  | nil => exact ⟨p.forward 1, [], by simp [body], fun _ => rfl⟩
  | @cons t t' cs c hc hs ih =>
    obtain ⟨q, read, hread, hstrict⟩ := exists_body_char hc strict p (t' ++ '"' :: u)
    obtain ⟨q', read', hread', hstrict'⟩ := ih q
    refine ⟨q', read ++ read', ?_, fun h => by rw [hstrict h, hstrict' h]; rfl⟩
    rw [List.append_assoc, hread, hread']
    rfl

end Quoted

/-- A text in quotes is cut off whole, whatever follows it. -/
lemma exists_cutText {s : String} (h : SpellsText t s.toList) (p : Place) (u : List Char) :
    ∃ q, cutText p (t ++ '"' :: u) = (⟨.text (.ok s) (.ok ()), p, q⟩, u) := by
  obtain ⟨_, text, hstrict, htext⟩ := Quoted.exists_body_text h true (p.forward 1) u
  obtain ⟨q, _, hlax, -⟩ := Quoted.exists_body_text h false (p.forward 1) u
  refine ⟨q, ?_⟩
  simp only [cutText, hstrict, hlax, htext rfl, Except.map, String.ofList_toList]

/-! ## Literals -/

/-- A text that does not go on with a literal. -/
def EndsLiteral (u : List Char) : Prop :=
  ∀ c ∈ u.head?, c.isDigit = false ∧ c ≠ '.' ∧ c ≠ 'e' ∧ c ≠ 'E'

/-- Digits begin with a digit. -/
lemma IsDigits.exists_cons {ds : List Char} (h : IsDigits ds) :
    ∃ d ds', ds = d :: ds' ∧ d.isDigit = true := by
  obtain ⟨d, ds', rfl⟩ := List.exists_cons_of_ne_nil h.1
  exact ⟨d, ds', rfl, h.2 d List.mem_cons_self⟩

namespace Literal

/-- A text that does not go on with digits. -/
def EndsDigits (u : List Char) : Prop :=
  ∀ c ∈ u.head?, c.isDigit = false

/-- Digits are taken up to where they end. -/
lemma takeWhile_digits {ds : List Char} (h : IsDigits ds) (hu : EndsDigits u) :
    (ds ++ u).takeWhile Char.isDigit = ds := by
  rw [List.takeWhile_append_of_pos h.2]
  cases u with
  | nil => simp
  | cons c u => simp [hu c rfl]

/-- What is left behind digits is what stood there. -/
lemma dropWhile_digits {ds : List Char} (h : IsDigits ds) (hu : EndsDigits u) :
    (ds ++ u).dropWhile Char.isDigit = u := by
  rw [List.dropWhile_append_of_pos h.2]
  cases u with
  | nil => rfl
  | cons c u => simp [hu c rfl]

/-- The sign of a literal is read off. -/
lemma exists_readMinus {l : Literal} (h : l.Legal) (p : Place) (u : List Char) :
    ∃ q, readMinus p ((if l.negative then ['-'] else []) ++ (l.whole ++ u)) =
      (l.negative, q, l.whole ++ u) := by
  cases l.negative with
  | true => exact ⟨_, rfl⟩
  | false =>
    refine ⟨p, ?_⟩
    obtain ⟨d, ds, hwhole, hd⟩ := h.whole.exists_cons
    rw [hwhole]
    unfold readMinus
    split
    · next heq => cases heq; simp at hd
    · rfl

/-- The digits in front of the point are read up to where they end. -/
lemma exists_readWhole {l : Literal} (h : l.Legal) (hu : EndsDigits u) (p : Place) :
    ∃ q, readWhole p (l.whole ++ u) = .ok (l.whole, q, u) := by
  have htake := takeWhile_digits h.whole hu
  have hdrop := dropWhile_digits h.whole hu
  unfold readWhole
  rcases h.leading with hzero | hhead
  · rw [htake, hzero]
    exact ⟨_, rfl⟩
  · rw [htake, hdrop]
    split
    · next hnil => exact absurd hnil h.whole.1
    · next hzero => simp [hzero] at hhead
    · next hzero => simp [hzero] at hhead
    · exact ⟨_, rfl⟩

/-- The point and the digits behind it are read if they are there. -/
lemma exists_readFraction {fraction : Option (List Char)} (h : ∀ ds ∈ fraction, IsDigits ds)
    (hu : EndsDigits u) (hpoint : u.head? ≠ some '.') (p : Place) :
    ∃ q, readFraction p (fractionPart fraction ++ u) = .ok (fraction, q, u) := by
  cases fraction with
  | none =>
    refine ⟨p, ?_⟩
    unfold readFraction
    split
    · next heq =>
      have hnil : u = '.' :: _ := heq
      simp [hnil] at hpoint
    · rfl
  | some ds =>
    have hds := h ds rfl
    simp only [fractionPart, Option.elim_some, List.cons_append, readFraction,
      takeWhile_digits hds hu, dropWhile_digits hds hu]
    split
    · exact absurd rfl hds.1
    · exact ⟨_, rfl⟩

/-- The sign of an exponent is read if it is there. -/
lemma exists_readSign {s ds : List Char} {negative : Bool} (hs : SpellsSign s negative)
    (hds : IsDigits ds) (p : Place) (u : List Char) :
    ∃ q, readSign p (s ++ (ds ++ u)) = (negative, q, ds ++ u) := by
  cases hs with
  | none =>
    refine ⟨p, ?_⟩
    unfold readSign
    obtain ⟨d, ds, rfl, hd⟩ := hds.exists_cons
    split
    · next heq => cases heq; simp at hd
    · next heq => cases heq; simp at hd
    · rfl
  | plus => exact ⟨_, rfl⟩
  | minus => exact ⟨_, rfl⟩

/-- An exponent is read if it is there. -/
lemma exists_readExponent {x : List Char} {exponent : Option (Bool × List Char)}
    (hx : SpellsExponent x exponent) (h : ∀ e ∈ exponent, IsDigits e.2) (hu : EndsLiteral u)
    (p : Place) : ∃ q, readExponent p (x ++ u) = .ok (exponent, q, u) := by
  cases hx with
  | none =>
    refine ⟨p, ?_⟩
    cases u with
    | nil => rfl
    | cons c u =>
      obtain ⟨-, -, he, hE⟩ := hu c rfl
      simp [readExponent, he, hE]
  | @some e s ds negative he hs =>
    have hds : IsDigits ds := h (negative, ds) rfl
    have hend : EndsDigits u := fun c hc => (hu c hc).1
    obtain ⟨q, hq⟩ := exists_readSign hs hds (p.forward 1) u
    rw [List.cons_append, List.append_assoc, readExponent, if_pos he, hq]
    simp only [takeWhile_digits hds hend, dropWhile_digits hds hend]
    split
    · exact absurd rfl hds.1
    · exact ⟨_, rfl⟩

/-- Behind the digits before the point neither a digit nor another point follows. -/
lemma head_spellsExponent {x : List Char} {exponent : Option (Bool × List Char)}
    (hx : SpellsExponent x exponent) (hu : EndsLiteral u) :
    EndsDigits (x ++ u) ∧ (x ++ u).head? ≠ some '.' := by
  cases hx with
  | none =>
    refine ⟨fun c hc => (hu c hc).1, fun hpoint => ?_⟩
    exact (hu '.' hpoint).2.1 rfl
  | some he hs => rcases he with rfl | rfl <;> simp [EndsDigits]

/-- A spelled literal is read as itself. -/
lemma exists_read {l : Literal} (h : SpellsLiteral t l) (hu : EndsLiteral u) (p : Place) :
    ∃ q, read p (t ++ u) = .ok (l, q, u) := by
  obtain @⟨l, x, hl, hx⟩ := h
  obtain ⟨hdigits, hpoint⟩ := head_spellsExponent hx hu
  have hwhole : EndsDigits (fractionPart l.fraction ++ (x ++ u)) := by
    cases hfraction : l.fraction with
    | none => exact hdigits
    | some ds => simp [fractionPart, EndsDigits]
  obtain ⟨q₁, h₁⟩ := exists_readMinus hl p (fractionPart l.fraction ++ (x ++ u))
  obtain ⟨q₂, h₂⟩ := exists_readWhole hl hwhole q₁
  obtain ⟨q₃, h₃⟩ := exists_readFraction hl.fraction hdigits hpoint q₂
  obtain ⟨q₄, h₄⟩ := exists_readExponent hx hl.exponent hu q₃
  refine ⟨q₄, ?_⟩
  simp only [List.append_assoc]
  simp only [read, h₁, h₂, h₃, h₄, bind, Except.bind, pure, Except.pure]

end Literal

/-- A literal is cut off whole if what follows it cannot go on with it. -/
lemma exists_cutNumber {l : Literal} (h : SpellsLiteral t l) (hu : EndsLiteral u) (p : Place) :
    ∃ q, cutNumber p (t ++ u) = (⟨.number (l.value q) (.ok ()), p, q⟩, u) := by
  obtain ⟨q, hq⟩ := Literal.exists_read h hu p
  exact ⟨q, by simp [cutNumber, hq]⟩

/-- A literal begins with a minus sign or a digit. -/
lemma exists_cons_of_spellsLiteral {l : Literal} (h : SpellsLiteral t l) :
    ∃ c cs, t = c :: cs ∧ (c = '-' ∨ c.isDigit) := by
  obtain @⟨l, x, hl, hx⟩ := h
  cases l.negative with
  | true => exact ⟨_, _, rfl, .inl rfl⟩
  | false =>
    obtain ⟨d, ds, hwhole, hd⟩ := hl.whole.exists_cons
    exact ⟨d, ds ++ (fractionPart l.fraction ++ x), by simp [hwhole], .inr hd⟩

/-! ## Lexemes -/

/-- What begins with a sign or a digit is cut as a number. -/
lemma cut_eq_cutNumber {c : Char} (h : c = '-' ∨ c.isDigit) (p : Place) (cs : List Char) :
    cut p c cs = cutNumber p (c :: cs) := by
  unfold cut
  split
  case h_11 => rw [if_pos h]
  all_goals simp at h

/-- A literal does not begin with a blank. -/
lemma isBlank_eq_false_of_literal {c : Char} (h : c = '-' ∨ c.isDigit) : isBlank c = false := by
  by_contra hblank
  simp only [isBlank, Bool.not_eq_false, Bool.or_eq_true, beq_iff_eq] at hblank
  rcases hblank with ((rfl | rfl) | rfl) | rfl <;> simp at h

/-- A text in quotes is cut into one lexeme that has it. -/
lemma cutsInto_text {s : String} (h : SpellsText t s.toList) (p : Place) (u : List Char) :
    ∃ q, CutsInto p (quoted t ++ u) [⟨.text (.ok s) (.ok ()), p, q⟩] q u := by
  obtain ⟨q, hq⟩ := exists_cutText h p u
  have hcut : cut p '"' ((t ++ ['"']) ++ u) = (⟨.text (.ok s) (.ok ()), p, q⟩, u) := by
    rw [List.append_assoc]
    exact hq
  exact ⟨q, cutsInto_of_cut (by decide) hcut⟩

/-- A literal is cut into one lexeme that has its value. -/
lemma cutsInto_number {l : Literal} (h : SpellsLiteral t l) (hu : EndsLiteral u) (p : Place) :
    ∃ q, CutsInto p (t ++ u) [⟨.number (l.value q) (.ok ()), p, q⟩] q u := by
  obtain ⟨q, hq⟩ := exists_cutNumber h hu p
  obtain ⟨c, cs, rfl, hc⟩ := exists_cons_of_spellsLiteral h
  refine ⟨q, cutsInto_of_cut (isBlank_eq_false_of_literal hc) ?_⟩
  rw [cut_eq_cutNumber hc]
  exact hq

/-- A word is cut into one lexeme. -/
lemma cutsInto_word {w : Word} {c : Char} (hc : isBlank c = false)
    (h : ∀ p cs, cut p c cs = cutWord w p cs) (p : Place) (u : List Char) :
    ∃ q, CutsInto p (c :: (w.tail ++ u)) [⟨.word w (.ok ()), p, q⟩] q u := by
  obtain ⟨q, hq⟩ := exists_cutWord w p u
  exact ⟨q, cutsInto_of_cut hc (by rw [h, hq])⟩

end DiagnosticPage.Json
