import DiagnosticPage.CommandLine.Arguments
import Mathlib.Algebra.GroupWithZero.Nat
import Mathlib.Data.List.Basic
import Mathlib.Logic.Function.Iterate
import Mathlib.Tactic.Common

/-!
# Spellings of a request

There are many ways to write the same request as a list of arguments.  A *phrase* is what is said by
one argument, or by two that belong together: the input, an option with its value, or flags for more
log lines; short names can be joined, so that one phrase has flags and an output.  `Spells` relates
a list of arguments to the values that are wished for and to the number of flags in it: it is made
of phrases in any order, possibly with two dashes and the input at the end, and gives every part of
the wish once.

What a phrase does to a request is stated without its arguments: the request *gains* values and
flags, or it is not possible because a part would have two values (`Request.Gains`).  What is gained
adds up over a list of phrases, and for values it comes down to which are given to each part, so
that the order of the phrases is gone from it.
-/

namespace DiagnosticPage.CommandLine

/-! ### Phrases -/

/-- A value that may stand in an argument of its own: it is not empty, and it begins with a dash
only if it is one. -/
def StandsAlone (v : String) : Prop :=
  v ≠ "" ∧ (v.toList.head? = some '-' → v = "-")

instance (v : String) : Decidable (StandsAlone v) :=
  inferInstanceAs (Decidable (v ≠ "" ∧ (v.toList.head? = some '-' → v = "-")))

/-- The long names of the options that have a value. -/
def longNames : List (String × Slot) :=
  [("root", .root), ("template", .template), ("output", .output)]

/-- There are three long names. -/
lemma mem_longNames_iff {name : String} {s : Slot} :
    (name, s) ∈ longNames ↔
      name = "root" ∧ s = .root ∨ name = "template" ∧ s = .template ∨
        name = "output" ∧ s = .output := by
  simp [longNames]

/-- The short name of a flag, several times. -/
def flagNames (n : ℕ) : String :=
  String.ofList (List.replicate n 'v')

/-- What is said by one argument, or by two that belong together. -/
inductive Phrase where
  /-- The input: `v`. -/
  | input (v : String) (hv : StandsAlone v)
  /-- An option by its long name, with its value behind it: `--name v`. -/
  | named (name : String) (s : Slot) (hname : (name, s) ∈ longNames) (v : String)
      (hv : StandsAlone v)
  /-- An option by its long name, with its value in the same argument: `--name=v`. -/
  | namedWith (name : String) (s : Slot) (hname : (name, s) ∈ longNames) (v : String)
      (hv : v ≠ "")
  /-- A flag by its long name: `--verbose`. -/
  | verbose
  /-- One flag or more by their short names: `-v`, `-vv` and so on. -/
  | flags (n : ℕ)
  /-- Flags and the output, with its value behind it: `-o v`, `-vo v` and so on. -/
  | output (n : ℕ) (v : String) (hv : StandsAlone v)
  /-- Flags and the output, with its value behind an equals sign: `-o=v`, `-vo=v` and so on. -/
  | outputWith (n : ℕ) (v : String) (hv : v ≠ "")
  /-- Flags and the output, with its value at once: `-ov`, `-vov` and so on. -/
  | outputAttached (n : ℕ) (v : String) (hv : v ≠ "") (hequals : v.toList.head? ≠ some '=')

namespace Phrase

/-- A phrase as arguments. -/
def arguments : Phrase → List String
  | input v _ => [v]
  | named name _ _ v _ => ["--" ++ name, v]
  | namedWith name _ _ v _ => ["--" ++ name ++ "=" ++ v]
  | verbose => ["--verbose"]
  | flags n => ["-" ++ flagNames (n + 1)]
  | output n v _ => ["-" ++ flagNames n ++ "o", v]
  | outputWith n v _ => ["-" ++ flagNames n ++ "o=" ++ v]
  | outputAttached n v _ _ => ["-" ++ flagNames n ++ "o" ++ v]

/-- The part of a request that a phrase gives a value to, with that value. -/
def value? : Phrase → Option (Slot × String)
  | input v _ => some (.input, v)
  | named _ s _ v _ => some (s, v)
  | namedWith _ s _ v _ => some (s, v)
  | verbose => none
  | flags _ => none
  | output _ v _ => some (.output, v)
  | outputWith _ v _ => some (.output, v)
  | outputAttached _ v _ _ => some (.output, v)

/-- The number of flags in a phrase. -/
def flagCount : Phrase → ℕ
  | input _ _ => 0
  | named _ _ _ _ _ => 0
  | namedWith _ _ _ _ _ => 0
  | verbose => 1
  | flags n => n + 1
  | output n _ _ => n
  | outputWith n _ _ => n
  | outputAttached n _ _ _ => n

/-- No value in a phrase is empty. -/
lemma value_ne_empty (p : Phrase) {s : Slot} {v : String} (h : p.value? = some (s, v)) :
    v ≠ "" := by
  cases p <;> simp only [value?, Option.some.injEq, Prod.mk.injEq, reduceCtorEq] at h
  all_goals obtain ⟨-, rfl⟩ := h
  case input hv => exact hv.1
  case named hv => exact hv.1
  case namedWith hv => exact hv
  case output hv => exact hv.1
  case outputWith hv => exact hv
  case outputAttached hv _ => exact hv

end Phrase

/-! ### Spellings -/

/-- The end of a list of arguments, with the value that is given there: nothing, or two dashes,
behind which the input may stand. -/
inductive Closes : List String → List (Slot × String) → Prop
  | nothing : Closes [] []
  | dashes : Closes ["--"] []
  | input {v : String} (hv : v ≠ "") : Closes ["--", v] [(.input, v)]

/-- The values for a part of a request, in the order in which they are given. -/
def valuesFor (s : Slot) (given : List (Slot × String)) : List String :=
  (given.filter fun g => g.1 = s).map Prod.snd

@[simp] lemma valuesFor_nil (s : Slot) : valuesFor s [] = [] := rfl

/-- The values for a slot are gathered in order. -/
@[simp] lemma valuesFor_append (s : Slot) (given given' : List (Slot × String)) :
    valuesFor s (given ++ given') = valuesFor s given ++ valuesFor s given' := by
  simp [valuesFor]

/-- A value is given to one slot only. -/
lemma valuesFor_singleton (s s' : Slot) (v : String) :
    valuesFor s [(s', v)] = if s = s' then [v] else [] := by
  by_cases h : s = s'
  · simp [valuesFor, h]
  · simp [valuesFor, h, Ne.symm h]

/-- A list of arguments spells a wish with a number of flags: it consists of phrases and of an end,
every part of the wish is given its value once and nothing else is given, and the flags are so many.
-/
def Spells (wish : Slot → Option String) (n : ℕ) (args : List String) : Prop :=
  ∃ (phrases : List Phrase) (closing : List String) (last : List (Slot × String)),
    Closes closing last ∧ args = phrases.flatMap Phrase.arguments ++ closing ∧
    (∀ s, valuesFor s (phrases.filterMap Phrase.value? ++ last) = (wish s).toList) ∧
    (phrases.map Phrase.flagCount).sum = n

/-- The request for what is wished, with as many flags as are counted. -/
def Request.ofWish (wish : Slot → Option String) (n : ℕ) : Request :=
  ⟨wish .input, wish .root, wish .template, wish .output, min n greatestVerbosity⟩

/-- A request holds what was wished for. -/
lemma Request.get_ofWish (wish : Slot → Option String) (n : ℕ) (s : Slot) :
    (Request.ofWish wish n).get s = wish s := by
  cases s <;> rfl

/-! ### What a phrase does -/

namespace Request

variable (r : Request)

/-- Filling a slot leaves the others alone. -/
lemma get_set (v : String) (s s' : Slot) :
    (r.set v s).get s' = if s' = s then some v else r.get s' := by
  cases s <;> cases s' <;> rfl

/-- Filling a slot leaves the flags alone. -/
lemma verbosity_set (v : String) (s : Slot) : (r.set v s).verbosity = r.verbosity := by
  cases s <;> rfl

/-- Flags give no value to any part. -/
lemma get_iterate_moreVerbose (n : ℕ) (s : Slot) : (moreVerbose^[n] r).get s = r.get s := by
  induction n generalizing r with
  | zero => rfl
  | succ n ih =>
    rw [Function.iterate_succ_apply, ih]
    cases s <;> rfl

/-- Flags are counted up to a greatest number. -/
lemma verbosity_iterate_moreVerbose (hr : r.verbosity ≤ greatestVerbosity) (n : ℕ) :
    (moreVerbose^[n] r).verbosity = min (r.verbosity + n) greatestVerbosity := by
  induction n generalizing r with
  | zero => exact (Nat.min_eq_left hr).symm
  | succ n ih =>
    rw [Function.iterate_succ_apply, ih _ (Nat.min_le_right _ _), moreVerbose]
    simp only
    omega

/-- The request that a phrase makes of another one, if it gives no part a second value. -/
def after? (p : Phrase) : Option Request :=
  match p.value? with
  | none => some (moreVerbose^[p.flagCount] r)
  | some (s, v) => (moreVerbose^[p.flagCount] r).give? s v.toList

/-- A request has gained values and flags: the values for a part, the one that it had and those that
are given, are those that it has now, so none is given a part that has one. -/
def Gains (given : List (Slot × String)) (n : ℕ) (r' : Request) : Prop :=
  (∀ s, (r.get s).toList ++ valuesFor s given = (r'.get s).toList) ∧
    r'.verbosity = min (r.verbosity + n) greatestVerbosity

variable {r} {r' : Request}

/-- Requests with the same values and as many flags are the same. -/
lemma eq_of_values (h : ∀ s, (r.get s).toList = (r'.get s).toList)
    (hflags : r.verbosity = r'.verbosity) : r = r' := by
  have hget : ∀ s, r.get s = r'.get s := fun s => by simpa using congrArg List.head? (h s)
  cases r
  cases r'
  simp only [mk.injEq]
  exact ⟨hget .input, hget .root, hget .template, hget .output, hflags⟩

/-- What is gained decides what comes of a request. -/
lemma Gains.eq_iff {given : List (Slot × String)} {n : ℕ} {last : Request}
    (h : r.Gains given n last) : last = r' ↔ r.Gains given n r' := by
  constructor
  · rintro rfl
    exact h
  · rintro ⟨hvalues, hflags⟩
    refine eq_of_values (fun s => ?_) ?_
    · rw [← h.1, hvalues]
    · rw [h.2, hflags]

/-- A request that has gained flags has no more of them than are counted. -/
lemma Gains.verbosity_le {given : List (Slot × String)} {n : ℕ} (h : r.Gains given n r') :
    r'.verbosity ≤ greatestVerbosity := by
  rw [h.2]
  exact Nat.min_le_right _ _

/-- What is gained in two steps is gained at once, and the other way round. -/
lemma gains_append_iff {given given' : List (Slot × String)} {n n' : ℕ} :
    r.Gains (given ++ given') (n + n') r' ↔
      ∃ between, r.Gains given n between ∧ between.Gains given' n' r' := by
  constructor
  · rintro ⟨hvalues, hflags⟩
    -- a part has one value at most, so in between it has the first one that it has had by then
    let values (s : Slot) : List String := (r.get s).toList ++ valuesFor s given
    have hrest : ∀ s, values s ++ valuesFor s given' = (r'.get s).toList := fun s => by
      rw [← hvalues, valuesFor_append, ← List.append_assoc]
    have hfirst : ∀ s, values s = (values s).head?.toList := by
      intro s
      have hlength : (values s).length ≤ 1 := by
        have hsum := congrArg List.length (hrest s)
        have hone : (r'.get s).toList.length ≤ 1 := Option.length_toList_le
        rw [List.length_append] at hsum
        omega
      match values s, hlength with
      | [], _ => rfl
      | [v], _ => rfl
    refine ⟨ofWish (fun s => (values s).head?) (r.verbosity + n), ⟨fun s => ?_, rfl⟩,
      fun s => ?_, ?_⟩
    · rw [get_ofWish]
      exact hfirst s
    · rw [get_ofWish, ← hfirst, hrest]
    · rw [hflags, ofWish]
      simp only
      omega
  · rintro ⟨between, ⟨hfirst, hcount⟩, hsecond, hcount'⟩
    refine ⟨fun s => ?_, ?_⟩
    · rw [valuesFor_append, ← List.append_assoc, hfirst, hsecond]
    · rw [hcount', hcount]
      omega

/-- Nothing is gained if nothing is done. -/
lemma gains_refl (hr : r.verbosity ≤ greatestVerbosity) : r.Gains [] 0 r :=
  ⟨fun _ => List.append_nil _, (Nat.min_eq_left hr).symm⟩

/-- Flags are gained. -/
lemma gains_iterate_moreVerbose (hr : r.verbosity ≤ greatestVerbosity) (n : ℕ) :
    r.Gains [] n (moreVerbose^[n] r) :=
  ⟨fun s => by rw [get_iterate_moreVerbose, valuesFor_nil, List.append_nil],
    verbosity_iterate_moreVerbose r hr n⟩

/-- A part without a value gains the one that it is set to. -/
lemma gains_set (hr : r.verbosity ≤ greatestVerbosity) {s : Slot} (hs : r.get s = none)
    (v : String) : r.Gains [(s, v)] 0 (r.set v s) := by
  refine ⟨fun s' => ?_, ?_⟩
  · rw [get_set, valuesFor_singleton]
    by_cases h : s' = s
    · rw [h, hs, if_pos rfl, if_pos rfl]
      rfl
    · rw [if_neg h, if_neg h, List.append_nil]
  · rw [verbosity_set, Nat.add_zero, Nat.min_eq_left hr]

/-- A part with a value gains no other one. -/
lemma not_gains_of_get_eq_some {s : Slot} {v w : String} (hs : r.get s = some w) (n : ℕ) :
    ¬ r.Gains [(s, v)] n r' := by
  intro h
  have hlength := congrArg List.length (h.1 s)
  have hone : (r'.get s).toList.length ≤ 1 := Option.length_toList_le
  rw [← hlength, valuesFor_singleton, if_pos rfl, hs] at hone
  simp at hone

/-- No part takes an empty value. -/
lemma ne_nil_of_give? {s : Slot} {v : List Char} (h : r.give? s v = some r') : v ≠ [] := by
  rintro rfl
  simp [give?] at h

/-- A part that takes a value has it then. -/
lemma isSome_get_of_give? {s : Slot} {v : List Char} (h : r.give? s v = some r') :
    (r'.get s).isSome := by
  unfold give? at h
  split at h
  · cases h
  · cases h
    rw [get_set, if_pos rfl]
    rfl

/-- A value is taken exactly if it is gained. -/
lemma give?_eq_some_iff (hr : r.verbosity ≤ greatestVerbosity) (s : Slot) {v : String}
    (hv : v ≠ "") : r.give? s v.toList = some r' ↔ r.Gains [(s, v)] 0 r' := by
  have hne : v.toList.isEmpty = false := by simpa using hv
  cases hs : r.get s with
  | some w => exact iff_of_false (by simp [give?, hs]) (not_gains_of_get_eq_some hs 0)
  | none =>
    have hgive : r.give? s v.toList = some (r.set v s) := by simp [give?, hs, hne]
    rw [hgive, Option.some_inj]
    exact (gains_set hr hs v).eq_iff

/-- A phrase makes a request exactly if what it says is gained. -/
lemma after?_eq_some_iff (hr : r.verbosity ≤ greatestVerbosity) (p : Phrase) :
    r.after? p = some r' ↔ r.Gains p.value?.toList p.flagCount r' := by
  have hflags := gains_iterate_moreVerbose hr p.flagCount
  unfold after?
  cases hp : p.value? with
  | none => exact Option.some_inj.trans hflags.eq_iff
  | some given =>
    obtain ⟨s, v⟩ := given
    calc (moreVerbose^[p.flagCount] r).give? s v.toList = some r'
        ↔ (moreVerbose^[p.flagCount] r).Gains [(s, v)] 0 r' :=
          give?_eq_some_iff hflags.verbosity_le s (p.value_ne_empty hp)
      _ ↔ ∃ between, r.Gains [] p.flagCount between ∧ between.Gains [(s, v)] 0 r' := by
          simp only [← hflags.eq_iff, exists_eq_left']
      _ ↔ r.Gains [(s, v)] p.flagCount r' := gains_append_iff.symm

end Request

end DiagnosticPage.CommandLine
