import DiagnosticPage.Json.Fault

/-!
# Numerals

A numeral is first read as a literal, its digits kept apart, and then given its value.  The digits
go into a significand of 64 bits as far as they fit.  A numeral without fraction and exponent is a
whole number if all its digits fit and its sign allows it; any other numeral is a floating point
number, the significand scaled once by a power of ten.
-/

namespace DiagnosticPage.Json

/-- A numeral as written. -/
structure Literal where
  negative : Bool
  whole : List Char
  /-- The digits behind the point, if there is one. -/
  fraction : Option (List Char)
  /-- Whether the exponent is negative, and its digits, if there is one. -/
  exponent : Option (Bool × List Char)
deriving DecidableEq

/-- The value of a numeral. -/
inductive Numeral where
  | natural (n : Nat)
  /-- The negative of a positive whole number. -/
  | negative (n : Nat)
  | decimal (x : Float)
deriving DecidableEq

/-- The word for a number where something else was expected. -/
def Numeral.found : Numeral → Found
  | natural n => .integer n
  | negative n => .integer (-n)
  | decimal x => .decimal x

namespace Literal

/-! ## Reading a literal -/

/-- A text that is not a numeral: the place of the fault, and whether the document ends there. -/
structure Break where
  atEnd : Bool
  place : Place
deriving DecidableEq

/-- The break where the next character is not the digit that has to stand there.  Its place is
behind the first byte of that character. -/
def breakAt (p : Place) : List Char → Break
  | [] => ⟨true, p⟩
  | c :: _ => ⟨false, p.pastByte c⟩

/-- What has been read, with the place behind it and the rest of the text. -/
abbrev Reading (α : Type) := α × Place × List Char

/-- Reads the digits before the point.  A zero stands alone. -/
def readWhole (p : Place) (cs : List Char) : Except Break (Reading (List Char)) :=
  match cs.takeWhile Char.isDigit with
  | [] => .error (breakAt p cs)
  | ['0'] => .ok (['0'], p.forward 1, cs.drop 1)
  | '0' :: _ => .error (breakAt (p.forward 1) (cs.drop 1))
  | ds => .ok (ds, p.forward ds.length, cs.dropWhile Char.isDigit)

/-- Reads a point and the digits behind it, if there is a point. -/
def readFraction (p : Place) : List Char → Except Break (Reading (Option (List Char)))
  | '.' :: cs =>
    match cs.takeWhile Char.isDigit with
    | [] => .error (breakAt (p.forward 1) cs)
    | ds => .ok (some ds, p.forward (1 + ds.length), cs.dropWhile Char.isDigit)
  | cs => .ok (none, p, cs)

/-- Reads the sign of an exponent, if there is one. -/
def readSign (p : Place) : List Char → Bool × Place × List Char
  | '+' :: cs => (false, p.forward 1, cs)
  | '-' :: cs => (true, p.forward 1, cs)
  | cs => (false, p, cs)

/-- Reads an exponent, if there is one. -/
def readExponent (p : Place) : List Char → Except Break (Reading (Option (Bool × List Char)))
  | [] => .ok (none, p, [])
  | c :: cs =>
    if c = 'e' ∨ c = 'E' then
      let (negative, p, cs) := readSign (p.forward 1) cs
      match cs.takeWhile Char.isDigit with
      | [] => .error (breakAt p cs)
      | ds => .ok (some (negative, ds), p.forward ds.length, cs.dropWhile Char.isDigit)
    else .ok (none, p, c :: cs)

/-- Reads a minus sign, if there is one. -/
def readMinus (p : Place) : List Char → Bool × Place × List Char
  | '-' :: cs => (true, p.forward 1, cs)
  | cs => (false, p, cs)

/-- Reads a numeral. -/
def read (p : Place) (cs : List Char) : Except Break (Reading Literal) := do
  let (negative, p, cs) := readMinus p cs
  let (whole, p, cs) ← readWhole p cs
  let (fraction, p, cs) ← readFraction p cs
  let (exponent, p, cs) ← readExponent p cs
  return (⟨negative, whole, fraction, exponent⟩, p, cs)

/-! ## The value of a literal -/

/-- The value of a decimal digit. -/
def digitValue (c : Char) : Nat :=
  c.toNat - '0'.toNat

/-- Appends digits to a number as long as it stays within a bound.  The digits left over begin
with the first one that does not fit. -/
def absorb (bound n : Nat) : List Char → Nat × List Char
  | [] => (n, [])
  | d :: ds =>
    if n * 10 + digitValue d ≤ bound then absorb bound (n * 10 + digitValue d) ds else (n, d :: ds)

/-- A number scaled by `10 ^ -e`, in steps of at most `10 ^ 308`. -/
def scaleDown (x : Float) (e : Nat) : Float :=
  if e ≤ 308 then x / Float.ofScientific 1 false e
  else if x == 0 then x
  else scaleDown (x / Float.ofScientific 1 false 308) (e - 308)
termination_by e

/-- A number scaled by `10 ^ e`, unless it becomes too large for a finite number. -/
def scaleUp (x : Float) (e : Nat) : Option Float :=
  if e ≤ 308 then
    let y := x * Float.ofScientific 1 false e
    if y.isInf then none else some y
  else if x == 0 then some x
  else none

/-- The floating point number nearest to a significand, scaled by a power of ten. -/
def scaled (significand : Nat) (exponent : Int) : Option Float :=
  if 0 ≤ exponent then scaleUp (Float.ofNat significand) exponent.toNat
  else some (scaleDown (Float.ofNat significand) exponent.natAbs)

/-- A floating point number with the sign of its literal. -/
def signed (l : Literal) (x : Float) : Numeral :=
  .decimal (if l.negative then -x else x)

/-- The greatest significand. -/
def greatestSignificand : Nat := UInt64.size - 1

/-- The greatest exponent that is told apart from larger ones. -/
def greatestExponent : Nat := Nat.pow 2 31 - 1

/-- The floating point value of a literal with the given significand, which the exponent of the
literal scales further.  The place is the one behind the literal; an exponent beyond all bounds is
noticed at the digit that makes it so. -/
def decimalValue (l : Literal) (p : Place) (significand : Nat) (exponent : Int) :
    Except Fault Numeral :=
  let finish (e : Int) : Except Fault Numeral :=
    match scaled significand e with
    | none => .error ⟨.numberOutOfRange, p⟩
    | some x => .ok (l.signed x)
  match l.exponent with
  | none => finish exponent
  | some (negative, ds) =>
    match absorb greatestExponent 0 ds with
    | (e, []) => finish (if negative then exponent - e else exponent + e)
    | (_, _ :: unread) =>
      if significand ≠ 0 ∧ negative = false then
        .error ⟨.numberOutOfRange, ⟨p.line, p.column - unread.length⟩⟩
      else .ok (l.signed 0)

/-- The value of a literal that ends at the given place. -/
def value (l : Literal) (p : Place) : Except Fault Numeral :=
  let (significand, unread) := absorb greatestSignificand 0 l.whole
  match l.fraction, l.exponent, unread with
  | none, none, [] =>
    if l.negative then
      if 0 < significand ∧ significand ≤ Nat.pow 2 63 then .ok (.negative significand)
      else .ok (.decimal (-Float.ofNat significand))
    else .ok (.natural significand)
  | none, _, unread => l.decimalValue p significand unread.length
  | some ds, _, unread =>
    let (full, dropped) := absorb greatestSignificand significand ds
    l.decimalValue p full (unread.length - (ds.length - dropped.length))

end Literal

end DiagnosticPage.Json
