/-!
# The shortest decimal of a floating point number

A binary floating point number stands for every real number that rounds to it.  Among the decimals
in that interval `shortest` takes one on the coarsest grid of powers of ten that has any, and of
two on that grid the nearer one.  The interval is found exactly: a number `m · 2 ^ q` reaches half
a unit `2 ^ q` up and half a unit down, or a quarter down where the spacing below it is half as
wide, and its ends belong to it when `m` is even.
-/

namespace DiagnosticPage.Decimal

/-- The significand and the exponent of two of a finite number, its sign aside. -/
def parts (x : Float) : Nat × Int :=
  let bits : Nat := x.toBits.toNat
  let fraction : Nat := bits % Nat.pow 2 52
  let exponent : Nat := bits / Nat.pow 2 52 % Nat.pow 2 11
  if exponent = 0 then (fraction, -1074) else (fraction + Nat.pow 2 52, (exponent : Int) - 1075)

/-- Whether the sign bit of a number is set. -/
def isNegative (x : Float) : Bool :=
  x.toBits.toNat / Nat.pow 2 63 == 1

/-- A power of a base as a fraction. -/
def powerRatio (base : Nat) (exponent : Int) : Nat × Nat :=
  (Nat.pow base exponent.toNat, Nat.pow base (-exponent).toNat)

/-- The point on the grid of multiples of `10 ^ k` that rounds to `m · 2 ^ q` and is nearest to it,
if any point does.  An exact tie goes to the even multiple.  All quantities are compared after a
multiplication by `4 · bottom`, which makes them whole. -/
def onGrid (m : Nat) (q k : Int) : Option Nat :=
  let (twoTop, twoBottom) := powerRatio 2 q
  let (tenTop, tenBottom) := powerRatio 10 k
  let unit := twoTop * tenBottom
  let bottom := twoBottom * tenTop
  let value := 4 * m * unit
  let low := (if m = Nat.pow 2 52 ∧ q ≠ -1074 then 4 * m - 1 else 4 * m - 2) * unit
  let high := (4 * m + 2) * unit
  let inside (c : Nat) : Bool :=
    if m % 2 = 0 then low ≤ 4 * c * bottom && 4 * c * bottom ≤ high
    else low < 4 * c * bottom && 4 * c * bottom < high
  let c := value / (4 * bottom)
  match inside c, inside (c + 1) with
  | false, false => none
  | true, false => some c
  | false, true => some (c + 1)
  | true, true =>
    let down := value - 4 * c * bottom
    let up := 4 * (c + 1) * bottom - value
    if down < up ∨ (down = up ∧ c % 2 = 0) then some c else some (c + 1)

/-- Looks for a point on the grids of `10 ^ (n - 325)` and below, the coarsest one first. -/
def search (m : Nat) (q : Int) : Nat → Nat × Int
  | 0 => (0, 0)
  | n + 1 =>
    let k : Int := (n : Int) - 324
    match onGrid m q k with
    | some c => (c, k)
    | none => search m q n

/-- The digits of the shortest decimal, and the power of ten of its last digit. -/
def shortest (m : Nat) (q : Int) : Nat × Int :=
  if m = 0 then (0, 0) else search m q 634

/-- How the digits of a number are laid out. -/
structure Layout where
  /-- The least power of ten of the first digit that is written without an exponent. -/
  leastPlain : Int
  /-- The greatest power of ten of the first digit that is written without an exponent. -/
  greatestPlain : Int
deriving DecidableEq

/-- Digits with a point in them.  A whole number has one zero behind its point. -/
def plain (digits : List Char) (last : Int) : List Char :=
  if 0 ≤ last then digits ++ List.replicate last.toNat '0' ++ ['.', '0']
  else
    let places := (-last).toNat
    if places < digits.length then
      digits.take (digits.length - places) ++ ['.'] ++ digits.drop (digits.length - places)
    else ['0', '.'] ++ List.replicate (places - digits.length) '0' ++ digits

/-- Digits with the point behind the first of them and an exponent that always has a sign. -/
def scientific (digits : List Char) (lead : Int) : List Char :=
  let fraction := digits.drop 1
  digits.take 1 ++ (if fraction.isEmpty then [] else '.' :: fraction) ++
    ['e', if lead < 0 then '-' else '+'] ++ Nat.toDigits 10 lead.natAbs

/-- The text of a finite number. -/
def write (layout : Layout) (x : Float) : List Char :=
  let (m, q) := parts x
  let (c, last) := shortest m q
  let digits := Nat.toDigits 10 c
  let lead := last + digits.length - 1
  (if isNegative x then ['-'] else []) ++
    if layout.leastPlain ≤ lead ∧ lead ≤ layout.greatestPlain then plain digits last
    else scientific digits lead

end DiagnosticPage.Decimal
