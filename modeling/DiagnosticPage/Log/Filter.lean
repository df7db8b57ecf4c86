import DiagnosticPage.Log

/-!
# Log filters

A filter is a list of directives, separated by commas.  A directive is a level for all targets, a
target with or without a level, or a target and a span in brackets; the program has no spans, so a
directive for one selects nothing.  Of the directives whose target an event's target begins with,
the one with the longest target decides, and the last one of several for the same target.
-/

namespace DiagnosticPage.Log

/-- What a directive lets through. -/
structure Directive where
  /-- The beginning of the targets that the directive is about. -/
  target : List Char
  /-- The rank of the least important level that passes. -/
  rank : Nat
deriving DecidableEq

/-- A list of directives. -/
abbrev Filter := List Directive

/-- The value of a number in decimal digits, with or without a plus sign. -/
def decimal? (s : List Char) : Option Nat :=
  let digits := match s with
    | '+' :: ds => ds
    | ds => ds
  if digits.isEmpty || !digits.all Char.isDigit then none
  else some (digits.foldl (fun n d => n * 10 + (d.toNat - '0'.toNat)) 0)

/-- The rank that a level's name or number stands for, `0` being no level at all. -/
def rank? (s : List Char) : Option Nat :=
  match decimal? s with
  | some n => if n ≤ 5 then some n else none
  | none =>
    match String.ofList (s.map Char.toLower) with
    | "off" => some 0
    | "error" => some 1
    | "warn" => some 2
    | "info" => some 3
    | "debug" => some 4
    | "trace" => some 5
    | _ => none

/-- Whether a directive may begin with a character. -/
def opensTarget (c : Char) : Bool :=
  c.isAlphanum || c == '_' || c == '-' || c == ':' || 0x80 ≤ c.toNat

/-- The rank behind the equals sign of a directive; nothing there means every level. -/
def rankAfter? : List Char → Option Nat
  | [] => some 5
  | s => rank? s

/-- The directives in one part of a filter's text: none for a span, otherwise one.  A part that is
no directive has no value. -/
def directive? (s : List Char) : Option (List Directive) :=
  match s with
  | [] => none
  | c :: _ =>
    let target := s.takeWhile fun c => c != '=' && c != '['
    match s.dropWhile fun c => c != '=' && c != '[' with
    | [] =>
      if !opensTarget c then none
      else
        match rank? s with
        | some rank => some [⟨[], rank⟩]
        | none => some [⟨s, 5⟩]
    | '=' :: rest =>
      if !opensTarget c then none
      else (rankAfter? rest).map fun rank => [⟨target, rank⟩]
    | _ :: rest =>
      if c != '[' && !opensTarget c then none
      else
        match rest.dropWhile (· != ']') with
        | [']'] => some []
        | ']' :: '=' :: level => (rankAfter? level).map fun _ => []
        | _ => none

/-- The parts of a text between its commas. -/
def splitCommas : List Char → List (List Char)
  | [] => [[]]
  | c :: cs =>
    if c = ',' then [] :: splitCommas cs
    else
      match splitCommas cs with
      | [] => [[c]]
      | part :: parts => (c :: part) :: parts

namespace Filter

/-- The filter that a text describes.  A text without any directive lets errors through. -/
def ofText? (s : String) : Option Filter :=
  let parts := (splitCommas s.toList).filter fun part => !part.isEmpty
  if parts.isEmpty then some [⟨[], 1⟩]
  else (parts.mapM directive?).map List.flatten

/-- The filter for a number of requests to say more. -/
def ofVerbosity (n : Nat) : Filter :=
  [⟨"flow_report".toList, if n = 0 then 2 else if n = 1 then 3 else 4⟩]

/-- The filter of a run: the given one if there is one and it can be read. -/
def choose (given : Option String) (verbosity : Nat) : Filter :=
  match given.bind ofText? with
  | some f => f
  | none => ofVerbosity verbosity

/-- The rank of the least important level that passes for a target. -/
def rankFor (f : Filter) (target : List Char) : Nat :=
  (f.foldl
    (fun (best : Option Directive) d =>
      if !d.target.isPrefixOf target then best
      else
        match best with
        | none => some d
        | some b => if b.target.length ≤ d.target.length then some d else best)
    none).elim 0 Directive.rank

/-- Whether an event passes. -/
def passes (f : Filter) (e : Event) : Bool :=
  e.level.rank ≤ f.rankFor e.target.toList

end Filter

end DiagnosticPage.Log
