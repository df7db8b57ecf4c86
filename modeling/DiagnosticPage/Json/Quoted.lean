import DiagnosticPage.Json.Fault

/-!
# Quoted texts in a document

The body of a quoted text is read up to its closing quote.  Escapes of four hexadecimal digits give
UTF-16 units, of which two may be needed for a character; a text that is only skipped is not
checked for units that do not pair up, and a control character in it is looked at but not read.
-/

namespace DiagnosticPage.Json

namespace Quoted

/-- The value of a hexadecimal digit. -/
def hexValue? (c : Char) : Option Nat :=
  if '0' ≤ c ∧ c ≤ '9' then some (c.toNat - '0'.toNat)
  else if 'a' ≤ c ∧ c ≤ 'f' then some (c.toNat - 'a'.toNat + 10)
  else if 'A' ≤ c ∧ c ≤ 'F' then some (c.toNat - 'A'.toNat + 10)
  else none

/-- The number that the first four characters of a text spell in hexadecimal digits. -/
def fourHex? : List Char → Option Nat
  | a :: b :: c :: d :: _ =>
    [a, b, c, d].foldlM (fun n x => (hexValue? x).map (n * 16 + ·)) 0
  | _ => none

/-- The place a number of bytes further on in a text, if the text has so many. -/
def placeAfterBytes (p : Place) : Nat → List Char → Option Place
  | 0, _ => some p
  | _ + 1, [] => none
  | n + 1, c :: cs =>
    placeAfterBytes (p.pastBytes c (min c.utf8Size (n + 1))) (n + 1 - c.utf8Size) cs

/-- The UTF-16 unit that four hexadecimal digits spell. -/
def unit (p : Place) (cs : List Char) : Except Fault Nat :=
  match fourHex? cs with
  | some n => .ok n
  | none =>
    match placeAfterBytes p 4 cs with
    | none => .error ⟨.endInText, p.pastAll cs⟩
    | some q => .error ⟨.badEscape, q⟩

/-- A character that an escape stands for, with the length of the escape and the place behind it. -/
abbrev Escape := Char × Nat × Place

/-- Whether a UTF-16 unit opens a pair. -/
def isHighSurrogate (n : Nat) : Bool :=
  0xd800 ≤ n && n ≤ 0xdbff

/-- Whether a UTF-16 unit closes a pair. -/
def isLowSurrogate (n : Nat) : Bool :=
  0xdc00 ≤ n && n ≤ 0xdfff

/-- The second unit of a pair, read with the backslash and the letter before it. -/
def secondUnit (p : Place) : List Char → Except Fault Nat
  | [] => .error ⟨.endInText, p⟩
  | c :: cs =>
    if c ≠ '\\' then .error ⟨.unfinishedSurrogatePair, p.pastByte c⟩
    else
      match cs with
      | [] => .error ⟨.endInText, p.forward 1⟩
      | d :: ds =>
        if d ≠ 'u' then .error ⟨.unfinishedSurrogatePair, (p.forward 1).pastByte d⟩
        else unit (p.forward 2) ds

/-- The character that an escape by UTF-16 units stands for; the text begins behind the `u`.
Unless `strict`, a unit stands for itself. -/
def unicodeEscape (strict : Bool) (p : Place) (cs : List Char) : Except Fault Escape := do
  let n ← unit p cs
  let q := p.forward 4
  if strict then
    if isLowSurrogate n then .error ⟨.loneSurrogate, q⟩
    else if isHighSurrogate n then do
      let m ← secondUnit q (cs.drop 4)
      if isLowSurrogate m then
        .ok (Char.ofNat (0x10000 + (n - 0xd800) * 0x400 + (m - 0xdc00)), 10, q.forward 6)
      else .error ⟨.loneSurrogate, q.forward 6⟩
    else .ok (Char.ofNat n, 4, q)
  else .ok (Char.ofNat n, 4, q)

/-- The character that a letter behind a backslash stands for. -/
def simpleEscape? : Char → Option Char
  | '"' => some '"'
  | '\\' => some '\\'
  | '/' => some '/'
  | 'b' => some '\x08'
  | 'f' => some '\x0c'
  | 'n' => some '\n'
  | 'r' => some '\r'
  | 't' => some '\t'
  | _ => none

/-- The character that an escape stands for; the text begins behind the backslash. -/
def escape (strict : Bool) (p : Place) : List Char → Except Fault Escape
  | [] => .error ⟨.endInText, p⟩
  | c :: cs =>
    if c = 'u' then do
      let (ch, length, q) ← unicodeEscape strict (p.forward 1) cs
      return (ch, length + 1, q)
    else
      match simpleEscape? c with
      | some ch => .ok (ch, 1, p.forward 1)
      | none => .error ⟨.badEscape, p.pastByte c⟩

/-- Reads the body of a quoted text behind its opening quote.  The first number counts the
characters ahead that belong to an escape already read; the result is the text, the place behind
the closing quote and the rest of the document. -/
def body (strict : Bool) : Nat → Place → List Char → Except Fault (List Char × Place × List Char)
  | _, p, [] => .error ⟨.endInText, p⟩
  | taken + 1, p, _ :: cs => body strict taken p cs
  | 0, p, c :: cs =>
    if c = '"' then .ok ([], p.forward 1, cs)
    else if c = '\\' then
      match escape strict (p.forward 1) cs with
      | .error f => .error f
      | .ok (ch, length, q) =>
        match body strict length q cs with
        | .error f => .error f
        | .ok (text, rest) => .ok (ch :: text, rest)
    else if c.toNat < 0x20 then .error ⟨.controlCharacter, if strict then p.past c else p⟩
    else
      match body strict 0 (p.past c) cs with
      | .error f => .error f
      | .ok (text, rest) => .ok (c :: text, rest)

end Quoted

end DiagnosticPage.Json
