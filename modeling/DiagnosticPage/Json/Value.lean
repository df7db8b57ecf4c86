import DiagnosticPage.Json.Numeral

/-!
# Values and their compact text

A value is a document without its layout.  The compact text of a value has no blanks, and escapes
in its texts only what has to be escaped: the quote, the backslash and the control characters.
-/

namespace DiagnosticPage.Json

/-- A value.  The members of an object are in order, and their keys may repeat. -/
inductive Value where
  | null
  | boolean (b : Bool)
  | number (l : Literal)
  | text (s : String)
  | list (items : List Value)
  | object (members : List (String × Value))

/-- The literal of a natural number. -/
def Literal.ofNat (n : Nat) : Literal :=
  ⟨false, Nat.toDigits 10 n, none, none⟩

/-- A literal as written. -/
def Literal.write (l : Literal) : List Char :=
  (if l.negative then ['-'] else []) ++ l.whole ++
    (match l.fraction with
      | none => []
      | some ds => '.' :: ds) ++
    match l.exponent with
    | none => []
    | some (negative, ds) => ['e'] ++ (if negative then ['-'] else []) ++ ds

/-- A control character by its code, in four hexadecimal digits. -/
def writeUnit (n : Nat) : List Char :=
  ['\\', 'u', '0', '0', Nat.digitChar (n / 16), Nat.digitChar (n % 16)]

/-- One character of a text as written. -/
def writeChar (c : Char) : List Char :=
  match c with
  | '"' => ['\\', '"']
  | '\\' => ['\\', '\\']
  | '\x08' => ['\\', 'b']
  | '\x0c' => ['\\', 'f']
  | '\n' => ['\\', 'n']
  | '\r' => ['\\', 'r']
  | '\t' => ['\\', 't']
  | c => if c.toNat < 0x20 then writeUnit c.toNat else [c]

/-- A text as written, between quotes. -/
def writeText (s : String) : List Char :=
  ['"'] ++ s.toList.flatMap writeChar ++ ['"']

namespace Value

mutual

/-- The compact text of a value. -/
def write : Value → List Char
  | null => ['n', 'u', 'l', 'l']
  | boolean true => ['t', 'r', 'u', 'e']
  | boolean false => ['f', 'a', 'l', 's', 'e']
  | number l => l.write
  | text s => writeText s
  | list items => ['['] ++ writeItems items ++ [']']
  | object members => ['\x7b'] ++ writeMembers members ++ ['\x7d']

/-- The items of a list, with commas between them. -/
def writeItems : List Value → List Char
  | [] => []
  | [v] => write v
  | v :: vs => write v ++ [','] ++ writeItems vs

/-- The members of an object, with commas between them. -/
def writeMembers : List (String × Value) → List Char
  | [] => []
  | [m] => writeMember m
  | m :: ms => writeMember m ++ [','] ++ writeMembers ms

/-- A member of an object, with a colon behind its key. -/
def writeMember : String × Value → List Char
  | (key, v) => writeText key ++ [':'] ++ write v

end

end Value

end DiagnosticPage.Json
