import DiagnosticPage.Text.GraphemeExtend
import DiagnosticPage.Text.Unprintable

/-!
# Quoted text

A text that an error message repeats stands between double quotes, and whatever would be hard to
see in it is spelled out: the quote and the backslash with a backslash in front, four control
characters with a letter, and any other unprintable or combining character by its code point.
-/

namespace DiagnosticPage.Text

/-- A code point in braces, in lower case hexadecimal digits without padding. -/
def codePoint (c : Char) : List Char :=
  ['\\', 'u', '\x7b'] ++ Nat.toDigits 16 c.toNat ++ ['\x7d']

/-- One character of a quoted text. -/
def quoteChar (c : Char) : List Char :=
  match c with
  | '"' => ['\\', '"']
  | '\\' => ['\\', '\\']
  | '\x00' => ['\\', '0']
  | '\t' => ['\\', 't']
  | '\n' => ['\\', 'n']
  | '\r' => ['\\', 'r']
  | c => if isUnprintable c || isGraphemeExtend c then codePoint c else [c]

/-- A text between double quotes, with nothing invisible in it. -/
def quote (s : String) : String :=
  String.ofList (['"'] ++ s.toList.flatMap quoteChar ++ ['"'])

end DiagnosticPage.Text
