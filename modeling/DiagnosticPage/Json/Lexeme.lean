import DiagnosticPage.Json.Numeral
import DiagnosticPage.Json.Quoted

/-!
# Lexemes

A document is first cut into lexemes.  A lexeme knows what it is and the places before and behind
it.  Faults inside a lexeme do not stop anything yet: the lexeme carries them, because they count
only if the reader comes that far, and because a numeral or a text that is merely skipped is held
to its spelling alone.  Behind a misspelled lexeme nothing more is cut.
-/

namespace DiagnosticPage.Json

/-- The words of a document, told apart by their first letters. -/
inductive Word where
  | null
  | true
  | false
deriving DecidableEq

/-- What a lexeme is.  Words, numerals and texts come with the fault in their spelling if there is
one; the value of a numeral or a text may have a fault of its own. -/
inductive Token where
  | openList
  | closeList
  | openObject
  | closeObject
  | comma
  | colon
  | word (w : Word) (spelled : Except Fault Unit)
  | number (value : Except Fault Numeral) (spelled : Except Fault Unit)
  | text (value : Except Fault String) (spelled : Except Fault Unit)
  /-- A character that begins no other lexeme. -/
  | stray
  /-- The end of the document. -/
  | finish

/-- A piece of a document. -/
structure Lexeme where
  token : Token
  /-- The place where the lexeme begins. -/
  before : Place
  /-- The place behind the lexeme. -/
  behind : Place

namespace Lexeme

/-- The place given in a complaint about a lexeme that has only been looked at: behind its first
byte, or at the end of the document. -/
def looked (l : Lexeme) : Place :=
  match l.token with
  | .finish => l.before
  | _ => l.before.forward 1

/-- The fault that a lexeme has by a cause at the place where it was looked at. -/
def fault (l : Lexeme) (cause : Cause) : Fault :=
  ⟨cause, l.looked⟩

/-- The end of a document. -/
def atEnd (p : Place) : Lexeme :=
  ⟨.finish, p, p⟩

end Lexeme

/-! ## Cutting a document -/

/-- The letters of a word behind its first one. -/
def Word.tail : Word → List Char
  | null => ['u', 'l', 'l']
  | true => ['r', 'u', 'e']
  | false => ['a', 'l', 's', 'e']

/-- Reads the given letters, and gives the place and the text behind them. -/
def spell : List Char → Place → List Char → Except Fault (Place × List Char)
  | [], p, cs => .ok (p, cs)
  | _ :: _, p, [] => .error ⟨.endInValue, p⟩
  | letter :: letters, p, c :: cs =>
    if c = letter then spell letters (p.past c) cs else .error ⟨.expectedWord, p.pastByte c⟩

/-- A lexeme and the text behind it, of which nothing is read if the lexeme is misspelled. -/
abbrev Cutting := Lexeme × List Char

/-- A lexeme of one character. -/
def cutMark (token : Token) (p : Place) (c : Char) (cs : List Char) : Cutting :=
  (⟨token, p, p.past c⟩, cs)

/-- A word; the text begins behind its first letter. -/
def cutWord (w : Word) (p : Place) (cs : List Char) : Cutting :=
  match spell w.tail (p.forward 1) cs with
  | .error f => (⟨.word w (.error f), p, f.place⟩, [])
  | .ok (q, rest) => (⟨.word w (.ok ()), p, q⟩, rest)

/-- A text; the document goes on behind its opening quote. -/
def cutText (p : Place) (cs : List Char) : Cutting :=
  let value := (Quoted.body Bool.true 0 (p.forward 1) cs).map fun (text, _) => String.ofList text
  match Quoted.body Bool.false 0 (p.forward 1) cs with
  | .error f => (⟨.text value (.error f), p, f.place⟩, [])
  | .ok (_, q, rest) => (⟨.text value (.ok ()), p, q⟩, rest)

/-- A numeral.  Where the document ends within one that is to be valued, its value is what is
missing. -/
def cutNumber (p : Place) (cs : List Char) : Cutting :=
  match Literal.read p cs with
  | .error b =>
    (⟨.number (.error ⟨if b.atEnd then .endInValue else .badNumber, b.place⟩)
      (.error ⟨.badNumber, b.place⟩), p, b.place⟩, [])
  | .ok (l, q, rest) => (⟨.number (l.value q) (.ok ()), p, q⟩, rest)

/-- The lexeme at the front of a text that begins with the given character. -/
def cut (p : Place) (c : Char) (cs : List Char) : Cutting :=
  match c with
  | '[' => cutMark .openList p c cs
  | ']' => cutMark .closeList p c cs
  | '\x7b' => cutMark .openObject p c cs
  | '\x7d' => cutMark .closeObject p c cs
  | ',' => cutMark .comma p c cs
  | ':' => cutMark .colon p c cs
  | 'n' => cutWord .null p cs
  | 't' => cutWord .true p cs
  | 'f' => cutWord .false p cs
  | '"' => cutText p cs
  | c => if c = '-' ∨ c.isDigit then cutNumber p (c :: cs) else cutMark .stray p c cs

/-- Whether a character may stand between lexemes. -/
def isBlank (c : Char) : Bool :=
  c == ' ' || c == '\n' || c == '\t' || c == '\r'

/-- The lexemes of a text, and the place where cutting it ends. -/
structure Lexemes where
  list : List Lexeme
  stop : Place

/-- Cuts a text into lexemes.  The number counts the characters ahead that belong to a lexeme
already cut. -/
def lexemesFrom : Nat → Place → List Char → Lexemes
  | _, p, [] => ⟨[], p⟩
  | taken + 1, p, _ :: cs => lexemesFrom taken p cs
  | 0, p, c :: cs =>
    if isBlank c then lexemesFrom 0 (p.past c) cs
    else
      let (l, rest) := cut p c cs
      let more := lexemesFrom (cs.length - rest.length) l.behind cs
      ⟨l :: more.list, more.stop⟩

/-- The lexemes of a document. -/
def lexemes (document : List Char) : Lexemes :=
  lexemesFrom 0 .start document

end DiagnosticPage.Json
