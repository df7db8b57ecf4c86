import DiagnosticPage.Decimal.Shortest
import DiagnosticPage.Text.Quoted

/-!
# Faults of a document

Reading stops at the first fault of a document.  A fault has a cause and a place; the place is
given by the line and by the number of bytes since the line began.
-/

namespace DiagnosticPage.Json

/-- A place in a document. -/
structure Place where
  /-- The line, counted from one. -/
  line : Nat
  /-- The bytes between the start of the line and the place. -/
  column : Nat
deriving DecidableEq

namespace Place

/-- The place where a document begins. -/
def start : Place :=
  ⟨1, 0⟩

/-- The place a number of bytes further on in the same line. -/
def forward (p : Place) (bytes : Nat) : Place :=
  ⟨p.line, p.column + bytes⟩

/-- The place behind a number of bytes of a character. -/
def pastBytes (p : Place) (c : Char) (bytes : Nat) : Place :=
  if c = '\n' ∧ 0 < bytes then ⟨p.line + 1, 0⟩ else p.forward bytes

/-- The place behind a character. -/
def past (p : Place) (c : Char) : Place :=
  p.pastBytes c c.utf8Size

/-- The place behind the first byte of a character. -/
def pastByte (p : Place) (c : Char) : Place :=
  p.pastBytes c 1

/-- The place behind a text. -/
def pastAll (p : Place) (cs : List Char) : Place :=
  cs.foldl past p

end Place

/-- What the reader of a document hopes to find at a place. -/
inductive Expected where
  | boolean
  | text
  /-- A whole number below `2 ^ 32`. -/
  | word32
  /-- A whole number below `2 ^ 64`. -/
  | word64
  | list
  | record (name : String)
  /-- The value `null`. -/
  | nothing
deriving DecidableEq

/-- What stands at a place instead. -/
inductive Found where
  | null
  | boolean (b : Bool)
  | integer (n : Int)
  | decimal (x : Float)
  | text (s : String)
  | list
  | object
deriving DecidableEq

/-- Why a document cannot be read. -/
inductive Cause where
  | endInValue
  | endInList
  | endInObject
  | endInText
  | expectedColon
  | expectedListDelimiter
  | expectedObjectDelimiter
  | expectedWord
  | expectedValue
  | badEscape
  | badNumber
  | numberOutOfRange
  | controlCharacter
  | keyNotText
  | loneSurrogate
  | unfinishedSurrogatePair
  | trailingComma
  | trailingCharacters
  | tooManyLevels
  | duplicateField (name : String)
  | missingField (name : String)
  | wrongType (found : Found) (expected : Expected)
  | wrongValue (found : Int) (expected : Expected)
  | wrongLength (length : Nat) (record : String) (fields : Nat)
deriving DecidableEq

/-- A cause together with its place. -/
structure Fault where
  cause : Cause
  place : Place
deriving DecidableEq

/-- A whole number in decimal digits, with a minus sign if it is negative. -/
def writeInt (n : Int) : String :=
  String.ofList ((if n < 0 then ['-'] else []) ++ Nat.toDigits 10 n.natAbs)

/-- Numbers in fault texts are plain from a hundred thousandth up to below ten quadrillions. -/
def decimalLayout : Decimal.Layout :=
  ⟨-5, 15⟩

/-- The words for what a reader hopes to find. -/
def Expected.message : Expected → String
  | boolean => "a boolean"
  | text => "a string"
  | word32 => "u32"
  | word64 => "usize"
  | list => "a sequence"
  | record name => "struct " ++ name
  | nothing => "unit"

/-- The words for what a reader finds. -/
def Found.message : Found → String
  | null => "null"
  | boolean true => "boolean `true`"
  | boolean false => "boolean `false`"
  | integer n => "integer `" ++ writeInt n ++ "`"
  | decimal x => "floating point `" ++ String.ofList (Decimal.write decimalLayout x) ++ "`"
  | text s => "string " ++ Text.quote s
  | list => "sequence"
  | object => "map"

/-- The words for a cause. -/
def Cause.message : Cause → String
  | endInValue => "EOF while parsing a value"
  | endInList => "EOF while parsing a list"
  | endInObject => "EOF while parsing an object"
  | endInText => "EOF while parsing a string"
  | expectedColon => "expected `:`"
  | expectedListDelimiter => "expected `,` or `]`"
  | expectedObjectDelimiter => "expected `,` or `\x7d`"
  | expectedWord => "expected ident"
  | expectedValue => "expected value"
  | badEscape => "invalid escape"
  | badNumber => "invalid number"
  | numberOutOfRange => "number out of range"
  | controlCharacter => "control character (\\u0000-\\u001F) found while parsing a string"
  | keyNotText => "key must be a string"
  | loneSurrogate => "lone leading surrogate in hex escape"
  | unfinishedSurrogatePair => "unexpected end of hex escape"
  | trailingComma => "trailing comma"
  | trailingCharacters => "trailing characters"
  | tooManyLevels => "recursion limit exceeded"
  | duplicateField name => "duplicate field `" ++ name ++ "`"
  | missingField name => "missing field `" ++ name ++ "`"
  | wrongType found expected =>
    "invalid type: " ++ found.message ++ ", expected " ++ expected.message
  | wrongValue found expected =>
    "invalid value: integer `" ++ writeInt found ++ "`, expected " ++ expected.message
  | wrongLength length record fields =>
    "invalid length " ++ writeInt length ++ ", expected struct " ++ record ++ " with " ++
      writeInt fields ++ " elements"

/-- The words for a fault: its cause and its place. -/
def Fault.message (f : Fault) : String :=
  f.cause.message ++ " at line " ++ writeInt f.place.line ++ " column " ++ writeInt f.place.column

end DiagnosticPage.Json
