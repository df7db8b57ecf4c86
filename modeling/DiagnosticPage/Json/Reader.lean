import DiagnosticPage.Json.Node

/-!
# Reading values of known types

A reader takes a tree to a value of a known type, or to the first fault in the order of the text.
Records may be written as objects or, field by field, as lists; an object may have members that
the record does not know, and these are only held to the grammar.  Readers of containers are given
the readers for what lies one level further down, or none when no level is left, and then refuse to
be opened.

The readers of single values, `Reader.list` and `Reader.record` are put together to readers of
whole types; `Node.skip` stands in for a reader where a value is not wanted.
-/

namespace DiagnosticPage.Json

/-- Takes a value of a known type out of a tree. -/
abbrev Reader (α : Type) := Node → Except Fault α

/-! ## Values that are only skipped -/

/-- The fault of a list that does not go on with a comma or end at the given lexeme. -/
def listFault (l : Lexeme) : Fault :=
  match l.token with
  | .finish => l.fault .endInList
  | _ => l.fault .expectedListDelimiter

/-- The fault of an object that does not go on with a member or end at the given lexeme.  In front
of its first member it is a key that is missing. -/
def objectFault (first : Bool) (l : Lexeme) : Fault :=
  match l.token with
  | .finish => l.fault .endInObject
  | _ => l.fault (if first then .keyNotText else .expectedObjectDelimiter)

/-- The fault of a key that no colon follows. -/
def colonFault (l : Lexeme) : Fault :=
  match l.token with
  | .finish => l.fault .endInObject
  | _ => l.fault .expectedColon

/-- Whether the spelling of a lexeme is sound. -/
def Lexeme.spelled (l : Lexeme) : Except Fault Unit :=
  match l.token with
  | .word _ s | .number _ s | .text _ s => s
  | .finish => .error (l.fault .endInValue)
  | _ => .error (l.fault .expectedValue)

mutual

/-- Checks that a value is well formed. -/
def Node.skip : Node → Except Fault Unit
  | .leaf l => l.spelled
  | .list _ items => items.skip
  | .object _ members => members.skip true

/-- Checks that the items of a list are well formed. -/
def Items.skip : Items → Except Fault Unit
  | .stop l =>
    match l.token with
    | .closeList => .ok ()
    | _ => .error (listFault l)
  | .item v rest => do
    v.skip
    rest.skip

/-- Checks that the members of an object are well formed. -/
def Members.skip (first : Bool) : Members → Except Fault Unit
  | .stop l =>
    match l.token with
    | .closeObject => .ok ()
    | _ => .error (objectFault first l)
  | .noKey _ l => .error (objectFault true l)
  | .noColon _ key l => do
    key.spelled
    .error (colonFault l)
  | .member _ key _ v rest => do
    key.spelled
    v.skip
    rest.skip false

end

/-! ## Values without parts -/

namespace Reader

/-- The fault of a value that is of another type than expected.  A word, a numeral or a text is
read before it is found to be of a wrong type. -/
def wrongType (expected : Expected) : Node → Fault
  | .list o _ => ⟨.wrongType .list expected, o.before⟩
  | .object o _ => ⟨.wrongType .object expected, o.before⟩
  | .leaf l =>
    match l.token with
    | .word _ (.error f) | .number (.error f) _ | .text (.error f) _ => f
    | .word .null (.ok _) => ⟨.wrongType .null expected, l.behind⟩
    | .word .true (.ok _) => ⟨.wrongType (.boolean true) expected, l.behind⟩
    | .word .false (.ok _) => ⟨.wrongType (.boolean false) expected, l.behind⟩
    | .number (.ok n) _ => ⟨.wrongType n.found expected, l.behind⟩
    | .text (.ok s) _ => ⟨.wrongType (.text s) expected, l.behind⟩
    | .finish => l.fault .endInValue
    | _ => l.fault .expectedValue

/-- Reads `true` or `false`. -/
def boolean : Reader Bool
  | .leaf ⟨.word .true (.ok _), _, _⟩ => .ok true
  | .leaf ⟨.word .false (.ok _), _, _⟩ => .ok false
  | n => .error (wrongType .boolean n)

/-- Reads a text. -/
def text : Reader String
  | .leaf ⟨.text (.ok s) _, _, _⟩ => .ok s
  | n => .error (wrongType .text n)

/-- Reads `null`. -/
def nothing : Reader Unit
  | .leaf ⟨.word .null (.ok _), _, _⟩ => .ok ()
  | n => .error (wrongType .nothing n)

/-- Reads a whole number below a bound. -/
def natural (bound : Nat) (expected : Expected) : Reader Nat
  | .leaf ⟨.number (.ok (.natural n)) _, _, behind⟩ =>
    if n < bound then .ok n else .error ⟨.wrongValue n expected, behind⟩
  | .leaf ⟨.number (.ok (.negative n)) _, _, behind⟩ => .error ⟨.wrongValue (-n) expected, behind⟩
  | n => .error (wrongType expected n)

/-- Reads a whole number of 32 bits. -/
def word32 : Reader UInt32 := fun n =>
  (natural UInt32.size .word32 n).map UInt32.ofNat

/-- Reads a whole number of 64 bits. -/
def word64 : Reader UInt64 := fun n =>
  (natural UInt64.size .word64 n).map UInt64.ofNat

/-- Reads `null` or a value. -/
def nullable (read : Reader α) : Reader (Option α)
  | .leaf ⟨.word .null (.ok _), _, _⟩ => .ok none
  | n => (read n).map some

/-! ## Lists -/

/-- The fault of a comma that closes a list, if that is what the value after it shows. -/
def trailingComma? : Node → Option Fault
  | .leaf l =>
    match l.token with
    | .closeList => some (l.fault .trailingComma)
    | _ => none
  | _ => none

/-- Reads an item that follows a comma unless it is the first one. -/
def item (read : Reader α) (first : Bool) : Reader α := fun n =>
  match first, trailingComma? n with
  | false, some f => .error f
  | _, _ => read n

/-- Reads the items of a list. -/
def items (read : Reader α) (first : Bool) : Items → Except Fault (List α)
  | .stop l =>
    match l.token with
    | .closeList => .ok []
    | _ => .error (listFault l)
  | .item v rest => do
    let x ← item read first v
    let xs ← items read false rest
    return x :: xs

/-- Reads a list.  There is no reader for its items when no further level may be opened. -/
def list (read : Option (Reader α)) : Reader (List α)
  | .list o elements =>
    match read with
    | none => .error (o.fault .tooManyLevels)
    | some read => items read true elements
  | n => .error (wrongType .list n)

end Reader

/-! ## Records -/

/-- A field of a record that is being read into a draft. -/
structure Record.Field (σ : Type) where
  name : String
  required : Bool
  /-- Whether the draft has the field already. -/
  isSet : σ → Bool
  /-- Reads the field into the draft. -/
  read : Node → σ → Except Fault σ

/-- The part of a draft that a field is read into, with the reader of its values. -/
structure Record.Slot (σ : Type) where
  {type : Type}
  name : String
  required : Bool
  get : σ → Option type
  set : σ → type → σ
  read : Reader type

/-- The field that is read into a slot. -/
def Record.Slot.field (s : Record.Slot σ) : Record.Field σ where
  name := s.name
  required := s.required
  isSet draft := (s.get draft).isSome
  read n draft := (s.read n).map (s.set draft)

/-- A record: its fields in order, and how a draft of it is completed. -/
structure Record (σ α : Type) where
  name : String
  fields : List (Record.Field σ)
  blank : σ
  /-- The record that a draft describes, or the name of the first required field it lacks. -/
  complete : σ → Except String α

/-- What a draft holds for a required field, or the name of the field if it lacks it. -/
def Record.need (name : String) : Option α → Except String α
  | some x => .ok x
  | none => .error name

/-- The place of a fault that is noticed before a member is read to its end.  An object may still
be closed there. -/
def Lexeme.noticed (l : Lexeme) : Place :=
  match l.token with
  | .closeObject => l.behind
  | _ => l.before

/-- The text of a key. -/
def readKey (key : Lexeme) : Except Fault String :=
  Reader.text (.leaf key)

namespace Record

/-- The field with a key, unless the draft has it already.  Faults of that kind are placed at the
lexeme after the key. -/
def field? (r : Record σ α) (draft : σ) (key : String) (next : Lexeme) :
    Except Fault (Option (Record.Field σ)) :=
  match r.fields.find? (·.name == key) with
  | none => .ok none
  | some f =>
    if f.isSet draft then .error ⟨.duplicateField key, next.noticed⟩ else .ok (some f)

/-- Reads a member into a draft, or skips it if the record has no such field. -/
def readMember (value : Node) (draft : σ) : Option (Record.Field σ) → Except Fault σ
  | none => do
    value.skip
    return draft
  | some f => f.read value draft

/-- The record that a draft describes, when its text is closed by the given lexeme. -/
def finish (r : Record σ α) (draft : σ) (closing : Lexeme) : Except Fault α :=
  match r.complete draft with
  | .ok x => .ok x
  | .error name => .error ⟨.missingField name, closing.behind⟩

/-- Reads the members of an object into a draft, and completes it. -/
def readMembers (r : Record σ α) (first : Bool) (draft : σ) : Members → Except Fault α
  | .stop l =>
    match l.token with
    | .closeObject => r.finish draft l
    | _ => .error (objectFault first l)
  | .noKey _ l =>
    match l.token with
    | .closeObject => .error (l.fault .trailingComma)
    | .finish => .error (l.fault .endInValue)
    | _ => .error (l.fault .keyNotText)
  | .noColon _ key l => do
    let _ ← r.field? draft (← readKey key) l
    .error (colonFault l)
  | .member _ key colon v rest => do
    let f ← r.field? draft (← readKey key) colon
    let draft ← readMember v draft f
    r.readMembers false draft rest

/-- The fault of a list that goes on behind the last field of a record. -/
def surplusFault (v : Node) : Fault :=
  match Reader.trailingComma? v with
  | some f => f
  | none => v.opening.fault .trailingCharacters

/-- Completes a draft when the list of its fields ends before the given ones.  The index counts the
fields before them. -/
def finishEarly (r : Record σ α) (index : Nat) (draft : σ) (closing : Lexeme)
    (left : List (Record.Field σ)) : Except Fault α :=
  match left.findIdx? Record.Field.required with
  | some i => .error ⟨.wrongLength (index + i) r.name r.fields.length, closing.behind⟩
  | none => r.finish draft closing

/-- Reads the items of a list into the given fields of a draft, and completes it.  The index counts
the fields already read. -/
def readItems (r : Record σ α) (index : Nat) (draft : σ) :
    List (Record.Field σ) → Items → Except Fault α
  | [], .stop l =>
    match l.token with
    | .closeList => r.finish draft l
    | .finish => .error (l.fault .endInList)
    | _ => .error (l.fault .trailingCharacters)
  | [], .item v _ => .error (surplusFault v)
  | f :: fs, .stop l =>
    match l.token with
    | .closeList => r.finishEarly index draft l (f :: fs)
    | _ => .error (listFault l)
  | f :: fs, .item v rest => do
    let draft ← Reader.item (f.read · draft) (index == 0) v
    r.readItems (index + 1) draft fs rest

end Record

/-- Reads a record, written as an object or as a list.  There is no record when no further level
may be opened. -/
def Reader.record (name : String) (r : Option (Record σ α)) : Reader α
  | .list o items =>
    match r with
    | none => .error (o.fault .tooManyLevels)
    | some r => r.readItems 0 r.blank r.fields items
  | .object o members =>
    match r with
    | none => .error (o.fault .tooManyLevels)
    | some r => r.readMembers true r.blank members
  | n => .error (wrongType (.record name) n)

/-! ## Names -/

/-- The fault of a name in braces that is not closed, if the members behind it show one. -/
def Members.endOfName : Members → Except Fault Unit
  | .stop l =>
    match l.token with
    | .closeObject => .ok ()
    | .finish => .error ⟨.endInObject, l.before⟩
    | _ => .error ⟨.expectedValue, l.before⟩
  | .noKey l _ | .noColon l _ _ | .member l _ _ _ _ => .error ⟨.expectedValue, l.before⟩

/-- Reads a name in braces, which `null` has to follow.  What stands in place of the name is held to
what is held of a key of any object: it has to be a text, and where the document ends, it ends in
an object.  Only an empty object is told apart, in which a value is missed. -/
def Members.name : Members → Except Fault String
  | .stop l =>
    match l.token with
    | .closeObject => .error (l.fault .expectedValue)
    | _ => .error (objectFault true l)
  | .noKey _ l => .error (objectFault true l)
  | .noColon _ key l => do
    let _ ← readKey key
    .error (colonFault l)
  | .member _ key _ v rest => do
    let s ← readKey key
    Reader.nothing v
    rest.endOfName
    return s

/-- Reads one of several names, as a text or as the key of an object with the value `null`.  The
flag says whether an object may still be opened. -/
def Reader.name (mayOpen : Bool) : Reader String
  | .leaf l =>
    match l.token with
    | .text value _ => value
    | .finish => .error (l.fault .endInValue)
    | _ => .error (l.fault .expectedValue)
  | .list o _ => .error (o.fault .expectedValue)
  | .object o members => if mayOpen then members.name else .error (o.fault .tooManyLevels)

end DiagnosticPage.Json
