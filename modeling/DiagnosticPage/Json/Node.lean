import DiagnosticPage.Json.Lexeme

/-!
# The tree of a document

The lexemes of a document are put together to a tree that keeps them, and with them all places.
A document that breaks off has a tree as well: where a value, a delimiter or a key was awaited, the
tree holds the lexeme that was found instead, and nothing follows it.  So what is wrong with a
document can be said by whoever reads the tree, in the words that fit the reading.
-/

namespace DiagnosticPage.Json

mutual

/-- A value in a document. -/
inductive Node where
  /-- A word, a numeral or a text, or a lexeme found where a value was awaited. -/
  | leaf (l : Lexeme)
  | list (opening : Lexeme) (items : Items)
  | object (opening : Lexeme) (members : Members)

/-- The items of a list behind some point. -/
inductive Items where
  /-- No item follows; instead of a comma or an item there is the given lexeme, which is the
  closing bracket if all is well. -/
  | stop (found : Lexeme)
  | item (value : Node) (rest : Items)

/-- The members of an object behind some point.  The lead of a member is the brace or the comma in
front of it. -/
inductive Members where
  /-- No member follows; instead of a comma or a member there is the given lexeme, which is the
  closing brace if all is well. -/
  | stop (found : Lexeme)
  /-- A comma that no key follows. -/
  | noKey (comma found : Lexeme)
  /-- A key that no colon follows. -/
  | noColon (lead key found : Lexeme)
  | member (lead key colon : Lexeme) (value : Node) (rest : Members)

end

/-- The lexeme that a value begins with. -/
def Node.opening : Node → Lexeme
  | leaf l => l
  | list o _ => o
  | object o _ => o

/-- A document: its value and the lexeme behind it, which is the end if all is well. -/
structure Document where
  value : Node
  next : Lexeme

/-! ## Putting lexemes together

The lexemes are taken one by one.  The containers that are still open wait on a stack, the innermost
first, each with the values it already has in reverse order. -/

/-- A member of an object that is complete but for what follows it. -/
structure Member where
  lead : Lexeme
  key : Lexeme
  colon : Lexeme
  value : Node

/-- Puts items, the last one first, in front of others. -/
def Items.push (items : Items) (done : List Node) : Items :=
  done.foldl (fun rest value => .item value rest) items

/-- Puts members, the last one first, in front of others. -/
def Members.push (members : Members) (done : List Member) : Members :=
  done.foldl (fun rest m => .member m.lead m.key m.colon m.value rest) members

/-- A container in which a value is awaited or has just been read. -/
inductive Frame where
  | list (opening : Lexeme) (done : List Node)
  | object (opening : Lexeme) (done : List Member) (lead key colon : Lexeme)

/-- A container closed behind the given value by the given lexeme, or broken off there. -/
def Frame.close (value : Node) (found : Lexeme) : Frame → Node
  | list o done => .list o ((Items.item value (.stop found)).push done)
  | object o done lead key colon =>
    .object o ((Members.member lead key colon value (.stop found)).push done)

/-- What is awaited next, and the containers that are open. -/
inductive Awaiting where
  | value (stack : List Frame)
  | itemOrEnd (opening : Lexeme) (stack : List Frame)
  | memberOrEnd (opening : Lexeme) (stack : List Frame)
  | key (opening : Lexeme) (done : List Member) (comma : Lexeme) (stack : List Frame)
  | colon (opening : Lexeme) (done : List Member) (lead key : Lexeme) (stack : List Frame)
  | delimiter (value : Node) (stack : List Frame)

namespace Awaiting

/-- Takes a lexeme where a value is awaited. -/
def begin (l : Lexeme) (stack : List Frame) : Option Awaiting :=
  match l.token with
  | .word _ _ | .number _ _ | .text _ _ => some (.delimiter (.leaf l) stack)
  | .openList => some (.itemOrEnd l stack)
  | .openObject => some (.memberOrEnd l stack)
  | _ => none

/-- Takes a lexeme, if it fits. -/
def step (l : Lexeme) : Awaiting → Option Awaiting
  | value stack => begin l stack
  | itemOrEnd o stack =>
    match l.token with
    | .closeList => some (.delimiter (.list o (.stop l)) stack)
    | _ => begin l (.list o [] :: stack)
  | memberOrEnd o stack =>
    match l.token with
    | .closeObject => some (.delimiter (.object o (.stop l)) stack)
    | .text _ _ => some (.colon o [] o l stack)
    | _ => none
  | key o done comma stack =>
    match l.token with
    | .text _ _ => some (.colon o done comma l stack)
    | _ => none
  | colon o done lead k stack =>
    match l.token with
    | .colon => some (.value (.object o done lead k l :: stack))
    | _ => none
  | delimiter _ [] => none
  | delimiter v (.list o done :: stack) =>
    match l.token with
    | .comma => some (.value (.list o (v :: done) :: stack))
    | .closeList => some (.delimiter (Frame.close v l (.list o done)) stack)
    | _ => none
  | delimiter v (.object o done lead k c :: stack) =>
    match l.token with
    | .comma => some (.key o (⟨lead, k, c, v⟩ :: done) l stack)
    | .closeObject => some (.delimiter (Frame.close v l (.object o done lead k c)) stack)
    | _ => none

/-- The document that breaks off in the given value, which lies within open containers. -/
def wrap (found : Lexeme) (value : Node) (stack : List Frame) : Document :=
  ⟨stack.foldl (Frame.close · found) value, found⟩

/-- The document that ends, or breaks off, at a lexeme that does not fit. -/
def stopAt (l : Lexeme) : Awaiting → Document
  | value stack => wrap l (.leaf l) stack
  | itemOrEnd o stack =>
    match l.token with
    | .finish => wrap l (.list o (.stop l)) stack
    | _ => wrap l (.list o (.item (.leaf l) (.stop l))) stack
  | memberOrEnd o stack => wrap l (.object o (.stop l)) stack
  | key o done comma stack => wrap l (.object o ((Members.noKey comma l).push done)) stack
  | colon o done lead k stack =>
    wrap l (.object o ((Members.noColon lead k l).push done)) stack
  | delimiter v stack => wrap l v stack

/-- Takes lexemes as long as they fit; the last lexeme is the end of the document. -/
def run (last : Lexeme) : Awaiting → List Lexeme → Document
  | state, [] => state.stopAt last
  | state, l :: ls =>
    match state.step l with
    | some next => run last next ls
    | none => state.stopAt l

end Awaiting

/-- The tree of a text. -/
def Document.ofText (text : List Char) : Document :=
  let ls := lexemes text
  Awaiting.run (.atEnd ls.stop) (.value []) ls.list

end DiagnosticPage.Json
