import DiagnosticPage.Report.Basic

/-!
# Bundles

A bundle is an entry made ready for the page.  Its operation has become its first message, and
every comment has become part of the message before it; extra and nested entries have become
bundles in the same order.  An entry has no bundle when somewhere in it a comment comes first, a
node has no message, or the nesting is too deep.  The first such node in reading order decides.

`foldComments` makes the comments of one node part of its messages, `ofEntry` does so throughout an
entry, and `Entry.nodesAt` lists the nodes in the order in which `ofEntry` visits them.
-/

namespace DiagnosticPage

/-- The levels of nesting that an entry may have below itself. -/
def maxNesting : Nat := 32

/-- An entry made ready for the page. -/
structure Bundle where
  messages : List Message
  extras : List Bundle
  children : List Bundle

namespace Bundle

/-- Why an entry has no bundle. -/
inductive Fault where
  /-- A comment with no message before it. -/
  | orphanComment (text : String)
  /-- A node without any message. -/
  | noMessages
  /-- A node below the deepest level. -/
  | tooDeep
deriving DecidableEq

/-- The path of the first message, by which bundles are grouped. -/
def primaryPath (b : Bundle) : String :=
  match b.messages with
  | [] => ""
  | m :: _ => m.path

/-- Adds the comments that follow a message to it, and goes on with the next message. -/
def foldInto (m : Message) : List Message → List Message
  | [] => [m]
  | x :: xs => if x.isComment then foldInto (m.annotate x.description) xs else m :: foldInto x xs

/-- Makes every comment part of the message before it. -/
def foldComments : List Message → Except Fault (List Message)
  | [] => .ok []
  | m :: ms =>
    if m.isComment then .error (.orphanComment m.description) else .ok (foldInto m ms)

/-- The messages that a bundle shows for an entry. -/
def statementsOf (e : Entry) : Except Fault (List Message) :=
  match foldComments e.statements with
  | .error f => .error f
  | .ok [] => .error .noMessages
  | .ok (m :: ms) => .ok (m :: ms)

mutual

/-- The bundle of an entry that lies the given number of levels below the top. -/
def ofEntryAt (depth : Nat) : Entry → Except Fault Bundle
  | ⟨messages, operation, extra, children⟩ =>
    if maxNesting < depth then .error .tooDeep
    else do
      let shown ← statementsOf ⟨messages, operation, extra, children⟩
      let extras ← ofEntriesAt (depth + 1) extra
      let nested ← ofEntriesAt (depth + 1) children
      return ⟨shown, extras, nested⟩

/-- The bundles of entries that lie the given number of levels below the top. -/
def ofEntriesAt (depth : Nat) : List Entry → Except Fault (List Bundle)
  | [] => .ok []
  | e :: es => do
    let b ← ofEntryAt depth e
    let bs ← ofEntriesAt depth es
    return b :: bs

end

/-- The bundle of an entry. -/
def ofEntry (e : Entry) : Except Fault Bundle :=
  ofEntryAt 0 e

/-- The bundles of the entries of a report, or the fault of the first entry that has none. -/
def ofEntries (es : List Entry) : Except Fault (List Bundle) :=
  es.mapM ofEntry

end Bundle

namespace Entry

mutual

/-- The nodes of an entry in reading order with their depths: a node, its supplementary evidence,
its nested entries.  Nothing below the first forbidden level is listed. -/
def nodesAt (depth : Nat) : Entry → List (Nat × Entry)
  | ⟨messages, operation, extra, children⟩ =>
    (depth, ⟨messages, operation, extra, children⟩) ::
      if maxNesting < depth then []
      else nodesOf (depth + 1) extra ++ nodesOf (depth + 1) children

/-- The nodes of several entries at one depth, in reading order. -/
def nodesOf (depth : Nat) : List Entry → List (Nat × Entry)
  | [] => []
  | e :: es => nodesAt depth e ++ nodesOf depth es

end

/-- What is wrong with a node at a depth, its nested entries aside. -/
def faultAt (depth : Nat) (e : Entry) : Option Bundle.Fault :=
  if maxNesting < depth then some .tooDeep
  else
    match Bundle.statementsOf e with
    | .error f => some f
    | .ok _ => none

end Entry

end DiagnosticPage
