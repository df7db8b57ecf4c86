import DiagnosticPage.Message

/-!
# Reports

A report says whether the check passed and lists its error entries.  An entry is a tree: it has
messages of its own, perhaps the operation that led to the error, and two lists of nested entries,
supplementary evidence and partial errors.
-/

namespace DiagnosticPage

/-- An error of a report, with the entries nested in it. -/
structure Entry where
  /-- The messages of the entry itself. -/
  messages : List Message
  /-- The operation that led to the error, read before the messages. -/
  operation : Option Message
  /-- Supplementary evidence. -/
  extra : List Entry
  /-- Partial errors, such as one for each failed branch of a choice. -/
  children : List Entry

/-- The outcome of a check. -/
structure Report where
  /-- Whether the check found nothing. -/
  passed : Bool
  /-- The errors in the order in which they were reported. -/
  errors : List Entry

namespace Entry

/-- The messages of an entry in reading order, the operation first. -/
def statements (e : Entry) : List Message :=
  e.operation.toList ++ e.messages

mutual

/-- Decides whether two entries are equal. -/
def decideEq : (a b : Entry) → Decidable (a = b)
  | ⟨ms, op, xs, cs⟩, ⟨ms', op', xs', cs'⟩ =>
    match decEq ms ms', decEq op op', decideEqList xs xs', decideEqList cs cs' with
    | isTrue h₁, isTrue h₂, isTrue h₃, isTrue h₄ => isTrue (by rw [h₁, h₂, h₃, h₄])
    | isFalse h, _, _, _ => isFalse fun e => h (Entry.mk.inj e).1
    | _, isFalse h, _, _ => isFalse fun e => h (Entry.mk.inj e).2.1
    | _, _, isFalse h, _ => isFalse fun e => h (Entry.mk.inj e).2.2.1
    | _, _, _, isFalse h => isFalse fun e => h (Entry.mk.inj e).2.2.2

/-- Decides whether two lists of entries are equal. -/
def decideEqList : (as bs : List Entry) → Decidable (as = bs)
  | [], [] => isTrue rfl
  | [], _ :: _ => isFalse nofun
  | _ :: _, [] => isFalse nofun
  | a :: as, b :: bs =>
    match decideEq a b, decideEqList as bs with
    | isTrue h₁, isTrue h₂ => isTrue (by rw [h₁, h₂])
    | isFalse h, _ => isFalse fun e => h (List.cons.inj e).1
    | _, isFalse h => isFalse fun e => h (List.cons.inj e).2

end

instance : DecidableEq Entry := decideEq

end Entry

instance : DecidableEq Report
  | ⟨p, es⟩, ⟨p', es'⟩ =>
    decidable_of_iff (p = p' ∧ es = es') (by simp)

end DiagnosticPage
