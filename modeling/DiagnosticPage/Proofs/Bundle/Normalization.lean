import DiagnosticPage.Proofs.Page.Content
import Mathlib.Data.List.Forall2
import Mathlib.Logic.Function.Iterate

/-!
# Which entries have a bundle, and which

An entry is judged by its nodes in reading order, `Entry.nodesAt`.  `Entry.defect` says what is
wrong with a single node at its depth: that it lies too deep, else that a comment comes first in
it, else that it has no message.  `Bundle.IsBundleOf` is the bundle that an entry should have, in
the same tree with the comments of every node folded, and it mentions neither depth nor faults.

`Bundle.ofEntryAt` visits nodes recursively and stops at the first fault.  `ofEntryAt_decides`
shows, by recursion over entries and lists of entries together, that it answers with the first
defect in reading order if there is one, and with the right bundle otherwise.  Reports follow
entry by entry.
-/

namespace DiagnosticPage

/-! ### First faults -/

/-- A result is the fault that was found, or, if none was found, a good value. -/
def Decides {ε α : Type} (fault : Option ε) (result : Except ε α) (good : α → Prop) : Prop :=
  match fault with
  | some f => result = .error f
  | none => ∃ a, result = .ok a ∧ good a

/-- A decided result is a fault exactly if that fault was found. -/
lemma Decides.eq_error_iff {ε α : Type} {fault : Option ε} {result : Except ε α}
    {good : α → Prop} (h : Decides fault result good) (f : ε) :
    result = .error f ↔ fault = some f := by
  cases fault with
  | none =>
    obtain ⟨a, ha, -⟩ := h
    simp [ha]
  | some g =>
    rw [show result = .error g from h]
    simp

/-- A decided result that is a value is a good one. -/
lemma Decides.good_of_eq_ok {ε α : Type} {fault : Option ε} {result : Except ε α}
    {good : α → Prop} (h : Decides fault result good) {a : α} (ha : result = .ok a) : good a := by
  cases fault with
  | none =>
    obtain ⟨b, hb, hgood⟩ := h
    obtain rfl : b = a := Except.ok.inj (hb.symm.trans ha)
    exact hgood
  | some f => cases ha.symm.trans h

/-- One computation after another: the first one's fault counts before the second one's. -/
lemma Decides.bind {ε α β : Type} {fault fault' : Option ε} {result : Except ε α}
    {next : α → Except ε β} {good : α → Prop} {good' : β → Prop} (h : Decides fault result good)
    (hnext : ∀ a, good a → Decides fault' (next a) good') :
    Decides (fault.or fault') (result >>= next) good' := by
  cases fault with
  | none =>
    obtain ⟨a, rfl, ha⟩ := h
    exact hnext a ha
  | some f =>
    rw [show result = .error f from h]
    rfl

/-- A value made from the result of a computation: the computation's fault counts. -/
lemma Decides.bind_pure {ε α β : Type} {fault : Option ε} {result : Except ε α}
    {good : α → Prop} (h : Decides fault result good) (make : α → β) (good' : β → Prop)
    (hmake : ∀ a, good a → good' (make a)) :
    Decides fault (do let a ← result; pure (make a)) good' := by
  cases fault with
  | none =>
    obtain ⟨a, rfl, ha⟩ := h
    exact ⟨make a, rfl, hmake a ha⟩
  | some f =>
    rw [show result = .error f from h]
    rfl

/-- A list of computations has a result exactly if each has one. -/
lemma mapM_eq_ok_iff {ε α β : Type} (f : α → Except ε β) (xs : List α) (ys : List β) :
    xs.mapM f = .ok ys ↔ List.Forall₂ (fun x y => f x = .ok y) xs ys := by
  induction xs generalizing ys with
  | nil => cases ys <;> simp [pure, Except.pure]
  | cons x xs ih =>
    rw [List.mapM_cons]
    cases hx : f x with
    | error e =>
      cases ys <;> simp [hx, bind, Except.bind]
    | ok y =>
      cases hxs : xs.mapM f with
      | error e =>
        have hnone : ∀ zs, ¬ List.Forall₂ (fun x y => f x = .ok y) xs zs :=
          fun zs h => by simpa [hxs] using (ih zs).mpr h
        cases ys <;> simp [bind, Except.bind, hnone]
      | ok zs =>
        have hsome := (ih zs).mp hxs
        cases ys with
        | nil => simp [bind, Except.bind, pure, Except.pure]
        | cons w ws =>
          simp [bind, Except.bind, pure, Except.pure, hx, ← ih, hxs]

/-- A list of computations fails with the fault of the first that fails. -/
lemma mapM_eq_error_iff {ε α β : Type} (f : α → Except ε β) (xs : List α) (e : ε) :
    xs.mapM f = .error e ↔ ∃ before x after, xs = before ++ x :: after ∧
      (∀ y ∈ before, ∃ b, f y = .ok b) ∧ f x = .error e := by
  induction xs with
  | nil => simp [pure, Except.pure]
  | cons x xs ih =>
    rw [List.mapM_cons]
    cases hx : f x with
    | error g =>
      constructor
      · intro h
        obtain rfl : g = e := by simpa [bind, Except.bind] using h
        exact ⟨[], x, xs, rfl, by simp, hx⟩
      · rintro ⟨before, y, after, hsplit, hbefore, hy⟩
        cases before with
        | nil =>
          obtain ⟨rfl, rfl⟩ : x = y ∧ xs = after := by simpa using hsplit
          rw [hx] at hy
          simpa [bind, Except.bind] using hy
        | cons z before =>
          obtain ⟨rfl, -⟩ : x = z ∧ xs = before ++ y :: after := by simpa using hsplit
          obtain ⟨b, hb⟩ := hbefore x (by simp)
          rw [hx] at hb
          cases hb
    | ok b =>
      have htail : (do let bs ← xs.mapM f; pure (b :: bs) : Except ε (List β)) = .error e ↔
          xs.mapM f = .error e := by
        cases xs.mapM f <;> simp [bind, Except.bind, pure, Except.pure]
      refine Iff.trans htail (ih.trans ?_)
      constructor
      · rintro ⟨before, y, after, rfl, hbefore, hy⟩
        refine ⟨x :: before, y, after, rfl, ?_, hy⟩
        intro z hz
        rcases List.mem_cons.mp hz with rfl | hz
        · exact ⟨b, hx⟩
        · exact hbefore z hz
      · rintro ⟨before, y, after, hsplit, hbefore, hy⟩
        cases before with
        | nil =>
          obtain ⟨rfl, rfl⟩ : x = y ∧ xs = after := by simpa using hsplit
          rw [hx] at hy
          cases hy
        | cons z before =>
          obtain ⟨rfl, rfl⟩ : x = z ∧ xs = before ++ y :: after := by simpa using hsplit
          exact ⟨before, y, after, rfl, fun w hw => hbefore w (by simp [hw]), hy⟩

/-! ### Defects of nodes -/

namespace Entry

/-- What is wrong with a node at a depth, its nested entries aside. -/
def defect (depth : ℕ) (e : Entry) : Option Bundle.Fault :=
  if depth = maxNesting + 1 then some .tooDeep
  else
    match e.statements with
    | [] => some .noMessages
    | m :: _ => if m.isComment then some (.orphanComment m.description) else none

/-- The first defect of an entry at a depth, in reading order. -/
def firstDefectAt (depth : ℕ) (e : Entry) : Option Bundle.Fault :=
  (e.nodesAt depth).findSome? fun n => n.2.defect n.1

/-- The first defect of an entry, in reading order. -/
def firstDefect (e : Entry) : Option Bundle.Fault :=
  e.firstDefectAt 0

end Entry

namespace Bundle

mutual

/-- A bundle has the tree of an entry, and at every node its statements with the comments
folded. -/
def IsBundleOf : Bundle → Entry → Prop
  | ⟨shown, extras, nested⟩, ⟨messages, operation, extra, children⟩ =>
    foldComments (operation.toList ++ messages) = .ok shown ∧
      AreBundlesOf extras extra ∧ AreBundlesOf nested children

/-- Bundles belong to entries one by one. -/
def AreBundlesOf : List Bundle → List Entry → Prop
  | [], [] => True
  | b :: bs, e :: es => IsBundleOf b e ∧ AreBundlesOf bs es
  | _, _ => False

end

/-- Folding keeps the first message, with its path. -/
lemma foldInto_eq_cons (m : Message) (xs : List Message) :
    ∃ n ns, foldInto m xs = n :: ns ∧ n.path = m.path := by
  induction xs generalizing m with
  | nil => exact ⟨m, [], rfl, rfl⟩
  | cons x xs ih =>
    rw [foldInto]
    split
    · exact ih (m.annotate x.description)
    · exact ⟨m, foldInto x xs, rfl, rfl⟩

/-- Messages can be folded exactly if no comment comes first. -/
lemma foldComments_cons_eq_ok_iff (m : Message) (ms shown : List Message) :
    foldComments (m :: ms) = .ok shown ↔ m.isComment = false ∧ foldInto m ms = shown := by
  rw [foldComments]
  cases m.isComment <;> simp

/-- The statements of a node that does not lie too deep are folded, unless the node has a
defect. -/
lemma statementsOf_decides {depth : ℕ} (hdepth : depth ≤ maxNesting) (e : Entry) :
    Decides (e.defect depth) (statementsOf e) fun shown =>
      foldComments e.statements = .ok shown := by
  have hne : depth ≠ maxNesting + 1 := by omega
  unfold Entry.defect statementsOf
  rw [if_neg hne]
  cases e.statements with
  | nil => rfl
  | cons m ms =>
    by_cases hm : m.isComment = true
    · simp [foldComments, hm, Decides]
    · obtain ⟨x, xs, hfold, -⟩ := foldInto_eq_cons m ms
      simp [foldComments, hm, Decides, hfold]

mutual

/-- At any depth that can be reached, an entry has its first defect in reading order as its fault,
and otherwise the bundle that belongs to it. -/
theorem ofEntryAt_decides {depth : ℕ} (hdepth : depth ≤ maxNesting + 1) : (e : Entry) →
    Decides (e.firstDefectAt depth) (ofEntryAt depth e) fun b => IsBundleOf b e
  | ⟨messages, operation, extra, children⟩ => by
    rw [Entry.firstDefectAt, Entry.nodesAt, List.findSome?_cons, ofEntryAt]
    by_cases hdeep : maxNesting < depth
    · have hlast : depth = maxNesting + 1 := by omega
      simp [Entry.defect, hlast, Decides]
    · rw [if_neg hdeep, if_neg hdeep, List.findSome?_append]
      have hnext : depth + 1 ≤ maxNesting + 1 := by omega
      have hshallow : depth ≤ maxNesting := by omega
      have hnode := statementsOf_decides hshallow ⟨messages, operation, extra, children⟩
      have hextra := ofEntriesAt_decides hnext extra
      have hchildren := ofEntriesAt_decides hnext children
      -- the node itself comes first, then what is extra, then what is nested
      have hall := hnode.bind fun shown hshown => hextra.bind fun extras hextras =>
        hchildren.bind_pure (fun nested => Bundle.mk shown extras nested)
          (fun b => IsBundleOf b ⟨messages, operation, extra, children⟩)
          fun nested hnested => by
            simpa only [IsBundleOf] using ⟨hshown, hextras, hnested⟩
      cases hdefect : Entry.defect depth ⟨messages, operation, extra, children⟩ with
      | none => rw [hdefect] at hall; exact hall
      | some f => rw [hdefect] at hall; exact hall

/-- The same for a list of entries at one depth. -/
theorem ofEntriesAt_decides {depth : ℕ} (hdepth : depth ≤ maxNesting + 1) : (es : List Entry) →
    Decides ((Entry.nodesOf depth es).findSome? fun n => n.2.defect n.1)
      (ofEntriesAt depth es) fun bs => AreBundlesOf bs es
  | [] => ⟨[], rfl, trivial⟩
  | e :: es => by
    rw [Entry.nodesOf, List.findSome?_append, ofEntriesAt]
    have htail := ofEntriesAt_decides hdepth es
    exact (ofEntryAt_decides hdepth e).bind fun b hb =>
      htail.bind_pure (fun bs => b :: bs) (fun bs => AreBundlesOf bs (e :: es))
        fun bs hbs => ⟨hb, hbs⟩

end

/-- An entry has its first defect in reading order as its fault, and otherwise the bundle that
belongs to it. -/
lemma ofEntry_decides (e : Entry) :
    Decides e.firstDefect (ofEntry e) fun b => IsBundleOf b e :=
  ofEntryAt_decides (Nat.zero_le _) e

/-- What an entry has as its bundle belongs to it. -/
lemma isBundleOf_of_ofEntry {e : Entry} {b : Bundle} (h : ofEntry e = .ok b) : IsBundleOf b e :=
  (ofEntry_decides e).good_of_eq_ok h

end Bundle

/-- An entry has a fault exactly if one of its nodes has a defect, and then it is the first defect
in reading order; otherwise it has the bundle that belongs to it.  A report of a failed check has
the fault of its first entry with a fault, and a report of a passed check has none. -/
theorem ofEntry_decides_and_content_fault :
    (∀ (e : Entry) (f : Bundle.Fault), Bundle.ofEntry e = .error f ↔ e.firstDefect = some f) ∧
    (∀ e : Entry, (∀ n ∈ e.nodesAt 0, n.2.defect n.1 = none) →
      ∃ b, Bundle.ofEntry e = .ok b ∧ b.IsBundleOf e) ∧
    (∀ (o : Options) (r : Report), r.passed = false → ∀ f : Bundle.Fault,
      r.content o = .error f ↔ ∃ before e after, r.errors = before ++ e :: after ∧
        (∀ e' ∈ before, ∃ b, Bundle.ofEntry e' = .ok b) ∧ Bundle.ofEntry e = .error f) ∧
    (∀ (o : Options) (r : Report), r.passed = true → ∃ page, r.content o = .ok page) := by
  refine ⟨fun e f => (Bundle.ofEntry_decides e).eq_error_iff f, ?_, ?_, ?_⟩
  · intro e hnone
    have h := Bundle.ofEntry_decides e
    have hfirst : e.firstDefect = none := List.findSome?_eq_none_iff.mpr hnone
    rwa [hfirst] at h
  · intro o r hpassed f
    rw [← mapM_eq_error_iff, Report.content_eq_error_iff hpassed]
    rfl
  · intro o r hpassed
    exact ⟨_, Report.content_of_passed o hpassed⟩

/-- At the deepest level an entry still has its bundle.  Below a sound entry, one that lies deeper
decides before the empty entry behind it, and so does a node above it in which a comment comes
first. -/
theorem fault_at_the_deepest_level :
    let m : Message := ⟨.blame, "m", "a", none, none, none, none⟩
    let below : Entry → Entry := fun e => ⟨[m, ⟨.comment, "c", "", none, none, none, none⟩],
      some m, [e], []⟩
    let leaf : Entry := ⟨[], some m, [], []⟩
    let orphan : Entry :=
      ⟨[⟨.comment, "c", "", none, none, none, none⟩], none, [below^[40] leaf], []⟩
    (∃ b, Bundle.ofEntry (below^[32] leaf) = .ok b ∧ b.IsBundleOf (below^[32] leaf)) ∧
    Bundle.ofEntry (below^[33] leaf) = .error .tooDeep ∧
    Bundle.ofEntry orphan = .error (.orphanComment "c") ∧
    Report.content {} ⟨false, [leaf, below^[33] leaf, ⟨[], none, [], []⟩]⟩ = .error .tooDeep ∧
    ∃ page, Report.content {} ⟨true, [orphan]⟩ = .ok page := by
  intro m below leaf orphan
  obtain ⟨hfault, hbundle, hcontent, hpassed⟩ := ofEntry_decides_and_content_fault
  have hdeep : Bundle.ofEntry (below^[33] leaf) = .error .tooDeep := (hfault _ _).mpr (by decide)
  refine ⟨hbundle _ (by decide), hdeep, (hfault _ _).mpr (by decide), ?_, hpassed _ _ rfl⟩
  refine (hcontent _ _ rfl _).mpr ⟨[leaf], _, [_], rfl, ?_, hdeep⟩
  intro e he
  obtain rfl := List.mem_singleton.mp he
  exact ⟨_, rfl⟩

end DiagnosticPage
