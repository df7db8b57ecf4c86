import DiagnosticPage.Proofs.Bundle.NormalForm

/-!
# Comments, block by block

A sequence of messages in which no comment comes first falls into blocks, a message that is no
comment and the comments behind it (`exists_blocks`), and it does so in one way only
(`Block.flatMap_statements_injective`).  Folding turns each block into one message: its first
message, with the comments added to the description in their order.

`foldComments` looks ahead for comments.  The messages shown so far can also be kept and the
statements taken one by one, a comment changing the last message that is there (`takeStatement`).
Both are the same (`foldComments_eq_foldlM`), and the second form shows what folding does to a
sequence in two parts: the first part may be folded in advance.
-/

namespace DiagnosticPage

/-- A message that is no comment, with the comments on it. -/
structure Block where
  head : Message
  notes : List Message
  isComment_head : head.isComment = false
  isComment_notes : ∀ n ∈ notes, n.isComment = true

namespace Block

/-- The messages of a block in reading order. -/
def statements (b : Block) : List Message :=
  b.head :: b.notes

/-- The message that a block becomes: only the description changes, to which the comments are
added one by one. -/
def folded (b : Block) : Message :=
  { b.head with
    description := b.head.description ++ String.join (b.notes.map fun n => ". " ++ n.description) }

/-! ### Blocks of a sequence -/

/-- What follows a message of a block up to the next block are its comments. -/
lemma takeWhile_notes_append (b : Block) (bs : List Block) :
    (b.notes ++ bs.flatMap statements).takeWhile Message.isComment = b.notes := by
  rw [List.takeWhile_append_of_pos b.isComment_notes]
  cases bs with
  | nil => simp
  | cons c cs => simp [statements, c.isComment_head]

/-- Blocks are told from the sequence of their messages. -/
lemma flatMap_statements_injective {bs cs : List Block}
    (h : bs.flatMap statements = cs.flatMap statements) : bs = cs := by
  induction bs generalizing cs with
  | nil =>
    cases cs with
    | nil => rfl
    | cons c cs => simp [statements] at h
  | cons b bs ih =>
    cases cs with
    | nil => simp [statements] at h
    | cons c cs =>
      obtain ⟨hhead, hrest⟩ := List.cons.inj h
      have hnotes : b.notes = c.notes := by
        rw [← takeWhile_notes_append b bs, ← takeWhile_notes_append c cs]
        exact congrArg _ hrest
      have hb : b = c := by
        obtain ⟨bhead, bnotes, _, _⟩ := b
        obtain ⟨chead, cnotes, _, _⟩ := c
        obtain rfl : bhead = chead := hhead
        obtain rfl : bnotes = cnotes := hnotes
        rfl
      have htail : bs.flatMap statements = cs.flatMap statements := by
        rw [hnotes] at hrest
        exact List.append_cancel_left hrest
      rw [hb, ih htail]

/-- Every sequence in which no comment comes first consists of blocks. -/
lemma exists_blocks {m : Message} (hm : m.isComment = false) (ms : List Message) :
    ∃ (b : Block) (bs : List Block), b.head = m ∧ (b :: bs).flatMap statements = m :: ms := by
  induction ms generalizing m with
  | nil => exact ⟨⟨m, [], hm, by simp⟩, [], rfl, rfl⟩
  | cons x ms ih =>
    by_cases hx : x.isComment = true
    · obtain ⟨b, bs, rfl, hbs⟩ := ih hm
      have hnotes : ∀ n ∈ x :: b.notes, n.isComment = true := by
        intro n hn
        rcases List.mem_cons.mp hn with rfl | hn
        · exact hx
        · exact b.isComment_notes n hn
      refine ⟨⟨b.head, x :: b.notes, hm, hnotes⟩, bs, rfl, ?_⟩
      rw [List.flatMap_cons, statements, List.cons_append, List.cons.injEq] at hbs
      rw [List.flatMap_cons, statements, List.cons_append, List.cons_append, hbs.2]
    · obtain ⟨b, bs, -, hbs⟩ := ih (Bool.eq_false_iff.mpr hx)
      exact ⟨⟨m, [], hm, by simp⟩, b :: bs, rfl, by rw [List.flatMap_cons, hbs]; rfl⟩

end Block

namespace Bundle

open Block (statements folded)

/-! ### Folding of blocks -/

/-- A message takes in the comments behind it. -/
lemma foldInto_notes_append (b : Block) (rest : List Message) :
    foldInto b.head (b.notes ++ rest) = foldInto b.folded rest := by
  obtain ⟨head, notes, hhead, hnotes⟩ := b
  induction notes generalizing head with
  | nil => simp [folded, String.join]
  | cons n notes ih =>
    have hn : n.isComment = true := hnotes n (by simp)
    have hnoted : (head.annotate n.description).isComment = false := hhead
    have hrest : ∀ x ∈ notes, x.isComment = true := fun x hx => hnotes x (by simp [hx])
    have hfolded : folded ⟨head.annotate n.description, notes, hnoted, hrest⟩ =
        folded ⟨head, n :: notes, hhead, hnotes⟩ := by
      simp [folded, Message.annotate, String.join_cons, String.append_assoc]
    rw [List.cons_append, foldInto, if_pos hn, ih _ hnoted hrest, hfolded]

/-- Folding makes one message of each block. -/
lemma foldComments_flatMap_statements (bs : List Block) :
    foldComments (bs.flatMap statements) = .ok (bs.map folded) := by
  cases bs with
  | nil => rfl
  | cons b bs =>
    have hinto : foldInto b.head (b.notes ++ bs.flatMap statements) = (b :: bs).map folded := by
      rw [foldInto_notes_append]
      induction bs generalizing b with
      | nil => rfl
      | cons c bs ih =>
        rw [List.flatMap_cons, statements, List.cons_append, foldInto, c.isComment_head,
          if_neg (by simp), foldInto_notes_append, ih c]
        rfl
    exact (foldComments_cons_eq_ok_iff _ _ _).mpr ⟨b.isComment_head, hinto⟩

/-- Folding fails only for a comment that comes first. -/
lemma foldComments_eq_error_iff (ms : List Message) (f : Fault) :
    foldComments ms = .error f ↔
      ∃ m rest, ms = m :: rest ∧ m.isComment = true ∧ f = .orphanComment m.description := by
  cases ms with
  | nil => simp [foldComments]
  | cons m ms =>
    rw [foldComments]
    by_cases hm : m.isComment = true
    · rw [if_pos hm, Except.error.injEq]
      constructor
      · rintro rfl
        exact ⟨m, ms, rfl, hm, rfl⟩
      · rintro ⟨n, rest, hcons, -, rfl⟩
        rw [(List.cons.inj hcons).1]
    · simp [hm]

/-! ### Statements taken one by one -/

/-- Takes one more statement to the messages that are shown so far: a comment is added to the last
of them, anything else becomes a message of its own. -/
def takeStatement (shown : List Message) (m : Message) : Except Fault (List Message) :=
  if m.isComment then
    match shown.getLast? with
    | none => .error (.orphanComment m.description)
    | some last => .ok (shown.dropLast ++ [last.annotate m.description])
  else .ok (shown ++ [m])

/-- Once there is a message, taking statements is folding into the last one. -/
lemma foldlM_takeStatement (shown : List Message) (m : Message) (ms : List Message) :
    ms.foldlM takeStatement (shown ++ [m]) = .ok (shown ++ foldInto m ms) := by
  induction ms generalizing shown m with
  | nil => rfl
  | cons x ms ih =>
    rw [List.foldlM_cons, foldInto]
    by_cases hx : x.isComment = true
    · have hstep : takeStatement (shown ++ [m]) x = .ok (shown ++ [m.annotate x.description]) := by
        simp [takeStatement, hx]
      rw [hstep, if_pos hx]
      exact ih shown (m.annotate x.description)
    · have hstep : takeStatement (shown ++ [m]) x = .ok (shown ++ [m] ++ [x]) := by
        simp [takeStatement, hx]
      rw [hstep, if_neg hx, List.append_cons shown m (foldInto x ms)]
      exact ih (shown ++ [m]) x

/-- Folding takes the statements one by one. -/
lemma foldComments_eq_foldlM (ms : List Message) :
    foldComments ms = ms.foldlM takeStatement [] := by
  cases ms with
  | nil => rfl
  | cons m ms =>
    rw [foldComments, List.foldlM_cons]
    by_cases hm : m.isComment = true
    · simp [takeStatement, hm, bind, Except.bind]
    · rw [if_neg hm, show takeStatement [] m = .ok [m] by simp [takeStatement, hm]]
      exact (foldlM_takeStatement [] m ms).symm

/-- The first part of a sequence may be folded in advance. -/
lemma foldComments_append (xs ys : List Message) :
    foldComments (xs ++ ys) = (do let shown ← foldComments xs; foldComments (shown ++ ys)) := by
  rw [foldComments_eq_foldlM (xs ++ ys), List.foldlM_append, ← foldComments_eq_foldlM]
  cases hxs : foldComments xs with
  | error f => rfl
  | ok shown =>
    -- messages that are shown hold no comment, so folding them again keeps them
    have hshown : shown.foldlM takeStatement [] = .ok shown := by
      rw [← foldComments_eq_foldlM]
      exact (foldComments_eq_self_iff shown).mpr (isComment_of_foldComments hxs)
    change ys.foldlM takeStatement shown = foldComments (shown ++ ys)
    rw [foldComments_eq_foldlM, List.foldlM_append, hshown]
    rfl

/-- Folding fails exactly if a comment comes first, for want of a message before that comment.  Any
other sequence falls into blocks in one way, and each block becomes one message.  So no comment is
left, there are as many messages as there were statements that are none, and a sequence may be
folded in parts. -/
theorem comments_are_folded_block_by_block :
    (∀ (ms : List Message) (f : Fault), foldComments ms = .error f ↔
      ∃ m rest, ms = m :: rest ∧ m.isComment = true ∧ f = .orphanComment m.description) ∧
    (∀ ms : List Message, (∀ m ∈ ms.head?, m.isComment = false) →
      ∃ bs : List Block, bs.flatMap statements = ms ∧
        (∀ cs : List Block, cs.flatMap statements = ms → cs = bs) ∧
        foldComments ms = .ok (bs.map folded)) ∧
    (∀ ms shown : List Message, foldComments ms = .ok shown →
      (∀ m ∈ shown, m.isComment = false) ∧ shown.length = ms.countP fun m => !m.isComment) ∧
    ∀ xs ys : List Message,
      foldComments (xs ++ ys) = (do let shown ← foldComments xs; foldComments (shown ++ ys)) := by
  refine ⟨foldComments_eq_error_iff, ?_, ?_, foldComments_append⟩
  · intro ms hms
    have hblocks : ∃ bs : List Block, bs.flatMap statements = ms := by
      cases ms with
      | nil => exact ⟨[], rfl⟩
      | cons m ms =>
        obtain ⟨b, bs, -, hbs⟩ := Block.exists_blocks (hms m (by simp)) ms
        exact ⟨b :: bs, hbs⟩
    obtain ⟨bs, rfl⟩ := hblocks
    exact ⟨bs, rfl, fun cs hcs => Block.flatMap_statements_injective hcs,
      foldComments_flatMap_statements bs⟩
  · intro ms shown h
    exact ⟨isComment_of_foldComments h, length_of_foldComments h⟩

/-- Two comments on one message and a comment on another one make two blocks.  With a comment in
front of them there is nothing to add it to. -/
theorem comments_on_two_messages :
    let m : String → Message := fun text => ⟨.blame, text, "a.js", some 1, none, none, none⟩
    let note : String → Message := fun text => ⟨.comment, text, "", none, none, none, none⟩
    let ms : List Message := [m "p", note "x", note "y", m "q", note "z"]
    (∃ bs : List Block, bs.flatMap statements = ms ∧
      bs.map folded = [m "p. x. y", m "q. z"]) ∧
    (∀ n ∈ [m "p. x. y", m "q. z"], n.isComment = false) ∧
    foldComments (note "w" :: ms) = .error (.orphanComment "w") := by
  intro m note ms
  obtain ⟨herror, hblocks, hshown, -⟩ := comments_are_folded_block_by_block
  have hfold : foldComments ms = .ok [m "p. x. y", m "q. z"] := by decide
  refine ⟨?_, (hshown ms _ hfold).1, (herror _ _).mpr ⟨note "w", ms, rfl, rfl, rfl⟩⟩
  obtain ⟨bs, hbs, -, hfolded⟩ := hblocks ms (by simp [ms, m, Message.isComment])
  exact ⟨bs, hbs, Except.ok.inj (hfolded.symm.trans hfold)⟩

end Bundle

end DiagnosticPage
