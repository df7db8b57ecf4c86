import DiagnosticPage.Json.Node
import DiagnosticPage.Proofs.Json.Cutting

/-!
# The tree of a spelled value

`Node.IsOf` relates a tree, with all its lexemes and places, to the value that it has.  Putting the
lexemes of a spelled value together gives such a tree wherever a value is awaited, whatever is
still open around it and whatever follows; so the trees of a list or an object come from those of
their parts.  `isOf_ofText` says so of a whole document.
-/

namespace DiagnosticPage.Json

/-! ## Trees and values -/

mutual

/-- A tree without faults that has the given value. -/
inductive Node.IsOf : Node → Value → Prop
  | null {p q : Place} : Node.IsOf (.leaf ⟨.word .null (.ok ()), p, q⟩) .null
  | true {p q : Place} : Node.IsOf (.leaf ⟨.word .true (.ok ()), p, q⟩) (.boolean true)
  | false {p q : Place} : Node.IsOf (.leaf ⟨.word .false (.ok ()), p, q⟩) (.boolean false)
  | number {p q r : Place} {l : Literal} :
      Node.IsOf (.leaf ⟨.number (l.value r) (.ok ()), p, q⟩) (.number l)
  | text {p q : Place} {s : String} :
      Node.IsOf (.leaf ⟨.text (.ok s) (.ok ()), p, q⟩) (.text s)
  | list {o : Lexeme} {items : Items} {vs : List Value} (h : Items.AreOf items vs) :
      Node.IsOf (.list o items) (.list vs)
  | object {o : Lexeme} {members : Members} {ms : List (String × Value)}
      (h : Members.AreOf members ms) : Node.IsOf (.object o members) (.object ms)

/-- Items without faults that have the given values. -/
inductive Items.AreOf : Items → List Value → Prop
  | stop {p q : Place} : Items.AreOf (.stop ⟨.closeList, p, q⟩) []
  | item {n : Node} {v : Value} {items : Items} {vs : List Value} (h : Node.IsOf n v)
      (hs : Items.AreOf items vs) : Items.AreOf (.item n items) (v :: vs)

/-- Members without faults that have the given keys and values. -/
inductive Members.AreOf : Members → List (String × Value) → Prop
  | stop {p q : Place} : Members.AreOf (.stop ⟨.closeObject, p, q⟩) []
  | member {lead colon : Lexeme} {p q : Place} {key : String} {n : Node} {v : Value}
      {members : Members} {ms : List (String × Value)} (h : Node.IsOf n v)
      (hs : Members.AreOf members ms) :
      Members.AreOf (.member lead ⟨.text (.ok key) (.ok ()), p, q⟩ colon n members) ((key, v) :: ms)

end

namespace Awaiting

/-! ## Lexemes that build a tree -/

/-- Lexemes that are put together to a tree wherever a value is awaited. -/
def Builds (ls : List Lexeme) (n : Node) : Prop :=
  ∀ last stack more, run last (.value stack) (ls ++ more) = run last (.delimiter n stack) more

/-- Lexemes that are put together to items and close the list in which an item is awaited. -/
def BuildsItems (ls : List Lexeme) (items : Items) : Prop :=
  ∀ last o done stack more, run last (.value (.list o done :: stack)) (ls ++ more) =
    run last (.delimiter (.list o (items.push done)) stack) more

/-- Lexemes that are put together to members and close the object in which a key is awaited.  The
members depend on the lexeme in front of the first one. -/
def BuildsMembers (ls : List Lexeme) (members : Lexeme → Members) : Prop :=
  ∀ last o done lead stack more, run last (.key o done lead stack) (ls ++ more) =
    run last (.delimiter (.object o ((members lead).push done)) stack) more

variable {l : Lexeme} {ls ms : List Lexeme} {n : Node} {items : Items}
  {members : Lexeme → Members} {p q : Place}

/-- A lexeme with which a value begins. -/
def Opens (l : Lexeme) : Prop :=
  ∀ stack, ∃ next, begin l stack = some next

/-- The first item of a list is awaited like any other if the list is not closed at once. -/
lemma run_itemOrEnd (h : Opens l) (last o : Lexeme) (stack : List Frame) :
    run last (.itemOrEnd o stack) (l :: ls) =
      run last (.value (.list o [] :: stack)) (l :: ls) := by
  obtain ⟨next, hnext⟩ := h []
  obtain ⟨token, p, q⟩ := l
  cases token <;> first | rfl | simp [begin] at hnext

/-- A list is built from an opening bracket and its items. -/
lemma builds_list (h : BuildsItems (l :: ls) items) (hl : Opens l) :
    Builds (⟨.openList, p, q⟩ :: l :: ls) (.list ⟨.openList, p, q⟩ items) := by
  intro last stack more
  have hitems := h last ⟨.openList, p, q⟩ [] stack more
  rw [List.cons_append, ← run_itemOrEnd hl] at hitems
  exact hitems

/-- An object is built from an opening brace and its members. -/
lemma builds_object {value : Except Fault String} {spelled : Except Fault Unit} {r s : Place}
    (h : BuildsMembers (⟨.text value spelled, r, s⟩ :: ls) members) :
    Builds (⟨.openObject, p, q⟩ :: ⟨.text value spelled, r, s⟩ :: ls)
      (.object ⟨.openObject, p, q⟩ (members ⟨.openObject, p, q⟩)) :=
  fun last stack more => h last ⟨.openObject, p, q⟩ [] ⟨.openObject, p, q⟩ stack more

/-- The last item is followed by the closing bracket. -/
lemma buildsItems_last (h : Builds ls n) :
    BuildsItems (ls ++ [⟨.closeList, p, q⟩]) (.item n (.stop ⟨.closeList, p, q⟩)) := by
  intro last o done stack more
  rw [List.append_assoc, h]
  rfl

/-- Items may be added in front, with a comma behind each. -/
lemma buildsItems_more (h : Builds ls n) (hs : BuildsItems ms items) :
    BuildsItems (ls ++ ⟨.comma, p, q⟩ :: ms) (.item n items) := by
  intro last o done stack more
  rw [List.append_assoc, h]
  exact hs last o (n :: done) stack more

/-- A key and a colon lead to a value. -/
lemma run_key {key colon : Lexeme} {value : Except Fault String} {spelled : Except Fault Unit}
    (hkey : key.token = .text value spelled) (hcolon : colon.token = .colon) (last o : Lexeme)
    (done : List Member) (lead : Lexeme) (stack : List Frame) :
    run last (.key o done lead stack) (key :: colon :: ls) =
      run last (.value (.object o done lead key colon :: stack)) ls := by
  simp only [run, step, hkey, hcolon]

section

variable {key colon : Lexeme} {value : Except Fault String} {spelled : Except Fault Unit}
  (hkey : key.token = .text value spelled) (hcolon : colon.token = .colon)

include hkey hcolon

/-- The last member is followed by the closing brace. -/
lemma buildsMembers_last (h : Builds ls n) :
    BuildsMembers (key :: colon :: (ls ++ [⟨.closeObject, p, q⟩]))
      (fun lead => .member lead key colon n (.stop ⟨.closeObject, p, q⟩)) := by
  intro last o done lead stack more
  rw [List.cons_append, List.cons_append, run_key hkey hcolon, List.append_assoc, h]
  rfl

/-- Members may be added in front, with a comma behind each. -/
lemma buildsMembers_more (h : Builds ls n) (hs : BuildsMembers ms members) :
    BuildsMembers (key :: colon :: (ls ++ ⟨.comma, p, q⟩ :: ms))
      (fun lead => .member lead key colon n (members ⟨.comma, p, q⟩)) := by
  intro last o done lead stack more
  rw [List.cons_append, List.cons_append, run_key hkey hcolon, List.append_assoc, h]
  exact hs last o (⟨lead, key, colon, n⟩ :: done) ⟨.comma, p, q⟩ stack more

end

end Awaiting

/-! ## Texts that become a tree -/

open Awaiting

variable {p : Place} {t u : List Char}

/-- No literal goes on with a comma or a closing mark. -/
lemma endsLiteral_mark {c : Char} (h : c = ',' ∨ c = ']' ∨ c = '\x7d') (u : List Char) :
    EndsLiteral (c :: u) := by
  intro d hd
  obtain rfl : c = d := Option.some.inj hd
  rcases h with rfl | rfl | rfl <;> decide

/-- No literal goes on with a blank. -/
lemma endsLiteral_blank (h : Blank t) (hu : EndsLiteral u) : EndsLiteral (t ++ u) := by
  cases t with
  | nil => exact hu
  | cons c t =>
    intro d hd
    obtain rfl : c = d := Option.some.inj hd
    have hc := h c List.mem_cons_self
    simp only [List.mem_cons, List.not_mem_nil, or_false] at hc
    rcases hc with rfl | rfl | rfl | rfl <;> decide

/-- A text that becomes a tree of the value before the given rest is reached. -/
def Becomes (p : Place) (t : List Char) (v : Value) (u : List Char) : Prop :=
  ∃ q l ls n, CutsInto p t (l :: ls) q u ∧ Opens l ∧ Builds (l :: ls) n ∧ n.IsOf v

/-- A value that is one lexeme becomes a tree of that lexeme. -/
lemma becomes_leaf {l : Lexeme} {v : Value} {q : Place} (hcut : CutsInto p t [l] q u)
    (hl : ∀ stack, begin l stack = some (.delimiter (.leaf l) stack))
    (hv : (Node.leaf l).IsOf v) : Becomes p t v u := by
  refine ⟨q, l, [], .leaf l, hcut, fun stack => ⟨_, hl stack⟩, fun last stack more => ?_, hv⟩
  rw [List.cons_append, List.nil_append, run, step, hl]

mutual

/-- The text of a value becomes a tree of it. -/
theorem Spells.becomes {t : List Char} {v : Value} (h : Spells t v) (p : Place) {u : List Char}
    (hu : EndsLiteral u) : Becomes p (t ++ u) v u := by
  cases h with
  | null =>
    obtain ⟨q, hq⟩ := cutsInto_word (w := .null) (c := 'n') (by decide) (fun _ _ => rfl) p u
    exact becomes_leaf hq (fun _ => rfl) .null
  | true =>
    obtain ⟨q, hq⟩ := cutsInto_word (w := .true) (c := 't') (by decide) (fun _ _ => rfl) p u
    exact becomes_leaf hq (fun _ => rfl) .true
  | false =>
    obtain ⟨q, hq⟩ := cutsInto_word (w := .false) (c := 'f') (by decide) (fun _ _ => rfl) p u
    exact becomes_leaf hq (fun _ => rfl) .false
  | number h =>
    obtain ⟨q, hq⟩ := cutsInto_number h hu p
    exact becomes_leaf hq (fun _ => rfl) .number
  | text h =>
    obtain ⟨q, hq⟩ := cutsInto_text h p u
    exact becomes_leaf hq (fun _ => rfl) .text
  | emptyList hb =>
    simp only [List.cons_append, List.append_assoc, List.nil_append]
    have hopen := cutsInto_mark '[' .openList (by decide) (fun _ _ => rfl) p
    obtain ⟨q, hblank⟩ := cutsInto_blank hb (p.past '[') (']' :: u)
    have hclose := cutsInto_mark ']' .closeList (by decide) (fun _ _ => rfl) q u
    have hcut := (hopen _).trans (hblank.trans hclose)
    exact ⟨_, _, _, .list _ (.stop _), hcut, fun _ => ⟨_, rfl⟩, fun _ _ _ => rfl, .list .stop⟩
  | list h =>
    have hopen := cutsInto_mark '[' .openList (by decide) (fun _ _ => rfl) p
    obtain ⟨q, l, ls, items, hcut, hl, hbuilds, hitems⟩ := h.become (p.past '[') u
    exact ⟨q, _, _, _, (hopen _).trans hcut, fun _ => ⟨_, rfl⟩, builds_list hbuilds hl,
      .list hitems⟩
  | emptyObject hb =>
    simp only [List.cons_append, List.append_assoc, List.nil_append]
    have hopen := cutsInto_mark '\x7b' .openObject (by decide) (fun _ _ => rfl) p
    obtain ⟨q, hblank⟩ := cutsInto_blank hb (p.past '\x7b') ('\x7d' :: u)
    have hclose := cutsInto_mark '\x7d' .closeObject (by decide) (fun _ _ => rfl) q u
    have hcut := (hopen _).trans (hblank.trans hclose)
    exact ⟨_, _, _, .object _ (.stop _), hcut, fun _ => ⟨_, rfl⟩, fun _ _ _ => rfl, .object .stop⟩
  | object h =>
    have hopen := cutsInto_mark '\x7b' .openObject (by decide) (fun _ _ => rfl) p
    obtain ⟨q, r, s, key, spelled, ls, members, hcut, hbuilds, hmembers⟩ :=
      h.become (p.past '\x7b') u
    exact ⟨q, _, _, _, (hopen _).trans hcut, fun _ => ⟨_, rfl⟩, builds_object hbuilds,
      .object (hmembers _)⟩

/-- The text of the items of a list becomes items with their values. -/
theorem SpellsItems.become {t : List Char} {vs : List Value} (h : SpellsItems t vs) (p : Place)
    (u : List Char) : ∃ q l ls items, CutsInto p (t ++ u) (l :: ls) q u ∧ Opens l ∧
      BuildsItems (l :: ls) items ∧ items.AreOf vs := by
  cases h with
  | @last a t b v ha h hb =>
    simp only [List.append_assoc, List.singleton_append]
    have hend : EndsLiteral (b ++ ']' :: u) := endsLiteral_blank hb (endsLiteral_mark (by simp) u)
    obtain ⟨q, hbefore⟩ := cutsInto_blank ha p (t ++ (b ++ ']' :: u))
    obtain ⟨q', l, ls, n, hvalue, hl, hbuilds, hn⟩ := h.becomes q hend
    obtain ⟨r, hbehind⟩ := cutsInto_blank hb q' (']' :: u)
    have hclose := cutsInto_mark ']' .closeList (by decide) (fun _ _ => rfl) r u
    have hcut := hbefore.trans (hvalue.trans (hbehind.trans hclose))
    exact ⟨_, l, _, _, hcut, hl, buildsItems_last hbuilds, .item hn .stop⟩
  | @more a t b w v vs ha h hb hs =>
    simp only [List.append_assoc, List.cons_append]
    have hend : EndsLiteral (b ++ ',' :: (w ++ u)) :=
      endsLiteral_blank hb (endsLiteral_mark (by simp) _)
    obtain ⟨q, hbefore⟩ := cutsInto_blank ha p (t ++ (b ++ ',' :: (w ++ u)))
    obtain ⟨q', l, ls, n, hvalue, hl, hbuilds, hn⟩ := h.becomes q hend
    obtain ⟨r, hbehind⟩ := cutsInto_blank hb q' (',' :: (w ++ u))
    have hcomma := cutsInto_mark ',' .comma (by decide) (fun _ _ => rfl) r (w ++ u)
    obtain ⟨s, _, _, items, hrest, -, hbuildsRest, hitems⟩ := hs.become (r.past ',') u
    have hcut := hbefore.trans (hvalue.trans (hbehind.trans (hcomma.trans hrest)))
    exact ⟨s, l, _, _, hcut, hl, buildsItems_more hbuilds hbuildsRest, .item hn hitems⟩

/-- The text of a member becomes a key, a colon and a tree of its value. -/
theorem SpellsMember.become {t : List Char} {m : String × Value} (h : SpellsMember t m) (p : Place)
    {u : List Char} (hu : EndsLiteral u) : ∃ q r s r' s' ls n,
      CutsInto p (t ++ u) (⟨.text (.ok m.1) (.ok ()), r, s⟩ :: ⟨.colon, r', s'⟩ :: ls) q u ∧
        Builds ls n ∧ n.IsOf m.2 := by
  cases h with
  | @mk a k b c t d key v ha hk hb hc h hd =>
    simp only [List.append_assoc, List.cons_append]
    obtain ⟨q, hbefore⟩ := cutsInto_blank ha p (quoted k ++ (b ++ ':' :: (c ++ (t ++ (d ++ u)))))
    obtain ⟨q', hkey⟩ := cutsInto_text hk q (b ++ ':' :: (c ++ (t ++ (d ++ u))))
    obtain ⟨r, hbehind⟩ := cutsInto_blank hb q' (':' :: (c ++ (t ++ (d ++ u))))
    have hcolon :=
      cutsInto_mark ':' .colon (by decide) (fun _ _ => rfl) r (c ++ (t ++ (d ++ u)))
    obtain ⟨r', hbefore'⟩ := cutsInto_blank hc (r.past ':') (t ++ (d ++ u))
    obtain ⟨s, l, ls, n, hvalue, -, hbuilds, hn⟩ := h.becomes r' (endsLiteral_blank hd hu)
    obtain ⟨s', hbehind'⟩ := cutsInto_blank hd s u
    have hcut := hbefore.trans (hkey.trans (hbehind.trans (hcolon.trans (hbefore'.trans
      (hvalue.trans hbehind')))))
    rw [List.append_nil] at hcut
    exact ⟨s', _, _, _, _, _, n, hcut, hbuilds, hn⟩

/-- The text of the members of an object becomes members with their keys and values. -/
theorem SpellsMembers.become {t : List Char} {ms : List (String × Value)} (h : SpellsMembers t ms)
    (p : Place) (u : List Char) : ∃ q r s key spelled ls members,
      CutsInto p (t ++ u) (⟨.text key spelled, r, s⟩ :: ls) q u ∧
        BuildsMembers (⟨.text key spelled, r, s⟩ :: ls) members ∧
        ∀ lead, (members lead).AreOf ms := by
  cases h with
  | @last t m h =>
    simp only [List.append_assoc, List.singleton_append]
    obtain ⟨q, r, s, r', s', ls, n, hmember, hbuilds, hn⟩ :=
      h.become p (endsLiteral_mark (c := '\x7d') (by simp) u)
    have hclose := cutsInto_mark '\x7d' .closeObject (by decide) (fun _ _ => rfl) q u
    exact ⟨_, r, s, _, _, _, _, hmember.trans hclose, buildsMembers_last rfl rfl hbuilds,
      fun _ => .member hn .stop⟩
  | @more t w m ms h hs =>
    simp only [List.append_assoc, List.cons_append]
    obtain ⟨q, r, s, r', s', ls, n, hmember, hbuilds, hn⟩ :=
      h.become p (endsLiteral_mark (c := ',') (by simp) (w ++ u))
    have hcomma := cutsInto_mark ',' .comma (by decide) (fun _ _ => rfl) q (w ++ u)
    obtain ⟨q', _, _, _, _, _, members, hrest, hbuildsRest, hmembers⟩ := hs.become (q.past ',') u
    exact ⟨q', r, s, _, _, _, _, hmember.trans (hcomma.trans hrest),
      buildsMembers_more rfl rfl hbuilds hbuildsRest, fun _ => .member hn (hmembers _)⟩

end

/-- The tree of a spelled document has its value, and behind it the document ends. -/
theorem isOf_ofText {text : List Char} {v : Value} (h : SpellsDocument text v) :
    (Document.ofText text).value.IsOf v ∧ (Document.ofText text).next.token = .finish := by
  obtain @⟨a, t, b, v, ha, hv, hb⟩ := h
  have hend : EndsLiteral (b ++ []) := endsLiteral_blank hb (by simp [EndsLiteral])
  obtain ⟨q, hbefore⟩ := cutsInto_blank ha .start (t ++ (b ++ []))
  obtain ⟨q', l, ls, n, hvalue, -, hbuilds, hn⟩ := hv.becomes q hend
  obtain ⟨r, hbehind⟩ := cutsInto_blank hb q' []
  have hcut := hbefore.trans (hvalue.trans hbehind)
  have hlexemes : lexemes (a ++ (t ++ b)) = ⟨l :: ls, r⟩ := by
    simpa [CutsInto, lexemes, lexemesFrom] using hcut
  have hdocument : Document.ofText (a ++ (t ++ b)) = ⟨n, .atEnd r⟩ := by
    have hrun := hbuilds (.atEnd r) [] []
    rw [List.append_nil] at hrun
    simp only [Document.ofText, hlexemes, hrun]
    rfl
  rw [hdocument]
  exact ⟨hn, rfl⟩

end DiagnosticPage.Json
