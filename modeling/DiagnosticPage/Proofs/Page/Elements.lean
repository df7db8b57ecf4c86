import DiagnosticPage.Proofs.Bundle.Nodes
import DiagnosticPage.Proofs.Group.FirstAppearance
import DiagnosticPage.Proofs.Markup.Occurrences
import DiagnosticPage.Proofs.Page.Content
import Mathlib.Algebra.BigOperators.Group.List.Basic
import Mathlib.Tactic.Ring

/-!
# The elements of a page

What there is in the markup of a page, part by part.  `Bundle.found_markupIn` finds the messages
of a bundle node by node in reading order, and `Bundle.total_markupIn` sums up a number for each
element over the nodes; both go by recursion over bundles and lists of bundles together, as the
markup does.  `Report.found_sections` and `Report.total_sections` say the same of all sections of
a page, where sums do not depend on how the bundles are grouped.
-/

namespace DiagnosticPage

open Markup (found total)

/-! ### Messages in a page -/

/-- Whether a text starts with the tag of a message. -/
def startsMessage (s : List Char) : Bool :=
  "<span class=\"message\">".toList.isPrefixOf s ||
    "<span class=\"message line-".toList.isPrefixOf s

/-- The tag of a message is an opening tag. -/
lemma openingTest_startsMessage : OpeningTest startsMessage :=
  (openingTest_isPrefixOf ⟨'s', _, rfl, by decide⟩ (by decide)).or
    (openingTest_isPrefixOf ⟨'s', _, rfl, by decide⟩ (by decide))

/-- Whether an element is a message. -/
def Element.isMessage : Element → Bool
  | .message _ => true
  | _ => false

/-- Messages, and no other elements, have the tag of a message. -/
lemma startsMessage_openingTag (e : Element) : startsMessage e.openingTag = e.isMessage := by
  cases e using Element.casesByTag with
  | fixed e he =>
    have hall : ∀ e ∈ Element.fixedElements, startsMessage e.openingTag = e.isMessage := by decide
    exact hall e he
  | numbered n => rw [Element.openingTag_message_some]; rfl
  | titled title => rw [Element.openingTag_line_some]; rfl

variable (o : Options) (main : String)

/-- A message is found as a whole, and no other message in it. -/
lemma Message.found_markup (labelled : Bool) (m : Message) :
    found startsMessage [m.markup o labelled] = [(m.markup o labelled).write] := by
  cases labelled with
  | false => simp [markup, highlighted, underline, Markup.found_element, startsMessage_openingTag,
      Element.isMessage]
  | true => simp [markup, highlighted, underline, Markup.found_element, startsMessage_openingTag,
      Element.isMessage]

/-- The messages of a node are found in their order. -/
lemma Message.found_messages (ms : List Message) :
    found startsMessage (ms.flatMap fun m => [m.markup o (m.path != main), .lineBreak]) =
      ms.map fun m => (m.markup o (m.path != main)).write := by
  have hline : ∀ m : Message,
      found startsMessage [m.markup o (m.path != main), .lineBreak] =
        [(m.markup o (m.path != main)).write] := fun m =>
    (Markup.found_append _ [m.markup o (m.path != main)] [.lineBreak]).trans
      (by rw [Message.found_markup]; rfl)
  rw [Markup.found_flatMap, List.map_eq_flatMap]
  exact List.flatMap_congr fun m _ => hline m

namespace Bundle

mutual

/-- The messages of a bundle are found node by node. -/
theorem found_markupIn : (b : Bundle) →
    found startsMessage (b.markupIn o main) =
      b.nodes.flatMap fun n => n.messages.map fun m => (m.markup o (m.path != main)).write
  | ⟨messages, extras, children⟩ => by
    have hextras := found_nestedIn (e := .extra) rfl extras
    have hchildren := found_nestedIn (e := .child) rfl children
    rw [markupIn, Markup.found_element, nodes, List.flatMap_cons, List.flatMap_append, ← hextras,
      ← hchildren]
    simp [Message.found_messages, startsMessage_openingTag, Element.isMessage]

/-- The messages of nested bundles are found bundle by bundle. -/
theorem found_nestedIn {e : Element} (he : e.isMessage = false) :
    (bs : List Bundle) →
    found startsMessage (nestedIn o main e bs) =
      (nodesAll bs).flatMap fun n => n.messages.map fun m => (m.markup o (m.path != main)).write
  | [] => rfl
  | b :: bs => by
    have hfirst := found_markupIn b
    have hrest := found_nestedIn he bs
    rw [nodesAll, List.flatMap_append, ← hfirst, ← hrest, nestedIn]
    simp [Markup.found_element, startsMessage_openingTag, he]

end

end Bundle

/-! ### Sums over the elements of a page -/

/-- A number for each element that is none for those within messages, the highlight apart. -/
structure OutsideMessages (w : Element → ℕ) : Prop where
  message (line : Option UInt32) : w (.message line) = 0
  alternativeSource : w .alternativeSource = 0
  context : w .context = 0
  line (title : Option String) : w (.line title) = 0
  messageText : w .messageText = 0

variable {w : Element → ℕ}

/-- Only the highlight counts in a message. -/
lemma Message.total_markup (hw : OutsideMessages w) (labelled : Bool) (m : Message) :
    total w [m.markup o labelled] = w .theError := by
  cases labelled with
  | false => simp [markup, highlighted, underline, hw.message, hw.context, hw.line, hw.messageText]
  | true => simp [markup, highlighted, underline, hw.message, hw.context, hw.line, hw.messageText,
      hw.alternativeSource]

/-- The highlights of the messages of a node are counted. -/
lemma Message.total_messages (hw : OutsideMessages w) (ms : List Message) :
    total w (ms.flatMap fun m => [m.markup o (m.path != main), .lineBreak]) =
      ms.length * w .theError := by
  have hline : ∀ m : Message,
      total w [m.markup o (m.path != main), .lineBreak] = w .theError := fun m =>
    (Markup.total_append _ [m.markup o (m.path != main)] [.lineBreak]).trans
      (by rw [Message.total_markup o hw]; rfl)
  simp [Markup.total_flatMap, hline]

/-- The number of one node of a bundle: its own element, its highlights, and the elements around
what is nested in it. -/
def Bundle.nodeTotal (w : Element → ℕ) (b : Bundle) : ℕ :=
  w .errorGroup + b.messages.length * w .theError + b.extras.length * w .extra +
    b.children.length * w .child

namespace Bundle

mutual

/-- The number of a bundle is the sum over its nodes. -/
theorem total_markupIn (hw : OutsideMessages w) : (b : Bundle) →
    total w (b.markupIn o main) = (b.nodes.map (nodeTotal w)).sum
  | ⟨messages, extras, children⟩ => by
    have hextras := total_nestedIn hw .extra extras
    have hchildren := total_nestedIn hw .child children
    have hmessages := Message.total_messages o main hw messages
    rw [markupIn, nodes, List.map_cons, List.map_append, List.sum_cons, List.sum_append]
    simp only [Markup.total_element, Markup.total_append, Markup.total_lineBreak,
      Markup.total_nil, hmessages, hextras, hchildren, nodeTotal]
    ring

/-- The number of nested bundles is the sum over their nodes, and the elements around them. -/
theorem total_nestedIn (hw : OutsideMessages w) (e : Element) : (bs : List Bundle) →
    total w (nestedIn o main e bs) = bs.length * w e + ((nodesAll bs).map (nodeTotal w)).sum
  | [] => by simp [nestedIn, nodesAll]
  | b :: bs => by
    have hfirst := total_markupIn hw b
    have hrest := total_nestedIn hw e bs
    rw [nestedIn, nodesAll, List.map_append, List.sum_append, List.length_cons]
    simp only [Markup.total_element, Markup.total_append, Markup.total_lineBreak,
      Markup.total_nil, hfirst, hrest]
    ring

end

end Bundle

/-! ### Sections -/

namespace Group

/-- The messages of a section are found bundle by bundle. -/
lemma found_markup (g : Group) :
    found startsMessage [g.markup o] = g.bundles.flatMap fun b =>
      b.nodes.flatMap fun n =>
        n.messages.map fun m => (m.markup o (m.path != b.primaryPath)).write := by
  have hbundles : found startsMessage (g.bundles.map fun b => .element .error (b.markup o)) =
      g.bundles.flatMap fun b => b.nodes.flatMap fun n =>
        n.messages.map fun m => (m.markup o (m.path != b.primaryPath)).write := by
    rw [List.map_eq_flatMap, Markup.found_flatMap]
    refine List.flatMap_congr fun b _ => ?_
    rw [← b.found_markupIn o b.primaryPath, Markup.found_element]
    simp [Bundle.markup, startsMessage_openingTag, Element.isMessage]
  simp [markup, Markup.found_element, startsMessage_openingTag, Element.isMessage, hbundles]

/-- The number of the errors of a section is the sum over the bundles. -/
lemma total_errors (hw : OutsideMessages w) (bs : List Bundle) :
    total w (bs.map fun b => .element .error (b.markup o)) =
      (bs.map fun b => w .error + (b.nodes.map (Bundle.nodeTotal w)).sum).sum := by
  rw [List.map_eq_flatMap, Markup.total_flatMap]
  simp [Bundle.markup, Bundle.total_markupIn o _ hw]

/-- The number of a section is the sum over its own elements and its bundles. -/
lemma total_markup (hw : OutsideMessages w) (g : Group) :
    total w [g.markup o] =
      w .sourceGroup + w .source + w .count + w .fileErrors +
        (g.bundles.map fun b => w .error + (b.nodes.map (Bundle.nodeTotal w)).sum).sum := by
  simp only [markup, Markup.total_element, Markup.total_append, Markup.total_lineBreak,
    Markup.total_text, Markup.total_nil, Markup.total_intersperse, total_errors o hw]
  ring

end Group

namespace Report

/-- The messages of a page are found section by section. -/
lemma found_sections (bs : List Bundle) :
    found startsMessage (sections o bs) = (Group.ofBundles bs).flatMap fun g =>
      g.bundles.flatMap fun b => b.nodes.flatMap fun n =>
        n.messages.map fun m => (m.markup o (m.path != b.primaryPath)).write := by
  unfold sections
  rw [Markup.found_intersperse, List.map_eq_flatMap, Markup.found_flatMap]
  exact List.flatMap_congr fun g _ => g.found_markup o

/-- The number of a page is the sum over its sections, its errors and all nodes in them. -/
lemma total_sections (hw : OutsideMessages w) (bs : List Bundle) :
    total w (sections o bs) =
      (Group.ofBundles bs).length * (w .sourceGroup + w .source + w .count + w .fileErrors) +
        bs.length * w .error + ((Bundle.nodesAll bs).map (Bundle.nodeTotal w)).sum := by
  let errorTotal : Bundle → ℕ := fun b => w .error + (b.nodes.map (Bundle.nodeTotal w)).sum
  have hgroups : total w (sections o bs) = ((Group.ofBundles bs).map fun g =>
      w .sourceGroup + w .source + w .count + w .fileErrors +
        (g.bundles.map errorTotal).sum).sum := by
    unfold sections
    rw [Markup.total_intersperse, List.map_eq_flatMap, Markup.total_flatMap]
    simp only [Group.total_markup o hw, errorTotal]
  -- the errors of all sections together are the bundles, in another order
  have herrors : ((Group.ofBundles bs).map fun g => (g.bundles.map errorTotal).sum).sum =
      (bs.map errorTotal).sum := by
    rw [← ((Group.flatMap_bundles_perm bs).map errorTotal).sum_eq, List.map_flatMap,
      List.flatMap_def, List.sum_flatten, List.map_map]
    rfl
  have hnodes : (bs.map errorTotal).sum =
      bs.length * w .error + ((Bundle.nodesAll bs).map (Bundle.nodeTotal w)).sum := by
    clear hgroups herrors
    induction bs with
    | nil => simp [Bundle.nodesAll]
    | cons b bs ih =>
      rw [List.map_cons, List.sum_cons, ih, Bundle.nodesAll, List.map_append, List.sum_append,
        List.length_cons]
      simp only [errorTotal]
      ring
  rw [hgroups, List.sum_map_add, herrors, hnodes]
  simp [Nat.add_assoc]

end Report

end DiagnosticPage
