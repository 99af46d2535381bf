import Sourcewright.Proofs.Outline.Breaking

/-!
# Outlines in greater widths

Every form that has to be decided about starts at a column that is given by its depth, in
every width.  So a form that has room in some width has room in every greater one, and what
is decided about the forms around it can only change in the same direction.

Main statement: in a greater width no form is broken that was not broken before, an outline
never takes more lines, and it does not change any more once it stands on one line.
-/

namespace Sourcewright.Outline

/-- The number of lines of a text, which are divided by line feeds. -/
def lineCount (text : String) : Nat :=
  text.toList.count '\n' + 1

namespace Part

variable {narrow wide : Nat}

theorem exceeds_of_le (le : narrow ≤ wide) {part : Part} (exceeds : part.exceeds wide = true) :
    part.exceeds narrow = true := by
  obtain ⟨form, depth, closers⟩ := part
  cases form with
  | atom pieces => cases exceeds
  | form head items =>
      simp only [Part.exceeds, decide_eq_true_eq] at exceeds ⊢
      omega

theorem breaks_of_le (le : narrow ≤ wide) {part : Part} {address : Address}
    (broken : part.breaks wide address = true) : part.breaks narrow address = true := by
  induction address generalizing part with
  | nil => exact exceeds_of_le le broken
  | cons index inner ih =>
      rw [breaks, Bool.and_eq_true] at broken ⊢
      refine ⟨exceeds_of_le le broken.1, ?_⟩
      cases isItem : part.item? index with
      | none => simp [isItem] at broken
      | some item =>
          rw [isItem] at broken
          exact ih broken.2

theorem breaks_of_oneLineWidth_le {width : Nat} {root : Form}
    (fits : root.oneLineWidth ≤ width) : breaks width ⟨root, 0, 0⟩ = fun _ => false := by
  apply breaks_of_not_exceeds
  cases root with
  | atom pieces => rfl
  | form head items =>
      simp only [exceeds, decide_eq_false_iff_not]
      omega

end Part

/-! ## Fewer lines -/

section Lines

variable {fewer more : Address → Bool}

theorem OnOneLine.of_fewer (included : ∀ owner, fewer owner = true → more owner = true)
    {address : Address} {form : Form} (kept : OnOneLine more address form) :
    OnOneLine fewer address form := by
  intro owner member
  cases isBroken : fewer (address ++ owner) with
  | false => rfl
  | true =>
      have inMore := included _ isBroken
      rw [kept owner member] at inMore
      cases inMore

theorem count_render_le (included : ∀ owner, fewer owner = true → more owner = true)
    (depth : Nat) (fragment : Fragment) :
    (fragment.render depth fewer).toList.count '\n' ≤
      (fragment.render depth more).toList.count '\n' := by
  cases fragment with
  | piece text => exact Nat.le_refl _
  | breakPoint owner =>
      cases isBroken : fewer owner with
      | true =>
          have same : Fragment.render depth fewer (.breakPoint owner) =
              Fragment.render depth more (.breakPoint owner) := by
            rw [Fragment.render, Fragment.render, isBroken, included owner isBroken]
          exact same ▸ Nat.le_refl _
      | false =>
          -- A space has no line feed in it, whatever stands there otherwise.
          have space : (Fragment.render depth fewer (.breakPoint owner)).toList.count '\n' = 0 := by
            simp [Fragment.render, isBroken]
          omega

theorem count_renderAll_le (included : ∀ owner, fewer owner = true → more owner = true)
    (depth : Nat) (fragments : List Fragment) :
    (Fragment.renderAll depth fewer fragments).toList.count '\n' ≤
      (Fragment.renderAll depth more fragments).toList.count '\n' := by
  induction fragments with
  | nil => exact Nat.le_refl _
  | cons fragment fragments ih =>
      have first := count_render_le included depth fragment
      simp only [Fragment.renderAll, String.toList_append, List.count_append]
      omega

end Lines

end Sourcewright.Outline

namespace Sourcewright

open Outline

/-- What is broken in a width is given by `Part.breaks`.  A form that stands on one line in
some width does so in every greater width, so there are no more lines there; and an outline
for which there is room on one line is the same in every greater width. -/
theorem Node.outlineText_widen (node : Node) {narrow wide : Nat} (le : narrow ≤ wide) :
    (∀ width, node.outlineText width =
      Fragment.renderAll 0 (Part.breaks width ⟨node.outline, 0, 0⟩) node.outline.fragments) ∧
    (∀ address part, Part.at? ⟨node.outline, 0, 0⟩ address = some part →
      OnOneLine (Part.breaks narrow ⟨node.outline, 0, 0⟩) address part.form →
      OnOneLine (Part.breaks wide ⟨node.outline, 0, 0⟩) address part.form) ∧
    lineCount (node.outlineText wide) ≤ lineCount (node.outlineText narrow) ∧
    (node.outline.oneLineWidth ≤ narrow → node.outlineText wide = node.outlineText narrow) := by
  have text (width : Nat) : node.outlineText width =
      Fragment.renderAll 0 (Part.breaks width ⟨node.outline, 0, 0⟩) node.outline.fragments :=
    Form.text_renderBroken_toLayout width node.outline 0 0
  have included (owner : Address) :
      Part.breaks wide ⟨node.outline, 0, 0⟩ owner = true →
        Part.breaks narrow ⟨node.outline, 0, 0⟩ owner = true :=
    Part.breaks_of_le le
  refine ⟨text, ?_, ?_, ?_⟩
  · intro address part _ kept
    exact kept.of_fewer included
  · rw [lineCount, lineCount, text wide, text narrow]
    have fewer := count_renderAll_le included 0 node.outline.fragments
    omega
  · intro fits
    rw [text wide, text narrow, Part.breaks_of_oneLineWidth_le fits,
      Part.breaks_of_oneLineWidth_le (Nat.le_trans fits le)]

/-- An assignment of a sum, which is broken in two steps as the width gets smaller. -/
def Node.sumAssignment : Node :=
  .expr (.assign (.param ⟨"a", .primitive .integer⟩)
    (.binary .plus (.param ⟨"b", .primitive .integer⟩) (.param ⟨"c", .primitive .integer⟩)))

theorem Node.outlineText_widen_sumAssignment :
    Node.sumAssignment.outlineText 12 = "(assign\n  a\n  (plus\n    b\n    c))" ∧
    Node.sumAssignment.outlineText 13 = "(assign\n  a\n  (plus b c))" ∧
    lineCount (Node.sumAssignment.outlineText 13) ≤ lineCount (Node.sumAssignment.outlineText 12) ∧
    Node.sumAssignment.outline.oneLineWidth = 21 ∧
    Node.sumAssignment.outlineText 80 = Node.sumAssignment.outlineText 21 :=
  ⟨by decide +kernel, by decide +kernel, (Node.outlineText_widen _ (by decide)).2.2.1,
    by decide +kernel, (Node.outlineText_widen _ (by decide)).2.2.2 (by decide +kernel)⟩

end Sourcewright
