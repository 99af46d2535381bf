import Sourcewright.Outline.Tree

/-!
# Fragments of outlines

An outline in some width is made of fragments that do not depend on the width: pieces of
text, and break points, one before each item of a form.  The width only decides which forms
are broken.  All break points of a broken form start new lines; those of any other form are
spaces.

Forms are told apart by their addresses.  What decides about a form is gathered in a `Part`:
the form, how deep it stands, and how many parentheses are closed right behind it.
`Part.breaks` makes the decision from these alone, and rendering a layout agrees with it.
-/

namespace Sourcewright.Outline

/-- Induction over forms, with a hypothesis for every item. -/
@[elab_as_elim]
theorem Form.induction {motive : Form → Prop} (atom : ∀ pieces, motive (.atom pieces))
    (form : ∀ head items, (∀ item ∈ items, motive item) → motive (.form head items))
    (shown : Form) : motive shown :=
  @Form.rec motive (fun items => ∀ item ∈ items, motive item) atom form
    (fun _ member => nomatch member)
    (fun _ _ first rest => List.forall_mem_cons.mpr ⟨first, rest⟩)
    shown

/-- Where a form stands: the numbers of the items that lead to it, from the outside. -/
abbrev Address := List Nat

/-- A piece of text, or a break point of the form at an address. -/
inductive Fragment where
  | piece (text : String)
  | breakPoint (owner : Address)
deriving DecidableEq

namespace Fragment

/-- A fragment of the form at an address as one of the form around it. -/
def within (address : Address) : Fragment → Fragment
  | .piece text => .piece text
  | .breakPoint owner => .breakPoint (address ++ owner)

def width : Fragment → Nat
  | .piece text => textWidth text
  | .breakPoint _ => 1

def totalWidth : List Fragment → Nat
  | [] => 0
  | fragment :: rest => fragment.width + totalWidth rest

@[simp]
theorem totalWidth_nil : totalWidth [] = 0 :=
  rfl

@[simp]
theorem totalWidth_cons (fragment : Fragment) (rest : List Fragment) :
    totalWidth (fragment :: rest) = fragment.width + totalWidth rest :=
  rfl

@[simp]
theorem totalWidth_append (first second : List Fragment) :
    totalWidth (first ++ second) = totalWidth first + totalWidth second := by
  induction first with
  | nil => exact (Nat.zero_add _).symm
  | cons fragment first ih => rw [List.cons_append, totalWidth, ih, totalWidth, Nat.add_assoc]

@[simp]
theorem totalWidth_within (address : Address) (fragments : List Fragment) :
    totalWidth (fragments.map (within address)) = totalWidth fragments := by
  induction fragments with
  | nil => rfl
  | cons fragment fragments ih =>
      rw [List.map_cons, totalWidth_cons, totalWidth_cons, ih]
      cases fragment <;> rfl

/-- The text of a fragment of a form at the given depth.  Items stand further in than the
form that they are broken by. -/
def render (depth : Nat) (broken : Address → Bool) : Fragment → String
  | .piece text => text
  | .breakPoint owner =>
    if broken owner then
      Layout.newLine (Form.itemIndent * (depth + owner.length + 1))
    else
      " "

def renderAll (depth : Nat) (broken : Address → Bool) : List Fragment → String
  | [] => ""
  | fragment :: rest => fragment.render depth broken ++ renderAll depth broken rest

theorem renderAll_append (depth : Nat) (broken : Address → Bool) (first second : List Fragment) :
    renderAll depth broken (first ++ second) =
      renderAll depth broken first ++ renderAll depth broken second := by
  induction first with
  | nil => rw [List.nil_append, renderAll, String.empty_append]
  | cons fragment first ih => rw [List.cons_append, renderAll, ih, renderAll, String.append_assoc]

theorem renderAll_within (depth : Nat) (broken : Address → Bool) (index : Nat)
    (fragments : List Fragment) :
    renderAll depth broken (fragments.map (within [index])) =
      renderAll (depth + 1) (fun inner => broken (index :: inner)) fragments := by
  induction fragments with
  | nil => rfl
  | cons fragment fragments ih =>
      rw [List.map_cons, renderAll, ih, renderAll]
      cases fragment with
      | piece text => rfl
      | breakPoint owner =>
          have deeper : depth + (owner.length + 1) + 1 = depth + 1 + owner.length + 1 := by omega
          simp only [within, render, List.singleton_append, List.length_cons, deeper]

end Fragment

namespace Form

mutual

def fragments : Form → List Fragment
  | .atom pieces => pieces.map .piece
  | .form head items => .piece "(" :: .piece head :: (itemFragments 0 items ++ [.piece ")"])

/-- The fragments of items, a break point before each, where `index` items stand before
them. -/
def itemFragments (index : Nat) : List Form → List Fragment
  | [] => []
  | item :: items =>
    .breakPoint [] :: ((fragments item).map (Fragment.within [index]) ++
      itemFragments (index + 1) items)

end

def oneLineWidth (form : Form) : Nat :=
  Fragment.totalWidth form.fragments

end Form

/-- A form inside of another, `depth` forms deep, and with so many parentheses closed between
it and the next break point. -/
structure Part where
  form : Form
  depth : Nat
  closers : Nat

namespace Part

/-- An item of a form.  Only the last item has closed parentheses behind it. -/
def item? (part : Part) (index : Nat) : Option Part :=
  match part.form with
  | .atom _ => none
  | .form _ items => items[index]?.map fun item =>
    ⟨item, part.depth + 1, if index + 1 = items.length then part.closers + 1 else 0⟩

/-- The part at an address. -/
def at? (part : Part) : Address → Option Part
  | [] => some part
  | index :: inner => (part.item? index).bind fun item => item.at? inner

/-- Whether a part can not stand on one line: it is a form that ends too far to the
right, together with the parentheses behind it. -/
def exceeds (width : Nat) (part : Part) : Bool :=
  match part.form with
  | .atom _ => false
  | .form _ _ =>
    width < Form.itemIndent * part.depth + part.form.oneLineWidth + part.closers

/-- Whether the form at an address is broken.  A form is kept if it can stand on one line, and
everything inside of it is kept then. -/
def breaks (width : Nat) (part : Part) : Address → Bool
  | [] => part.exceeds width
  | index :: inner =>
    part.exceeds width && match part.item? index with
      | none => false
      | some item => item.breaks width inner

theorem item?_append_cons (head : String) (before : List Form) (item : Form) (after : List Form)
    (depth closers : Nat) :
    item? ⟨.form head (before ++ item :: after), depth, closers⟩ before.length =
      some ⟨item, depth + 1, if after.isEmpty then closers + 1 else 0⟩ := by
  cases after with
  | nil => simp [item?]
  | cons next after => simp [item?]

theorem breaks_of_not_exceeds {width : Nat} {part : Part} (fits : part.exceeds width = false) :
    part.breaks width = fun _ => false := by
  funext address
  cases address with
  | nil => exact fits
  | cons index inner => rw [breaks, fits, Bool.false_and]

theorem breaks_cons {width : Nat} {part item : Part} {index : Nat}
    (isItem : part.item? index = some item) (inner : Address) :
    part.breaks width (index :: inner) = (part.exceeds width && item.breaks width inner) := by
  rw [breaks, isItem]

/-- Around a form that is broken, every form is. -/
theorem breaks_of_breaks_append {width : Nat} {part : Part} {outer inner : Address}
    (broken : part.breaks width (outer ++ inner) = true) : part.breaks width outer = true := by
  induction outer generalizing part with
  | nil =>
      cases inner with
      | nil => exact broken
      | cons index inner =>
          rw [List.nil_append, breaks, Bool.and_eq_true] at broken
          exact broken.1
  | cons index outer ih =>
      rw [List.cons_append, breaks, Bool.and_eq_true] at broken
      rw [breaks, broken.1, Bool.true_and]
      cases isItem : part.item? index with
      | none => simp [isItem] at broken
      | some item =>
          rw [isItem] at broken
          exact ih broken.2

end Part

/-! ## Layouts of forms -/

namespace Layout

@[simp]
theorem flat_append (first second : Layout) : (first ++ second).flat = first.flat ++ second.flat :=
  rfl

@[simp]
theorem flatWidth_append (first second : Layout) :
    (first ++ second).flatWidth = first.flatWidth + second.flatWidth :=
  rfl

@[simp]
theorem text_renderBroken_append (width indent column following : Nat) (first second : Layout) :
    (renderBroken width indent column following (first ++ second)).text =
      (renderBroken width indent column (leadWidth following second) first).text ++
        (renderBroken width indent
          (renderBroken width indent column (leadWidth following second) first).column
          following second).text :=
  rfl

@[simp]
theorem text_renderBroken_line_append (width indent column following : Nat) (second : Layout) :
    (renderBroken width indent column following (.line ++ second)).text =
      newLine indent ++ (renderBroken width indent indent following second).text :=
  rfl

theorem text_renderBroken_group_of_le {width indent column following : Nat} {inner : Layout}
    (fits : column + inner.flatWidth + following ≤ width) :
    (renderBroken width indent column following (.group inner)).text = inner.flat := by
  rw [renderBroken, if_pos fits]

theorem text_renderBroken_group_of_lt {width indent column following : Nat} {inner : Layout}
    (exceeds : width < column + inner.flatWidth + following) :
    (renderBroken width indent column following (.group inner)).text =
      (renderBroken width indent column following inner).text := by
  rw [renderBroken, if_neg (Nat.not_le.mpr exceeds)]

end Layout

namespace Form

open Layout

theorem flat_piecesLayout (depth : Nat) (pieces : List String) :
    (piecesLayout pieces).flat =
      Fragment.renderAll depth (fun _ => false) (pieces.map .piece) := by
  induction pieces with
  | nil => rfl
  | cons piece pieces ih =>
      rw [piecesLayout, flat_append, ih]
      rfl

theorem flat_toLayout (form : Form) (depth : Nat) :
    form.toLayout.flat = Fragment.renderAll depth (fun _ => false) form.fragments := by
  induction form using Form.induction generalizing depth with
  | atom pieces => exact flat_piecesLayout depth pieces
  | form head items itemsIH =>
      have inside (index : Nat) : (itemsLayout items).flat =
          Fragment.renderAll depth (fun _ => false) (itemFragments index items) := by
        induction items generalizing index with
        | nil => rfl
        | cons item items ih =>
            obtain ⟨first, rest⟩ := List.forall_mem_cons.mp itemsIH
            rw [itemsLayout, itemFragments, flat_append, flat_append, first (depth + 1),
              ih rest (index + 1), Fragment.renderAll, Fragment.renderAll_append,
              Fragment.renderAll_within]
            rfl
      simp only [toLayout, fragments, Layout.flat, flat_append, inside 0, Fragment.renderAll,
        Fragment.renderAll_append, Fragment.render, String.append_assoc, String.append_empty]

theorem flatWidth_toLayout (form : Form) : form.toLayout.flatWidth = form.oneLineWidth := by
  induction form using Form.induction with
  | atom pieces =>
      rw [oneLineWidth, fragments, toLayout]
      induction pieces with
      | nil => rfl
      | cons piece pieces ih =>
          rw [piecesLayout, flatWidth_append, ih]
          rfl
  | form head items itemsIH =>
      have inside (index : Nat) : (itemsLayout items).flatWidth =
          Fragment.totalWidth (itemFragments index items) := by
        induction items generalizing index with
        | nil => rfl
        | cons item items ih =>
            obtain ⟨first, rest⟩ := List.forall_mem_cons.mp itemsIH
            rw [itemsLayout, itemFragments, flatWidth_append, flatWidth_append, first,
              ih rest (index + 1), Fragment.totalWidth_cons, Fragment.totalWidth_append,
              Fragment.totalWidth_within]
            rfl
      simp only [toLayout, oneLineWidth, fragments, Layout.flatWidth, flatWidth_append, inside 0,
        Fragment.totalWidth_cons, Fragment.totalWidth_append, Fragment.totalWidth_nil,
        Fragment.width]
      omega

theorem text_renderBroken_piecesLayout (width indent column following depth : Nat)
    (broken : Address → Bool) (pieces : List String) :
    (renderBroken width indent column following (piecesLayout pieces)).text =
      Fragment.renderAll depth broken (pieces.map .piece) := by
  induction pieces generalizing column with
  | nil => rfl
  | cons piece pieces ih =>
      rw [piecesLayout, text_renderBroken_append, ih]
      rfl

/-- A form that is broken: its head, and its items further in, with one more parenthesis
closed behind them. -/
theorem text_renderBroken_form {width indent column closers : Nat} {head : String}
    {items : List Form}
    (exceeds : width < column + (toLayout (.form head items)).flatWidth + closers) :
    (renderBroken width indent column closers (toLayout (.form head items))).text =
      "(" ++ (head ++ (renderBroken width (indent + itemIndent)
        (column + textWidth "(" + textWidth head) (closers + 1) (itemsLayout items)).text) ++
        ")" := by
  have behind : closers + 1 = textWidth ")" + closers := by
    rw [Nat.add_comm]
    rfl
  rw [behind]
  exact text_renderBroken_group_of_lt exceeds

/-- Behind an item there is another one or a closing parenthesis. -/
theorem leadWidth_itemsLayout (following : Nat) (items : List Form) :
    (itemsLayout items).leadWidth following = if items.isEmpty then following else 0 := by
  cases items <;> rfl

/-- The items of a broken form are rendered each on its own, at the start of a line. -/
theorem text_renderBroken_itemsLayout {width depth closers index : Nat} {items : List Form}
    {broken : Address → Bool} (column : Nat) (outer : broken [] = true)
    (each : ∀ before item after, items = before ++ item :: after →
      (renderBroken width (itemIndent * (depth + 1)) (itemIndent * (depth + 1))
        (if after.isEmpty then closers + 1 else 0) item.toLayout).text =
      Fragment.renderAll (depth + 1) (fun inner => broken ((index + before.length) :: inner))
        item.fragments) :
    (renderBroken width (itemIndent * (depth + 1)) column (closers + 1) (itemsLayout items)).text =
      Fragment.renderAll depth broken (itemFragments index items) := by
  induction items generalizing index column with
  | nil => rfl
  | cons item items ih =>
      have first := each [] item items rfl
      have rest (column : Nat) : (renderBroken width (itemIndent * (depth + 1)) column
          (closers + 1) (itemsLayout items)).text =
            Fragment.renderAll depth broken (itemFragments (index + 1) items) := by
        apply ih
        rintro before next after rfl
        have shifted := each (item :: before) next after rfl
        rwa [List.length_cons, Nat.add_comm before.length, ← Nat.add_assoc] at shifted
      rw [itemsLayout, text_renderBroken_line_append, text_renderBroken_append,
        leadWidth_itemsLayout, first, rest, itemFragments, Fragment.renderAll,
        Fragment.renderAll_append, Fragment.renderAll_within, Fragment.render, outer, if_pos rfl]
      rfl

/-- Rendering a layout breaks exactly the forms that are said to be broken. -/
theorem text_renderBroken_toLayout (width : Nat) (form : Form) (depth closers : Nat) :
    (renderBroken width (itemIndent * depth) (itemIndent * depth) closers form.toLayout).text =
      Fragment.renderAll depth (Part.breaks width ⟨form, depth, closers⟩) form.fragments := by
  induction form using Form.induction generalizing depth closers with
  | atom pieces => exact text_renderBroken_piecesLayout _ _ _ _ _ _ pieces
  | form head items itemsIH =>
      have oneLine := flatWidth_toLayout (.form head items)
      cases exceeds : Part.exceeds width ⟨.form head items, depth, closers⟩ with
      | false =>
          have fits : itemIndent * depth + (toLayout (.form head items)).flatWidth + closers ≤
              width := by
            rw [oneLine]
            simpa [Part.exceeds] using exceeds
          rw [Part.breaks_of_not_exceeds exceeds, ← flat_toLayout]
          exact text_renderBroken_group_of_le fits
      | true =>
          have wide : width < itemIndent * depth + (toLayout (.form head items)).flatWidth +
              closers := by
            rw [oneLine]
            simpa [Part.exceeds] using exceeds
          have inside (column : Nat) : (renderBroken width (itemIndent * (depth + 1)) column
              (closers + 1) (itemsLayout items)).text =
                Fragment.renderAll depth (Part.breaks width ⟨.form head items, depth, closers⟩)
                  (itemFragments 0 items) := by
            apply text_renderBroken_itemsLayout column exceeds
            rintro before item after rfl
            rw [itemsIH item (by simp)]
            congr 1
            funext inner
            rw [Nat.zero_add, Part.breaks_cons (Part.item?_append_cons ..), exceeds,
              Bool.true_and]
          rw [text_renderBroken_form wide, ← Nat.mul_succ, inside]
          simp only [fragments, Fragment.renderAll, Fragment.renderAll_append, Fragment.render,
            String.append_assoc, String.append_empty]

theorem exists_item_of_mem_itemFragments {fragment : Fragment} {index : Nat} {items : List Form}
    (member : fragment ∈ itemFragments index items) :
    fragment = .breakPoint [] ∨ ∃ before item after, items = before ++ item :: after ∧
      ∃ inner ∈ item.fragments, fragment = inner.within [index + before.length] := by
  induction items generalizing index with
  | nil => cases member
  | cons item items ih =>
      rw [itemFragments, List.mem_cons, List.mem_append, List.mem_map] at member
      rcases member with own | ⟨inner, inItem, rfl⟩ | inRest
      · exact .inl own
      · exact .inr ⟨[], item, items, rfl, inner, inItem, rfl⟩
      · rcases ih inRest with own | ⟨before, next, after, rfl, inner, inItem, rfl⟩
        · exact .inl own
        · refine .inr ⟨item :: before, next, after, rfl, inner, inItem, ?_⟩
          rw [List.length_cons, Nat.add_comm before.length, ← Nat.add_assoc]

/-- A break point belongs to a form that stands at the address of its owner. -/
theorem exists_at?_of_breakPoint_mem {form : Form} {owner : Address} (depth closers : Nat)
    (member : .breakPoint owner ∈ form.fragments) :
    ∃ head items behind, items ≠ [] ∧ Part.at? ⟨form, depth, closers⟩ owner =
      some ⟨.form head items, depth + owner.length, behind⟩ := by
  induction form using Form.induction generalizing owner depth closers with
  | atom pieces => simp [fragments] at member
  | form head items itemsIH =>
      simp only [fragments, List.mem_cons, List.mem_append, reduceCtorEq, List.not_mem_nil,
        or_false, false_or] at member
      have hasItems : items ≠ [] := by
        rintro rfl
        cases member
      rcases exists_item_of_mem_itemFragments member with own | ⟨before, item, after, rfl, inner,
        inItem, shifted⟩
      · obtain rfl := Fragment.breakPoint.inj own
        exact ⟨head, items, closers, hasItems, rfl⟩
      · cases inner with
        | piece text => cases shifted
        | breakPoint inner =>
            obtain rfl := Fragment.breakPoint.inj shifted
            obtain ⟨head, items, behind, nonempty, found⟩ := itemsIH item (by simp) (depth + 1)
              (if after.isEmpty then closers + 1 else 0) inItem
            refine ⟨head, items, behind, nonempty, ?_⟩
            rw [Nat.zero_add, List.singleton_append, Part.at?, Part.item?_append_cons,
              Option.bind_some, found, List.length_cons, Nat.add_right_comm, Nat.add_assoc]

end Form

end Sourcewright.Outline

namespace Sourcewright

open Outline

end Sourcewright
