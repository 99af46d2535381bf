import Sourcewright.Proofs.Outline.Fragments

/-!
# Rows of outlines

The rows of an outline are what stands between the break points that start new lines.  A text
with a line feed inside of it stays on its row, and is measured as a whole.

Main statement of this file: a row is only too wide if it can not be avoided.  Such a row has
nothing on it but the head of a broken form or an atom, and closed parentheses.
-/

namespace Sourcewright.Outline

/-- A row of an outline: where it starts, and the fragments on it. -/
structure Row where
  indent : Nat
  content : List Fragment

namespace Row

def width (row : Row) : Nat :=
  row.indent + Fragment.totalWidth row.content

/-- The text of a row.  Its break points are spaces. -/
def text (row : Row) : String :=
  String.ofList (List.replicate row.indent ' ') ++
    Fragment.renderAll 0 (fun _ => false) row.content

def renderAll : List Row → String
  | [] => ""
  | [row] => row.text
  | row :: next :: rows => row.text ++ "\n" ++ renderAll (next :: rows)

/-- A row of the form at an address as one of the form around it. -/
def within (address : Address) (row : Row) : Row :=
  ⟨row.indent, row.content.map (Fragment.within address)⟩

theorem width_within (address : Address) (row : Row) :
    (row.within address).width = row.width := by
  simp [within, width]

end Row

/-- Where the next line starts, if a fragment starts a line. -/
def Fragment.lineStart? (depth : Nat) (broken : Address → Bool) : Fragment → Option Nat
  | .piece _ => none
  | .breakPoint owner =>
    if broken owner then some (Form.itemIndent * (depth + owner.length + 1)) else none

/-- The rows of fragments behind what stands on the row already. -/
def rowsFrom (depth : Nat) (broken : Address → Bool) (row : Row) : List Fragment → List Row
  | [] => [row]
  | fragment :: rest =>
    match fragment.lineStart? depth broken with
    | some indent => row :: rowsFrom depth broken ⟨indent, []⟩ rest
    | none => rowsFrom depth broken ⟨row.indent, row.content ++ [fragment]⟩ rest

section Rows

variable {depth : Nat} {broken : Address → Bool}

theorem rowsFrom_cons_of_broken {fragment : Fragment} {indent : Nat}
    (starts : fragment.lineStart? depth broken = some indent) (row : Row)
    (rest : List Fragment) :
    rowsFrom depth broken row (fragment :: rest) =
      row :: rowsFrom depth broken ⟨indent, []⟩ rest := by
  simp only [rowsFrom, starts]

theorem rowsFrom_cons_of_kept {fragment : Fragment}
    (kept : fragment.lineStart? depth broken = none) (row : Row) (rest : List Fragment) :
    rowsFrom depth broken row (fragment :: rest) =
      rowsFrom depth broken ⟨row.indent, row.content ++ [fragment]⟩ rest := by
  simp only [rowsFrom, kept]

theorem rowsFrom_ne_nil (row : Row) (fragments : List Fragment) :
    rowsFrom depth broken row fragments ≠ [] := by
  induction fragments generalizing row with
  | nil => exact List.cons_ne_nil row []
  | cons fragment fragments ih =>
      cases starts : fragment.lineStart? depth broken with
      | some indent =>
          rw [rowsFrom_cons_of_broken starts]
          exact List.cons_ne_nil _ _
      | none =>
          rw [rowsFrom_cons_of_kept starts]
          exact ih _

/-- Fragments that start no line stay on the row. -/
theorem rowsFrom_append_of_kept {kept : List Fragment}
    (each : ∀ fragment ∈ kept, fragment.lineStart? depth broken = none) (row : Row)
    (rest : List Fragment) :
    rowsFrom depth broken row (kept ++ rest) =
      rowsFrom depth broken ⟨row.indent, row.content ++ kept⟩ rest := by
  induction kept generalizing row with
  | nil => rw [List.nil_append, List.append_nil]
  | cons fragment kept ih =>
      obtain ⟨first, further⟩ := List.forall_mem_cons.mp each
      rw [List.cons_append, rowsFrom_cons_of_kept first, ih further, List.append_assoc,
        List.singleton_append]

/-- A break point that starts a line divides the rows. -/
theorem rowsFrom_append_break {fragment : Fragment} {indent : Nat}
    (starts : fragment.lineStart? depth broken = some indent) (row : Row)
    (before after : List Fragment) :
    rowsFrom depth broken row (before ++ fragment :: after) =
      rowsFrom depth broken row before ++ rowsFrom depth broken ⟨indent, []⟩ after := by
  induction before generalizing row with
  | nil => exact rowsFrom_cons_of_broken starts row after
  | cons first before ih =>
      cases firstStarts : first.lineStart? depth broken with
      | some start =>
          rw [List.cons_append, rowsFrom_cons_of_broken firstStarts,
            rowsFrom_cons_of_broken firstStarts, ih, List.cons_append]
      | none =>
          rw [List.cons_append, rowsFrom_cons_of_kept firstStarts,
            rowsFrom_cons_of_kept firstStarts, ih]

theorem lineStart?_within (depth : Nat) (broken : Address → Bool) (index : Nat)
    (fragment : Fragment) :
    (fragment.within [index]).lineStart? depth broken =
      fragment.lineStart? (depth + 1) fun inner => broken (index :: inner) := by
  cases fragment with
  | piece text => rfl
  | breakPoint owner =>
      have deeper : depth + (owner.length + 1) + 1 = depth + 1 + owner.length + 1 := by omega
      simp only [Fragment.within, Fragment.lineStart?, List.singleton_append, List.length_cons,
        deeper]

theorem rowsFrom_within (depth : Nat) (broken : Address → Bool) (index : Nat) (row : Row)
    (fragments : List Fragment) :
    rowsFrom depth broken (row.within [index]) (fragments.map (Fragment.within [index])) =
      (rowsFrom (depth + 1) (fun inner => broken (index :: inner)) row fragments).map
        (Row.within [index]) := by
  induction fragments generalizing row with
  | nil => rfl
  | cons fragment fragments ih =>
      have same := lineStart?_within depth broken index fragment
      cases starts : fragment.lineStart? (depth + 1) fun inner => broken (index :: inner) with
      | some indent =>
          rw [starts] at same
          rw [List.map_cons, rowsFrom_cons_of_broken same, rowsFrom_cons_of_broken starts,
            List.map_cons, ← ih]
          rfl
      | none =>
          rw [starts] at same
          rw [List.map_cons, rowsFrom_cons_of_kept same, rowsFrom_cons_of_kept starts, ← ih,
            Row.within, Row.within, List.map_append]
          rfl

theorem render_of_broken {fragment : Fragment} {indent : Nat}
    (starts : fragment.lineStart? depth broken = some indent) :
    fragment.render depth broken = "\n" ++ String.ofList (List.replicate indent ' ') := by
  cases fragment with
  | piece text => cases starts
  | breakPoint owner =>
      simp only [Fragment.lineStart?] at starts
      split at starts
      next isBroken =>
          cases starts
          rw [Fragment.render, if_pos isBroken, Layout.newLine, ← List.singleton_append,
            String.ofList_append]
      next => cases starts

theorem render_of_kept {fragment : Fragment}
    (kept : fragment.lineStart? depth broken = none) :
    fragment.render depth broken = fragment.render 0 fun _ => false := by
  cases fragment with
  | piece text => rfl
  | breakPoint owner =>
      cases isBroken : broken owner with
      | true => simp [Fragment.lineStart?, isBroken] at kept
      | false => simp [Fragment.render, isBroken]

/-- The rows of fragments, one below the other, are the text of the fragments. -/
theorem renderAll_rowsFrom (row : Row) (fragments : List Fragment) :
    Row.renderAll (rowsFrom depth broken row fragments) =
      row.text ++ Fragment.renderAll depth broken fragments := by
  induction fragments generalizing row with
  | nil => exact String.append_empty.symm
  | cons fragment fragments ih =>
      cases starts : fragment.lineStart? depth broken with
      | some indent =>
          have below := ih ⟨indent, []⟩
          have nonempty : rowsFrom depth broken ⟨indent, []⟩ fragments ≠ [] := rowsFrom_ne_nil _ _
          obtain ⟨next, rows, split⟩ := List.exists_cons_of_ne_nil nonempty
          rw [split] at below
          rw [rowsFrom_cons_of_broken starts, split, Row.renderAll, below, Fragment.renderAll,
            render_of_broken starts]
          simp only [Row.text, Fragment.renderAll, String.append_assoc, String.append_empty]
      | none =>
          rw [rowsFrom_cons_of_kept starts, ih, Fragment.renderAll, render_of_kept starts]
          simp only [Row.text, Fragment.renderAll_append, Fragment.renderAll,
            String.append_assoc, String.append_empty]

/-- Parentheses that are closed one after the other. -/
def closing (count : Nat) : List Fragment :=
  List.replicate count (.piece ")")

theorem map_within_closing (address : Address) (count : Nat) :
    (closing count).map (Fragment.within address) = closing count :=
  List.map_replicate

theorem lineStart?_breakPoint_nil (outer : broken [] = true) :
    (Fragment.breakPoint []).lineStart? depth broken = some (Form.itemIndent * (depth + 1)) := by
  rw [Fragment.lineStart?, if_pos outer]
  rfl

theorem exists_inner_of_mem_rowsFrom {index count indent : Nat} {item : Form} {row : Row}
    (member : row ∈ rowsFrom depth broken ⟨indent, []⟩
      (item.fragments.map (Fragment.within [index]) ++ closing count)) :
    ∃ inner ∈ rowsFrom (depth + 1) (fun inner => broken (index :: inner)) ⟨indent, []⟩
        (item.fragments ++ closing count),
      row = inner.within [index] := by
  have shifted := rowsFrom_within depth broken index ⟨indent, []⟩
    (item.fragments ++ closing count)
  rw [Row.within, List.map_nil, List.map_append, map_within_closing] at shifted
  rw [shifted] at member
  obtain ⟨inner, inside, same⟩ := List.mem_map.mp member
  exact ⟨inner, inside, same.symm⟩

/-- The rows of the items of a broken form are those of each item on its own, together with
the parentheses closed behind it. -/
theorem exists_item_of_mem_rowsFrom (outer : broken [] = true) {index closers : Nat}
    {item : Form} {rest : List Form} {row : Row}
    (member : row ∈ rowsFrom depth broken ⟨Form.itemIndent * (depth + 1), []⟩
      (item.fragments.map (Fragment.within [index]) ++
        (Form.itemFragments (index + 1) rest ++ closing (closers + 1)))) :
    ∃ before next after, item :: rest = before ++ next :: after ∧
      ∃ inner ∈ rowsFrom (depth + 1) (fun inner => broken ((index + before.length) :: inner))
          ⟨Form.itemIndent * (depth + 1), []⟩
          (next.fragments ++ closing (if after.isEmpty then closers + 1 else 0)),
        row = inner.within [index + before.length] := by
  induction rest generalizing index item with
  | nil => exact ⟨[], item, [], rfl, exists_inner_of_mem_rowsFrom member⟩
  | cons next rest ih =>
      rw [Form.itemFragments, List.cons_append, List.append_assoc,
        rowsFrom_append_break (lineStart?_breakPoint_nil outer), List.mem_append] at member
      rcases member with inItem | inRest
      · refine ⟨[], item, next :: rest, rfl, exists_inner_of_mem_rowsFrom ?_⟩
        rw [List.isEmpty_cons, if_neg Bool.false_ne_true]
        exact (List.append_nil _).symm ▸ inItem
      · obtain ⟨before, found, after, split, inside⟩ := ih inRest
        refine ⟨item :: before, found, after, by rw [split, List.cons_append], ?_⟩
        rwa [List.length_cons, Nat.add_comm before.length, ← Nat.add_assoc]

end Rows

/-! ## Rows that are too wide -/

/-- What comes before the first break point of a form, and all of an atom. -/
def Form.lead : Form → List Fragment
  | .atom pieces => pieces.map .piece
  | .form head _ => [.piece "(", .piece head]

/-- The row at which a part starts, if nothing but parentheses can follow its lead. -/
def Part.leadRow (part : Part) (count : Nat) : Row :=
  ⟨Form.itemIndent * part.depth, part.form.lead ++ closing count⟩

theorem totalWidth_closing (count : Nat) : Fragment.totalWidth (closing count) = count := by
  induction count with
  | zero => rfl
  | succ count ih =>
      rw [closing, List.replicate_succ, Fragment.totalWidth_cons]
      change 1 + Fragment.totalWidth (closing count) = count + 1
      omega

theorem lineStart?_of_mem_pieces {depth : Nat} {broken : Address → Bool} {fragment : Fragment}
    {pieces : List String} (member : fragment ∈ pieces.map Fragment.piece) :
    fragment.lineStart? depth broken = none := by
  obtain ⟨piece, -, rfl⟩ := List.mem_map.mp member
  rfl

theorem lineStart?_of_mem_closing {depth : Nat} {broken : Address → Bool} {fragment : Fragment}
    {count : Nat} (member : fragment ∈ closing count) :
    fragment.lineStart? depth broken = none := by
  rw [List.eq_of_mem_replicate member]
  rfl

theorem rowsFrom_of_kept {depth : Nat} {broken : Address → Bool} {fragments : List Fragment}
    (kept : ∀ fragment ∈ fragments, fragment.lineStart? depth broken = none) (indent : Nat) :
    rowsFrom depth broken ⟨indent, []⟩ fragments = [⟨indent, fragments⟩] := by
  have all := rowsFrom_append_of_kept kept ⟨indent, []⟩ []
  rwa [List.append_nil] at all

theorem Row.within_leadRow (address : Address) (part : Part) (count : Nat) :
    (part.leadRow count).within address = part.leadRow count := by
  have lead : part.form.lead.map (Fragment.within address) = part.form.lead := by
    cases part.form with
    | atom pieces => exact List.map_map
    | form head items => rfl
  rw [Part.leadRow, within, List.map_append, lead, map_within_closing]

/-- A form that is not broken is a single row, which ends within the width. -/
theorem width_le_of_not_exceeds {width depth closers : Nat} {head : String} {items : List Form}
    {row : Row} (fits : Part.exceeds width ⟨.form head items, depth, closers⟩ = false)
    (member : row ∈ rowsFrom depth (fun _ => false) ⟨Form.itemIndent * depth, []⟩
      (Form.fragments (.form head items) ++ closing closers)) :
    row.width ≤ width := by
  have kept : ∀ fragment ∈ Form.fragments (.form head items) ++ closing closers,
      fragment.lineStart? depth (fun _ => false) = none := by
    intro fragment _
    cases fragment <;> rfl
  rw [rowsFrom_of_kept kept, List.mem_singleton] at member
  have ends : Form.itemIndent * depth + Form.oneLineWidth (.form head items) + closers ≤ width := by
    simpa [Part.exceeds] using fits
  rw [member, Row.width, Fragment.totalWidth_append, totalWidth_closing, ← Nat.add_assoc]
  exact ends

/-- The rows of a broken form: its head, and the rows of its items. -/
theorem leadRow_or_exists_item {broken : Address → Bool} {depth closers : Nat} {head : String}
    {items : List Form} {row : Row} (outer : broken [] = true)
    (member : row ∈ rowsFrom depth broken ⟨Form.itemIndent * depth, []⟩
      (Form.fragments (.form head items) ++ closing closers)) :
    (∃ count, row = Part.leadRow ⟨.form head items, depth, closers⟩ count) ∨
    ∃ before next after, items = before ++ next :: after ∧
      ∃ inner ∈ rowsFrom (depth + 1) (fun inner => broken (before.length :: inner))
          ⟨Form.itemIndent * (depth + 1), []⟩
          (next.fragments ++ closing (if after.isEmpty then closers + 1 else 0)),
        row = inner.within [before.length] := by
  have behind : Form.fragments (.form head items) ++ closing closers =
      ["(", head].map .piece ++ (Form.itemFragments 0 items ++ closing (closers + 1)) := by
    simp [Form.fragments, closing, List.replicate_succ]
  have kept : ∀ fragment ∈ ["(", head].map Fragment.piece,
      fragment.lineStart? depth broken = none := fun _ => lineStart?_of_mem_pieces
  rw [behind, rowsFrom_append_of_kept kept, List.nil_append] at member
  cases items with
  | nil =>
      rw [Form.itemFragments, List.nil_append, ← List.append_nil (closing _),
        rowsFrom_append_of_kept fun _ => lineStart?_of_mem_closing] at member
      exact .inl ⟨closers + 1, List.mem_singleton.mp member⟩
  | cons item rest =>
      rw [Form.itemFragments, List.cons_append, List.append_assoc,
        rowsFrom_cons_of_broken (lineStart?_breakPoint_nil outer), List.mem_cons] at member
      rcases member with rfl | inItems
      · exact .inl ⟨0, rfl⟩
      · right
        simpa only [Nat.zero_add] using exists_item_of_mem_rowsFrom outer inItems

/-- Every row of a part and of the parentheses behind it ends within the width, or has only
the lead of some part on it. -/
theorem width_le_or_leadRow (width : Nat) (form : Form) (depth closers : Nat) {row : Row}
    (member : row ∈ rowsFrom depth (Part.breaks width ⟨form, depth, closers⟩)
      ⟨Form.itemIndent * depth, []⟩ (form.fragments ++ closing closers)) :
    row.width ≤ width ∨ ∃ address part count,
      Part.at? ⟨form, depth, closers⟩ address = some part ∧ row = part.leadRow count := by
  induction form using Form.induction generalizing depth closers row with
  | atom pieces =>
      have kept : ∀ fragment ∈ Form.fragments (.atom pieces) ++ closing closers,
          fragment.lineStart? depth (Part.breaks width ⟨.atom pieces, depth, closers⟩) = none := by
        intro fragment inside
        rcases List.mem_append.mp inside with inPieces | inClosing
        · exact lineStart?_of_mem_pieces inPieces
        · exact lineStart?_of_mem_closing inClosing
      rw [rowsFrom_of_kept kept] at member
      exact .inr ⟨[], _, closers, rfl, List.mem_singleton.mp member⟩
  | form head items itemsIH =>
      cases exceeds : Part.exceeds width ⟨.form head items, depth, closers⟩ with
      | false =>
          rw [Part.breaks_of_not_exceeds exceeds] at member
          exact .inl (width_le_of_not_exceeds exceeds member)
      | true =>
          rcases leadRow_or_exists_item exceeds member with ⟨count, isLead⟩ |
            ⟨before, next, after, rfl, inner, inside, rfl⟩
          · exact .inr ⟨[], _, count, rfl, isLead⟩
          · have isItem := Part.item?_append_cons head before next after depth closers
            have asInItem : (fun inner => Part.breaks width
                ⟨.form head (before ++ next :: after), depth, closers⟩ (before.length :: inner)) =
                  Part.breaks width
                    ⟨next, depth + 1, if after.isEmpty then closers + 1 else 0⟩ := by
              funext inner
              rw [Part.breaks_cons isItem, exceeds, Bool.true_and]
            rw [asInItem] at inside
            rcases itemsIH next (by simp) _ _ inside with fits | ⟨address, part, count, found, rfl⟩
            · left
              rwa [Row.width_within]
            · refine .inr ⟨before.length :: address, part, count, ?_, Row.within_leadRow _ _ _⟩
              rw [Part.at?, isItem, Option.bind_some, found]

end Sourcewright.Outline
