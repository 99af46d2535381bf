import Sourcewright.Proofs.Outline.Atoms
import Sourcewright.Proofs.Outline.Rows

/-!
# When forms are broken

A form that stands in a broken form starts at a column that is given by its depth alone, and
between it and the next line there is nothing but closed parentheses.  So whether it is broken
depends on its depth, on the width of its one-line form, and on the parentheses behind it.

Main statement: a form stands on one line if it has nothing to break, if the form around it
does, or if there is room for it; and only such rows of an outline are too wide that could not
be broken any further.
-/

namespace Sourcewright.Outline

/-- The items of a form.  An atom has none. -/
def Form.items : Form → List Form
  | .atom _ => []
  | .form _ items => items

namespace Part

theorem exists_of_item?_eq_some {part item : Part} {index : Nat}
    (isItem : part.item? index = some item) :
    ∃ head before next after, part.form = .form head (before ++ next :: after) ∧
      index = before.length ∧
      item = ⟨next, part.depth + 1, if after.isEmpty then part.closers + 1 else 0⟩ := by
  obtain ⟨form, depth, closers⟩ := part
  cases form with
  | atom pieces => cases isItem
  | form head items =>
      obtain ⟨next, found, -⟩ := Option.map_eq_some_iff.mp isItem
      obtain ⟨before, after, rfl, rfl⟩ : ∃ before after, items = before ++ next :: after ∧
          index = before.length := by
        obtain ⟨inside, rfl⟩ := List.getElem?_eq_some_iff.mp found
        refine ⟨items.take index, items.drop (index + 1), ?_, ?_⟩
        · rw [List.getElem_cons_drop, List.take_append_drop]
        · rw [List.length_take, Nat.min_eq_left (Nat.le_of_lt inside)]
      rw [item?_append_cons] at isItem
      exact ⟨head, before, next, after, rfl, rfl, (Option.some.inj isItem).symm⟩

theorem at?_append (part : Part) (outer inner : Address) :
    part.at? (outer ++ inner) = (part.at? outer).bind fun around => around.at? inner := by
  induction outer generalizing part with
  | nil => rfl
  | cons index outer ih =>
      rw [List.cons_append, at?, at?]
      cases part.item? index with
      | none => rfl
      | some item => exact ih item

/-- Around an item there is a form. -/
theorem exists_around {root part : Part} {outer : Address} {index : Nat}
    (found : root.at? (outer ++ [index]) = some part) :
    ∃ around, root.at? outer = some around ∧ around.item? index = some part ∧
      around.form.items ≠ [] := by
  rw [at?_append] at found
  obtain ⟨around, foundAround, inAround⟩ := Option.bind_eq_some_iff.mp found
  have isItem : around.item? index = some part := by
    simpa [at?] using inAround
  obtain ⟨head, before, next, after, isForm, -, -⟩ := exists_of_item?_eq_some isItem
  refine ⟨around, foundAround, isItem, ?_⟩
  simp [isForm, Form.items]

theorem depth_of_at? {part inner : Part} {address : Address}
    (found : part.at? address = some inner) : inner.depth = part.depth + address.length := by
  induction address generalizing part with
  | nil =>
      cases found
      rfl
  | cons index address ih =>
      obtain ⟨item, isItem, inItem⟩ := Option.bind_eq_some_iff.mp found
      obtain ⟨head, before, next, after, -, -, rfl⟩ := exists_of_item?_eq_some isItem
      rw [ih inItem, List.length_cons, Nat.add_assoc, Nat.add_comm 1]

/-- A form is broken if all forms around it are, and if it can not stand on one line
itself. -/
theorem breaks_append {width : Nat} {part around : Part} {outer : Address}
    (found : part.at? outer = some around) (inner : Address) :
    part.breaks width (outer ++ inner) =
      (part.breaks width outer && around.breaks width inner) := by
  induction outer generalizing part with
  | nil =>
      cases found
      rw [List.nil_append, breaks]
      cases exceeds : around.exceeds width with
      | true => rfl
      | false => rw [breaks_of_not_exceeds exceeds, Bool.false_and]
  | cons index outer ih =>
      obtain ⟨item, isItem, inItem⟩ := Option.bind_eq_some_iff.mp found
      rw [List.cons_append, breaks_cons isItem, breaks_cons isItem, ih inItem, Bool.and_assoc]

theorem breaks_concat {width : Nat} {root around part : Part} {outer : Address} {index : Nat}
    (found : root.at? outer = some around) (isItem : around.item? index = some part) :
    root.breaks width (outer ++ [index]) = (root.breaks width outer && part.exceeds width) := by
  have itself : root.breaks width (outer ++ []) =
      (root.breaks width outer && around.exceeds width) := breaks_append found []
  rw [List.append_nil] at itself
  rw [breaks_append found, breaks_cons isItem, ← Bool.and_assoc]
  exact congrArg (· && part.exceeds width) itself.symm

theorem breaks_eq_false_iff {width : Nat} {root part : Part} {address : Address}
    (found : root.at? address = some part) :
    root.breaks width address = false ↔
      (∃ outer index, address = outer ++ [index] ∧ root.breaks width outer = false) ∨
        part.exceeds width = false := by
  rcases List.eq_nil_or_concat address with rfl | ⟨outer, index, rfl⟩
  · cases found
    simp [breaks]
  · rw [List.concat_eq_append] at found ⊢
    obtain ⟨around, foundAround, isItem, -⟩ := exists_around found
    rw [breaks_concat foundAround isItem, Bool.and_eq_false_iff]
    constructor
    · rintro (kept | fits)
      · exact .inl ⟨outer, index, rfl, kept⟩
      · exact .inr fits
    · rintro (⟨other, last, same, kept⟩ | fits)
      · obtain ⟨rfl, -⟩ := List.append_inj' same rfl
        exact .inl kept
      · exact .inr fits

end Part

/-! ## Forms on one line -/

/-- The form at an address stands on one line: none of the break points in it starts a
line. -/
def OnOneLine (broken : Address → Bool) (address : Address) (form : Form) : Prop :=
  ∀ owner, .breakPoint owner ∈ form.fragments → broken (address ++ owner) = false

theorem breakPoint_mem_fragments {form : Form} (hasItems : form.items ≠ []) :
    .breakPoint [] ∈ form.fragments := by
  cases form with
  | atom pieces => exact absurd rfl hasItems
  | form head items =>
      cases items with
      | nil => exact absurd rfl hasItems
      | cons item items => simp [Form.fragments, Form.itemFragments]

theorem breakPoint_notMem_fragments {form : Form} (noItems : form.items = [])
    (owner : Address) : .breakPoint owner ∉ form.fragments := by
  cases form with
  | atom pieces => simp [Form.fragments]
  | form head items =>
      rw [Form.items] at noItems
      simp [noItems, Form.fragments, Form.itemFragments]

theorem onOneLine_of_items_eq_nil {broken : Address → Bool} {address : Address} {form : Form}
    (noItems : form.items = []) : OnOneLine broken address form := fun owner member =>
  absurd member (breakPoint_notMem_fragments noItems owner)

theorem onOneLine_breaks_iff {width : Nat} {root : Part} {address : Address} {form : Form}
    (hasItems : form.items ≠ []) :
    OnOneLine (root.breaks width) address form ↔ root.breaks width address = false := by
  constructor
  · intro kept
    have own := kept [] (breakPoint_mem_fragments hasItems)
    rwa [List.append_nil] at own
  · intro kept owner _
    cases broken : root.breaks width (address ++ owner) with
    | false => rfl
    | true =>
        rw [Part.breaks_of_breaks_append broken] at kept
        cases kept

theorem Part.exceeds_eq_false_iff {width : Nat} {part : Part} (hasItems : part.form.items ≠ []) :
    part.exceeds width = false ↔
      Form.itemIndent * part.depth + part.form.oneLineWidth + part.closers ≤ width := by
  obtain ⟨form, depth, closers⟩ := part
  cases form with
  | atom pieces => exact absurd rfl hasItems
  | form head items => simp [exceeds]

theorem onOneLine_iff {width : Nat} {root part : Part} {address : Address}
    (found : root.at? address = some part) :
    OnOneLine (root.breaks width) address part.form ↔
      part.form.items = [] ∨
      (∃ outer index around, address = outer ++ [index] ∧ root.at? outer = some around ∧
        OnOneLine (root.breaks width) outer around.form) ∨
      Form.itemIndent * part.depth + part.form.oneLineWidth + part.closers ≤ width := by
  by_cases noItems : part.form.items = []
  · have kept : OnOneLine (root.breaks width) address part.form :=
      onOneLine_of_items_eq_nil noItems
    simp only [kept, noItems, true_or]
  · rw [onOneLine_breaks_iff noItems, Part.breaks_eq_false_iff found,
      Part.exceeds_eq_false_iff noItems]
    -- A form that has an item has break points, so it is on one line if it is not broken.
    have around : (∃ outer index, address = outer ++ [index] ∧ root.breaks width outer = false) ↔
        ∃ outer index around, address = outer ++ [index] ∧ root.at? outer = some around ∧
          OnOneLine (root.breaks width) outer around.form := by
      constructor
      · rintro ⟨outer, index, rfl, kept⟩
        obtain ⟨around, foundAround, -, hasItems⟩ := Part.exists_around found
        exact ⟨outer, index, around, rfl, foundAround, (onOneLine_breaks_iff hasItems).mpr kept⟩
      · rintro ⟨outer, index, around, rfl, foundAround, kept⟩
        obtain ⟨same, foundSame, -, hasItems⟩ := Part.exists_around found
        obtain rfl := Option.some.inj (foundAround.symm.trans foundSame)
        exact ⟨outer, index, rfl, (onOneLine_breaks_iff hasItems).mp kept⟩
    rw [around]
    simp only [noItems, false_or]

/-! ## What follows a form -/

/-- Fragments behind which nothing comes before the next break point. -/
def UpToBreak (behind : List Fragment) : Prop :=
  behind = [] ∨ ∃ owner rest, behind = .breakPoint owner :: rest

theorem UpToBreak.append {first second : List Fragment} (upTo : UpToBreak first)
    (further : UpToBreak second) : UpToBreak (first ++ second) := by
  rcases upTo with rfl | ⟨owner, rest, rfl⟩
  · exact further
  · exact .inr ⟨owner, rest ++ second, rfl⟩

theorem UpToBreak.within {behind : List Fragment} (upTo : UpToBreak behind)
    (address : Address) : UpToBreak (behind.map (Fragment.within address)) := by
  rcases upTo with rfl | ⟨owner, rest, rfl⟩
  · exact .inl rfl
  · exact .inr ⟨address ++ owner, rest.map (Fragment.within address), rfl⟩

theorem map_within_within (outer inner : Address) (fragments : List Fragment) :
    (fragments.map (Fragment.within inner)).map (Fragment.within outer) =
      fragments.map (Fragment.within (outer ++ inner)) := by
  rw [List.map_map]
  apply List.map_congr_left
  rintro (text | owner) _
  · rfl
  · rw [Function.comp_apply, Fragment.within, Fragment.within, Fragment.within,
      List.append_assoc]

theorem map_within_nil (fragments : List Fragment) :
    fragments.map (Fragment.within []) = fragments := by
  apply List.map_id''
  rintro (text | owner) <;> rfl

theorem itemFragments_append (index : Nat) (first second : List Form) :
    Form.itemFragments index (first ++ second) =
      Form.itemFragments index first ++ Form.itemFragments (index + first.length) second := by
  induction first generalizing index with
  | nil => rfl
  | cons item first ih =>
      rw [List.cons_append, Form.itemFragments, ih, Form.itemFragments, List.length_cons,
        Nat.add_right_comm, Nat.add_assoc, List.cons_append, List.append_assoc]

theorem exists_fragments_of_item? {root item : Part} {index : Nat}
    (isItem : root.item? index = some item) :
    ∃ before behind, UpToBreak behind ∧ root.form.fragments ++ closing root.closers =
      before ++ (item.form.fragments ++ closing item.closers).map (Fragment.within [index]) ++
        behind := by
  obtain ⟨head, before, next, after, isForm, rfl, rfl⟩ := Part.exists_of_item?_eq_some isItem
  have all : root.form.fragments ++ closing root.closers =
      (.piece "(" :: .piece head :: Form.itemFragments 0 before ++ [.breakPoint []]) ++
        (next.fragments.map (Fragment.within [before.length]) ++
          (Form.itemFragments (before.length + 1) after ++ closing (root.closers + 1))) := by
    rw [isForm, Form.fragments, itemFragments_append, Form.itemFragments, Nat.zero_add]
    simp [closing, List.replicate_succ]
  rw [List.map_append, map_within_closing, all]
  cases after with
  | nil => exact ⟨_, [], .inl rfl, (List.append_nil _).symm⟩
  | cons further after =>
      refine ⟨.piece "(" :: .piece head :: Form.itemFragments 0 before ++ [.breakPoint []],
        Form.itemFragments (before.length + 1) (further :: after) ++ closing (root.closers + 1),
        .inr ⟨[], _, rfl⟩, ?_⟩
      simp [closing]

theorem exists_fragments_of_at? {root part : Part} {address : Address}
    (found : root.at? address = some part) :
    ∃ before behind, UpToBreak behind ∧ root.form.fragments ++ closing root.closers =
      before ++ (part.form.fragments.map (Fragment.within address) ++ closing part.closers) ++
        behind := by
  induction address generalizing root with
  | nil =>
      cases found
      refine ⟨[], [], .inl rfl, ?_⟩
      rw [map_within_nil, List.nil_append, List.append_nil]
  | cons index address ih =>
      obtain ⟨item, isItem, inItem⟩ := Option.bind_eq_some_iff.mp found
      obtain ⟨before, behind, upTo, around⟩ := exists_fragments_of_item? isItem
      obtain ⟨earlier, later, upToLater, inside⟩ := ih inItem
      refine ⟨before ++ earlier.map (Fragment.within [index]),
        later.map (Fragment.within [index]) ++ behind, (upToLater.within _).append upTo, ?_⟩
      rw [around, inside]
      simp only [List.map_append, map_within_within, map_within_closing, List.append_assoc,
        List.singleton_append]

theorem Form.MadeOf.of_at? {allowed : List String → Prop} {root part : Part}
    (madeOf : root.form.MadeOf allowed) {address : Address}
    (found : root.at? address = some part) : part.form.MadeOf allowed := by
  induction address generalizing root with
  | nil =>
      cases found
      exact madeOf
  | cons index address ih =>
      obtain ⟨item, isItem, inItem⟩ := Option.bind_eq_some_iff.mp found
      obtain ⟨head, before, next, after, isForm, -, rfl⟩ := Part.exists_of_item?_eq_some isItem
      rw [isForm] at madeOf
      cases madeOf with
      | form each => exact ih (each next (by simp)) inItem

theorem breakPoint_notMem_leadRow (part : Part) (count : Nat) (owner : Address) :
    .breakPoint owner ∉ (part.leadRow count).content := by
  rw [Part.leadRow, List.mem_append]
  rintro (inLead | inClosing)
  · cases form : part.form with
    | atom pieces => simp [form, Form.lead] at inLead
    | form head items => simp [form, Form.lead] at inLead
  · cases List.eq_of_mem_replicate inClosing

/-! ## Breaking no more than needed -/

/-- The forms that are broken in a width are those for which there is no room.  What may
stand on a row that is too wide is `allowed` as an atom. -/
structure BrokenAsNeeded (width : Nat) (allowed : List String → Prop) (root : Form)
    (broken : Address → Bool) : Prop where
  /-- Between a form and the next break point there are only closed parentheses. -/
  closed_behind : ∀ address part, Part.at? ⟨root, 0, 0⟩ address = some part →
    ∃ before behind, UpToBreak behind ∧ root.fragments =
      before ++ (part.form.fragments.map (Fragment.within address) ++ closing part.closers) ++
        behind
  /-- A form has nothing to break, or stands in a form on one line, or there is room
  for it. -/
  part_onOneLine : ∀ address part, Part.at? ⟨root, 0, 0⟩ address = some part →
    (OnOneLine broken address part.form ↔
      part.form.items = [] ∨
      (∃ outer index around, address = outer ++ [index] ∧
        Part.at? ⟨root, 0, 0⟩ outer = some around ∧ OnOneLine broken outer around.form) ∨
      Form.itemIndent * address.length + part.form.oneLineWidth + part.closers ≤ width)
  root_onOneLine : OnOneLine broken [] root ↔ root.items = [] ∨ root.oneLineWidth ≤ width
  /-- Only a head or an atom, and closed parentheses, stand on a row that is too wide. -/
  wide_row : ∀ row ∈ rowsFrom 0 broken ⟨0, []⟩ root.fragments, width < row.width →
    (∀ owner, .breakPoint owner ∉ row.content) ∧
    ∃ address part count, Part.at? ⟨root, 0, 0⟩ address = some part ∧
      row = part.leadRow count ∧ ∀ pieces, part.form = .atom pieces → allowed pieces

theorem brokenAsNeeded_breaks (width : Nat) {allowed : List String → Prop} {root : Form}
    (madeOf : root.MadeOf allowed) :
    BrokenAsNeeded width allowed root (Part.breaks width ⟨root, 0, 0⟩) where
  closed_behind address part found := by
    obtain ⟨before, behind, upTo, all⟩ := exists_fragments_of_at? found
    refine ⟨before, behind, upTo, ?_⟩
    rw [← all]
    exact (List.append_nil _).symm
  part_onOneLine address part found := by
    have deep : part.depth = address.length := by
      rw [Part.depth_of_at? found, Nat.zero_add]
    rw [← deep]
    exact onOneLine_iff found
  root_onOneLine := by
    have all : Part.at? ⟨root, 0, 0⟩ [] = some ⟨root, 0, 0⟩ := rfl
    rw [onOneLine_iff all]
    simp
  wide_row row member wide := by
    have inside : row ∈ rowsFrom 0 (Part.breaks width ⟨root, 0, 0⟩) ⟨Form.itemIndent * 0, []⟩
        (root.fragments ++ closing 0) := by
      rwa [closing, List.replicate_zero, List.append_nil]
    rcases width_le_or_leadRow width root 0 0 inside with fits |
      ⟨address, part, count, found, rfl⟩
    · exact absurd fits (Nat.not_le.mpr wide)
    · refine ⟨breakPoint_notMem_leadRow part count, address, part, count, found, rfl, ?_⟩
      intro pieces isAtom
      have ofPart := madeOf.of_at? found
      rw [isAtom] at ofPart
      cases ofPart with
      | atom isAllowed => exact isAllowed

end Sourcewright.Outline

namespace Sourcewright

open Outline

/-- An outline is broken exactly where it has to be: a form with items stands on one line if
the form around it does, or if it ends within the width together with the parentheses closed
behind it; and nothing that could be broken stands on a row that is too wide. -/
theorem Node.outlineText_brokenAsNeeded (node : Node) (width : Nat) :
    ∃ broken : Address → Bool,
      node.outlineText width = Row.renderAll (rowsFrom 0 broken ⟨0, []⟩ node.outline.fragments) ∧
      node.outlineText width = Fragment.renderAll 0 broken node.outline.fragments ∧
      BrokenAsNeeded width Unbreakable node.outline broken := by
  have text : node.outlineText width =
      Fragment.renderAll 0 (Part.breaks width ⟨node.outline, 0, 0⟩) node.outline.fragments :=
    Form.text_renderBroken_toLayout width node.outline 0 0
  refine ⟨Part.breaks width ⟨node.outline, 0, 0⟩, ?_, text, ?_⟩
  · rw [renderAll_rowsFrom, text]
    exact String.empty_append.symm
  · exact brokenAsNeeded_breaks width node.madeOf_outline

/-- A statement whose outline has a head only. -/
def Node.bareReturn : Node :=
  .stmt (.ret none)

/-- An expression whose outline is an atom. -/
def Node.paramName : Node :=
  .expr (.param ⟨"abc", .primitive .integer⟩)

/-- A form without items and an atom are not broken where there is no room for them. -/
theorem Node.outlineText_without_room :
    (Node.bareReturn.outlineText 3 = "(return)" ∧
      ∀ broken, ¬(OnOneLine broken [] Node.bareReturn.outline ↔
        Node.bareReturn.outline.oneLineWidth ≤ 3)) ∧
    (Node.paramName.outlineText 2 = "abc" ∧
      ∀ broken, ¬(OnOneLine broken [] Node.paramName.outline ↔
        Node.paramName.outline.oneLineWidth ≤ 2)) := by
  refine ⟨⟨by decide +kernel, fun broken claimed => ?_⟩,
    by decide +kernel, fun broken claimed => ?_⟩
  · exact absurd (claimed.mp (onOneLine_of_items_eq_nil rfl)) (by decide)
  · exact absurd (claimed.mp (onOneLine_of_items_eq_nil rfl)) (by decide)

end Sourcewright
