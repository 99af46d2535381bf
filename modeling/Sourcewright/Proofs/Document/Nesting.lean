import Sourcewright.Proofs.Document.Scalars

/-!
# How deep brackets nest

The nesting of a document is found by one walk over its characters, which counts the brackets
that are open and leaves out those that stand in texts.  For a written value it can be told
from the value: lists, records and variants open one bracket each.
-/

namespace Sourcewright.Document

/-- Where a character of a document stands. -/
inductive Place where
  | betweenTexts
  | inText
  /-- In a text, behind a backslash. -/
  | escaped
deriving DecidableEq

/-- Where the character behind a character stands. -/
def Place.next : Place → Char → Place
  | .betweenTexts, char => if char = '"' then .inText else .betweenTexts
  | .inText, char =>
    if char = '"' then .betweenTexts else if char = '\\' then .escaped else .inText
  | .escaped, _ => .inText

/-- The number of open brackets behind a character, from the number before it. -/
def Place.openBehind : Place → Char → (opened : Nat) → Nat
  | .betweenTexts, char, opened =>
    if char = '[' ∨ char = '\x7b' then opened + 1
    else if char = ']' ∨ char = '\x7d' then opened - 1
    else opened
  | _, _, opened => opened

/-- The greatest number of brackets that are open at once in a text, from a place in a
document on and with some brackets open already. -/
def mostOpen (place : Place) (opened : Nat) : List Char → Nat
  | [] => opened
  | char :: rest => max opened (mostOpen (place.next char) (place.openBehind char opened) rest)

/-- How deep the brackets of a document nest. -/
def bracketNesting (text : List Char) : Nat :=
  mostOpen .betweenTexts 0 text

theorem le_mostOpen (place : Place) (opened : Nat) (text : List Char) :
    opened ≤ mostOpen place opened text := by
  cases text with
  | nil => exact Nat.le_refl opened
  | cons char rest => exact Nat.le_max_left _ _

/-- A character that neither opens nor closes anything can be left out. -/
theorem mostOpen_cons {place : Place} {char : Char} {opened : Nat}
    (stays : place.openBehind char opened = opened) (rest : List Char) :
    mostOpen place opened (char :: rest) = mostOpen (place.next char) opened rest := by
  rw [mostOpen, stays, Nat.max_eq_right (le_mostOpen _ _ _)]

/-! ## Characters between texts -/

/-- The characters between texts that are no brackets. -/
def isPlain (char : Char) : Bool :=
  !(['"', '[', ']', '\x7b', '\x7d'].contains char)

theorem mostOpen_plain {char : Char} (plain : isPlain char = true) (opened : Nat)
    (rest : List Char) :
    mostOpen .betweenTexts opened (char :: rest) = mostOpen .betweenTexts opened rest := by
  simp only [isPlain, Bool.not_eq_true', List.contains_eq_mem, List.mem_cons, List.not_mem_nil,
    or_false, decide_eq_false_iff_not, not_or] at plain
  obtain ⟨notQuote, notList, notListEnd, notObject, notObjectEnd⟩ := plain
  rw [mostOpen_cons (by simp [Place.openBehind, notList, notListEnd, notObject, notObjectEnd]),
    Place.next, if_neg notQuote]

theorem mostOpen_append_plain {chars : List Char} (plain : ∀ char ∈ chars, isPlain char = true)
    (opened : Nat) (rest : List Char) :
    mostOpen .betweenTexts opened (chars ++ rest) = mostOpen .betweenTexts opened rest := by
  induction chars with
  | nil => rfl
  | cons char chars ih =>
      obtain ⟨first, further⟩ := List.forall_mem_cons.mp plain
      rw [List.cons_append, mostOpen_plain first, ih further]

theorem mostOpen_opening {bracket : Char} (opening : bracket = '[' ∨ bracket = '\x7b')
    (opened : Nat) (rest : List Char) :
    mostOpen .betweenTexts opened (bracket :: rest) =
      mostOpen .betweenTexts (opened + 1) rest := by
  have atLeast : opened ≤ mostOpen .betweenTexts (opened + 1) rest :=
    Nat.le_of_succ_le (le_mostOpen _ _ _)
  rcases opening with rfl | rfl <;> exact Nat.max_eq_right atLeast

theorem mostOpen_closing {bracket : Char} (closing : bracket = ']' ∨ bracket = '\x7d')
    (opened : Nat) (rest : List Char) :
    mostOpen .betweenTexts (opened + 1) (bracket :: rest) =
      max (opened + 1) (mostOpen .betweenTexts opened rest) := by
  rcases closing with rfl | rfl <;> rfl

/-! ## Texts -/

theorem mostOpen_inText {char : Char} (notQuote : char ≠ '"') (notBackslash : char ≠ '\\')
    (opened : Nat) (rest : List Char) :
    mostOpen .inText opened (char :: rest) = mostOpen .inText opened rest := by
  rw [mostOpen_cons rfl, Place.next, if_neg notQuote, if_neg notBackslash]

theorem mostOpen_escape (char : Char) (opened : Nat) (rest : List Char) :
    mostOpen .inText opened ('\\' :: char :: rest) = mostOpen .inText opened rest := by
  rw [mostOpen_cons rfl]
  exact mostOpen_cons rfl rest

theorem digitChar_ne_mark {code : Nat} (small : code < 16) :
    Nat.digitChar code ≠ '"' ∧ Nat.digitChar code ≠ '\\' := by
  revert code
  decide

theorem mostOpen_escapedChar (char : Char) (opened : Nat) (rest : List Char) :
    mostOpen .inText opened (escapedChar char ++ rest) = mostOpen .inText opened rest := by
  rcases escapedChar_cases char with ⟨mark, -, written⟩ | ⟨control, written⟩ |
    ⟨notQuote, notBackslash, -, written⟩
  · rw [written]
    exact mostOpen_escape mark opened rest
  · have first := digitChar_ne_mark (show char.toNat / 16 < 16 by omega)
    have last := digitChar_ne_mark (show char.toNat % 16 < 16 by omega)
    have zeros (further : List Char) :
        mostOpen .inText opened ('0' :: '0' :: further) = mostOpen .inText opened further := by
      rw [mostOpen_inText (by decide) (by decide), mostOpen_inText (by decide) (by decide)]
    simp only [written, List.cons_append, List.nil_append]
    rw [mostOpen_escape, zeros, mostOpen_inText first.1 first.2, mostOpen_inText last.1 last.2]
  · rw [written]
    exact mostOpen_inText notQuote notBackslash opened rest

/-- A text can be left out, whatever brackets stand in it. -/
theorem mostOpen_textChars (text : String) (opened : Nat) (rest : List Char) :
    mostOpen .betweenTexts opened (textChars text ++ rest) =
      mostOpen .betweenTexts opened rest := by
  have inside (chars : List Char) :
      mostOpen .inText opened (chars.flatMap escapedChar ++ '"' :: rest) =
        mostOpen .betweenTexts opened rest := by
    induction chars with
    | nil => exact mostOpen_cons rfl rest
    | cons char chars ih =>
        rw [List.flatMap_cons, List.append_assoc, mostOpen_escapedChar, ih]
  rw [textChars, List.append_assoc, List.cons_append, mostOpen_cons rfl]
  exact inside text.toList

/-! ## Values -/

namespace Value

mutual

/-- How deep the brackets of a written value nest. -/
def nesting : Value → Nat
  | .list items => mostNesting items + 1
  | .record _ values => mostNesting values + 1
  | .variant _ content => nesting content + 1
  | _ => 0

def mostNesting : List Value → Nat
  | [] => 0
  | value :: values => max (nesting value) (mostNesting values)

end

/-- The brackets of a written value nest as deep as the value says, and are closed behind
it. -/
def Nests (value : Value) : Prop :=
  ∀ opened rest, mostOpen .betweenTexts opened (value.chars ++ rest) =
    max (opened + value.nesting) (mostOpen .betweenTexts opened rest)

theorem Nests.of_plain {value : Value} (flat : value.nesting = 0)
    (plain : value.chars.all isPlain = true) : value.Nests := by
  intro opened rest
  rw [mostOpen_append_plain (List.all_eq_true.mp plain), flat, Nat.add_zero,
    Nat.max_eq_right (le_mostOpen _ _ _)]

theorem nests_null : Value.null.Nests :=
  .of_plain rfl rfl

theorem nests_truth (value : Bool) : (Value.truth value).Nests := by
  cases value <;> exact .of_plain rfl rfl

theorem isPlain_of_isDigit {char : Char} (digit : isDigit char = true) : isPlain char = true := by
  rw [isPlain, Bool.not_eq_true', Bool.eq_false_iff]
  intro contained
  simp only [List.contains_eq_mem, List.mem_cons, List.not_mem_nil, or_false,
    decide_eq_true_eq] at contained
  rcases contained with rfl | rfl | rfl | rfl | rfl <;> exact absurd digit (by decide)

theorem nests_integer (value : Int64) : (Value.integer value).Nests := by
  refine .of_plain rfl (List.all_eq_true.mpr fun char member => ?_)
  rw [chars, toList_wholeText, List.mem_append] at member
  rcases member with sign | digit
  · split at sign
    · rw [List.mem_singleton.mp sign]
      rfl
    · cases sign
  · exact isPlain_of_isDigit (isDigit_of_mem_digitsOf digit)

theorem Nests.of_textChars {value : Value} {text : String} (flat : value.nesting = 0)
    (written : value.chars = textChars text) : value.Nests := by
  intro opened rest
  rw [written, mostOpen_textChars, flat, Nat.add_zero, Nat.max_eq_right (le_mostOpen _ _ _)]

theorem nests_text (text : String) : (Value.text text).Nests :=
  .of_textChars rfl rfl

theorem nests_tag (name : String) : (Value.tag name).Nests :=
  .of_textChars rfl rfl

theorem mostOpen_furtherItemChars {items : List Value} (nest : ∀ item ∈ items, item.Nests)
    (opened : Nat) (rest : List Char) :
    mostOpen .betweenTexts opened (furtherItemChars items ++ rest) =
      max (opened + mostNesting items) (mostOpen .betweenTexts opened rest) := by
  induction items with
  | nil => exact (Nat.max_eq_right (le_mostOpen _ _ _)).symm
  | cons item items ih =>
      obtain ⟨first, further⟩ := List.forall_mem_cons.mp nest
      rw [furtherItemChars, List.append_assoc, List.cons_append, mostOpen_plain rfl, first,
        ih further, mostNesting]
      omega

theorem mostOpen_itemChars {items : List Value} (nest : ∀ item ∈ items, item.Nests)
    (opened : Nat) (rest : List Char) :
    mostOpen .betweenTexts opened (itemChars items ++ rest) =
      max (opened + mostNesting items) (mostOpen .betweenTexts opened rest) := by
  cases items with
  | nil => exact mostOpen_furtherItemChars nest opened rest
  | cons item items =>
      rw [← mostOpen_furtherItemChars nest, itemChars, furtherItemChars, List.cons_append,
        List.cons_append, mostOpen_plain rfl]

theorem nests_list {items : List Value} (nest : ∀ item ∈ items, item.Nests) :
    (Value.list items).Nests := by
  intro opened rest
  rw [chars, List.append_assoc, List.cons_append, mostOpen_opening (.inl rfl),
    mostOpen_itemChars nest, List.singleton_append, mostOpen_closing (.inl rfl), nesting]
  omega

theorem mostOpen_furtherMemberChars {names : List String} {values : List Value}
    (lengths : names.length = values.length) (nest : ∀ value ∈ values, value.Nests)
    (opened : Nat) (rest : List Char) :
    mostOpen .betweenTexts opened (furtherMemberChars names values ++ rest) =
      max (opened + mostNesting values) (mostOpen .betweenTexts opened rest) := by
  induction names generalizing values with
  | nil =>
      obtain rfl := List.eq_nil_of_length_eq_zero lengths.symm
      exact (Nat.max_eq_right (le_mostOpen _ _ _)).symm
  | cons name names ih =>
      cases values with
      | nil => cases lengths
      | cons value values =>
          obtain ⟨first, further⟩ := List.forall_mem_cons.mp nest
          simp only [furtherMemberChars, List.append_assoc, List.cons_append]
          rw [mostOpen_plain rfl, mostOpen_textChars, mostOpen_plain rfl, first,
            ih (Nat.succ.inj lengths) further, mostNesting]
          omega

theorem mostOpen_memberChars {names : List String} {values : List Value}
    (lengths : names.length = values.length) (nest : ∀ value ∈ values, value.Nests)
    (opened : Nat) (rest : List Char) :
    mostOpen .betweenTexts opened (memberChars names values ++ rest) =
      max (opened + mostNesting values) (mostOpen .betweenTexts opened rest) := by
  rw [← mostOpen_furtherMemberChars lengths nest]
  match names, values, lengths with
  | [], [], _ => rfl
  | name :: names, value :: values, _ =>
      simp only [memberChars, furtherMemberChars, List.append_assoc, List.cons_append]
      rw [mostOpen_plain rfl]

theorem nests_record {names : List String} {values : List Value}
    (lengths : names.length = values.length) (nest : ∀ value ∈ values, value.Nests) :
    (Value.record names values).Nests := by
  intro opened rest
  rw [chars, List.append_assoc, List.cons_append, mostOpen_opening (.inr rfl),
    mostOpen_memberChars lengths nest, List.singleton_append, mostOpen_closing (.inr rfl),
    nesting]
  omega

theorem nests_variant {content : Value} (name : String) (nest : content.Nests) :
    (Value.variant name content).Nests := by
  intro opened rest
  simp only [chars, List.append_assoc, List.cons_append, List.nil_append]
  rw [mostOpen_opening (.inr rfl), mostOpen_textChars, mostOpen_plain rfl, nest,
    mostOpen_closing (.inr rfl), nesting]
  omega

/-- The nesting of a document that holds a value is the nesting of the value. -/
theorem Nests.bracketNesting_chars {value : Value} (nest : value.Nests) :
    bracketNesting value.chars = value.nesting := by
  have whole := nest 0 []
  rw [List.append_nil] at whole
  rw [bracketNesting, whole]
  simp [mostOpen]

end Value

end Sourcewright.Document
