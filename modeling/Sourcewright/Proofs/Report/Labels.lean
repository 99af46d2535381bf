import Sourcewright.Document.Load
import Sourcewright.Proofs.Document.FaultPlaces
import Sourcewright.Report.Diagnostic

/-!
# Where rejected documents are labelled

The position of a fault is counted while walking over the characters of a text, and the label
is placed by cutting the text into lines.  Both say where an offset lies, on which line and how
far into it, so they are compared through that: `LiesOn` follows the lines alone, and every
position that the walk counts is found on them.
-/

namespace Sourcewright.Report

open Document

/-- An offset into lines lies `within` bytes into `line`, the line with the given index.  Only
the last line has a place behind its last byte. -/
inductive LiesOn (line : List Char) (within : Nat) : List (List Char) → (offset index : Nat) → Prop
  | here {lines : List (List Char)}
      (inside : within < byteLength line ∨ lines = [] ∧ within = byteLength line) :
      LiesOn line within (line :: lines) within 0
  | later {first : List Char} {lines : List (List Char)} {offset index : Nat}
      (lies : LiesOn line within lines offset index) :
      LiesOn line within (first :: lines) (byteLength first + offset) (index + 1)

theorem lineStart_cons_succ (line : List Char) (lines : List (List Char)) (index : Nat) :
    lineStart (line :: lines) (index + 1) = byteLength line + lineStart lines index :=
  rfl

namespace LiesOn

variable {line : List Char} {lines : List (List Char)} {within offset index : Nat}

theorem getElem? (lies : LiesOn line within lines offset index) : lines[index]? = some line := by
  induction lies with
  | here => rfl
  | later _ ih => rw [List.getElem?_cons_succ, ih]

theorem within_le (lies : LiesOn line within lines offset index) : within ≤ byteLength line := by
  induction lies with
  | here inside => omega
  | later _ ih => exact ih

theorem eq_lineStart (lies : LiesOn line within lines offset index) :
    offset = lineStart lines index + within := by
  induction lies with
  | here => exact (Nat.zero_add within).symm
  | later _ ih => rw [ih, lineStart_cons_succ, Nat.add_assoc]

theorem placeFrom (lies : LiesOn line within lines offset index) (number : Nat) :
    placeFrom number lines offset = ⟨number + index, line, within⟩ := by
  induction lies generalizing number with
  | @here lines inside =>
      cases lines with
      | nil => rfl
      | cons next lines =>
          have shorter : within < byteLength line := by simpa using inside
          rw [Report.placeFrom, if_pos shorter, Nat.add_zero]
  | @later first lines offset index lies ih =>
      cases lines with
      | nil => cases lies
      | cons next lines =>
          rw [Report.placeFrom, if_neg (by omega), Nat.add_sub_cancel_left, ih]
          congr 1
          omega

/-- The byte in front lies on the same line, unless the line starts here. -/
theorem back (lies : LiesOn line (within + 1) lines offset index) :
    LiesOn line within lines (offset - 1) index := by
  induction lies with
  | here inside => exact .here (by omega)
  | @later first lines offset index lies ih =>
      have positive : 1 ≤ offset := by
        rw [lies.eq_lineStart]
        omega
      rw [Nat.add_sub_assoc positive]
      exact .later ih

/-- A character in front of the lines moves every offset, and the places on the first line. -/
theorem push (char : Char) {first : List Char}
    (lies : LiesOn line within (first :: lines) offset index) :
    ∃ line', LiesOn line' ((if index = 0 then char.utf8Size else 0) + within)
      ((char :: first) :: lines) (char.utf8Size + offset) index := by
  cases lies with
  | here inside =>
      refine ⟨char :: line, .here ?_⟩
      rw [if_pos rfl, byteLength_cons]
      exact inside.imp (Nat.add_lt_add_left · _) (And.imp_right (congrArg _))
  | later lies =>
      refine ⟨line, ?_⟩
      rw [if_neg (Nat.succ_ne_zero _), Nat.zero_add, ← Nat.add_assoc, ← byteLength_cons]
      exact .later lies

end LiesOn

theorem exists_linesOf_cons (char : Char) (rest : List Char) :
    ∃ line lines, linesOf (char :: rest) = (char :: line) :: lines := by
  by_cases feed : char = '\n'
  · exact ⟨[], linesOf rest, by rw [linesOf, if_pos feed, feed]⟩
  · rw [linesOf, if_neg feed]
    cases linesOf rest with
    | nil => exact ⟨[], [], rfl⟩
    | cons line lines => exact ⟨line, lines, rfl⟩

theorem exists_linesOf (text : List Char) : ∃ line lines, linesOf text = line :: lines := by
  cases text with
  | nil => exact ⟨[], [], rfl⟩
  | cons char rest =>
      obtain ⟨line, lines, eq⟩ := exists_linesOf_cons char rest
      exact ⟨char :: line, lines, eq⟩

/-- The walk over a text finds every offset on the lines of the text.  The column that it
starts with counts for the first line only. -/
theorem positionFrom_liesOn (text : List Char) (number column : Nat) {offset : Nat}
    (bounded : offset ≤ byteLength text) :
    ∃ line within index, LiesOn line within (linesOf text) offset index ∧
      positionFrom number column text offset =
        ⟨number + index, (if index = 0 then column else 0) + within⟩ := by
  induction text generalizing number column offset with
  | nil =>
      obtain rfl : offset = 0 := Nat.le_zero.mp bounded
      exact ⟨[], 0, 0, .here (.inr ⟨rfl, rfl⟩), rfl⟩
  | cons char rest ih =>
      rw [byteLength_cons] at bounded
      rw [positionFrom]
      by_cases inside : offset < char.utf8Size
      · obtain ⟨line, lines, eq⟩ := exists_linesOf_cons char rest
        rw [if_pos inside, eq]
        refine ⟨char :: line, offset, 0, .here (.inl ?_), rfl⟩
        rw [byteLength_cons]
        omega
      · obtain ⟨behind, rfl⟩ := Nat.exists_eq_add_of_le (Nat.le_of_not_lt inside)
        rw [if_neg inside, Nat.add_sub_cancel_left]
        have boundedBehind : behind ≤ byteLength rest := by omega
        by_cases feed : char = '\n'
        · subst feed
          obtain ⟨line, within, index, lies, eq⟩ := ih (number + 1) 0 boundedBehind
          refine ⟨line, within, index + 1, .later lies, ?_⟩
          rw [if_pos rfl, eq, ite_self, if_neg (Nat.succ_ne_zero index)]
          congr 1
          omega
        · obtain ⟨first, lines, eq⟩ := exists_linesOf rest
          obtain ⟨line, within, index, lies, position⟩ :=
            ih number (column + char.utf8Size) boundedBehind
          rw [eq] at lies
          obtain ⟨line', moved⟩ := lies.push char
          rw [linesOf, if_neg feed, eq, if_neg feed, position]
          refine ⟨line', _, index, moved, ?_⟩
          congr 1
          split <;> omega

/-- The label of a place stands on the byte in front of it, or on the place itself where its
line starts: in both cases on the line of the place. -/
theorem offsetOf?_of_liesOn {text line : List Char} {within index number : Nat}
    (lies : LiesOn line within (linesOf text) index number) :
    ∃ offset, offsetOf? text (some ⟨1 + number, within⟩) = some offset ∧
      offset = (if within = 0 then index else index - 1) ∧
      placeAt text offset = ⟨1 + number, line, within - 1⟩ := by
  have found : offsetOf? text (some ⟨1 + number, within⟩) =
      some (lineStart (linesOf text) number + (within - 1)) := by
    have bounded := lies.within_le
    simp only [offsetOf?, Option.getD_some, Nat.add_sub_cancel_left, lies.getElem?]
    congr 1
    omega
  refine ⟨_, found, ?_⟩
  have start := lies.eq_lineStart
  cases within with
  | zero =>
      have offset : lineStart (linesOf text) number + (0 - 1) = index := by omega
      rw [offset, if_pos rfl]
      exact ⟨rfl, lies.placeFrom 1⟩
  | succ within =>
      have offset : lineStart (linesOf text) number + (within + 1 - 1) = index - 1 := by omega
      rw [offset, if_neg (Nat.succ_ne_zero within)]
      exact ⟨rfl, lies.back.placeFrom 1⟩

theorem byteLength_toList (text : String) : byteLength text.toList = text.utf8ByteSize := by
  have counted (chars : List Char) : byteLength chars = (String.ofList chars).utf8ByteSize := by
    induction chars with
    | nil => rfl
    | cons char chars ih =>
        rw [byteLength_cons, ih, ← List.singleton_append, String.ofList_append,
          String.utf8ByteSize_append, ← String.singleton_eq_ofList, String.utf8ByteSize_singleton]
  rw [counted, String.ofList_toList]

theorem offsetOf?_none (text : List Char) : offsetOf? text none = some 0 := by
  obtain ⟨line, lines, eq⟩ := exists_linesOf text
  rw [offsetOf?, eq]
  exact congrArg some (Nat.zero_min _)

theorem load_eq_error {α : Type} [Documented α] {text : String} {rejection : Rejection}
    (rejected : Documented.load α text = .error rejection) :
    rejection.position = none ∨
      ∃ remaining, readChars (Documented.shape α) text.toList =
          .error (.placed rejection.cause remaining) ∧
        remaining ≤ byteLength text.toList ∧
        rejection.position =
          some (positionAt text.toList (byteLength text.toList - remaining)) := by
  unfold Documented.load Document.read at rejected
  cases result : readChars (Documented.shape α) text.toList with
  | ok value =>
      rw [result] at rejected
      dsimp only at rejected
      split at rejected
      · cases rejected
      · cases rejected
        exact .inl rfl
  | error fault =>
      rw [result] at rejected
      cases rejected
      cases within_of_readChars result with
      | placed bounded => exact .inr ⟨_, rfl, bounded, rfl⟩
      | floating => exact .inl rfl

/-- Every rejected document is labelled once, inside the document.  A fault without a place is
labelled at the start.  A fault that is followed by `remaining` bytes lies at `index`: the line
and the column that are reported are those of `index`, and the label stands on the byte in front
of it, or on `index` itself at the start of a line.  So the label is on the reported line. -/
theorem Diagnostic.label_ofRejection {α : Type} [Documented α] (source : Source)
    {rejection : Rejection} (rejected : Documented.load α source.text = .error rejection) :
    ∃ label, (Diagnostic.ofRejection source rejection).label = some label ∧
      label.source = source ∧
      label.offset ≤ source.text.utf8ByteSize ∧
      (rejection.position = none → label.offset = 0) ∧
      ∀ position, rejection.position = some position →
        ∃ index remaining line,
          readChars (Documented.shape α) source.text.toList =
            .error (.placed rejection.cause remaining) ∧
          index + remaining = source.text.utf8ByteSize ∧
          positionAt source.text.toList index = position ∧
          (linesOf source.text.toList)[position.line - 1]? = some line ∧
          index = lineStart (linesOf source.text.toList) (position.line - 1) + position.column ∧
          label.offset = (if position.column = 0 then index else index - 1) ∧
          placeAt source.text.toList label.offset =
            ⟨position.line, line, position.column - 1⟩ := by
  have bytes := byteLength_toList source.text
  rcases load_eq_error rejected with unplaced | ⟨remaining, failed, bounded, placed⟩
  · refine ⟨⟨source, 0, labelMessage rejection.cause.kind⟩, ?_, rfl, Nat.zero_le _,
      fun _ => rfl, ?_⟩
    · rw [Diagnostic.ofRejection, unplaced, offsetOf?_none, Option.map_some]
    · intro position eq
      rw [unplaced] at eq
      cases eq
  · generalize indexEq : byteLength source.text.toList - remaining = index at placed
    obtain ⟨line, within, number, lies, position⟩ :=
      positionFrom_liesOn source.text.toList 1 0 (show index ≤ _ by omega)
    rw [ite_self, Nat.zero_add] at position
    obtain ⟨offset, found, offsetEq, place⟩ := offsetOf?_of_liesOn lies
    rw [positionAt, position] at placed
    refine ⟨⟨source, offset, labelMessage rejection.cause.kind⟩, ?_, rfl, ?_, ?_, ?_⟩
    · rw [Diagnostic.ofRejection, placed, found, Option.map_some]
    · dsimp only
      rw [offsetEq]
      split <;> omega
    · intro eq
      rw [placed] at eq
      cases eq
    · intro reported eq
      rw [placed] at eq
      cases eq
      refine ⟨index, remaining, line, failed, by omega, position, ?_, ?_, offsetEq, place⟩
      · rw [Nat.add_sub_cancel_left]
        exact lies.getElem?
      · rw [Nat.add_sub_cancel_left]
        exact lies.eq_lineStart

/-- A fault inside of a character is labelled in front of the character, a text that ends behind
a line feed on its last, empty line, and a fault without a place at the start. -/
theorem Diagnostic.label_ofRejection_ofEachKind :
    (∃ label, Documented.load Node "\n\né" = .error ⟨.expectedValue, some ⟨3, 1⟩⟩ ∧
      (Diagnostic.ofRejection ⟨"accent", "\n\né"⟩ ⟨.expectedValue, some ⟨3, 1⟩⟩).label =
        some label ∧
      label.offset = 2) ∧
    (∃ label, Documented.load Node "\n" = .error ⟨.endInValue, some ⟨2, 0⟩⟩ ∧
      (Diagnostic.ofRejection ⟨"feed", "\n"⟩ ⟨.endInValue, some ⟨2, 0⟩⟩).label = some label ∧
      label.offset = 1) ∧
    ∃ label, Documented.load Node "\"class\"" =
        .error ⟨.invalidType .bareTag .contentOfValue, none⟩ ∧
      (Diagnostic.ofRejection ⟨"tag", "\"class\""⟩
        ⟨.invalidType .bareTag .contentOfValue, none⟩).label = some label ∧
      label.offset = 0 := by
  refine ⟨?_, ?_, ?_⟩
  · have rejected : Documented.load Node "\n\né" = .error ⟨.expectedValue, some ⟨3, 1⟩⟩ := rfl
    obtain ⟨label, labelled, -, -, -, placed⟩ := label_ofRejection ⟨"accent", _⟩ rejected
    obtain ⟨index, remaining, line, -, -, -, -, start, offset, -⟩ := placed _ rfl
    obtain rfl : index = 3 := start
    exact ⟨label, rejected, labelled, offset⟩
  · have rejected : Documented.load Node "\n" = .error ⟨.endInValue, some ⟨2, 0⟩⟩ := rfl
    obtain ⟨label, labelled, -, -, -, placed⟩ := label_ofRejection ⟨"feed", _⟩ rejected
    obtain ⟨index, remaining, line, -, -, -, -, start, offset, -⟩ := placed _ rfl
    obtain rfl : index = 1 := start
    exact ⟨label, rejected, labelled, offset⟩
  · have rejected : Documented.load Node "\"class\"" =
        .error ⟨.invalidType .bareTag .contentOfValue, none⟩ := by
      cbv
    obtain ⟨label, labelled, -, -, unplaced, -⟩ := label_ofRejection ⟨"tag", _⟩ rejected
    exact ⟨label, rejected, labelled, unplaced rfl⟩

end Sourcewright.Report
