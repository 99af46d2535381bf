import Mathlib.Data.List.DropRight
import Mathlib.Data.List.Forall2
import Sourcewright.Proofs.Emission.Layout

/-!
# The lines of comments

A comment is cut into lines in three passes over its text: line breaks of two characters are
joined, one break at the end is dropped, and what is left is cut at every break.  Here the
lines of a text are found in one pass, and both ways are shown to give the same lines.

Main statement: a comment is written as one line for each line of its text, at the level of
the writer, and what is written for a line is the line without the blank characters at its
end.
-/

namespace Sourcewright.Emission

/-! ## Lines in one pass -/

/-- The lines of a text, the last one included even if nothing stands on it.  A carriage
return ends a line together with a line feed behind it; each of them alone ends a line, too. -/
def brokenLines : List Char → List (List Char)
  | '\r' :: '\n' :: rest => [] :: brokenLines rest
  | '\r' :: rest => [] :: brokenLines rest
  | '\n' :: rest => [] :: brokenLines rest
  | char :: rest => (brokenLines rest).modifyHead (char :: ·)
  | [] => [[]]

def endsInBreak (text : List Char) : Bool :=
  text.getLast? == some '\n' || text.getLast? == some '\r'

/-- The lines of a text.  Behind a break at the end of the text there is no further line. -/
def textLines (text : List Char) : List (List Char) :=
  if endsInBreak text then (brokenLines text).dropLast else brokenLines text

theorem cutAtBreaks_cons_of_break {char : Char} (breaks : isBreak char = true)
    (rest : List Char) : cutAtBreaks (char :: rest) = [] :: cutAtBreaks rest := by
  rw [cutAtBreaks, if_pos breaks]

theorem cutAtBreaks_cons {char : Char} (stays : isBreak char = false) (rest : List Char) :
    cutAtBreaks (char :: rest) = (cutAtBreaks rest).modifyHead (char :: ·) := by
  rw [cutAtBreaks, if_neg (by simp [stays])]
  cases lines : cutAtBreaks rest with
  | nil => exact absurd lines (cutAtBreaks_ne_nil rest)
  | cons line lines => rfl

theorem isBreak_eq_false {char : Char} (notReturn : char ≠ '\r') (notFeed : char ≠ '\n') :
    isBreak char = false := by
  simp [isBreak, notReturn, notFeed]

/-- Cutting a text at its breaks, once those of two characters are joined, is cutting it in
one pass. -/
theorem cutAtBreaks_joinBreaks (text : List Char) :
    cutAtBreaks (joinBreaks text) = brokenLines text := by
  fun_induction brokenLines text with
  | case1 rest ih => rw [joinBreaks, cutAtBreaks_cons_of_break rfl, ih]
  | case2 rest notJoined ih =>
      rw [joinBreaks, cutAtBreaks_cons_of_break rfl, ih]
      rintro further - rfl
      exact notJoined further rfl
  | case3 rest ih =>
      rw [joinBreaks, cutAtBreaks_cons_of_break rfl, ih]
      rintro further ⟨⟩
  | case4 char rest _ notReturn notFeed ih =>
      have stays := isBreak_eq_false notReturn notFeed
      rw [joinBreaks, cutAtBreaks_cons stays, ih]
      rintro further rfl
      exact absurd rfl notReturn
  | case5 => rfl

/-- Joining breaks keeps the last character. -/
theorem getLast?_joinBreaks (text : List Char) : (joinBreaks text).getLast? = text.getLast? := by
  fun_induction joinBreaks text with
  | case1 rest ih => simp [List.getLast?_cons, ih]
  | case2 char rest _ ih => simp [List.getLast?_cons, ih]
  | case3 => rfl

/-- A break at the end of a text starts an empty line. -/
theorem cutAtBreaks_append_break {char : Char} (breaks : isBreak char = true)
    (text : List Char) : cutAtBreaks (text ++ [char]) = cutAtBreaks text ++ [[]] := by
  induction text with
  | nil => rw [List.nil_append, cutAtBreaks_cons_of_break breaks]; rfl
  | cons first rest ih =>
      rw [List.cons_append]
      cases firstBreaks : isBreak first with
      | true => rw [cutAtBreaks_cons_of_break firstBreaks, cutAtBreaks_cons_of_break firstBreaks,
          ih, List.cons_append]
      | false =>
          rw [cutAtBreaks_cons firstBreaks, cutAtBreaks_cons firstBreaks, ih]
          cases lines : cutAtBreaks rest with
          | nil => exact absurd lines (cutAtBreaks_ne_nil rest)
          | cons line lines => rfl

theorem cutAtBreaks_dropFinalBreak (text : List Char) :
    cutAtBreaks (dropFinalBreak text) =
      if endsInBreak text then (cutAtBreaks text).dropLast else cutAtBreaks text := by
  induction text using List.reverseRecOn with
  | nil => rfl
  | append_singleton text last _ =>
      have ends : endsInBreak (text ++ [last]) = isBreak last := by
        simp [endsInBreak, isBreak]
      rw [dropFinalBreak, List.getLast?_concat, List.dropLast_concat, ends]
      cases breaks : isBreak last with
      | true => simp [breaks, cutAtBreaks_append_break breaks]
      | false => simp [breaks]

/-- The three passes find the lines of the text. -/
theorem cutAtBreaks_eq_textLines (text : List Char) :
    cutAtBreaks (dropFinalBreak (joinBreaks text)) = textLines text := by
  rw [cutAtBreaks_dropFinalBreak, cutAtBreaks_joinBreaks, textLines, endsInBreak, endsInBreak,
    getLast?_joinBreaks]

example : textLines "a\r\r\nb \n\r\n".toList = ["a".toList, [], "b ".toList, []] := by
  decide

theorem commentLines_eq_map (text : String) :
    commentLines text = (textLines text.toList).map commentLine := by
  rw [commentLines, cutAtBreaks_eq_textLines]

theorem textLines_ne_nil (text : List Char) : textLines text ≠ [] := by
  rw [← cutAtBreaks_eq_textLines]
  exact cutAtBreaks_ne_nil _

theorem commentLines_ne_nil (text : String) : commentLines text ≠ [] := by
  rw [commentLines_eq_map, ne_eq, List.map_eq_nil_iff]
  exact textLines_ne_nil _

theorem not_isBreak_of_mem_cutAtBreaks {text line : List Char} (member : line ∈ cutAtBreaks text)
    {char : Char} (inside : char ∈ line) : isBreak char = false := by
  induction text generalizing line with
  | nil =>
      rw [cutAtBreaks, List.mem_singleton] at member
      subst member
      cases inside
  | cons first rest ih =>
      cases breaks : isBreak first with
      | true =>
          rw [cutAtBreaks_cons_of_break breaks, List.mem_cons] at member
          rcases member with rfl | further
          · cases inside
          · exact ih further inside
      | false =>
          rw [cutAtBreaks_cons breaks] at member
          obtain ⟨start, others, lines⟩ := List.exists_cons_of_ne_nil (cutAtBreaks_ne_nil rest)
          rw [lines, List.modifyHead_cons, List.mem_cons] at member
          rcases member with rfl | further
          · rcases List.mem_cons.mp inside with rfl | behind
            · exact breaks
            · exact ih (lines ▸ List.mem_cons_self) behind
          · exact ih (lines ▸ List.mem_cons_of_mem _ further) inside

theorem textLines_of_unbroken {text : List Char}
    (unbroken : ∀ char ∈ text, isBreak char = false) : textLines text = [text] := by
  have oneLine : brokenLines text = [text] := by
    rw [← cutAtBreaks_joinBreaks]
    induction text with
    | nil => rfl
    | cons char text ih =>
        obtain ⟨first, further⟩ := List.forall_mem_cons.mp unbroken
        rw [joinBreaks, cutAtBreaks_cons first, ih further]
        · rfl
        · rintro behind rfl
          exact absurd first (by decide)
  have endsOpen : endsInBreak text = false := by
    rw [endsInBreak, Bool.or_eq_false_iff, beq_eq_false_iff_ne, beq_eq_false_iff_ne]
    refine ⟨fun ends => ?_, fun ends => ?_⟩
    · exact absurd (unbroken _ (List.mem_of_getLast? ends)) (by decide)
    · exact absurd (unbroken _ (List.mem_of_getLast? ends)) (by decide)
  rw [textLines, endsOpen, oneLine]
  rfl

/-! ## What is written for a line -/

/-- What a comment has for a line: its two slashes alone if nothing can be seen on the line,
and otherwise the line behind them, up to its last character that is not blank. -/
def CommentsOn (line : List Char) (written : String) : Prop :=
  ((∀ char ∈ line, Text.isBlank char = true) ∧ written = "//") ∨
  ∃ shown last blanks, line = shown ++ [last] ++ blanks ∧ Text.isBlank last = false ∧
    (∀ char ∈ blanks, Text.isBlank char = true) ∧
    written = "// " ++ String.ofList (shown ++ [last])

theorem trimEnd_eq_rdropWhile (line : List Char) :
    Text.trimEnd line = line.rdropWhile Text.isBlank :=
  rfl

theorem trimEnd_cases (line : List Char) :
    (Text.trimEnd line = [] ∧ ∀ char ∈ line, Text.isBlank char = true) ∨
    ∃ shown last blanks, Text.trimEnd line = shown ++ [last] ∧ Text.isBlank last = false ∧
      line = shown ++ [last] ++ blanks ∧ ∀ char ∈ blanks, Text.isBlank char = true := by
  rw [trimEnd_eq_rdropWhile]
  induction line using List.reverseRecOn with
  | nil => exact .inl ⟨rfl, nofun⟩
  | append_singleton line last ih =>
      cases blank : Text.isBlank last with
      | false =>
          refine .inr ⟨line, last, [], ?_, blank, (List.append_nil _).symm, nofun⟩
          exact List.rdropWhile_concat_neg _ _ _ (by simp [blank])
      | true =>
          rw [List.rdropWhile_concat_pos _ _ _ blank]
          rcases ih with ⟨trimmed, blanks⟩ | ⟨shown, seen, blanks, trimmed, visible, split, rest⟩
          · refine .inl ⟨trimmed, fun char member => ?_⟩
            rcases List.mem_append.mp member with before | atEnd
            · exact blanks char before
            · rw [List.mem_singleton.mp atEnd]
              exact blank
          · refine .inr ⟨shown, seen, blanks ++ [last], trimmed, visible, ?_, ?_⟩
            · rw [split, List.append_assoc _ blanks]
            · intro char member
              rcases List.mem_append.mp member with before | atEnd
              · exact rest char before
              · rw [List.mem_singleton.mp atEnd]
                exact blank

theorem commentsOn_commentLine (line : List Char) : CommentsOn line (commentLine line) := by
  rcases trimEnd_cases line with ⟨trimmed, blank⟩ | ⟨shown, last, blanks, trimmed, visible, split,
    blank⟩
  · exact .inl ⟨blank, by simp [commentLine, trimmed]⟩
  · exact .inr ⟨shown, last, blanks, split, visible, blank, by simp [commentLine, trimmed]⟩

/-- The last character of what is written for a line can be seen. -/
theorem CommentsOn.last_visible {line : List Char} {written : String}
    (comments : CommentsOn line written) :
    ∃ last, written.toList.getLast? = some last ∧ Text.isBlank last = false := by
  rcases comments with ⟨-, rfl⟩ | ⟨shown, last, blanks, -, visible, -, rfl⟩
  · exact ⟨'/', by decide⟩
  · exact ⟨last, by simp [List.getLast?_cons], visible⟩

/-- All that is written for a line are two slashes, a space, and characters of the line. -/
theorem CommentsOn.mem_of_mem {line : List Char} {written : String}
    (comments : CommentsOn line written) {char : Char} (member : char ∈ written.toList) :
    char = '/' ∨ char = ' ' ∨ char ∈ line := by
  rcases comments with ⟨-, rfl⟩ | ⟨shown, last, blanks, split, -, -, rfl⟩
  · have slashes : char ∈ ['/', '/'] := member
    simp only [List.mem_cons, List.not_mem_nil, or_false, or_self] at slashes
    exact .inl slashes
  · have chars : ("// " ++ String.ofList (shown ++ [last])).toList =
        '/' :: '/' :: ' ' :: (shown ++ [last]) := by simp
    rw [chars] at member
    simp only [List.mem_cons] at member
    rcases member with slash | slash | space | inLine
    · exact .inl slash
    · exact .inl slash
    · exact .inr (.inl space)
    · exact .inr (.inr (split ▸ List.mem_append_left blanks inLine))

theorem exists_commentsOn {text written : String} (member : written ∈ commentLines text) :
    ∃ line ∈ textLines text.toList, CommentsOn line written := by
  rw [commentLines_eq_map] at member
  obtain ⟨line, isLine, rfl⟩ := List.mem_map.mp member
  exact ⟨line, isLine, commentsOn_commentLine line⟩

theorem not_isBreak_of_mem_commentLines {text written : String}
    (member : written ∈ commentLines text) {char : Char} (inside : char ∈ written.toList) :
    isBreak char = false := by
  obtain ⟨line, isLine, comments⟩ := exists_commentsOn member
  rw [← cutAtBreaks_eq_textLines] at isLine
  rcases comments.mem_of_mem inside with rfl | rfl | inLine
  · rfl
  · rfl
  · exact not_isBreak_of_mem_cutAtBreaks isLine inLine

/-! ## Writing comments -/

theorem laysOut_lines (texts : List String) :
    (Script.sequence (texts.map .line)).LaysOut (texts.map (Line.mk 0)) := by
  induction texts with
  | nil => exact .empty
  | cons text texts ih => exact (Script.LaysOut.line text).append ih

theorem run_comment (text : String) (writer : Writer) :
    (comment text).run writer =
      ({ writer with
          code := writer.code ++
            Line.renderAll writer.indent writer.level ((commentLines text).map (Line.mk 0))
          pending := false }, none) := by
  have nonempty : (commentLines text).map (Line.mk 0) ≠ [] := by
    rw [ne_eq, List.map_eq_nil_iff]
    exact commentLines_ne_nil text
  exact (laysOut_lines (commentLines text)).run_eq (obstacle_comment text) nonempty writer

/-- A comment is written as one line for each line of its text, and there is at least one.
The lines stand at the level of the writer; none of them contains a break, and none ends in a
blank character. -/
theorem comment_keeps_lines (text : String) (writer : Writer) :
    ∃ lines : List String,
      (comment text).run writer =
        ({ writer with
            code := writer.code ++
              Line.renderAll writer.indent writer.level (lines.map (Line.mk 0))
            pending := false }, none) ∧
      1 ≤ lines.length ∧
      List.Forall₂ CommentsOn (textLines text.toList) lines ∧
      ∀ line ∈ lines, '\r' ∉ line.toList ∧ '\n' ∉ line.toList ∧
        ∃ last, line.toList.getLast? = some last ∧ Text.isBlank last = false := by
  refine ⟨commentLines text, run_comment text writer, ?_, ?_, fun written member => ?_⟩
  · exact List.length_pos_of_ne_nil (commentLines_ne_nil text)
  · rw [commentLines_eq_map, List.forall₂_map_right_iff, List.forall₂_same]
    exact fun line _ => commentsOn_commentLine line
  · obtain ⟨line, -, comments⟩ := exists_commentsOn member
    refine ⟨fun inside => ?_, fun inside => ?_, comments.last_visible⟩
    · exact absurd (not_isBreak_of_mem_commentLines member inside) (by decide)
    · exact absurd (not_isBreak_of_mem_commentLines member inside) (by decide)

end Sourcewright.Emission
