import Sourcewright.Document.Fault

/-!
# Lines of a source

A source is cut behind every line feed, so its lines together are the source again
and the last line is the only one without a line feed.  Offsets count bytes.
-/

namespace Sourcewright.Report

open Document (byteLength Position)

/-- The lines of a text, each with its line feed. -/
def linesOf : List Char → List (List Char)
  | [] => [[]]
  | char :: rest =>
    if char = '\n' then
      ['\n'] :: linesOf rest
    else
      match linesOf rest with
      | [] => [[char]]
      | line :: lines => (char :: line) :: lines

def lineStart (lines : List (List Char)) (index : Nat) : Nat :=
  (lines.take index).foldr (fun line length => byteLength line + length) 0

/-- The offset of the character in front of a reported position, or of the start of its
line.  A position that is not known counts as the start of the text.  There is no offset
if the text does not have the line. -/
def offsetOf? (text : List Char) (position : Option Position) : Option Nat :=
  let reported := position.getD ⟨0, 0⟩
  let index := reported.line - 1
  match (linesOf text)[index]? with
  | none => none
  | some line =>
    some (min (lineStart (linesOf text) index + (reported.column - 1))
      (lineStart (linesOf text) index + byteLength line))

/-- A place in a source: the number of a line, the line, and an offset into it. -/
structure Place where
  number : Nat
  line : List Char
  offset : Nat
deriving DecidableEq

/-- The place at an offset into lines, the first of which has the given number. -/
def placeFrom (number : Nat) : List (List Char) → (offset : Nat) → Place
  | [], offset => ⟨number, [], offset⟩
  | [line], offset => ⟨number, line, offset⟩
  | line :: next :: lines, offset =>
    if offset < byteLength line then
      ⟨number, line, offset⟩
    else
      placeFrom (number + 1) (next :: lines) (offset - byteLength line)

def placeAt (text : List Char) (offset : Nat) : Place :=
  placeFrom 1 (linesOf text) offset

/-- The number of characters of a line that end at or before an offset. -/
def charsBefore : List Char → (offset : Nat) → Nat
  | [], _ => 0
  | char :: rest, offset =>
    if char.utf8Size ≤ offset then
      charsBefore rest (offset - char.utf8Size) + 1
    else
      0

/-- The column of a place, counted from one. -/
def Place.column (place : Place) : Nat :=
  charsBefore place.line place.offset + 1

end Sourcewright.Report
