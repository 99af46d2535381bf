import Sourcewright.Report.Diagnostic
import Sourcewright.Text.Columns

/-!
# Writing diagnostics

A diagnostic is written as a heading, the labelled line with a caret under the place of
its label, and its notes.  The number of the line stands in a gutter, and everything
around the line leaves as much space.
-/

namespace Sourcewright.Report

def tabWidth : Nat := 4

/-- The columns that a character takes when it starts at the given column. -/
def columnsAt (column : Nat) (char : Char) : Nat :=
  if char = '\t' then tabWidth - column % tabWidth else Text.columns char

def expandTabs (column : Nat) : List Char → List Char
  | [] => []
  | char :: rest =>
    (if char = '\t' then List.replicate (columnsAt column char) ' ' else [char]) ++
      expandTabs (column + columnsAt column char) rest

/-- The marks under a line: carets under the character that holds the offset, and
spaces under those before.  An offset behind the line is marked behind it. -/
def carets (column : Nat) : List Char → (offset : Nat) → List Char
  | [], offset => if offset = 0 then ['^'] else [' ']
  | char :: rest, offset =>
    if offset < char.utf8Size then
      List.replicate (columnsAt column char) '^'
    else
      List.replicate (columnsAt column char) ' ' ++
        carets (column + columnsAt column char) rest (offset - char.utf8Size)

/-- Whether a character is not shown at the end of a line. -/
def isLineEnd (char : Char) : Bool :=
  char == '\n' || char == '\r' || char == Char.ofNat 0

/-- A line without what is not shown at its end. -/
def shownLine (line : List Char) : List Char :=
  (line.reverse.dropWhile isLineEnd).reverse

/-- Spaces as wide as the number of a line. -/
def gutter (width : Nat) : String :=
  String.ofList (List.replicate width ' ')

/-- The lines of a diagnostic that show its label, given the width of the gutter. -/
def labelLines (label : Label) (place : Place) (width : Nat) : List String :=
  let shown := shownLine place.line
  [gutter width ++ " ┌─ " ++ label.source.name ++ ":" ++ wholeText place.number ++ ":" ++
      wholeText place.column,
    gutter width ++ " │",
    wholeText place.number ++ " │ " ++ String.ofList (expandTabs 0 shown),
    gutter width ++ " │ " ++ String.ofList (carets 0 shown place.offset) ++ " " ++ label.message,
    gutter width ++ " │"]

def dropReturn (line : List Char) : List Char :=
  if line.getLast? = some '\r' then line.dropLast else line

/-- The lines of a note.  A line may end in a carriage return and a line feed. -/
def noteLinesOf (note : List Char) : List (List Char) :=
  (linesOf note).filterMap fun line =>
    if line.getLast? = some '\n' then
      some (dropReturn line.dropLast)
    else if line.isEmpty then
      none
    else
      some line

/-- The lines for a note, given the width of the gutter. -/
def noteLines (width : Nat) (note : String) : List String :=
  match noteLinesOf note.toList with
  | [] => []
  | first :: rest =>
    (gutter width ++ " = " ++ String.ofList first) ::
      rest.map fun line => gutter width ++ "   " ++ String.ofList line

def unlines (lines : List String) : String :=
  String.join (lines.map (· ++ "\n"))

namespace Diagnostic

def heading (diagnostic : Diagnostic) : String :=
  diagnostic.severity.name ++ ": " ++ diagnostic.message

def render (diagnostic : Diagnostic) : String :=
  match diagnostic.label with
  | none =>
    unlines (diagnostic.heading :: diagnostic.notes.flatMap (noteLines 0) ++ [""])
  | some label =>
    let place := placeAt label.source.text.toList label.offset
    let width := (wholeText place.number).length
    unlines (diagnostic.heading :: labelLines label place width ++
      diagnostic.notes.flatMap (noteLines width) ++ [""])

end Diagnostic

def renderAll (diagnostics : List Diagnostic) : String :=
  String.join (diagnostics.map Diagnostic.render)

/-- The text written when the generator itself crashes. -/
def crashText (message? : Option String) (location : String) : String :=
  "\n" ++ (Diagnostic.crash message? location).render

end Sourcewright.Report
