import Sourcewright.Document.Cause

/-!
# Faults and their places

While a document is read, only the characters that are left matter, so the place
of a fault is kept as the number of bytes that follow it.  A fault about the
content of a value may not know its place yet: it floats outwards, with what was
left when it arose, until the list or record around it has ended.

Places are reported as a line, counted from one, and a column, the number of bytes
that precede the place on its line.
-/

namespace Sourcewright.Document

def byteLength (text : List Char) : Nat :=
  text.foldr (fun char length => char.utf8Size + length) 0

inductive Fault where
  /-- The fault is followed by `remaining` bytes. -/
  | placed (cause : Cause) (remaining : Nat)
  /-- The fault has no place yet; `rest` was left when it arose. -/
  | floating (cause : Cause) (rest : List Char)
deriving DecidableEq

/-- A reader takes a value off the front of a text and gives back what is left. -/
abbrev Reader (α : Type) := List Char → Except Fault (α × List Char)

theorem exists_of_bind_eq_ok {α β : Type} {result : Except Fault α} {next : α → Except Fault β}
    {value : β} (ok : result >>= next = .ok value) :
    ∃ first, result = .ok first ∧ next first = .ok value := by
  cases result with
  | error fault => cases ok
  | ok first => exact ⟨first, rfl, ok⟩

/-- A fault in front of what is left. -/
def faultHere (cause : Cause) (rest : List Char) : Fault :=
  .placed cause (byteLength rest)

/-- A fault behind the next byte, or at the end of the text. -/
def faultAhead (cause : Cause) (rest : List Char) : Fault :=
  .placed cause (byteLength rest - 1)

structure Position where
  line : Nat
  column : Nat
deriving DecidableEq

/-- The position that lies `offset` bytes into a text, counted on from a position. -/
def positionFrom (line column : Nat) : List Char → (offset : Nat) → Position
  | [], offset => ⟨line, column + offset⟩
  | char :: rest, offset =>
    if offset < char.utf8Size then
      ⟨line, column + offset⟩
    else if char = '\n' then
      positionFrom (line + 1) 0 rest (offset - char.utf8Size)
    else
      positionFrom line (column + char.utf8Size) rest (offset - char.utf8Size)

def positionAt (text : List Char) (offset : Nat) : Position :=
  positionFrom 1 0 text offset

/-- Why a document was rejected, and where if that is known. -/
structure Rejection where
  cause : Cause
  position : Option Position
deriving DecidableEq

namespace Rejection

def ofFault (text : List Char) : Fault → Rejection
  | .placed cause remaining => ⟨cause, some (positionAt text (byteLength text - remaining))⟩
  | .floating cause _ => ⟨cause, none⟩

def message (rejection : Rejection) : String :=
  match rejection.position with
  | some position =>
    rejection.cause.message ++ " at line " ++ wholeText position.line ++
      " column " ++ wholeText position.column
  | none => rejection.cause.message

end Rejection

end Sourcewright.Document
