import Sourcewright.Outline.Layout

/-!
# Forms

An outline shows a tree as nested forms.  A form is a head with its items between
parentheses; the items stand on one line, or each on a line of its own, two columns
further in than the form.  Everything else is an atom, which is never broken.
-/

namespace Sourcewright.Outline

inductive Form where
  /-- The pieces of an atom are measured one by one. -/
  | atom (pieces : List String)
  | form (head : String) (items : List Form)

namespace Form

/-- The atom of a single piece. -/
def word (text : String) : Form :=
  .atom [text]

/-- How much further in the items of a form stand than the form itself. -/
def itemIndent : Nat := 2

def piecesLayout : List String → Layout
  | [] => .empty
  | piece :: pieces => .text piece ++ piecesLayout pieces

mutual

def toLayout : Form → Layout
  | .atom pieces => piecesLayout pieces
  | .form head items =>
    .group (.text "(" ++ (.text head ++ .nest itemIndent (itemsLayout items)) ++ .text ")")

/-- The layout of items, a line before each. -/
def itemsLayout : List Form → Layout
  | [] => .empty
  | item :: items => .line ++ (toLayout item ++ itemsLayout items)

end

def render (width : Nat) (form : Form) : String :=
  form.toLayout.render width

end Form

end Sourcewright.Outline
