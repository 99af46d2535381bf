import Sourcewright.Text.Cluster

/-!
# Laying out texts in a width

A `Layout` is a text with places where it may be broken into lines.  The lines of a
group are broken together: a group is kept on one line if it fits, and otherwise all
its own lines are broken and the groups inside of it are tried on their own.

Whether a group fits depends on what follows it.  Its one-line form and everything
behind it, up to the next place where a line is broken, must end no further than the
width.  `Layout.render` therefore carries the width of what follows along with the
column that has been reached.
-/

namespace Sourcewright.Outline

/-- A text with places where it may be broken. -/
inductive Layout where
  | empty
  | text (piece : String)
  /-- A space, or the start of a new line. -/
  | line
  | append (first second : Layout)
  /-- New lines start this much further to the right. -/
  | nest (indent : Nat) (inner : Layout)
  /-- The lines of a group are all broken or all kept. -/
  | group (inner : Layout)

/-- The width of a text: its characters if it is plain, and its clusters
otherwise. -/
def textWidth (text : String) : Nat :=
  let chars := text.toList
  if chars.all fun char => char.toNat < 0x80 then
    chars.length
  else
    Text.clusterCount chars

namespace Layout

instance : Append Layout := ⟨append⟩

def flatWidth : Layout → Nat
  | .empty => 0
  | .text piece => textWidth piece
  | .line => 1
  | .append first second => flatWidth first + flatWidth second
  | .nest _ inner => flatWidth inner
  | .group inner => flatWidth inner

/-- The width up to the first line if all lines are broken, where `following` is the
width of what follows. -/
def leadWidth (following : Nat) : Layout → Nat
  | .empty => following
  | .text piece => textWidth piece + following
  | .line => 0
  | .append first second => leadWidth (leadWidth following second) first
  | .nest _ inner => leadWidth following inner
  | .group inner => leadWidth following inner

def flat : Layout → String
  | .empty => ""
  | .text piece => piece
  | .line => " "
  | .append first second => flat first ++ flat second
  | .nest _ inner => flat inner
  | .group inner => flat inner

def newLine (indent : Nat) : String :=
  String.ofList ('\n' :: List.replicate indent ' ')

/-- A text that has been laid out, and the column it ends at. -/
structure Rendered where
  text : String
  column : Nat

/-- Lay out with the lines outside of groups broken.  The text starts at `column`,
new lines start at `indent`, and `following` is the width of what follows up to the
next break. -/
def renderBroken (width indent column following : Nat) : Layout → Rendered
  | .empty => ⟨"", column⟩
  | .text piece => ⟨piece, column + textWidth piece⟩
  | .line => ⟨newLine indent, indent⟩
  | .append first second =>
    let start := renderBroken width indent column (leadWidth following second) first
    let finish := renderBroken width indent start.column following second
    ⟨start.text ++ finish.text, finish.column⟩
  | .nest further inner => renderBroken width (indent + further) column following inner
  | .group inner =>
    if column + flatWidth inner + following ≤ width then
      ⟨flat inner, column + flatWidth inner⟩
    else
      renderBroken width indent column following inner

def render (width : Nat) (layout : Layout) : String :=
  (renderBroken width 0 0 0 layout).text

end Layout

end Sourcewright.Outline
