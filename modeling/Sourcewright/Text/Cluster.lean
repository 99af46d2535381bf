import Sourcewright.Text.ClusterClass

/-!
# Clusters

The number of clusters in a text.  A text is read from left to right; the state
keeps as much of what was read as the joining rules look back at, and every
character either joins the cluster before it or starts a new one.
-/

namespace Sourcewright.Text

/-- How far a pictograph sequence has been read: a pictograph, then marks that
extend it, then a joiner. -/
inductive PictographState where
  | outside
  | extended
  | joined
deriving DecidableEq

/-- How far a conjunct has been read: a consonant and marks, then a linker among
them. -/
inductive ConjunctState where
  | outside
  | consonant
  | linked
deriving DecidableEq

/-- What the joining rules remember of the text before a character. -/
structure ClusterState where
  previous : ClusterClass
  /-- Whether an odd number of regional indicators ends here. -/
  oddRegional : Bool
  pictograph : PictographState
  conjunct : ConjunctState

namespace ClusterState

def nextPictograph (state : PictographState) (char : Char) (charClass : ClusterClass) :
    PictographState :=
  if pictographRanges.contains char then .extended
  else
    match state, charClass with
    | .extended, .extend => .extended
    | .extended, .joiner => .joined
    | _, _ => .outside

def nextConjunct (state : ConjunctState) (char : Char) (charClass : ClusterClass) :
    ConjunctState :=
  if conjunctConsonantRanges.contains char then .consonant
  else if state = .outside then .outside
  else if conjunctLinkerRanges.contains char then .linked
  else if (charClass = .extend && char.toNat != 0x200c) || charClass = .joiner then state
  else .outside

def start (char : Char) : ClusterState :=
  let charClass := clusterClass char
  { previous := charClass
    oddRegional := charClass == .regionalIndicator
    pictograph := nextPictograph .outside char charClass
    conjunct := nextConjunct .outside char charClass }

def next (state : ClusterState) (char : Char) : ClusterState :=
  let charClass := clusterClass char
  { previous := charClass
    oddRegional := charClass == .regionalIndicator && !state.oddRegional
    pictograph := nextPictograph state.pictograph char charClass
    conjunct := nextConjunct state.conjunct char charClass }

/-- Whether two classes join wherever they meet. -/
def joinsClass : ClusterClass → ClusterClass → Bool
  | .carriageReturn, following => following == .lineFeed
  | .lineFeed, _ => false
  | .control, _ => false
  | previous, following =>
    match following with
    | .carriageReturn => false
    | .lineFeed => false
    | .control => false
    | .extend => true
    | .joiner => true
    | .spacingMark => true
    | .hangulL => previous == .hangulL || previous == .leading
    | .hangulLV => previous == .hangulL || previous == .leading
    | .hangulLVT => previous == .hangulL || previous == .leading
    | .hangulV =>
      previous == .hangulL || previous == .hangulLV || previous == .hangulV ||
        previous == .leading
    | .hangulT =>
      previous == .hangulLV || previous == .hangulV || previous == .hangulLVT ||
        previous == .hangulT || previous == .leading
    | _ => previous == .leading

/-- Whether a character joins the text read so far. -/
def joins (state : ClusterState) (char : Char) : Bool :=
  let charClass := clusterClass char
  joinsClass state.previous charClass ||
    (state.conjunct == .linked && conjunctConsonantRanges.contains char) ||
    (state.pictograph == .joined && pictographRanges.contains char) ||
    (state.oddRegional && charClass == .regionalIndicator)

/-- The number of clusters that start in a text, after what was read before. -/
def clusterStarts (state : ClusterState) : List Char → Nat
  | [] => 0
  | char :: rest =>
    (if state.joins char then 0 else 1) + clusterStarts (state.next char) rest

end ClusterState

def clusterCount : List Char → Nat
  | [] => 0
  | char :: rest => 1 + (ClusterState.start char).clusterStarts rest

end Sourcewright.Text
