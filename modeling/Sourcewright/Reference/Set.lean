import Sourcewright.Reference.Order

/-!
# Sets of references

A set of references is kept as its listing: every reference once, in order.  Two sets
with the same references are therefore equal.
-/

namespace Sourcewright

structure References where
  toList : List Reference
  ordered : toList.Pairwise Reference.Before
deriving DecidableEq

namespace References

def empty : References := ⟨[], .nil⟩

/-- A reference put into its place in a listing. -/
def insertInto (reference : Reference) : List Reference → List Reference
  | [] => [reference]
  | head :: tail =>
    if reference = head then
      head :: tail
    else if reference.Before head then
      reference :: head :: tail
    else
      head :: insertInto reference tail

theorem mem_insertInto {reference other : Reference} {listing : List Reference} :
    other ∈ insertInto reference listing ↔ other = reference ∨ other ∈ listing := by
  induction listing with
  | nil => simp [insertInto]
  | cons head tail ih =>
      by_cases equal : reference = head
      · simp [insertInto, equal]
      · by_cases before : reference.Before head
        · simp [insertInto, equal, before]
        · simp only [insertInto, equal, before, if_false, List.mem_cons, ih, or_left_comm]

theorem insertInto_ordered {reference : Reference} {listing : List Reference}
    (ordered : listing.Pairwise Reference.Before) :
    (insertInto reference listing).Pairwise Reference.Before := by
  induction listing with
  | nil => simp [insertInto]
  | cons head tail ih =>
      obtain ⟨headBefore, tailOrdered⟩ := List.pairwise_cons.mp ordered
      rcases Reference.before_trichotomy reference head with before | equal | after
      · have different : reference ≠ head := by
          rintro rfl
          exact Reference.Before.irrefl _ before
        simp only [insertInto, different, before, if_false, if_true]
        refine List.pairwise_cons.mpr ⟨?_, ordered⟩
        intro other member
        rcases List.mem_cons.mp member with atHead | inTail
        · exact atHead ▸ before
        · exact before.trans (headBefore other inTail)
      · simpa only [insertInto, equal, if_true] using ordered
      · have different : reference ≠ head := by
          rintro rfl
          exact Reference.Before.irrefl _ after
        have notBefore : ¬reference.Before head := fun before =>
          Reference.Before.irrefl _ (before.trans after)
        simp only [insertInto, different, notBefore, if_false]
        refine List.pairwise_cons.mpr ⟨?_, ih tailOrdered⟩
        intro other member
        rcases mem_insertInto.mp member with isReference | inTail
        · exact isReference ▸ after
        · exact headBefore other inTail

def insert (references : References) (reference : Reference) : References :=
  ⟨insertInto reference references.toList, insertInto_ordered references.ordered⟩

def contains (references : References) (reference : Reference) : Bool :=
  references.toList.contains reference

def insertAll (references : References) (added : List Reference) : References :=
  added.foldl insert references

def size (references : References) : Nat :=
  references.toList.length

def isEmpty (references : References) : Bool :=
  references.toList.isEmpty

end References

end Sourcewright
