import Sourcewright.Tree.Basic

/-!
# The order of references

References are listed by kind, in the order in which kinds are declared, and then by
the bytes of their paths.  No two different references are equal in this order.
-/

namespace Sourcewright

/-- The place of a kind in the order of declaration. -/
def ReferenceKind.rank (kind : ReferenceKind) : Nat :=
  all.idxOf kind

theorem ReferenceKind.rank_injective {first second : ReferenceKind}
    (equal : first.rank = second.rank) : first = second := by
  revert equal
  cases first <;> cases second <;> decide

namespace Reference

def pathBytes (reference : Reference) : List UInt8 :=
  reference.path.toUTF8.data.toList

theorem path_eq_of_pathBytes_eq {first second : Reference}
    (equal : first.pathBytes = second.pathBytes) : first.path = second.path :=
  String.toByteArray_inj.mp (ByteArray.ext (Array.toList_inj.mp equal))

/-- One reference is listed before another: its kind is declared earlier, or it is of the same
kind and the bytes of its path come first. -/
def Before (first second : Reference) : Prop :=
  first.kind.rank < second.kind.rank ∨
    (first.kind = second.kind ∧ first.pathBytes < second.pathBytes)

instance : DecidableRel Before := fun first second =>
  inferInstanceAs (Decidable (first.kind.rank < second.kind.rank ∨
    (first.kind = second.kind ∧ first.pathBytes < second.pathBytes)))

theorem Before.irrefl (reference : Reference) : ¬ reference.Before reference := by
  rintro (less | ⟨_, less⟩)
  · exact Nat.lt_irrefl _ less
  · exact List.lt_irrefl _ less

theorem Before.trans {first second third : Reference}
    (firstSecond : first.Before second) (secondThird : second.Before third) :
    first.Before third := by
  rcases firstSecond with less | ⟨equal, less⟩
  · rcases secondThird with less' | ⟨equal', _⟩
    · exact .inl (Nat.lt_trans less less')
    · exact .inl (equal' ▸ less)
  · rcases secondThird with less' | ⟨equal', less'⟩
    · exact .inl (equal ▸ less')
    · exact .inr ⟨equal.trans equal', List.lt_trans less less'⟩

theorem before_trichotomy (first second : Reference) :
    first.Before second ∨ first = second ∨ second.Before first := by
  rcases Nat.lt_trichotomy first.kind.rank second.kind.rank with less | equal | greater
  · exact .inl (.inl less)
  · have kinds := ReferenceKind.rank_injective equal
    rcases Std.lt_trichotomy first.pathBytes second.pathBytes with less | equalBytes | greater
    · exact .inl (.inr ⟨kinds, less⟩)
    · refine .inr (.inl ?_)
      have paths := path_eq_of_pathBytes_eq equalBytes
      cases first
      cases second
      simp_all
    · exact .inr (.inr (.inr ⟨kinds.symm, greater⟩))
  · exact .inr (.inr (.inl greater))

end Reference

end Sourcewright
