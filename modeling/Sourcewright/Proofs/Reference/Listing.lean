import Mathlib.Data.List.Sort
import Sourcewright.Reference.Set

/-!
# Listings of references

A set of references is determined by its members: two ordered listings with the same
members are equal.  So whatever is added to a set, and in whichever order, only the
references that are added count.
-/

namespace Sourcewright

namespace Reference

instance : Std.Irrefl Before := ⟨Before.irrefl⟩

instance : Std.Antisymm Before :=
  ⟨fun _ _ before after => absurd (before.trans after) (Before.irrefl _)⟩

end Reference

namespace References

@[simp]
theorem toList_empty : empty.toList = [] :=
  rfl

@[simp]
theorem mem_insert {references : References} {reference other : Reference} :
    other ∈ (references.insert reference).toList ↔
      other = reference ∨ other ∈ references.toList :=
  mem_insertInto

@[simp]
theorem mem_insertAll {references : References} {added : List Reference} {other : Reference} :
    other ∈ (references.insertAll added).toList ↔
      other ∈ references.toList ∨ other ∈ added := by
  induction added generalizing references with
  | nil => simp [insertAll]
  | cons first rest ih =>
      have step : references.insertAll (first :: rest) = (references.insert first).insertAll rest :=
        rfl
      rw [step, ih, mem_insert, List.mem_cons]
      tauto

theorem toList_nodup (references : References) : references.toList.Nodup :=
  references.ordered.nodup

/-- Sets with the same members are equal. -/
theorem eq_of_mem_iff {first second : References}
    (same : ∀ reference, reference ∈ first.toList ↔ reference ∈ second.toList) :
    first = second := by
  have listings := first.ordered.eq_of_mem_iff second.ordered same
  cases first
  cases second
  cases listings
  rfl

end References

end Sourcewright
