import Mathlib.Data.Finset.Card
import Sourcewright.Proofs.Reference.Listing
import Sourcewright.Reference.Operation

/-!
# Histories of sets of references

What a set of references answers depends only on which references were added before: not on
the order in which they were added, not on how often, and not on what was asked in between.
The right answers are said here in terms of these references alone.

Main statement: along every sequence of operations every answer is right, and two sequences
lead to the same set exactly if they add the same references.
-/

namespace Sourcewright

namespace References

/-- The references that an operation adds. -/
def Operation.added : Operation → List Reference
  | .insert reference => [reference]
  | .extend added => added
  | .contains _ => []
  | .size => []
  | .isEmpty => []
  | .listing => []

/-- The references that operations add, one after the other. -/
def addedBy (operations : List Operation) : List Reference :=
  operations.flatMap Operation.added

theorem addedBy_cons (operation : Operation) (operations : List Operation) :
    addedBy (operation :: operations) = operation.added ++ addedBy operations :=
  rfl

/-- The answer to an operation is right, given what was added before. -/
inductive Answer.Right (before : List Reference) : Operation → Answer → Prop
  | insert (reference : Reference) :
      Right before (.insert reference) (.truth (decide (reference ∉ before)))
  | extend (added : List Reference) : Right before (.extend added) .nothing
  | contains (reference : Reference) :
      Right before (.contains reference) (.truth (decide (reference ∈ before)))
  | size : Right before .size (.count before.toFinset.card)
  | isEmpty : Right before .isEmpty (.truth (decide (before = [])))
  | listing {listing : List Reference} (ordered : listing.Pairwise Reference.Before)
      (once : ∀ reference, listing.count reference = if reference ∈ before then 1 else 0) :
      Right before .listing (.references listing)

theorem size_eq_card (references : References) :
    references.size = references.toList.toFinset.card :=
  (List.toFinset_card_of_nodup references.toList_nodup).symm

/-- Inserting a reference makes a set grow if and only if the reference was not there. -/
theorem size_lt_size_insert_iff {references : References} {reference : Reference} :
    references.size < (references.insert reference).size ↔ reference ∉ references.toList := by
  have members : (references.insert reference).toList.toFinset =
      Insert.insert reference references.toList.toFinset := by
    ext other
    simp
  rw [size_eq_card, size_eq_card, members, ← List.mem_toFinset]
  by_cases member : reference ∈ references.toList.toFinset
  · simp [Finset.insert_eq_of_mem member, member]
  · simp [Finset.card_insert_of_notMem member, member]

/-- An operation is answered rightly if the set holds what was added before it. -/
theorem right_perform {references : References} {before : List Reference}
    (holds : ∀ reference, reference ∈ references.toList ↔ reference ∈ before)
    (operation : Operation) : Answer.Right before operation (references.perform operation).2 := by
  cases operation with
  | insert reference =>
      have grows : decide (references.size < (references.insert reference).size) =
          decide (reference ∉ before) := by
        rw [decide_eq_decide, size_lt_size_insert_iff, holds]
      rw [perform, grows]
      exact .insert reference
  | extend added => exact .extend added
  | contains reference =>
      have contained : references.contains reference = decide (reference ∈ before) := by
        rw [contains, List.contains_eq_mem, decide_eq_decide, holds]
      rw [perform, contained]
      exact .contains reference
  | size =>
      have members : references.toList.toFinset = before.toFinset := by
        ext reference
        simp [holds]
      rw [perform, size_eq_card, members]
      exact .size
  | isEmpty =>
      have empty : references.isEmpty = decide (before = []) := by
        rw [isEmpty, Bool.eq_iff_iff, List.isEmpty_iff, decide_eq_true_iff,
          List.eq_nil_iff_forall_not_mem, List.eq_nil_iff_forall_not_mem]
        simp only [holds]
      rw [perform, empty]
      exact .isEmpty
  | listing =>
      refine .listing references.ordered fun reference => ?_
      rw [references.toList_nodup.count]
      simp only [holds]

theorem mem_perform {references : References} {operation : Operation} {reference : Reference} :
    reference ∈ (references.perform operation).1.toList ↔
      reference ∈ references.toList ∨ reference ∈ operation.added := by
  cases operation with
  | insert inserted => simp [perform, Operation.added, or_comm]
  | extend added => simp [perform, Operation.added]
  | _ => simp [perform, Operation.added]

theorem mem_performAll {references : References} {operations : List Operation}
    {reference : Reference} :
    reference ∈ (references.performAll operations).1.toList ↔
      reference ∈ references.toList ∨ reference ∈ addedBy operations := by
  induction operations generalizing references with
  | nil => simp [performAll, addedBy]
  | cons operation operations ih =>
      have step : (references.performAll (operation :: operations)).1 =
          ((references.perform operation).1.performAll operations).1 := rfl
      rw [step, ih, mem_perform, or_assoc, addedBy_cons, List.mem_append]

theorem mem_performAll_empty {operations : List Operation} {reference : Reference} :
    reference ∈ (empty.performAll operations).1.toList ↔ reference ∈ addedBy operations := by
  rw [mem_performAll, toList_empty]
  simp

/-- The answer to an operation is given by the set that the operations before it lead to. -/
theorem getElem?_answers (references : References) (earlier later : List Operation)
    (operation : Operation) :
    (references.performAll (earlier ++ operation :: later)).2[earlier.length]? =
      some ((references.performAll earlier).1.perform operation).2 := by
  induction earlier generalizing references with
  | nil => rfl
  | cons first earlier ih => exact ih (references.perform first).1

/-- Along every sequence of operations on a set that starts empty, every answer is the right one
for the references that were added before it.  Two sequences lead to the same set, with the same
listing, if and only if they add the same references. -/
theorem answers_right_along_history (operations : List Operation) :
    (∀ operation later, ∃ answer,
      (empty.performAll (operations ++ operation :: later)).2[operations.length]? = some answer ∧
        Answer.Right (addedBy operations) operation answer) ∧
    ∀ others,
      ((empty.performAll operations).1 = (empty.performAll others).1 ∧
        (empty.performAll operations).1.toList = (empty.performAll others).1.toList) ↔
      ∀ reference, reference ∈ addedBy operations ↔ reference ∈ addedBy others := by
  constructor
  · intro operation later
    exact ⟨_, getElem?_answers empty operations later operation,
      right_perform (fun _ => mem_performAll_empty) operation⟩
  · intro others
    constructor
    · rintro ⟨-, same⟩ reference
      rw [← mem_performAll_empty, same, mem_performAll_empty]
    · intro same
      have equal : (empty.performAll operations).1 = (empty.performAll others).1 := by
        apply eq_of_mem_iff
        intro reference
        rw [mem_performAll_empty, mem_performAll_empty]
        exact same reference
      exact ⟨equal, congrArg toList equal⟩

end References

end Sourcewright
