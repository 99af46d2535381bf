import Mathlib.Data.List.TakeWhile
import Sourcewright.Reference.Resolve

/-!
# Qualified names

A name is qualified if something other than nothing stands both before and behind its
last dot.  The name behind the last dot holds no dot, so it is never qualified itself:
simplifying a type twice is simplifying it once.
-/

namespace Sourcewright

/-- A list cut at the last occurrence of a dot. -/
theorem cutAtLastDot?_eq_some_iff {name qualifier simple : List Char} :
    cutAtLastDot? name = some (qualifier, simple) ↔
      name = qualifier ++ '.' :: simple ∧ '.' ∉ simple := by
  constructor
  · intro cut
    simp only [cutAtLastDot?] at cut
    cases dropped : name.reverse.dropWhile (· != '.') with
    | nil =>
        rw [dropped] at cut
        cases cut
    | cons dot reversedQualifier =>
        simp only [dropped, Option.some.injEq, Prod.mk.injEq] at cut
        obtain ⟨rfl, rfl⟩ := cut
        have dotFound : dot = '.' := by
          have stopped := List.head?_dropWhile_not (· != '.') name.reverse
          rw [dropped] at stopped
          simpa using stopped
        have reversed : name.reverse.takeWhile (· != '.') ++ dot :: reversedQualifier =
            name.reverse := by
          rw [← dropped]
          exact List.takeWhile_append_dropWhile
        constructor
        · have turned := congrArg List.reverse reversed
          simpa [dotFound] using turned.symm
        · intro inside
          have before := List.mem_takeWhile_imp (List.mem_reverse.mp inside)
          simp at before
  · rintro ⟨rfl, noDot⟩
    -- The name is read from its end, so the simple name is what is taken.
    have free : ∀ char ∈ simple.reverse, (char != '.') = true := by
      intro char member
      have different : char ≠ '.' := by
        rintro rfl
        exact noDot (List.mem_reverse.mp member)
      simpa using different
    have turned : (qualifier ++ '.' :: simple).reverse =
        simple.reverse ++ '.' :: qualifier.reverse := by
      simp
    simp only [cutAtLastDot?, turned]
    rw [List.dropWhile_append_of_pos free, List.takeWhile_append_of_pos free]
    simp

/-- Type names with something before and something behind their last dot. -/
def TypeRef.Qualified : TypeRef → Prop
  | .primitive _ => False
  | .named name => ∃ qualifier simple : String,
      name = qualifier ++ "." ++ simple ∧ '.' ∉ simple.toList ∧
        qualifier ≠ "" ∧ simple ≠ ""

namespace TypeRef

theorem splitQualified?_eq_some_iff {name qualifier simple : String} :
    (TypeRef.named name).splitQualified? = some (qualifier, simple) ↔
      name = qualifier ++ "." ++ simple ∧ '.' ∉ simple.toList ∧
        qualifier ≠ "" ∧ simple ≠ "" := by
  have joined : name = qualifier ++ "." ++ simple ↔
      name.toList = qualifier.toList ++ '.' :: simple.toList := by
    rw [← String.toList_inj]
    simp
  constructor
  · intro split
    simp only [splitQualified?] at split
    cases cut : cutAtLastDot? name.toList with
    | none =>
        rw [cut] at split
        cases split
    | some parts =>
        obtain ⟨qualifierChars, simpleChars⟩ := parts
        rw [cut] at split
        dsimp only at split
        by_cases empty : (qualifierChars.isEmpty || simpleChars.isEmpty) = true
        · rw [if_pos empty] at split
          cases split
        · rw [if_neg empty] at split
          cases split
          obtain ⟨parts, noDot⟩ := cutAtLastDot?_eq_some_iff.mp cut
          simp_all
  · rintro ⟨parts, noDot, qualifierNonempty, simpleNonempty⟩
    have cut := cutAtLastDot?_eq_some_iff.mpr ⟨joined.mp parts, noDot⟩
    simp [splitQualified?, cut, qualifierNonempty, simpleNonempty]

theorem splitQualified?_isSome_iff {type : TypeRef} :
    type.splitQualified?.isSome ↔ type.Qualified := by
  cases type with
  | primitive builtin => simp [splitQualified?, Qualified]
  | named name =>
      simp only [Option.isSome_iff_exists, Prod.exists, splitQualified?_eq_some_iff, Qualified]

/-- The name behind the last dot of a qualified name is not qualified. -/
theorem splitQualified?_simplified (type : TypeRef) :
    type.simplified.splitQualified? = none := by
  cases split : type.splitQualified? with
  | none => simp only [simplified, split]
  | some parts =>
      obtain ⟨qualifier, simple⟩ := parts
      cases type with
      | primitive builtin => cases split
      | named name =>
          obtain ⟨-, noDot, -, -⟩ := splitQualified?_eq_some_iff.mp split
          simp only [simplified, split]
          rw [Option.eq_none_iff_forall_not_mem]
          rintro ⟨furtherQualifier, furtherSimple⟩ again
          obtain ⟨parts, -, -, -⟩ := splitQualified?_eq_some_iff.mp again
          apply noDot
          simp [parts]

theorem simplified_eq_self_of_not_split {type : TypeRef} (simple : type.splitQualified? = none) :
    type.simplified = type := by
  simp only [simplified, simple]

/-- Simplifying leaves exactly those types as they are that are not qualified. -/
theorem simplified_eq_self_iff {type : TypeRef} :
    type.simplified = type ↔ type.splitQualified? = none := by
  constructor
  · intro same
    rw [← same]
    exact splitQualified?_simplified type
  · exact simplified_eq_self_of_not_split

@[simp]
theorem simplified_simplified (type : TypeRef) :
    type.simplified.simplified = type.simplified :=
  simplified_eq_self_of_not_split (splitQualified?_simplified type)

@[simp]
theorem simplified_primitive (builtin : Primitive) :
    (TypeRef.primitive builtin).simplified = .primitive builtin :=
  rfl

theorem simplified_eq_primitive_iff {type : TypeRef} {builtin : Primitive} :
    type.simplified = .primitive builtin ↔ type = .primitive builtin := by
  cases type with
  | primitive other => rfl
  | named name =>
      simp only [simplified]
      split <;> simp

end TypeRef

end Sourcewright
