import Sourcewright.Proofs.Reference.Preparation

/-!
# Types with the same simple name

Resolving looks at one type at a time, so it may make different types equal.  It does so
exactly where two names have the same simple name: a qualified name is cut down to what stands
behind its last dot, and any other name is kept.  All other types that differ still differ in
the resolved tree.
-/

namespace Sourcewright

namespace TypeRef

/-- The simple name of a named type: what stands behind the last dot of a qualified name, and
the whole of a name that is not qualified. -/
inductive HasSimpleName : TypeRef → String → Prop
  | qualified {name qualifier simple : String} (parts : name = qualifier ++ "." ++ simple)
      (noDot : '.' ∉ simple.toList) (qualifierNonempty : qualifier ≠ "")
      (simpleNonempty : simple ≠ "") : HasSimpleName (.named name) simple
  | plain {name : String} (notQualified : ¬ (TypeRef.named name).Qualified) :
      HasSimpleName (.named name) name

theorem simplified_eq_named_iff {type : TypeRef} {simple : String} :
    type.simplified = .named simple ↔ type.HasSimpleName simple := by
  constructor
  · intro simplifies
    cases type with
    | primitive builtin => cases simplifies
    | named name =>
        cases split : (TypeRef.named name).splitQualified? with
        | none =>
            rw [simplified_eq_self_of_not_split split] at simplifies
            cases simplifies
            refine .plain fun qualified => ?_
            rw [← splitQualified?_isSome_iff, split] at qualified
            cases qualified
        | some parts =>
            obtain ⟨qualifier, behind⟩ := parts
            simp only [simplified, split, named.injEq] at simplifies
            subst simplifies
            obtain ⟨parts, noDot, qualifierNonempty, simpleNonempty⟩ :=
              splitQualified?_eq_some_iff.mp split
            exact .qualified parts noDot qualifierNonempty simpleNonempty
  · intro hasName
    cases hasName with
    | qualified parts noDot qualifierNonempty simpleNonempty =>
        have split := splitQualified?_eq_some_iff.mpr
          ⟨parts, noDot, qualifierNonempty, simpleNonempty⟩
        simp only [simplified, split]
    | plain notQualified =>
        apply simplified_eq_self_of_not_split
        rwa [← splitQualified?_isSome_iff, Option.not_isSome_iff_eq_none] at notQualified

theorem simplified_eq_simplified_iff {first second : TypeRef} :
    first.simplified = second.simplified ↔
      first = second ∨ ∃ simple, first.HasSimpleName simple ∧ second.HasSimpleName simple := by
  constructor
  · intro same
    cases simplifies : second.simplified with
    | primitive builtin =>
        left
        rw [simplifies, simplified_eq_primitive_iff] at same
        rw [same, simplified_eq_primitive_iff.mp simplifies]
    | named simple =>
        right
        rw [simplifies] at same
        exact ⟨simple, simplified_eq_named_iff.mp same, simplified_eq_named_iff.mp simplifies⟩
  · rintro (rfl | ⟨simple, firstNamed, secondNamed⟩)
    · rfl
    · rw [simplified_eq_named_iff.mpr firstNamed, simplified_eq_named_iff.mpr secondNamed]

end TypeRef

namespace Target

theorem getElem?_types_resolve (target : Target) {node : Node} {place : Nat} {type : TypeRef}
    (stands : node.types[place]? = some type) :
    (target.resolve node).1.types[place]? = some type.simplified := by
  rw [resolve_fst, Node.types_mapTypes, List.getElem?_map, stands, Option.map_some]

/-- The types at two places of a tree stay different when the tree is resolved, unless they are
names with the same simple name; these become the same type. -/
theorem resolve_confuses_iff (target : Target) {node : Node} {firstPlace secondPlace : Nat}
    {first second : TypeRef} (firstStands : node.types[firstPlace]? = some first)
    (secondStands : node.types[secondPlace]? = some second) (different : first ≠ second) :
    ∃ firstResolved secondResolved,
      (target.resolve node).1.types[firstPlace]? = some firstResolved ∧
      (target.resolve node).1.types[secondPlace]? = some secondResolved ∧
      (firstResolved = secondResolved ↔
        ∃ simple, first.HasSimpleName simple ∧ second.HasSimpleName simple) := by
  refine ⟨first.simplified, second.simplified, target.getElem?_types_resolve firstStands,
    target.getElem?_types_resolve secondStands, ?_⟩
  rw [TypeRef.simplified_eq_simplified_iff]
  exact or_iff_right different

/-- Two parameters whose types end alike; only the first one is a qualified name. -/
def dottedParams : Node :=
  .expr (.binary .eq (.param ⟨"items", .named "java.util.List"⟩)
    (.param ⟨"dotted", .named ".List"⟩))

/-- A name with nothing before its dot is not confused with a qualified name that ends in the
same way. -/
theorem resolve_dottedParams :
    (java.resolve dottedParams).1.types = [.named "List", .named ".List"] ∧
    ¬ ∃ simple, (TypeRef.named "java.util.List").HasSimpleName simple ∧
      (TypeRef.named ".List").HasSimpleName simple := by
  have resolved : (java.resolve dottedParams).1.types = [.named "List", .named ".List"] := by
    decide +kernel
  obtain ⟨firstResolved, secondResolved, firstStands, secondStands, confused⟩ :=
    @resolve_confuses_iff java dottedParams 0 1 _ _ rfl rfl (by decide)
  rw [resolved] at firstStands secondStands
  cases firstStands
  cases secondStands
  refine ⟨resolved, ?_⟩
  rw [← confused]
  decide

/-- A class with two fields of different list types. -/
def twoLists : Node :=
  .classDecl
    { name := "Lists"
      fields := [
        { type := .named "java.util.List", name := "items" },
        { type := .named "java.awt.List", name := "widget" }] }

/-- The types of the two fields are different, but both targets make them the same type. -/
theorem resolve_twoLists :
    twoLists.types = [.named "java.util.List", .named "java.awt.List"] ∧
    TypeRef.named "java.util.List" ≠ .named "java.awt.List" ∧
    (java.resolve twoLists).1.types = [.named "List", .named "List"] ∧
    (cpp.resolve twoLists).1.types = [.named "List", .named "List"] := by
  refine ⟨rfl, by decide, ?_, ?_⟩
  · decide +kernel
  · decide +kernel

end Target

end Sourcewright
