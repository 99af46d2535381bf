import Mathlib.Logic.Relation
import Sourcewright.Proofs.Tree.Types

/-!
# Rearranging trees

The members of a class and the statements of a block can be put into another order,
repeated, or repeated less often, at any place inside of a class.  This changes neither
which types occur in the class nor which do not.
-/

namespace Sourcewright

/-- Two lists have the same members, in whichever order and however often. -/
def SameMembers {α : Type} (first second : List α) : Prop :=
  ∀ part, part ∈ first ↔ part ∈ second

theorem SameMembers.refl {α : Type} (members : List α) : SameMembers members members :=
  fun _ => Iff.rfl

theorem SameMembers.trans {α : Type} {first second third : List α}
    (firstSecond : SameMembers first second) (secondThird : SameMembers second third) :
    SameMembers first third :=
  fun part => (firstSecond part).trans (secondThird part)

theorem SameMembers.append {α : Type} {first second first' second' : List α}
    (firsts : SameMembers first first') (seconds : SameMembers second second') :
    SameMembers (first ++ second) (first' ++ second') := by
  intro part
  rw [List.mem_append, List.mem_append, firsts part, seconds part]

theorem SameMembers.flatMap {α β : Type} {first second : List α}
    (same : SameMembers first second) (parts : α → List β) :
    SameMembers (first.flatMap parts) (second.flatMap parts) := by
  intro part
  simp only [List.mem_flatMap, same _]

/-- Replacing one member by another with the same parts keeps the parts of a list. -/
theorem SameMembers.flatMap_replace {α β : Type} {parts : α → List β} {first second : α}
    (same : SameMembers (parts first) (parts second)) (before after : List α) :
    SameMembers ((before ++ first :: after).flatMap parts)
      ((before ++ second :: after).flatMap parts) := by
  simp only [List.flatMap_append, List.flatMap_cons]
  exact (SameMembers.refl _).append (same.append (SameMembers.refl _))

mutual

/-- The statements of a block are rearranged, or those of a block inside of one of them. -/
inductive Block.Rearranged : Block → Block → Prop
  | here {first second : Block} (same : SameMembers first second) : Block.Rearranged first second
  | inside {first second : Stmt} (before after : Block)
      (inner : Stmt.Rearranged first second) :
      Block.Rearranged (before ++ first :: after) (before ++ second :: after)

/-- A block inside of a statement is rearranged. -/
inductive Stmt.Rearranged : Stmt → Stmt → Prop
  | block {first second : Block} (inner : Block.Rearranged first second) :
      Stmt.Rearranged (.block first) (.block second)
  | conditional {first second : Block} (conditions : List Expr) (before after : List Block)
      (inner : Block.Rearranged first second) :
      Stmt.Rearranged (.conditional conditions (before ++ first :: after))
        (.conditional conditions (before ++ second :: after))

end

/-- The members of a class, of a class nested in it, or the statements of a body of it
are rearranged. -/
inductive ClassDecl.Rearranged : ClassDecl → ClassDecl → Prop
  | fields (declaration : ClassDecl) {fields : List FieldDecl}
      (same : SameMembers declaration.fields fields) :
      Rearranged declaration { declaration with fields := fields }
  | constructors (declaration : ClassDecl) {constructors : List ConstructorDecl}
      (same : SameMembers declaration.constructors constructors) :
      Rearranged declaration { declaration with constructors := constructors }
  | methods (declaration : ClassDecl) {methods : List MethodDecl}
      (same : SameMembers declaration.methods methods) :
      Rearranged declaration { declaration with methods := methods }
  | classes (declaration : ClassDecl) {classes : List ClassDecl}
      (same : SameMembers declaration.classes classes) :
      Rearranged declaration { declaration with classes := classes }
  | constructorBody (declaration : ClassDecl) (constructor : ConstructorDecl) {body : Block}
      (before after : List ConstructorDecl)
      (inner : Block.Rearranged constructor.body body) :
      Rearranged
        { declaration with constructors := before ++ constructor :: after }
        { declaration with
          constructors := before ++ { constructor with body := body } :: after }
  | methodBody (declaration : ClassDecl) (method : MethodDecl) {body : Block}
      (before after : List MethodDecl) (inner : Block.Rearranged method.body body) :
      Rearranged
        { declaration with methods := before ++ method :: after }
        { declaration with methods := before ++ { method with body := body } :: after }
  | nested (declaration : ClassDecl) {first second : ClassDecl} (before after : List ClassDecl)
      (inner : Rearranged first second) :
      Rearranged
        { declaration with classes := before ++ first :: after }
        { declaration with classes := before ++ second :: after }

mutual

theorem Block.Rearranged.types {first second : Block} :
    Block.Rearranged first second →
      SameMembers (first.flatMap Stmt.types) (second.flatMap Stmt.types)
  | .here same => same.flatMap Stmt.types
  | .inside before after inner =>
    SameMembers.flatMap_replace (Stmt.Rearranged.types inner) before after

theorem Stmt.Rearranged.types {first second : Stmt} :
    Stmt.Rearranged first second → SameMembers first.types second.types
  | .block inner => by
    simpa [Stmt.types] using Block.Rearranged.types inner
  | .conditional conditions before after inner => by
    simp only [Stmt.types, Stmt.blockTypes_eq_flatMap]
    exact (SameMembers.refl _).append
      (SameMembers.flatMap_replace (Block.Rearranged.types inner) before after)

end

namespace ClassDecl

theorem types_eq (declaration : ClassDecl) :
    declaration.types = declaration.fields.flatMap FieldDecl.types ++
      declaration.constructors.flatMap ConstructorDecl.types ++
      declaration.methods.flatMap MethodDecl.types ++
      declaration.classes.flatMap ClassDecl.types := by
  cases declaration
  simp [types]

/-- A rearranged class has the same types. -/
theorem Rearranged.types {first second : ClassDecl} (rearranged : Rearranged first second) :
    SameMembers first.types second.types := by
  have keep {α : Type} (members : List α) := SameMembers.refl members
  induction rearranged with
  | fields declaration same =>
      simp only [types_eq]
      exact (((same.flatMap _).append (keep _)).append (keep _)).append (keep _)
  | constructors declaration same =>
      simp only [types_eq]
      exact (((keep _).append (same.flatMap _)).append (keep _)).append (keep _)
  | methods declaration same =>
      simp only [types_eq]
      exact ((keep _).append (same.flatMap _)).append (keep _)
  | classes declaration same =>
      simp only [types_eq]
      exact (keep _).append (same.flatMap _)
  | constructorBody declaration constructor before after inner =>
      simp only [types_eq]
      have body : SameMembers constructor.types _ := (keep _).append inner.types
      exact (((keep _).append (.flatMap_replace body before after)).append (keep _)).append
        (keep _)
  | methodBody declaration method before after inner =>
      simp only [types_eq]
      have body : SameMembers method.types _ := (keep _).append inner.types
      exact ((keep _).append (.flatMap_replace body before after)).append (keep _)
  | nested declaration before after inner ih =>
      simp only [types_eq]
      exact (keep _).append (.flatMap_replace ih before after)

/-- A class has the same types however often it is rearranged. -/
theorem types_of_rearrangements {first second : ClassDecl}
    (rearrangements : Relation.ReflTransGen Rearranged first second) :
    SameMembers first.types second.types := by
  induction rearrangements with
  | refl => exact .refl _
  | tail _ rearranged ih => exact ih.trans rearranged.types

end ClassDecl

end Sourcewright
