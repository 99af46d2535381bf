import Sourcewright.Tree.Basic

/-!
# Induction over trees

Expressions, statements and classes hold lists of their own kind.  The principles in
this file give a hypothesis for every member of such a list, so that a proof about
trees has one case for each constructor and no cases for lists.
-/

namespace Sourcewright

/-- Induction over expressions, with a hypothesis for every argument of a call. -/
@[elab_as_elim]
theorem Expr.induction {motive : Expr → Prop}
    (literal : ∀ value, motive (.literal value))
    (param : ∀ named, motive (.param named))
    (binary : ∀ operator left right, motive left → motive right →
      motive (.binary operator left right))
    (assign : ∀ target value, motive target → motive value → motive (.assign target value))
    (call : ∀ receiver method arguments, motive receiver →
      (∀ argument ∈ arguments, motive argument) → motive (.call receiver method arguments))
    (staticCall : ∀ method arguments,
      (∀ argument ∈ arguments, motive argument) → motive (.staticCall method arguments))
    (construct : ∀ type arguments,
      (∀ argument ∈ arguments, motive argument) → motive (.construct type arguments))
    (field : ∀ type name, motive (.field type name))
    (expr : Expr) : motive expr :=
  @Expr.rec motive (fun arguments => ∀ argument ∈ arguments, motive argument)
    literal param binary assign call staticCall construct field
    (fun _ member => nomatch member)
    (fun _ _ first rest => List.forall_mem_cons.mpr ⟨first, rest⟩)
    expr

/-- Induction over statements, with a hypothesis for every statement of every inner
block. -/
@[elab_as_elim]
theorem Stmt.induction {motive : Stmt → Prop}
    (expr : ∀ value, motive (.expr value))
    (declare : ∀ param init, motive (.declare param init))
    (conditional : ∀ conditions blocks,
      (∀ block ∈ blocks, ∀ statement ∈ block, motive statement) →
        motive (.conditional conditions blocks))
    (block : ∀ statements, (∀ statement ∈ statements, motive statement) →
      motive (.block statements))
    (ret : ∀ value, motive (.ret value))
    (comment : ∀ text, motive (.comment text))
    (statement : Stmt) : motive statement :=
  @Stmt.rec motive (fun blocks => ∀ block ∈ blocks, ∀ statement ∈ block, motive statement)
    (fun statements => ∀ statement ∈ statements, motive statement)
    expr declare conditional block ret comment
    (fun _ member => nomatch member)
    (fun _ _ first rest => List.forall_mem_cons.mpr ⟨first, rest⟩)
    (fun _ member => nomatch member)
    (fun _ _ first rest => List.forall_mem_cons.mpr ⟨first, rest⟩)
    statement

/-- Induction over classes, with a hypothesis for every nested class. -/
@[elab_as_elim]
theorem ClassDecl.induction {motive : ClassDecl → Prop}
    (mk : ∀ modifiers scope name fields constructors methods classes,
      (∀ declaration ∈ classes, motive declaration) →
        motive ⟨modifiers, scope, name, fields, constructors, methods, classes⟩)
    (declaration : ClassDecl) : motive declaration :=
  @ClassDecl.rec motive (fun classes => ∀ declaration ∈ classes, motive declaration) mk
    (fun _ member => nomatch member)
    (fun _ _ first rest => List.forall_mem_cons.mpr ⟨first, rest⟩)
    declaration

end Sourcewright
