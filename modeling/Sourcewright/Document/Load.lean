import Sourcewright.Document.Decoding
import Sourcewright.Document.Encoding
import Sourcewright.Document.Reader

/-!
# Loading trees

A kind of tree that has a place in documents is `Documented`: it has a shape, every
tree of the kind has a document value, and a value of that shape stands for a tree.
Such trees can be written as documents and loaded from them.
-/

namespace Sourcewright

open Document (Kind Rejection Shape Value)

/-- Trees that have a place in documents. -/
class Documented (α : Type) where
  shape : Shape
  toValue : α → Value
  ofValue? : Value → Option α

instance : Documented TypeRef := ⟨.tree .type, TypeRef.toValue, TypeRef.ofValue?⟩

instance : Documented Primitive :=
  ⟨.tree .primitive, fun primitive => .tag primitive.name, Primitive.ofValue?⟩

instance : Documented Operator := ⟨.tree .operator, Operator.toValue, Operator.ofValue?⟩

instance : Documented Modifiers :=
  ⟨Document.modifiersShape, Modifiers.toValue, Modifiers.ofValue?⟩

instance : Documented Literal := ⟨.tree .literal, Literal.toValue, Literal.ofValue?⟩

instance : Documented Param := ⟨.tree .param, Param.toValue, Param.ofValue?⟩

instance : Documented MethodRef := ⟨.tree .methodRef, MethodRef.toValue, MethodRef.ofValue?⟩

instance : Documented Expr := ⟨.tree .expr, Expr.toValue, Expr.ofValue?⟩

instance : Documented Conditional :=
  ⟨.tree .conditional, Conditional.toValue, Conditional.ofValue?⟩

instance : Documented Stmt := ⟨.tree .stmt, Stmt.toValue, Stmt.ofValue?⟩

instance : Documented Block := ⟨Document.blockShape, Block.toValue, Block.ofValue?⟩

instance : Documented FieldDecl := ⟨.tree .field, FieldDecl.toValue, FieldDecl.ofValue?⟩

instance : Documented ConstructorDecl :=
  ⟨.tree .constructor, ConstructorDecl.toValue, ConstructorDecl.ofValue?⟩

instance : Documented MethodDecl := ⟨.tree .method, MethodDecl.toValue, MethodDecl.ofValue?⟩

instance : Documented ClassDecl := ⟨.tree .classDecl, ClassDecl.toValue, ClassDecl.ofValue?⟩

instance : Documented Reference := ⟨.tree .reference, Reference.toValue, Reference.ofValue?⟩

instance : Documented FileDecl := ⟨.tree .file, FileDecl.toValue, FileDecl.ofValue?⟩

instance : Documented Node := ⟨.tree .node, Node.toValue, Node.ofValue?⟩

instance : Documented (List Param) :=
  ⟨.list (.tree .param), fun params => .list (params.map Param.toValue), Param.listOfValue?⟩

instance : Documented (List Expr) :=
  ⟨.list (.tree .expr), fun exprs => .list (Expr.toValues exprs), Expr.listOfValue?⟩

namespace Documented

variable {α : Type} [Documented α]

def render (tree : α) : String :=
  (toValue tree).render

/-- Whether two trees have the same document value. -/
def same (first second : α) : Bool :=
  toValue first == toValue second

/-- The tree that a document holds.  A value that was read by the shape of a tree
stands for one, so only reading can fail. -/
def load (α : Type) [Documented α] (text : String) : Except Rejection α :=
  match Document.read (shape α) text with
  | .error rejection => .error rejection
  | .ok value =>
    match ofValue? value with
    | some tree => .ok tree
    | none => .error ⟨.expectedValue, none⟩

end Documented

end Sourcewright
