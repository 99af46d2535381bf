import Sourcewright.Document.Schema

/-!
# Trees as document values

Every tree has one document value.  All members of a record are present in it, in
the order of the schema.
-/

namespace Sourcewright

open Document (Kind Value)

namespace Document

/-- The members of a kind of record; alternatives have none. -/
def Kind.members (kind : Kind) : List Member :=
  match kind.definition with
  | .record _ members => members
  | .choice _ => []

def Kind.memberNames (kind : Kind) : List String :=
  kind.members.map Member.name

def Kind.recordOf (kind : Kind) (values : List Value) : Value :=
  .record kind.memberNames values

end Document

def TypeRef.toValue : TypeRef → Value
  | .named name => .variant "named" (.text name)
  | .primitive builtin => .variant "prim" (.tag builtin.name)

def Operator.toValue (operator : Operator) : Value :=
  .tag operator.name

def Literal.toValue : Literal → Value
  | .truth value => .variant "bool" (.truth value)
  | .integer value => .variant "int" (.integer value)
  | .float value => .variant "float" (.float value)
  | .text value => .variant "string" (.text value)
  | .null => .tag "null"

def Param.toValue (param : Param) : Value :=
  Kind.param.recordOf [.text param.name, param.type.toValue]

def MethodRef.toValue (method : MethodRef) : Value :=
  Kind.methodRef.recordOf [method.owner.toValue, .text method.name]

namespace Expr

mutual

def toValue : Expr → Value
  | .literal value => .variant "const" value.toValue
  | .param named => .variant "param" named.toValue
  | .binary operator left right =>
    .variant "binary" (Kind.binary.recordOf [operator.toValue, toValue left, toValue right])
  | .assign target value =>
    .variant "assign" (Kind.assignment.recordOf [toValue target, toValue value])
  | .call receiver method arguments =>
    .variant "call" (Kind.call.recordOf
      [toValue receiver, method.toValue, .list (toValues arguments)])
  | .staticCall method arguments =>
    .variant "call" (Kind.call.recordOf [.null, method.toValue, .list (toValues arguments)])
  | .construct type arguments =>
    .variant "new" (Kind.construction.recordOf [type.toValue, .list (toValues arguments)])
  | .field type name =>
    .variant "field" (Kind.fieldAccess.recordOf [type.toValue, .text name])

def toValues : List Expr → List Value
  | [] => []
  | expr :: exprs => toValue expr :: toValues exprs

end

def toOptionalValue : Option Expr → Value
  | none => .null
  | some expr => expr.toValue

end Expr

namespace Stmt

mutual

def toValue : Stmt → Value
  | .expr value => .variant "expr" value.toValue
  | .declare param init =>
    .variant "decl" (Kind.declaration.recordOf [param.toValue, Expr.toOptionalValue init])
  | .conditional conditions blocks =>
    .variant "if" (Kind.conditional.recordOf
      [.list (Expr.toValues conditions), .list (blockValues blocks)])
  | .block statements => .variant "block" (.list (toValues statements))
  | .ret value => .variant "return" (Expr.toOptionalValue value)
  | .comment text => .variant "comment" (.text text)

def toValues : List Stmt → List Value
  | [] => []
  | statement :: statements => toValue statement :: toValues statements

def blockValues : List (List Stmt) → List Value
  | [] => []
  | statements :: blocks => .list (toValues statements) :: blockValues blocks

end

end Stmt

def Block.toValue (block : Block) : Value :=
  .list (Stmt.toValues block)

def Conditional.toValue (conditional : Conditional) : Value :=
  Kind.conditional.recordOf
    [.list (Expr.toValues conditional.conditions), .list (Stmt.blockValues conditional.blocks)]

def Modifiers.toValue (modifiers : Modifiers) : Value :=
  .list (modifiers.toList.map fun modifier => .tag modifier.name)

def FieldDecl.toValue (field : FieldDecl) : Value :=
  Kind.field.recordOf [field.modifiers.toValue, field.type.toValue, .text field.name,
    Expr.toOptionalValue field.init]

def ConstructorDecl.toValue (constructor : ConstructorDecl) : Value :=
  Kind.constructor.recordOf [constructor.modifiers.toValue,
    .list (constructor.params.map Param.toValue), Block.toValue constructor.body]

def MethodDecl.toValue (method : MethodDecl) : Value :=
  Kind.method.recordOf [method.modifiers.toValue, .text method.name, method.returnType.toValue,
    .list (method.params.map Param.toValue), Block.toValue method.body]

namespace ClassDecl

mutual

def toValue : ClassDecl → Value
  | ⟨modifiers, scope, name, fields, constructors, methods, classes⟩ =>
    Kind.classDecl.recordOf [modifiers.toValue, .text scope, .text name,
      .list (fields.map FieldDecl.toValue), .list (constructors.map ConstructorDecl.toValue),
      .list (methods.map MethodDecl.toValue), .list (toValues classes)]

def toValues : List ClassDecl → List Value
  | [] => []
  | declaration :: declarations => toValue declaration :: toValues declarations

end

end ClassDecl

def Reference.toValue (reference : Reference) : Value :=
  Kind.reference.recordOf [.tag reference.kind.name, .text reference.path]

def FileDecl.toValue (file : FileDecl) : Value :=
  Kind.file.recordOf [.list (file.references.map Reference.toValue), file.body.toValue]

def Node.toValue : Node → Value
  | .expr tree => .variant "expr" tree.toValue
  | .stmt tree => .variant "stmt" tree.toValue
  | .block tree => .variant "block" (Block.toValue tree)
  | .field tree => .variant "field" tree.toValue
  | .constructor tree => .variant "constructor" tree.toValue
  | .method tree => .variant "method" tree.toValue
  | .classDecl tree => .variant "class" tree.toValue
  | .file tree => .variant "file" tree.toValue

end Sourcewright
