import Sourcewright.Document.Schema

/-!
# Trees from document values

The tree that a document value stands for, if the value has the shape of one.
-/

namespace Sourcewright

open Document (Value)

def Primitive.ofName? (name : String) : Option Primitive :=
  all.find? (·.name == name)

def Operator.ofName? (name : String) : Option Operator :=
  all.find? (·.name == name)

def Modifier.ofName? (name : String) : Option Modifier :=
  all.find? (·.name == name)

def ReferenceKind.ofName? (name : String) : Option ReferenceKind :=
  all.find? (·.name == name)

def Primitive.ofValue? : Value → Option Primitive
  | .tag name => ofName? name
  | _ => none

def Operator.ofValue? : Value → Option Operator
  | .tag name => ofName? name
  | _ => none

def Modifier.ofValue? : Value → Option Modifier
  | .tag name => ofName? name
  | _ => none

def TypeRef.ofValue? : Value → Option TypeRef
  | .variant "named" (.text name) => some (.named name)
  | .variant "prim" content => (Primitive.ofValue? content).map .primitive
  | _ => none

def Modifiers.ofValue? : Value → Option Modifiers
  | .list items => (items.mapM Modifier.ofValue?).map Modifiers.ofList
  | _ => none

def Literal.ofValue? : Value → Option Literal
  | .variant "bool" (.truth value) => some (.truth value)
  | .variant "int" (.integer value) => some (.integer value)
  | .variant "float" (.float value) => some (.float value)
  | .variant "string" (.text value) => some (.text value)
  | .tag "null" => some .null
  | _ => none

def Param.ofValue? : Value → Option Param
  | .record _ [.text name, type] => (TypeRef.ofValue? type).map fun type => ⟨name, type⟩
  | _ => none

def Param.listOfValue? : Value → Option (List Param)
  | .list items => items.mapM Param.ofValue?
  | _ => none

def MethodRef.ofValue? : Value → Option MethodRef
  | .record _ [owner, .text name] => (TypeRef.ofValue? owner).map fun owner => ⟨owner, name⟩
  | _ => none

namespace Expr

mutual

def ofValue? : Value → Option Expr
  | .variant "const" content => (Literal.ofValue? content).map .literal
  | .variant "param" content => (Param.ofValue? content).map .param
  | .variant "binary" (.record _ [operator, left, right]) => do
    let operator ← Operator.ofValue? operator
    let left ← ofValue? left
    let right ← ofValue? right
    return .binary operator left right
  | .variant "assign" (.record _ [target, value]) => do
    let target ← ofValue? target
    let value ← ofValue? value
    return .assign target value
  | .variant "call" (.record _ [.null, method, .list arguments]) => do
    let method ← MethodRef.ofValue? method
    let arguments ← ofValues? arguments
    return .staticCall method arguments
  | .variant "call" (.record _ [receiver, method, .list arguments]) => do
    let receiver ← ofValue? receiver
    let method ← MethodRef.ofValue? method
    let arguments ← ofValues? arguments
    return .call receiver method arguments
  | .variant "new" (.record _ [type, .list arguments]) => do
    let type ← TypeRef.ofValue? type
    let arguments ← ofValues? arguments
    return .construct type arguments
  | .variant "field" (.record _ [type, .text name]) => do
    let type ← TypeRef.ofValue? type
    return .field type name
  | _ => none

def ofValues? : List Value → Option (List Expr)
  | [] => some []
  | value :: values => do
    let expr ← ofValue? value
    let exprs ← ofValues? values
    return expr :: exprs

end

def listOfValue? : Value → Option (List Expr)
  | .list items => ofValues? items
  | _ => none

def ofOptionalValue? : Value → Option (Option Expr)
  | .null => some none
  | value => (ofValue? value).map some

end Expr

namespace Stmt

mutual

def ofValue? : Value → Option Stmt
  | .variant "expr" content => (Expr.ofValue? content).map .expr
  | .variant "decl" (.record _ [param, init]) => do
    let param ← Param.ofValue? param
    let init ← Expr.ofOptionalValue? init
    return .declare param init
  | .variant "if" (.record _ [.list conditions, .list blocks]) => do
    let conditions ← Expr.ofValues? conditions
    let blocks ← blocksOfValues? blocks
    return .conditional conditions blocks
  | .variant "block" (.list statements) => (ofValues? statements).map .block
  | .variant "return" content => (Expr.ofOptionalValue? content).map .ret
  | .variant "comment" (.text text) => some (.comment text)
  | _ => none

def ofValues? : List Value → Option (List Stmt)
  | [] => some []
  | value :: values => do
    let statement ← ofValue? value
    let statements ← ofValues? values
    return statement :: statements

def blocksOfValues? : List Value → Option (List (List Stmt))
  | [] => some []
  | .list statements :: values => do
    let block ← ofValues? statements
    let blocks ← blocksOfValues? values
    return block :: blocks
  | _ :: _ => none

end

end Stmt

def Block.ofValue? : Value → Option Block
  | .list items => Stmt.ofValues? items
  | _ => none

def Conditional.ofValue? : Value → Option Conditional
  | .record _ [.list conditions, .list blocks] => do
    let conditions ← Expr.ofValues? conditions
    let blocks ← Stmt.blocksOfValues? blocks
    return ⟨conditions, blocks⟩
  | _ => none

def FieldDecl.ofValue? : Value → Option FieldDecl
  | .record _ [modifiers, type, .text name, init] => do
    let modifiers ← Modifiers.ofValue? modifiers
    let type ← TypeRef.ofValue? type
    let init ← Expr.ofOptionalValue? init
    return ⟨modifiers, type, name, init⟩
  | _ => none

def ConstructorDecl.ofValue? : Value → Option ConstructorDecl
  | .record _ [modifiers, params, body] => do
    let modifiers ← Modifiers.ofValue? modifiers
    let params ← Param.listOfValue? params
    let body ← Block.ofValue? body
    return ⟨modifiers, params, body⟩
  | _ => none

def MethodDecl.ofValue? : Value → Option MethodDecl
  | .record _ [modifiers, .text name, returnType, params, body] => do
    let modifiers ← Modifiers.ofValue? modifiers
    let returnType ← TypeRef.ofValue? returnType
    let params ← Param.listOfValue? params
    let body ← Block.ofValue? body
    return ⟨modifiers, name, returnType, params, body⟩
  | _ => none

namespace ClassDecl

mutual

def ofValue? : Value → Option ClassDecl
  | .record _ [modifiers, .text scope, .text name, .list fields, .list constructors,
      .list methods, .list classes] => do
    let modifiers ← Modifiers.ofValue? modifiers
    let fields ← fields.mapM FieldDecl.ofValue?
    let constructors ← constructors.mapM ConstructorDecl.ofValue?
    let methods ← methods.mapM MethodDecl.ofValue?
    let classes ← ofValues? classes
    return ⟨modifiers, scope, name, fields, constructors, methods, classes⟩
  | _ => none

def ofValues? : List Value → Option (List ClassDecl)
  | [] => some []
  | value :: values => do
    let declaration ← ofValue? value
    let declarations ← ofValues? values
    return declaration :: declarations

end

end ClassDecl

def Reference.ofValue? : Value → Option Reference
  | .record _ [.tag kind, .text path] =>
    (ReferenceKind.ofName? kind).map fun kind => ⟨kind, path⟩
  | _ => none

def FileDecl.ofValue? : Value → Option FileDecl
  | .record _ [.list references, body] => do
    let references ← references.mapM Reference.ofValue?
    let body ← ClassDecl.ofValue? body
    return ⟨references, body⟩
  | _ => none

def Node.ofValue? : Value → Option Node
  | .variant "expr" content => (Expr.ofValue? content).map .expr
  | .variant "stmt" content => (Stmt.ofValue? content).map .stmt
  | .variant "block" content => (Block.ofValue? content).map .block
  | .variant "field" content => (FieldDecl.ofValue? content).map .field
  | .variant "constructor" content => (ConstructorDecl.ofValue? content).map .constructor
  | .variant "method" content => (MethodDecl.ofValue? content).map .method
  | .variant "class" content => (ClassDecl.ofValue? content).map .classDecl
  | .variant "file" content => (FileDecl.ofValue? content).map .file
  | _ => none

end Sourcewright
