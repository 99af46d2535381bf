import Sourcewright.Tree.Basic

/-!
# Traversing trees

A traversal visits every part of a tree and puts the tree together again from what it
was given back for each part.  What it does at a part of some kind can be replaced:
the replacement is given the part and the computation that visits everything inside
of it, which it may run, or leave out, and whose outcome it may change.

Parts are visited from the outside to the inside, and in the order in which they are
written.
-/

namespace Sourcewright

/-- What to do at each kind of part, given the visit to what is inside of it. -/
structure Traversal (m : Type → Type) where
  onNode : Node → m Node → m Node := fun _ visit => visit
  onFile : FileDecl → m FileDecl → m FileDecl := fun _ visit => visit
  onClass : ClassDecl → m ClassDecl → m ClassDecl := fun _ visit => visit
  onField : FieldDecl → m FieldDecl → m FieldDecl := fun _ visit => visit
  onConstructor : ConstructorDecl → m ConstructorDecl → m ConstructorDecl :=
    fun _ visit => visit
  onMethod : MethodDecl → m MethodDecl → m MethodDecl := fun _ visit => visit
  onBlock : Block → m Block → m Block := fun _ visit => visit
  onStmt : Stmt → m Stmt → m Stmt := fun _ visit => visit
  onConditional : Conditional → m Conditional → m Conditional := fun _ visit => visit
  onExpr : Expr → m Expr → m Expr := fun _ visit => visit
  onParam : Param → m Param → m Param := fun _ visit => visit
  onMethodRef : MethodRef → m MethodRef → m MethodRef := fun _ visit => visit
  onType : TypeRef → m TypeRef → m TypeRef := fun _ visit => visit

namespace Traversal

variable {m : Type → Type} [Monad m] (traversal : Traversal m)

def type (part : TypeRef) : m TypeRef :=
  traversal.onType part (pure part)

def param (part : Param) : m Param :=
  traversal.onParam part do
    let type ← traversal.type part.type
    return ⟨part.name, type⟩

def params : List Param → m (List Param)
  | [] => pure []
  | part :: parts => do
    let first ← traversal.param part
    let rest ← params parts
    return first :: rest

def methodRef (part : MethodRef) : m MethodRef :=
  traversal.onMethodRef part do
    let owner ← traversal.type part.owner
    return ⟨owner, part.name⟩

mutual

def expr : Expr → m Expr
  | .literal value => traversal.onExpr (.literal value) (pure (.literal value))
  | .param named => traversal.onExpr (.param named) do
    let named ← traversal.param named
    return .param named
  | .binary operator left right => traversal.onExpr (.binary operator left right) do
    let left ← expr left
    let right ← expr right
    return .binary operator left right
  | .assign target value => traversal.onExpr (.assign target value) do
    let target ← expr target
    let value ← expr value
    return .assign target value
  | .call receiver method arguments => traversal.onExpr (.call receiver method arguments) do
    let receiver ← expr receiver
    let method ← traversal.methodRef method
    let arguments ← exprs arguments
    return .call receiver method arguments
  | .staticCall method arguments => traversal.onExpr (.staticCall method arguments) do
    let method ← traversal.methodRef method
    let arguments ← exprs arguments
    return .staticCall method arguments
  | .construct created arguments => traversal.onExpr (.construct created arguments) do
    let created ← traversal.type created
    let arguments ← exprs arguments
    return .construct created arguments
  | .field fieldType name => traversal.onExpr (.field fieldType name) do
    let fieldType ← traversal.type fieldType
    return .field fieldType name

def exprs : List Expr → m (List Expr)
  | [] => pure []
  | part :: parts => do
    let first ← expr part
    let rest ← exprs parts
    return first :: rest

end

def optionalExpr : Option Expr → m (Option Expr)
  | none => pure none
  | some part => do
    let visited ← traversal.expr part
    return some visited

mutual

def stmt : Stmt → m Stmt
  | .expr value => traversal.onStmt (.expr value) do
    let value ← traversal.expr value
    return .expr value
  | .declare declared init => traversal.onStmt (.declare declared init) do
    let declared ← traversal.param declared
    let init ← traversal.optionalExpr init
    return .declare declared init
  | .conditional conditions blocks => traversal.onStmt (.conditional conditions blocks) do
    let conditional ← traversal.onConditional ⟨conditions, blocks⟩ do
      let conditions ← traversal.exprs conditions
      let blocks ← blockList blocks
      return ⟨conditions, blocks⟩
    return conditional.toStmt
  | .block statements => traversal.onStmt (.block statements) do
    let statements ← traversal.onBlock statements (stmts statements)
    return .block statements
  | .ret value => traversal.onStmt (.ret value) do
    let value ← traversal.optionalExpr value
    return .ret value
  | .comment text => traversal.onStmt (.comment text) (pure (.comment text))

def stmts : List Stmt → m (List Stmt)
  | [] => pure []
  | part :: parts => do
    let first ← stmt part
    let rest ← stmts parts
    return first :: rest

def blockList : List (List Stmt) → m (List (List Stmt))
  | [] => pure []
  | part :: parts => do
    let first ← traversal.onBlock part (stmts part)
    let rest ← blockList parts
    return first :: rest

end

def block (part : Block) : m Block :=
  traversal.onBlock part (traversal.stmts part)

def field (part : FieldDecl) : m FieldDecl :=
  traversal.onField part do
    let type ← traversal.type part.type
    let init ← traversal.optionalExpr part.init
    return { part with type := type, init := init }

def fields : List FieldDecl → m (List FieldDecl)
  | [] => pure []
  | part :: parts => do
    let first ← traversal.field part
    let rest ← fields parts
    return first :: rest

def constructor (part : ConstructorDecl) : m ConstructorDecl :=
  traversal.onConstructor part do
    let params ← traversal.params part.params
    let body ← traversal.block part.body
    return { part with params := params, body := body }

def constructors : List ConstructorDecl → m (List ConstructorDecl)
  | [] => pure []
  | part :: parts => do
    let first ← traversal.constructor part
    let rest ← constructors parts
    return first :: rest

def method (part : MethodDecl) : m MethodDecl :=
  traversal.onMethod part do
    let returnType ← traversal.type part.returnType
    let params ← traversal.params part.params
    let body ← traversal.block part.body
    return { part with returnType := returnType, params := params, body := body }

def methods : List MethodDecl → m (List MethodDecl)
  | [] => pure []
  | part :: parts => do
    let first ← traversal.method part
    let rest ← methods parts
    return first :: rest

mutual

def classDecl : ClassDecl → m ClassDecl
  | ⟨modifiers, scope, name, fieldDecls, constructorDecls, methodDecls, classDecls⟩ =>
    traversal.onClass
      ⟨modifiers, scope, name, fieldDecls, constructorDecls, methodDecls, classDecls⟩ do
        let fieldDecls ← traversal.fields fieldDecls
        let constructorDecls ← traversal.constructors constructorDecls
        let methodDecls ← traversal.methods methodDecls
        let classDecls ← classes classDecls
        return ⟨modifiers, scope, name, fieldDecls, constructorDecls, methodDecls, classDecls⟩

def classes : List ClassDecl → m (List ClassDecl)
  | [] => pure []
  | part :: parts => do
    let first ← classDecl part
    let rest ← classes parts
    return first :: rest

end

/-- Traverse a file.  Its references stay as they are. -/
def file (part : FileDecl) : m FileDecl :=
  traversal.onFile part do
    let body ← traversal.classDecl part.body
    return { part with body := body }

/-- Traverse what a tree consists of. -/
def nodeInside : Node → m Node
  | .expr tree => do
    let tree ← traversal.expr tree
    return .expr tree
  | .stmt tree => do
    let tree ← traversal.stmt tree
    return .stmt tree
  | .block tree => do
    let tree ← traversal.block tree
    return .block tree
  | .field tree => do
    let tree ← traversal.field tree
    return .field tree
  | .constructor tree => do
    let tree ← traversal.constructor tree
    return .constructor tree
  | .method tree => do
    let tree ← traversal.method tree
    return .method tree
  | .classDecl tree => do
    let tree ← traversal.classDecl tree
    return .classDecl tree
  | .file tree => do
    let tree ← traversal.file tree
    return .file tree

def node (part : Node) : m Node :=
  traversal.onNode part (traversal.nodeInside part)

end Traversal

def Traversal.identity {m : Type → Type} : Traversal m := {}

/-- The traversal that replaces type references and changes nothing else. -/
def Traversal.ofTypes {m : Type → Type} (replace : TypeRef → m TypeRef) : Traversal m where
  onType part _ := replace part

/-- The kinds of parts that a traversal visits. -/
inductive PartKind where
  | node
  | file
  | classDecl
  | field
  | constructor
  | method
  | block
  | stmt
  | conditional
  | expr
  | param
  | methodRef
  | type
deriving DecidableEq

def PartKind.name : PartKind → String
  | .node => "node"
  | .file => "file"
  | .classDecl => "class"
  | .field => "field"
  | .constructor => "constructor"
  | .method => "method"
  | .block => "block"
  | .stmt => "stmt"
  | .conditional => "if"
  | .expr => "expr"
  | .param => "param"
  | .methodRef => "method-ref"
  | .type => "type"

namespace Traversal

/-- Note the kind of a part behind the kinds that were noted before, then visit what
is inside of the part. -/
def noting {α : Type} (kind : PartKind) (visit : StateM (List PartKind) α) :
    StateM (List PartKind) α := do
  modify (· ++ [kind])
  visit

/-- The traversal that notes the kind of every part it visits and changes nothing. -/
def tracing : Traversal (StateM (List PartKind)) where
  onNode _ visit := noting .node visit
  onFile _ visit := noting .file visit
  onClass _ visit := noting .classDecl visit
  onField _ visit := noting .field visit
  onConstructor _ visit := noting .constructor visit
  onMethod _ visit := noting .method visit
  onBlock _ visit := noting .block visit
  onStmt _ visit := noting .stmt visit
  onConditional _ visit := noting .conditional visit
  onExpr _ visit := noting .expr visit
  onParam _ visit := noting .param visit
  onMethodRef _ visit := noting .methodRef visit
  onType _ visit := noting .type visit

/-- The traversal that collects type references in order and replaces all of them by
one type reference. -/
def collecting (replacement : TypeRef) : Traversal (StateM (List TypeRef)) :=
  ofTypes fun part => do
    modify (· ++ [part])
    return replacement

end Traversal

end Sourcewright
