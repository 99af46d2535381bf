import Sourcewright.Emission.Member

/-!
# Writing C++ declarations

The members of a class stand in sections that say who may use them.  A label is
written wherever the visibility differs from that of the member before.  Static fields
are defined in the class itself.
-/

namespace Sourcewright.Emission.Cpp

/-- Whether constants of a type can be evaluated when a program is compiled. -/
def isLiteralType : TypeRef → Bool
  | .named _ => false
  | .primitive .string => false
  | .primitive .void => false
  | .primitive _ => true

/-- The words in front of the type of a field. -/
def fieldMarks (declaration : FieldDecl) : String :=
  match declaration.modifiers.isStatic, declaration.modifiers.isFinal with
  | true, true =>
    if declaration.init.isSome && isLiteralType declaration.type then
      "static constexpr "
    else
      "inline static const "
  | true, false => "inline static "
  | false, true => "const "
  | false, false => ""

def field (declaration : FieldDecl) : Script :=
  .step (.startLine "") ++ .text (fieldMarks declaration) ++
    typeRef .cpp declaration.type ++ .text " " ++ .text declaration.name ++
    initialValue .cpp declaration.init ++ .text ";" ++ .step .endLine

def constructor (className : String) (declaration : ConstructorDecl) : Script :=
  .step (.startLine className) ++ params .cpp declaration.params ++ body .cpp declaration.body

def method (declaration : MethodDecl) : Script :=
  .step (.startLine "") ++ .text (if declaration.modifiers.isStatic then "static " else "") ++
    typeRef .cpp declaration.returnType ++ .text " " ++ .text declaration.name ++
    params .cpp declaration.params ++ body .cpp declaration.body

def sectionLabel : Visibility → String
  | .publicAccess => "public:"
  | .privateAccess => "private:"

/-- What is written before a member: a label where a section starts, and a blank line
where the member is set apart from the one before. -/
def boundary (previous : Option MemberScript) (member : MemberScript) : Script :=
  if previous.map MemberScript.visibility = some member.visibility then
    if separated (previous.map MemberScript.isField) member.isField then
      .line ""
    else
      .empty
  else
    (if previous.isSome then .line "" else .empty) ++ .line (sectionLabel member.visibility)

def members (previous : Option MemberScript) : List MemberScript → Script
  | [] => .empty
  | member :: rest =>
    boundary previous member ++ .indented member.script ++ members (some member) rest

def classHeader (modifiers : Modifiers) (name : String) : String :=
  "class " ++ name ++ (if modifiers.isFinal then " final \x7b" else " \x7b")

mutual

def classDecl : ClassDecl → Script
  | ⟨modifiers, _, name, fields, constructors, methods, classes⟩ =>
    .line (classHeader modifiers name) ++
      members none
        (fields.map (fun declaration =>
            ⟨true, declaration.modifiers.visibility, field declaration⟩) ++
          constructors.map (fun declaration =>
            .ofModifiers declaration.modifiers (constructor name declaration)) ++
          methods.map (fun declaration =>
            .ofModifiers declaration.modifiers (method declaration)) ++
          nestedClasses classes) ++
      .line "\x7d;"

def nestedClasses : List ClassDecl → List MemberScript
  | [] => []
  | declaration :: rest =>
    .ofModifiers declaration.modifiers (classDecl declaration) :: nestedClasses rest

end

def reference (written : Reference) : Script :=
  match written.kind with
  | .includeHeader => .line ("#include " ++ written.path)
  | .useNamespace => .line ("using namespace " ++ written.path ++ ";")
  | .useName => .line ("using " ++ written.path ++ ";")
  | .importName => .stop (.reference .cpp written)

/-- Write references, and a blank line behind them. -/
def references (written : List Reference) : Script :=
  .sequence (written.map reference) ++ (if written.isEmpty then .empty else .line "")

def inNamespace (scope : String) (inner : Script) : Script :=
  if scope.isEmpty then
    inner
  else
    .line ("namespace " ++ Target.scopedName scope ++ " \x7b") ++ .line "" ++ inner ++
      .line "" ++ .line ("\x7d // namespace " ++ Target.scopedName scope)

def file (written : FileDecl) : Script :=
  references written.references ++ inNamespace written.body.scope (classDecl written.body)

end Sourcewright.Emission.Cpp
