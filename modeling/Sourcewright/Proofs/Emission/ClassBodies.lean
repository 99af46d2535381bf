import Sourcewright.Proofs.Emission.Layout

/-!
# Bodies of classes

Between its first and its last line a class consists of its members, of labels, and of blank
lines.  This file says where labels and blank lines stand.

What is written before a member depends on the member before it.  So the body of a class is
given by one recursion over its members that remembers the previous one, and a body that is
taken apart at a member comes from members that are taken apart there.  Everything else about
bodies follows from this.

Main statement: a class that can be written is written as an arrangement of its members.
-/

namespace Sourcewright

def ClassMember.visibility (member : ClassMember) : Visibility :=
  member.modifiers.visibility

namespace Emission

open Script

/-- What stands in the body of a class. -/
inductive BodyPart where
  | blank
  | label (visibility : Visibility)
  | member (written : ClassMember)

namespace BodyPart

def member? : BodyPart → Option ClassMember
  | .blank => none
  | .label _ => none
  | .member written => some written

def label? : BodyPart → Option Visibility
  | .blank => none
  | .label visibility => some visibility
  | .member _ => none

/-- The lines of a part, given those of members. -/
def lines (inside : ClassMember → List Line) : BodyPart → List Line
  | .blank => [⟨0, ""⟩]
  | .label visibility => [⟨0, Cpp.sectionLabel visibility⟩]
  | .member written => inside written

end BodyPart

/-- What stands before the first member of a class. -/
def bodyStart : Target → ClassMember → List BodyPart
  | .cpp, first => [.label first.visibility]
  | .java, _ => []

/-- Whether a section ends between a member and the next one. -/
def changesSection : Target → (previous next : ClassMember) → Bool
  | .cpp, previous, next => previous.visibility != next.visibility
  | .java, _, _ => false

/-- What stands between a member and the next one: a blank line unless both are fields of the
same section, and a label where a section ends. -/
def bodyGap (target : Target) (previous next : ClassMember) : List BodyPart :=
  (if previous.isField && next.isField && !changesSection target previous next then
      []
    else
      [.blank]) ++
    if changesSection target previous next then [.label next.visibility] else []

/-- The parts of a body are the members in order.  In C++ every member stands under the label
of its visibility, and labels are not repeated. -/
structure Arranged (target : Target) (members : List ClassMember) (parts : List BodyPart) :
    Prop where
  members_eq : parts.filterMap BodyPart.member? = members
  eq_nil : members = [] → parts = []
  start : ∀ before first after, parts = before ++ .member first :: after →
    before.filterMap BodyPart.member? = [] → before = bodyStart target first
  between : ∀ before previous gap next after,
    parts = before ++ .member previous :: (gap ++ .member next :: after) →
    gap.filterMap BodyPart.member? = [] → gap = bodyGap target previous next
  finish : ∀ before last after, parts = before ++ .member last :: after →
    after.filterMap BodyPart.member? = [] → after = []
  sections : target = .cpp → ∀ before member after, parts = before ++ .member member :: after →
    (before.filterMap BodyPart.label?).getLast? = some member.visibility
  alternating : (parts.filterMap BodyPart.label?).IsChain (· ≠ ·)

/-! ## Bodies as a recursion over members -/

/-- What stands before a member, given the member before it. -/
def bodyBoundary (target : Target) : Option ClassMember → ClassMember → List BodyPart
  | none, first => bodyStart target first
  | some previous, next => bodyGap target previous next

/-- The parts of a body behind a previous member. -/
def bodyParts (target : Target) (previous : Option ClassMember) : List ClassMember → List BodyPart
  | [] => []
  | member :: rest =>
    bodyBoundary target previous member ++ .member member :: bodyParts target (some member) rest

variable {target : Target}

theorem member?_of_mem_bodyBoundary {previous : Option ClassMember} {member : ClassMember}
    {part : BodyPart} (inside : part ∈ bodyBoundary target previous member) :
    part.member? = none := by
  cases part with
  | blank => rfl
  | label visibility => rfl
  | member written =>
      cases previous with
      | none => cases target <;> simp [bodyBoundary, bodyStart] at inside
      | some previous =>
          simp only [bodyBoundary, bodyGap, List.mem_append] at inside
          rcases inside with inside | inside
          · split at inside <;> simp at inside
          · split at inside <;> simp at inside

theorem filterMap_member?_bodyBoundary (previous : Option ClassMember) (member : ClassMember) :
    (bodyBoundary target previous member).filterMap BodyPart.member? = [] :=
  List.filterMap_eq_nil_iff.mpr fun _ inside => member?_of_mem_bodyBoundary inside

theorem filterMap_member?_bodyParts (previous : Option ClassMember)
    (members : List ClassMember) :
    (bodyParts target previous members).filterMap BodyPart.member? = members := by
  induction members generalizing previous with
  | nil => rfl
  | cons member members ih =>
      rw [bodyParts, List.filterMap_append, filterMap_member?_bodyBoundary, List.nil_append,
        List.filterMap_cons, BodyPart.member?, ih]

/-- Taking a body apart at a member takes its members apart there. -/
theorem exists_of_bodyParts_eq {previous : Option ClassMember} {members : List ClassMember}
    {before after : List BodyPart} {member : ClassMember}
    (split : bodyParts target previous members = before ++ .member member :: after) :
    ∃ earlier later, members = earlier ++ member :: later ∧
      before = bodyParts target previous earlier ++
        bodyBoundary target (earlier.getLast?.or previous) member ∧
      after = bodyParts target (some member) later := by
  induction members generalizing previous before with
  | nil => simp [bodyParts] at split
  | cons first rest ih =>
      rw [bodyParts, List.append_eq_append_iff] at split
      rcases split with ⟨between, rfl, behind⟩ | ⟨between, boundary, behind⟩
      · rcases List.cons_eq_append_iff.mp behind with ⟨rfl, here⟩ | ⟨inner, rfl, there⟩
        · obtain ⟨same, rfl⟩ := List.cons.inj here
          cases same
          exact ⟨[], rest, rfl, by simp [bodyParts], rfl⟩
        · obtain ⟨earlier, later, rfl, rfl, rfl⟩ := ih there
          refine ⟨first :: earlier, later, rfl, ?_, rfl⟩
          cases last : earlier.getLast? <;> simp [bodyParts, List.getLast?_cons, last]
      · -- The boundary holds no member, so the member stands behind it.
        rcases List.cons_eq_append_iff.mp behind with ⟨rfl, here⟩ | ⟨inner, rfl, there⟩
        · obtain ⟨same, rfl⟩ := List.cons.inj here
          cases same
          exact ⟨[], rest, rfl, by simpa [bodyParts] using boundary.symm, rfl⟩
        · have inside : .member member ∈ bodyBoundary target previous first := by
            rw [boundary]
            exact List.mem_append_right _ List.mem_cons_self
          cases member?_of_mem_bodyBoundary inside

/-! ## Labels -/

theorem labels_bodyBoundary (previous : Option ClassMember) (member : ClassMember) :
    (bodyBoundary .cpp previous member).filterMap BodyPart.label? =
      if previous.map ClassMember.visibility = some member.visibility then
        []
      else
        [member.visibility] := by
  cases previous with
  | none => rfl
  | some previous =>
      rw [bodyBoundary, bodyGap, List.filterMap_append]
      by_cases same : previous.visibility = member.visibility
      · split <;> simp [changesSection, same, BodyPart.label?]
      · split <;> simp [changesSection, same, BodyPart.label?]

theorem getLast?_labels_bodyBoundary (previous : Option ClassMember) (member : ClassMember) :
    ((bodyBoundary .cpp previous member).filterMap BodyPart.label?).getLast?.or
        (previous.map ClassMember.visibility) = some member.visibility := by
  rw [labels_bodyBoundary]
  split
  next same => exact same
  next => rfl

/-- The last label of a body, or else that of the member before it, is the label of the last
member. -/
theorem getLast?_labels_bodyParts (previous : Option ClassMember) (members : List ClassMember) :
    ((bodyParts .cpp previous members).filterMap BodyPart.label?).getLast?.or
        (previous.map ClassMember.visibility) =
      (members.getLast?.or previous).map ClassMember.visibility := by
  induction members generalizing previous with
  | nil => rfl
  | cons member members ih =>
      rw [bodyParts, List.filterMap_append, List.filterMap_cons_none rfl, List.getLast?_append,
        Option.or_assoc, getLast?_labels_bodyBoundary, ← Option.map_some, ih, List.getLast?_cons]
      cases members.getLast? <;> rfl

theorem labels_java_bodyBoundary (previous : Option ClassMember) (member : ClassMember) :
    (bodyBoundary .java previous member).filterMap BodyPart.label? = [] := by
  cases previous with
  | none => rfl
  | some previous =>
      rw [bodyBoundary, bodyGap]
      split <;> rfl

theorem labels_java_bodyParts (previous : Option ClassMember) (members : List ClassMember) :
    (bodyParts .java previous members).filterMap BodyPart.label? = [] := by
  induction members generalizing previous with
  | nil => rfl
  | cons member members ih =>
      rw [bodyParts, List.filterMap_append, List.filterMap_cons_none rfl,
        labels_java_bodyBoundary, ih, List.append_nil]

/-- Labels alternate, also with the visibility of the member before them. -/
theorem isChain_labels_bodyParts (previous : Option ClassMember) (members : List ClassMember) :
    ((previous.map ClassMember.visibility).toList ++
      (bodyParts .cpp previous members).filterMap BodyPart.label?).IsChain (· ≠ ·) := by
  induction members generalizing previous with
  | nil => cases previous <;> simp [bodyParts]
  | cons member members ih =>
      have rest := ih (some member)
      rw [Option.map_some, Option.toList_some, List.singleton_append] at rest
      rw [bodyParts, List.filterMap_append, List.filterMap_cons_none rfl, labels_bodyBoundary]
      split
      next same =>
          rw [same]
          exact rest
      next differs =>
          cases previous with
          | none => exact rest
          | some previous =>
              refine List.isChain_cons_cons.mpr ⟨fun same => differs ?_, rest⟩
              rw [Option.map_some, same]

/-! ## Arrangement -/

theorem arranged_bodyParts (target : Target) (members : List ClassMember) :
    Arranged target members (bodyParts target none members) where
  members_eq := filterMap_member?_bodyParts none members
  eq_nil := by
    rintro rfl
    rfl
  start before first after split noMember := by
    obtain ⟨earlier, later, -, rfl, -⟩ := exists_of_bodyParts_eq split
    rw [List.filterMap_append, filterMap_member?_bodyParts, List.append_eq_nil_iff] at noMember
    rw [noMember.1]
    rfl
  between before previous gap next after split noMember := by
    obtain ⟨-, later, -, -, behind⟩ := exists_of_bodyParts_eq split
    obtain ⟨earlier, -, -, rfl, -⟩ := exists_of_bodyParts_eq behind.symm
    rw [List.filterMap_append, filterMap_member?_bodyParts, List.append_eq_nil_iff] at noMember
    rw [noMember.1]
    rfl
  finish before last after split noMember := by
    obtain ⟨-, later, -, -, rfl⟩ := exists_of_bodyParts_eq split
    rw [filterMap_member?_bodyParts] at noMember
    rw [noMember]
    rfl
  sections := by
    rintro rfl before member after split
    obtain ⟨earlier, -, -, rfl, -⟩ := exists_of_bodyParts_eq split
    have labels := getLast?_labels_bodyParts none earlier
    rw [Option.map_none, Option.or_none] at labels
    rw [List.filterMap_append, List.getLast?_append, labels, getLast?_labels_bodyBoundary]
  alternating := by
    cases target with
    | cpp => exact isChain_labels_bodyParts none members
    | java =>
        rw [labels_java_bodyParts]
        exact .nil

/-! ## Writing bodies -/

def memberScript (target : Target) (className : String) (written : ClassMember) : MemberScript :=
  ⟨written.isField, written.visibility, member target className written⟩

theorem framed_member (target : Target) (className : String) (written : ClassMember) :
    Framed (member target className written) := by
  cases written with
  | field declaration => exact framed_field target declaration
  | constructor declaration => exact framed_constructor target className declaration
  | method declaration => exact framed_method target declaration
  | nested declaration =>
      cases target with
      | cpp => exact Cpp.framed_classDecl declaration
      | java => exact Java.framed_classDecl true declaration

theorem memberScripts_eq_map (target : Target) (declaration : ClassDecl) :
    memberScripts target declaration.name declaration.fields declaration.constructors
        declaration.methods (declaration.classes.map fun inner =>
          .ofModifiers inner.modifiers (classDecl target true inner)) =
      declaration.members.map (memberScript target declaration.name) := by
  simp only [ClassDecl.members, List.map_append, List.map_map]
  rfl

theorem Cpp.classDecl_eq_members (declaration : ClassDecl) :
    Cpp.classDecl declaration =
      .line (Cpp.classHeader declaration.modifiers declaration.name) ++
        Cpp.members none (declaration.members.map (memberScript .cpp declaration.name)) ++
        .line "\x7d;" := by
  rw [← memberScripts_eq_map]
  cases declaration
  rw [Cpp.classDecl_eq, Cpp.nestedClasses_eq_map]
  rfl

theorem Java.classDecl_eq_members (nested : Bool) (declaration : ClassDecl) :
    Java.classDecl nested declaration =
      Java.classHeader nested declaration.modifiers declaration.name ++
        .indented (Java.members none
          (declaration.members.map (memberScript .java declaration.name))) ++
        .line "\x7d" := by
  rw [← memberScripts_eq_map]
  cases declaration
  rw [Java.classDecl_eq, Java.nestedClasses_eq_map]
  rfl

theorem obstacle_member_eq_none {target : Target} {nested : Bool} {declaration : ClassDecl}
    (finished : (classDecl target nested declaration).obstacle = none) {written : ClassMember}
    (listed : written ∈ declaration.members) :
    (member target declaration.name written).obstacle = none := by
  have inMembers : ∀ script ∈ declaration.members.map (memberScript target declaration.name),
      script.script.obstacle = none := by
    cases target with
    | cpp =>
        rw [classDecl, Cpp.classDecl_eq_members, obstacle_append, obstacle_append,
          Cpp.obstacle_members] at finished
        simpa using finished
    | java =>
        rw [classDecl, Java.classDecl_eq_members, obstacle_append, obstacle_append,
          obstacle_indented, Java.obstacle_members] at finished
        simp only [Option.or_eq_none_iff, List.findSome?_eq_none_iff] at finished
        exact finished.1.2
  exact inMembers _ (List.mem_map_of_mem listed)

variable {className : String} {inside : ClassMember → List Line}

theorem Cpp.laysOut_boundary (previous : Option ClassMember) (next : ClassMember) :
    (Cpp.boundary (previous.map (memberScript .cpp className))
        (memberScript .cpp className next)).LaysOut
      ((bodyBoundary .cpp previous next).flatMap (BodyPart.lines inside)) := by
  cases previous with
  | none => exact LaysOut.empty.append (.line _)
  | some previous =>
      rw [bodyBoundary, bodyGap, Cpp.boundary]
      by_cases same : previous.visibility = next.visibility
      · cases fields : previous.isField && next.isField with
        | false =>
            simpa [memberScript, separated, changesSection, same, fields, BodyPart.lines]
              using LaysOut.line ""
        | true =>
            simpa [memberScript, separated, changesSection, same, fields] using LaysOut.empty
      · simpa [memberScript, changesSection, same, BodyPart.lines] using
          (LaysOut.line "").append (.line (sectionLabel next.visibility))

theorem Cpp.laysOut_members (previous : Option ClassMember) {members : List ClassMember}
    (laid : ∀ written ∈ members, (member .cpp className written).LaysOut (inside written)) :
    (Cpp.members (previous.map (memberScript .cpp className))
        (members.map (memberScript .cpp className))).LaysOut
      ((bodyParts .cpp previous members).flatMap
        (BodyPart.lines fun written => (inside written).map Line.raise)) := by
  induction members generalizing previous with
  | nil => exact .empty
  | cons next members ih =>
      obtain ⟨first, rest⟩ := List.forall_mem_cons.mp laid
      rw [bodyParts, List.flatMap_append, List.flatMap_cons, ← List.append_assoc]
      exact ((Cpp.laysOut_boundary previous next).append first.indented).append
        (ih (some next) rest)

theorem Java.laysOut_boundary (previous : Option ClassMember) (next : ClassMember) :
    (Java.boundary (previous.map (memberScript .java className))
        (memberScript .java className next)).LaysOut
      ((bodyBoundary .java previous next).flatMap (BodyPart.lines inside)) := by
  cases previous with
  | none => exact .empty
  | some previous =>
      rw [bodyBoundary, bodyGap, Java.boundary]
      cases fields : previous.isField && next.isField with
      | false =>
          simpa [memberScript, separated, changesSection, fields, BodyPart.lines]
            using LaysOut.line ""
      | true => simpa [memberScript, separated, changesSection, fields] using LaysOut.empty

theorem Java.laysOut_members (previous : Option ClassMember) {members : List ClassMember}
    (laid : ∀ written ∈ members, (member .java className written).LaysOut (inside written)) :
    (Java.members (previous.map (memberScript .java className))
        (members.map (memberScript .java className))).LaysOut
      ((bodyParts .java previous members).flatMap (BodyPart.lines inside)) := by
  induction members generalizing previous with
  | nil => exact .empty
  | cons next members ih =>
      obtain ⟨first, rest⟩ := List.forall_mem_cons.mp laid
      rw [bodyParts, List.flatMap_append, List.flatMap_cons, ← List.append_assoc]
      exact ((Java.laysOut_boundary previous next).append first).append (ih (some next) rest)

/-- A blank line looks the same at every level, so only members are raised. -/
theorem renderAll_raise_bodyLines {parts : List BodyPart}
    (unlabelled : parts.filterMap BodyPart.label? = []) (indent base : Nat) :
    Line.renderAll indent base ((parts.flatMap (BodyPart.lines inside)).map Line.raise) =
      Line.renderAll indent base (parts.flatMap
        (BodyPart.lines fun written => (inside written).map Line.raise)) := by
  induction parts with
  | nil => rfl
  | cons part parts ih =>
      cases part with
      | label visibility => cases unlabelled
      | blank =>
          simp only [List.flatMap_cons, List.map_append, Line.renderAll_append, ih unlabelled]
          rfl
      | member written =>
          simp only [List.flatMap_cons, List.map_append, Line.renderAll_append, ih unlabelled]
          rfl

def classEnd : Target → String
  | .cpp => "\x7d;"
  | .java => "\x7d"

/-- The lines of a class: its first line, its body one level further in, and its last
line. -/
def classLines (target : Target) (inside : ClassMember → List Line) (header : String)
    (parts : List BodyPart) : List Line :=
  ⟨0, header⟩ :: parts.flatMap
    (BodyPart.lines fun written => (inside written).map Line.raise) ++ [⟨0, classEnd target⟩]

theorem exists_run_classDecl {nested : Bool} {declaration : ClassDecl}
    (finished : (classDecl target nested declaration).obstacle = none)
    (laid : ∀ written ∈ declaration.members,
      (member target declaration.name written).LaysOut (inside written)) :
    ∃ header, ∀ writer : Writer, (classDecl target nested declaration).run writer =
      ({ writer with
          code := writer.code ++ Line.renderAll writer.indent writer.level
            (classLines target inside header (bodyParts target none declaration.members))
          pending := false }, none) := by
  cases target with
  | cpp =>
      have header := LaysOut.line (Cpp.classHeader declaration.modifiers declaration.name)
      have written := (header.append (Cpp.laysOut_members none laid)).append (.line "\x7d;")
      rw [Option.map_none, ← Cpp.classDecl_eq_members] at written
      exact ⟨_, written.run_eq finished (List.cons_ne_nil _ _)⟩
  | java =>
      obtain ⟨text, -, header⟩ :=
        Java.exists_laysOut_classHeader nested declaration.modifiers declaration.name
      have written := (header.append (Java.laysOut_members none laid).indented).append
        (.line "\x7d")
      rw [Option.map_none, ← Java.classDecl_eq_members] at written
      refine ⟨text, fun writer => ?_⟩
      have ran := written.run_eq finished (List.cons_ne_nil _ _) writer
      rw [Line.renderAll_append, Line.renderAll_append, renderAll_raise_bodyLines
        (labels_java_bodyParts none declaration.members), ← Line.renderAll_append,
        ← Line.renderAll_append] at ran
      exact ran

/-- A class whose sections change between fields and between members of different kinds. -/
def changingSections : ClassDecl where
  name := "Account"
  fields := [
    ⟨{ isPrivate := true }, .primitive .long, "balance", none⟩,
    ⟨{ isPrivate := true }, .primitive .integer, "entries", none⟩,
    ⟨{ isStatic := true }, .primitive .integer, "limit", none⟩]
  methods := [⟨{}, "close", .primitive .void, [], [.comment "Nothing to do.", .ret none]⟩]
  classes := [⟨{ isPrivate := true }, "", "Entry", [], [{}], [], []⟩]

end Emission

end Sourcewright
