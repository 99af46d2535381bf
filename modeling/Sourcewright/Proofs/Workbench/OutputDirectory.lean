import Sourcewright.Proofs.Reference.Preparation
import Sourcewright.Proofs.Workbench.Status

/-!
# Where generated files are saved

A generated file is named after the class it was generated for, and its name is joined to the
output directory as a path.  The name of a class is any text, so this path may lead further
in, or back out.

Main statement: a generation changes at most one file, the one that the joined path leads to.
It stands in the output directory itself if there is no slash in the name of the class, and in
the directory around it if the name starts by going up.
-/

namespace Sourcewright

/-- The name of the class that a tree holds at its top. -/
def Node.className? : Node → Option String
  | .classDecl tree => some tree.name
  | .file tree => some tree.body.name
  | _ => none

/-- A name that leads to a child of the directory it is looked up in. -/
structure IsChildName (name : String) : Prop where
  noSlash : '/' ∉ name.toList
  nonempty : name ≠ ""
  notHere : name ≠ "."
  notUp : name ≠ ".."

theorem IsChildName.isAbsolutePath_eq {name : String} (child : IsChildName name) :
    isAbsolutePath name = false := by
  rw [isAbsolutePath, beq_eq_false_iff_ne]
  intro first
  exact child.noSlash (List.mem_of_mem_head? first)

theorem ClassDecl.name_mapTypes (replace : TypeRef → TypeRef) (tree : ClassDecl) :
    (tree.mapTypes replace).name = tree.name := by
  cases tree
  rw [mapTypes]

namespace Target

theorem fileStem_prepare (target : Target) (node : Node) :
    (target.prepare node).fileStem = node.className?.getD Emission.fragmentName := by
  cases node with
  | classDecl tree =>
      rw [prepare_classDecl]
      exact tree.name_mapTypes _
  | file tree =>
      rw [prepare_file]
      exact tree.body.name_mapTypes _
  | _ =>
      rw [prepare_of_not_becomesFile target rfl]
      rfl

theorem name_of_generate {target : Target} {indent : Nat} {node : Node} {file : SourceFile}
    (generated : target.generate indent node = .ok file) :
    file.name = node.className?.getD Emission.fragmentName ++ target.extension := by
  rw [generate] at generated
  rcases written : (Emission.node target (target.prepare node)).run { indent } with
    ⟨writer, _ | obstacle⟩
  · rw [written] at generated
    rw [← fileStem_prepare, ← Except.ok.inj generated]
  · rw [written] at generated
    cases generated

theorem isChildName_append_extension (target : Target) {stem : String}
    (noSlash : '/' ∉ stem.toList) : IsChildName (stem ++ target.extension) := by
  have long : 2 < (stem ++ target.extension).length := by
    have extension : 2 < target.extension.length := by cases target <;> decide
    rw [String.length_append]
    omega
  have other {name : String} (short : name.length ≤ 2) : stem ++ target.extension ≠ name := by
    rintro rfl
    omega
  refine ⟨?_, other (by decide), other (by decide), other (by decide)⟩
  rw [String.toList_append, List.mem_append]
  rintro (inStem | inExtension)
  · exact noSlash inStem
  · cases target <;> revert inExtension <;> decide

end Target

namespace Workplace

instance (place : Workplace) (path : String) (location : Location) :
    Decidable (place.LeadsTo path location) :=
  inferInstanceAs (Decidable (_ = _))

theorem leadsTo_joinPath {place : Workplace} {directory name : String} {location : Location}
    (relative : isAbsolutePath name = false) :
    place.LeadsTo (joinPath directory name) location ↔
      ∃ base, place.LeadsTo directory base ∧
        place.disk.walk base (pathNames name) = .ok location := by
  rw [LeadsTo, start, isAbsolutePath_joinPath directory relative,
    pathNames_joinPath directory relative, Disk.walk_append]
  change (place.disk.walk (place.start directory) (pathNames directory)).bind _ = _ ↔ _
  constructor
  · intro walked
    cases reached : place.disk.walk (place.start directory) (pathNames directory) with
    | error trouble =>
        rw [reached] at walked
        cases walked
    | ok base =>
        rw [reached] at walked
        exact ⟨base, reached, walked⟩
  · rintro ⟨base, reached, walked⟩
    rw [reached]
    exact walked

theorem child_of_leadsTo {place : Workplace} {directory name : String} {location : Location}
    (child : IsChildName name) (leads : place.LeadsTo (joinPath directory name) location) :
    ∃ base, place.LeadsTo directory base ∧ location = base ++ [name] := by
  obtain ⟨base, toBase, walked⟩ := (leadsTo_joinPath child.isAbsolutePath_eq).mp leads
  rw [pathNames_of_notMem child.noSlash child.nonempty] at walked
  exact ⟨base, toBase, Disk.eq_append_of_walk ⟨child.notHere, child.notUp⟩ walked⟩

theorem sibling_of_leadsTo {place : Workplace} {directory name : String} {location : Location}
    (child : IsChildName name)
    (leads : place.LeadsTo (joinPath directory ("../" ++ name)) location) :
    ∃ base, place.LeadsTo directory base ∧ location = base.dropLast ++ [name] := by
  have relative : isAbsolutePath ("../" ++ name) = false := by
    simp [isAbsolutePath]
  have names : pathNames ("../" ++ name) = ["..", name] := by
    change pathNames (".." ++ "/" ++ name) = _
    rw [pathNames_append_slash, pathNames_of_notMem child.noSlash child.nonempty]
    rfl
  obtain ⟨base, toBase, walked⟩ := (leadsTo_joinPath relative).mp leads
  rw [names] at walked
  have walkedUp := Disk.walk_dropLast_of_walk walked
  exact ⟨base, toBase, Disk.eq_append_of_walk ⟨child.notHere, child.notUp⟩ walkedUp⟩

end Workplace

namespace Run

theorem keeps_place_of_not_completes {run : Run} {turn : Turn} {number : Nat}
    (asks : turn.request.subject? = some number) (fails : ¬run.Completes turn) :
    (run.perform turn).1.place.directory = run.place.directory ∧
      (run.perform turn).1.place.disk.Keeps run.place.disk := by
  obtain ⟨work, asked⟩ := run.bench.exists_workFor?_eq asks
  rw [perform_eq_carryOut asked]
  cases work with
  | unknownSource => exact ⟨rfl, .refl _⟩
  | report diagnostic => exact ⟨rfl, .refl _⟩
  | deliver delivery =>
      rw [completes_iff_of_work asked] at fails
      obtain ⟨after, failure, failed, kept⟩ := Workplace.deliver_of_not_accepts fails
      rw [carryOut, failed]
      exact kept

/-- A generation into a directory that is completed saves the file that was generated. -/
theorem Delivers.exists_saved {run next : Run} {number : Nat} {target : Target}
    {outputTrouble : Option Trouble} {reply : Reply} {directory : String}
    (set : run.bench.outputDirectory = some directory)
    (delivers : run.Delivers ⟨.generate number target, outputTrouble⟩ next reply) :
    ∃ source tree file, run.bench.sources[number]? = some source ∧
      Documented.load Node source.text = .ok tree ∧
      target.generate run.bench.indent tree = .ok file ∧
      Delivery.Done run.place next.place reply.printed (.save directory file) := by
  obtain ⟨delivery, produces, done⟩ := delivers
  cases produces with
  | @generate _ _ source tree file known reads generated =>
      rw [Workbench.delivery, set] at done
      exact ⟨source, tree, file, known, reads, generated, done⟩

/-- A generation into a directory changes no file if it can not be completed, and otherwise
only the one that it generates.  The file is a child of the directory if the name of its class
has no slash in it.  A class whose name starts by going up is saved outside. -/
theorem file_saved_by_className (run : Run) {directory : String} (number : Nat) (target : Target)
    (outputTrouble : Option Trouble) {next : Run}
    (set : run.bench.outputDirectory = some directory)
    (performed : (run.perform ⟨.generate number target, outputTrouble⟩).1 = next) :
    next.place.directory = run.place.directory ∧
    (¬run.Completes ⟨.generate number target, outputTrouble⟩ →
      ∀ location, next.place.disk.file? location = run.place.disk.file? location) ∧
    (run.Completes ⟨.generate number target, outputTrouble⟩ → ∃ source tree file location,
      run.bench.sources[number]? = some source ∧
      Documented.load Node source.text = .ok tree ∧
      target.generate run.bench.indent tree = .ok file ∧
      file.name = tree.className?.getD Emission.fragmentName ++ target.extension ∧
      next.place.LeadsTo (joinPath directory file.name) location ∧
      next.place.disk.Writes run.place.disk location file.content.toUTF8 ∧
      ((∀ name, tree.className? = some name → '/' ∉ name.toList) →
        ∃ base, next.place.LeadsTo directory base ∧ location = base ++ [file.name]) ∧
      ∀ name, '/' ∉ name.toList → tree.className? = some ("../" ++ name) →
        ∃ base, next.place.LeadsTo directory base ∧
          location = base.dropLast ++ [name ++ target.extension]) := by
  subst performed
  have step := run.step_perform ⟨.generate number target, outputTrouble⟩
  obtain ⟨status, -, -, delivers⟩ := step.exists_status rfl
  by_cases completes : run.Completes ⟨.generate number target, outputTrouble⟩
  · obtain ⟨source, tree, file, known, reads, generated, -, stays, location, leads, writes⟩ :=
      (delivers completes).exists_saved set
    refine ⟨stays, fun fails => absurd completes fails, fun _ => ?_⟩
    have named := Target.name_of_generate generated
    refine ⟨source, tree, file, location, known, reads, generated, named, leads, writes, ?_, ?_⟩
    · intro noSlash
      have stemNoSlash : '/' ∉ (tree.className?.getD Emission.fragmentName).toList := by
        cases titled : tree.className? with
        | none => decide
        | some name => exact noSlash name titled
      have child := target.isChildName_append_extension stemNoSlash
      rw [← named] at child
      exact Workplace.child_of_leadsTo child leads
    · intro name noSlash titled
      rw [titled, Option.getD_some, String.append_assoc] at named
      rw [named] at leads
      exact Workplace.sibling_of_leadsTo (target.isChildName_append_extension noSlash) leads
  · obtain ⟨stays, kept⟩ := keeps_place_of_not_completes rfl completes
    exact ⟨stays, fun _ => kept.file?_eq, fun completed => absurd completed completes⟩

theorem completes_of_ok {run : Run} {turn : Turn} {number : Nat}
    (asks : turn.request.subject? = some number)
    (ok : (run.perform turn).2.result = .finished .ok) : run.Completes turn := by
  obtain ⟨status, finished, good, -⟩ := (run.step_perform turn).exists_status asks
  rw [ok, Result.finished.injEq] at finished
  subst finished
  exact (good.mp rfl).1

/-- A document with a class that has nothing but a name. -/
def classDocument (name : String) : String :=
  "\x7b\"class\":\x7b\"name\":\"" ++ name ++ "\"\x7d\x7d"

/-- A run that has loaded a class, and that saves what is generated in a directory. -/
def withClassNamed (name : String) : Run where
  bench := { sources := [⟨"class", classDocument name⟩], outputDirectory := some "out" }

/-- The name that was given to a class is read back, one class is saved in the directory, and
the other one beside it. -/
theorem file_saved_by_className_beside :
    (∃ content, ((withClassNamed "Point").perform ⟨.generate 0 .cpp, none⟩).1.place.disk.Writes {}
      ["out", "Point.cpp"] content) ∧
    ∃ content, ((withClassNamed "../Point").perform ⟨.generate 0 .cpp, none⟩).1.place.disk.Writes {}
      ["Point.cpp"] content := by
  constructor
  · have completes : (withClassNamed "Point").Completes ⟨.generate 0 .cpp, none⟩ :=
      completes_of_ok rfl (by decide +kernel)
    have titled : (Documented.load Node (classDocument "Point")).toOption.bind
        Node.className? = some "Point" := by
      decide +kernel
    have toOut : ((withClassNamed "Point").perform ⟨.generate 0 .cpp, none⟩).1.place.LeadsTo
        "out" ["out"] := by
      decide +kernel
    obtain ⟨source, tree, file, location, known, reads, -, named, -, writes, inside, -⟩ :=
      (file_saved_by_className (withClassNamed "Point") 0 .cpp none rfl rfl).2.2 completes
    cases known
    rw [reads] at titled
    change tree.className? = some "Point" at titled
    obtain ⟨base, toBase, rfl⟩ := inside fun name same => by
      rw [titled] at same
      cases same
      decide
    obtain rfl := toOut.unique toBase
    rw [titled] at named
    rw [named] at writes
    exact ⟨_, writes⟩
  · have completes : (withClassNamed "../Point").Completes ⟨.generate 0 .cpp, none⟩ :=
      completes_of_ok rfl (by decide +kernel)
    have titled : (Documented.load Node (classDocument "../Point")).toOption.bind
        Node.className? = some "../Point" := by
      decide +kernel
    have toOut : ((withClassNamed "../Point").perform ⟨.generate 0 .cpp, none⟩).1.place.LeadsTo
        "out" ["out"] := by
      decide +kernel
    obtain ⟨source, tree, file, location, known, reads, -, -, -, writes, -, outside⟩ :=
      (file_saved_by_className (withClassNamed "../Point") 0 .cpp none rfl rfl).2.2 completes
    cases known
    rw [reads] at titled
    obtain ⟨base, toBase, rfl⟩ := outside "Point" (by decide) titled
    obtain rfl := toOut.unique toBase
    exact ⟨_, writes⟩

end Run

end Sourcewright
