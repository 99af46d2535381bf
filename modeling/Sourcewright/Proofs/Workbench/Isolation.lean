import Sourcewright.Proofs.Workbench.Status

/-!
# Work does not disturb other work

What work prints and reports depends on the source it is asked for, on the settings, and on
whether printing works at its turn, but not on what else happened in the run.

* **Failures.**  A generation that fails changes nothing but that a report is noted, and
  `performAll_noteReport` shows that this note only makes later work end badly.
* **Sources.**  `loads_iff` ties the sources of a workbench to the requests that loaded them,
  so that runs can be compared by what was asked of them.
* **Output.**  `generate_congr` and `outline_congr` reduce work to a source and the settings.
-/

namespace Sourcewright

open Report (Diagnostic Source)

namespace Reply

/-- What a user sees of a reply: what was printed, and what was reported. -/
def output (reply : Reply) : String × List Diagnostic :=
  (reply.printed, reply.reported)

/-- The same reply after something was reported: no work ends well. -/
def afterReport (reply : Reply) : Reply :=
  match reply.result with
  | .finished _ => { reply with result := .finished .failed }
  | _ => reply

theorem loadedSource?_eq_some_iff {reply : Reply} {number : Nat} :
    reply.loadedSource? = some number ↔ reply.result = .loaded (some number) := by
  cases outcome : reply.result <;> simp [loadedSource?, outcome]

end Reply

namespace Workbench

/-- A source is not generated for a target, and a diagnostic says why: the text of the
source is rejected, or there is an obstacle to writing its tree. -/
inductive Fails (bench : Workbench) (source : Source) (target : Target) : Diagnostic → Prop
  | rejected {rejection : Document.Rejection}
      (rejected : Documented.load Node source.text = .error rejection) :
      Fails bench source target (.ofRejection source rejection)
  | obstructed {tree : Node} {obstacle : Emission.Obstacle}
      (reads : Documented.load Node source.text = .ok tree)
      (obstructed : target.generate bench.indent tree = .error obstacle) :
      Fails bench source target (.ofObstacle obstacle)

theorem workOn_eq_report_iff {bench : Workbench} {number : Nat} {work : Node → Work}
    {diagnostic : Diagnostic} :
    bench.workOn number work = .report diagnostic ↔
      ∃ source, bench.sources[number]? = some source ∧
        ((∃ rejection, Documented.load Node source.text = .error rejection ∧
            .ofRejection source rejection = diagnostic) ∨
          ∃ tree, Documented.load Node source.text = .ok tree ∧
            work tree = .report diagnostic) := by
  cases known : bench.sources[number]? with
  | none => simp [workOn, known]
  | some source =>
      cases reads : Documented.load Node source.text with
      | error rejection => simp [workOn, known, reads]
      | ok tree => simp [workOn, known, reads]

theorem generate_eq_report_iff {bench : Workbench} {number : Nat} {target : Target}
    {diagnostic : Diagnostic} :
    bench.generate number target = .report diagnostic ↔
      ∃ source, bench.sources[number]? = some source ∧ bench.Fails source target diagnostic := by
  rw [generate, workOn_eq_report_iff]
  constructor
  · rintro ⟨source, known, ⟨rejection, rejected, rfl⟩ | ⟨tree, reads, report⟩⟩
    · exact ⟨source, known, .rejected rejected⟩
    · cases generated : target.generate bench.indent tree with
      | ok file =>
          rw [generated] at report
          cases report
      | error obstacle =>
          rw [generated] at report
          cases report
          exact ⟨source, known, .obstructed reads generated⟩
  · rintro ⟨source, known, fails⟩
    cases fails with
    | rejected rejected => exact ⟨source, known, .inl ⟨_, rejected, rfl⟩⟩
    | obstructed reads obstructed =>
        exact ⟨source, known, .inr ⟨_, reads, by simp only [obstructed]⟩⟩

section Congruence

variable {first second : Workbench} {firstNumber secondNumber : Nat}

theorem generate_congr (target : Target)
    (stored : first.sources[firstNumber]? = second.sources[secondNumber]?)
    (indent : first.indent = second.indent)
    (directory : first.outputDirectory = second.outputDirectory) :
    first.generate firstNumber target = second.generate secondNumber target := by
  simp only [generate, workOn, delivery, stored, indent, directory]

theorem outline_congr (stored : first.sources[firstNumber]? = second.sources[secondNumber]?)
    (width : first.outlineWidth = second.outlineWidth) :
    first.outline firstNumber = second.outline secondNumber := by
  simp only [outline, workOn, stored, width]

end Congruence

end Workbench

namespace Run

/-! ## A report that was noted -/

theorem carryOut_noteReport (run : Run) (outputTrouble : Option Trouble) (work : Work) :
    run.noteReport.carryOut outputTrouble work =
      ((run.carryOut outputTrouble work).1.noteReport,
        (run.carryOut outputTrouble work).2.afterReport) := by
  cases work with
  | unknownSource => rfl
  | report diagnostic => rfl
  | deliver delivery =>
      cases outcome : (run.place.deliver outputTrouble delivery).2.failure with
      | none =>
          simp [carryOut, Workbench.conclude, outcome, Reply.afterReport, noteReport,
            Workbench.noteReport, Workbench.status]
      | some failure =>
          simp [carryOut, Workbench.conclude, outcome, Workbench.refuse, Reply.afterReport,
            noteReport, Workbench.noteReport]

theorem receive_noteReport (run : Run) (name : String) (text : Except Trouble String) :
    run.noteReport.receive name text =
      ((run.receive name text).1.noteReport, (run.receive name text).2.afterReport) := by
  cases text <;> rfl

theorem perform_noteReport (run : Run) (turn : Turn) :
    run.noteReport.perform turn =
      ((run.perform turn).1.noteReport, (run.perform turn).2.afterReport) := by
  obtain ⟨request, outputTrouble⟩ := turn
  cases request with
  | loadText name text => exact run.receive_noteReport name (.ok text)
  | loadBytes name content => exact run.receive_noteReport name (decodeText content)
  | loadPath path => exact run.receive_noteReport path ((run.place.read path).bind decodeText)
  | setWidth width => rfl
  | setIndent indent => rfl
  | setOutputDirectory directory => rfl
  | generate source target =>
      exact run.carryOut_noteReport outputTrouble (run.bench.generate source target)
  | outline source => exact run.carryOut_noteReport outputTrouble (run.bench.outline source)

/-- That a report was noted shows in a run only in how work ends. -/
theorem performAll_noteReport (run : Run) (turns : List Turn) :
    run.noteReport.performAll turns =
      ((run.performAll turns).1.noteReport,
        (run.performAll turns).2.map Reply.afterReport) := by
  induction turns generalizing run with
  | nil => rfl
  | cons turn turns ih => simp only [performAll_cons, perform_noteReport, ih, List.map_cons]

/-- A generation that fails prints nothing, leaves the disk as it is, and reports the failure.
The workbench only notes that, so later turns are answered as if the generation had not
been asked for, except that no work ends well. -/
theorem failed_generation_leaves_no_trace (run : Run) {number : Nat} {target : Target}
    {outputTrouble : Option Trouble} {source : Source} {diagnostic : Diagnostic}
    (known : run.bench.sources[number]? = some source)
    (fails : run.bench.Fails source target diagnostic) :
    ∃ next reply, run.perform ⟨.generate number target, outputTrouble⟩ = (next, reply) ∧
      reply.result = .finished .failed ∧ reply.printed = "" ∧ reply.reported = [diagnostic] ∧
      next.place = run.place ∧ next.bench = { run.bench with hasReported := true } ∧
      ∀ later, next.performAll later =
        ((run.performAll later).1.noteReport, (run.performAll later).2.map Reply.afterReport) := by
  have work := Workbench.generate_eq_report_iff.mpr ⟨source, known, fails⟩
  refine ⟨run.noteReport, ⟨.finished .failed, "", [diagnostic]⟩, ?_, rfl, rfl, rfl, rfl, rfl,
    run.performAll_noteReport⟩
  rw [perform_generate, work]
  rfl

/-- A field of an unsigned type is not generated for Java, and the directory that was set
for the output is not made. -/
theorem failed_generation_of_unsigned_field :
    ∃ next reply,
      (⟨{ sources := [⟨"field", Documented.render (Node.field
            { type := .primitive .unsignedByte, name := "size" })⟩],
          outputDirectory := some "out" }, {}⟩ : Run).perform ⟨.generate 0 .java, none⟩ =
        (next, reply) ∧
      reply.printed = "" ∧ next.place.disk = {} ∧
      reply.reported = [.ofObstacle (.primitive .java .unsignedByte)] := by
  have work : (⟨[⟨"field", Documented.render (Node.field
      { type := .primitive .unsignedByte, name := "size" })⟩], false, unlimitedWidth,
        defaultIndent, some "out"⟩ : Workbench).generate 0 .java =
      .report (.ofObstacle (.primitive .java .unsignedByte)) := by
    decide +kernel
  obtain ⟨source, known, fails⟩ := Workbench.generate_eq_report_iff.mp work
  obtain ⟨next, reply, performed, -, printed, reported, place, -, -⟩ :=
    failed_generation_leaves_no_trace ⟨_, {}⟩ known fails
  exact ⟨next, reply, performed, printed, congrArg Workplace.disk place, reported⟩

/-! ## Sources and the turns that loaded them -/

/-- A run loads a source under a number in the course of turns. -/
def Loads (run : Run) (turns : List Turn) (number : Nat) (source : Source) : Prop :=
  ∃ earlier turn later, turns = earlier ++ turn :: later ∧
    (run.performAll earlier).1.source? turn.request = some source ∧
    ((run.performAll earlier).1.perform turn).2.result = .loaded (some number)

theorem loaded_iff {run : Run} {turn : Turn} {number : Nat} :
    (run.perform turn).2.result = .loaded (some number) ↔
      (run.source? turn.request).isSome ∧ number = run.bench.sources.length := by
  rw [← Reply.loadedSource?_eq_some_iff, (run.step_perform turn).loadedSource?_eq]
  cases run.source? turn.request <;> simp [eq_comm]

theorem Loads.stored {run : Run} {turns : List Turn} {number : Nat} {source : Source}
    (loads : run.Loads turns number source) :
    (run.performAll turns).1.bench.sources[number]? = some source := by
  obtain ⟨earlier, turn, later, rfl, offered, loaded⟩ := loads
  obtain ⟨-, rfl⟩ := loaded_iff.mp loaded
  rw [performAll_append, performAll_cons]
  apply getElem?_sources_performAll
  rw [(step_perform _ turn).sources_eq, offered]
  simp

theorem stored_or_loads {run : Run} {turns : List Turn} {number : Nat} {source : Source}
    (stored : (run.performAll turns).1.bench.sources[number]? = some source) :
    run.bench.sources[number]? = some source ∨ run.Loads turns number source := by
  induction turns generalizing run with
  | nil => exact .inl stored
  | cons turn turns ih =>
      rw [performAll_cons] at stored
      rcases ih stored with before | ⟨earlier, loading, later, rfl, offered, loaded⟩
      · rw [(run.step_perform turn).sources_eq] at before
        by_cases within : number < run.bench.sources.length
        · rw [List.getElem?_append_left within] at before
          exact .inl before
        · -- The number is that of the source that this turn loads.
          rw [List.getElem?_append_right (Nat.le_of_not_lt within)] at before
          cases offered : run.source? turn.request with
          | none => simp [offered] at before
          | some found =>
              simp only [offered, Option.toList_some, List.getElem?_singleton,
                Option.ite_none_right_eq_some, Option.some.injEq] at before
              obtain ⟨isNext, rfl⟩ := before
              have handedOut : number = run.bench.sources.length := by omega
              have loads : (run.source? turn.request).isSome := by simp [offered]
              exact .inr ⟨[], turn, turns, rfl, offered, loaded_iff.mpr ⟨loads, handedOut⟩⟩
      · exact .inr ⟨turn :: earlier, loading, later, rfl, offered, loaded⟩

theorem loads_iff {place : Workplace} {turns : List Turn} {number : Nat}
    {source : Source} :
    (startIn place).Loads turns number source ↔
      ((startIn place).performAll turns).1.bench.sources[number]? = some source := by
  constructor
  · exact Loads.stored
  · intro stored
    apply (stored_or_loads stored).resolve_left
    simp [startIn]

/-! ## Comparing runs -/

/-- Work that saves nothing has the same output wherever printing meets the same trouble. -/
theorem output_carryOut_congr (first second : Run) {outputTrouble : Option Trouble} {work : Work}
    (savesNothing : ∀ directory file, work ≠ .deliver (.save directory file)) :
    (first.carryOut outputTrouble work).2.output =
      (second.carryOut outputTrouble work).2.output := by
  cases work with
  | unknownSource => rfl
  | report diagnostic => rfl
  | deliver delivery =>
      cases delivery with
      | print text => cases outputTrouble <;> rfl
      | save directory file => exact absurd rfl (savesNothing directory file)

end Run

namespace Workbench

theorem generate_savesNothing {bench : Workbench} {number : Nat} {target : Target}
    (prints : bench.outputDirectory = none) (directory : String) (file : SourceFile) :
    bench.generate number target ≠ .deliver (.save directory file) := by
  rw [Ne, generate_eq_deliver_iff]
  rintro ⟨source, tree, generated, -, -, -, saved⟩
  simp [delivery, prints] at saved

theorem outline_savesNothing {bench : Workbench} {number : Nat} (directory : String)
    (file : SourceFile) : bench.outline number ≠ .deliver (.save directory file) := by
  rw [Ne, outline_eq_deliver_iff]
  rintro ⟨source, tree, -, -, saved⟩
  cases saved

end Workbench

namespace Run

/-- Turns lead to a run that prints what it generates, and load a source under a number on
the way. -/
structure Prints (place : Workplace) (turns : List Turn) (run : Run) (number : Nat)
    (source : Source) : Prop where
  reached : ((startIn place).performAll turns).1 = run
  loads : (startIn place).Loads turns number source
  noDirectory : run.bench.outputDirectory = none

theorem Prints.stored {place : Workplace} {turns : List Turn} {run : Run} {number : Nat}
    {source : Source} (prints : Prints place turns run number source) :
    run.bench.sources[number]? = some source := by
  rw [← prints.reached]
  exact prints.loads.stored

/-- Two runs that print what they generate, with the same settings, have the same output for
a source that both have loaded, whatever else happened in them, and whether or not printing
worked before.  Numbers are handed out in order, to requests that load a source and to no
others, and a source was loaded under a number exactly if it is stored under that number from
then on. -/
theorem output_determined_by_source :
    (∀ {firstPlace secondPlace : Workplace} {firstTurns secondTurns : List Turn}
      {first second : Run} {firstNumber secondNumber : Nat} {source : Source},
      Prints firstPlace firstTurns first firstNumber source →
      Prints secondPlace secondTurns second secondNumber source →
      first.bench.indent = second.bench.indent →
      first.bench.outlineWidth = second.bench.outlineWidth →
      ∀ outputTrouble,
        (∀ target, (first.perform ⟨.generate firstNumber target, outputTrouble⟩).2.output =
          (second.perform ⟨.generate secondNumber target, outputTrouble⟩).2.output) ∧
        (first.perform ⟨.outline firstNumber, outputTrouble⟩).2.output =
          (second.perform ⟨.outline secondNumber, outputTrouble⟩).2.output) ∧
    ∀ (place : Workplace) (turns : List Turn),
      ((startIn place).performAll turns).2.filterMap Reply.loadedSource? =
        List.range ((startIn place).performAll turns).1.bench.sources.length ∧
      (∀ turn, (∃ number, (((startIn place).performAll turns).1.perform turn).2.result =
          .loaded (some number)) ↔
        ∃ source, ((startIn place).performAll turns).1.source? turn.request = some source) ∧
      ∀ number source, (startIn place).Loads turns number source ↔
        ∀ later, ((startIn place).performAll (turns ++ later)).1.bench.sources[number]? =
          some source := by
  refine ⟨?_, fun place turns => ⟨numbers_eq_range place turns, ?_, ?_⟩⟩
  · intro _ _ _ _ first second firstNumber secondNumber source firstPrints secondPrints indent
      width outputTrouble
    have stored : first.bench.sources[firstNumber]? = second.bench.sources[secondNumber]? := by
      rw [firstPrints.stored, secondPrints.stored]
    have directory : first.bench.outputDirectory = second.bench.outputDirectory := by
      rw [firstPrints.noDirectory, secondPrints.noDirectory]
    constructor
    · intro target
      rw [perform_generate, perform_generate,
        Workbench.generate_congr target stored indent directory]
      exact output_carryOut_congr first second
        (Workbench.generate_savesNothing secondPrints.noDirectory)
    · rw [perform_outline, perform_outline, Workbench.outline_congr stored width]
      exact output_carryOut_congr first second Workbench.outline_savesNothing
  · intro turn
    simp [loaded_iff, Option.isSome_iff_exists]
  · intro number source
    constructor
    · intro loads later
      rw [performAll_append]
      exact getElem?_sources_performAll loads.stored later
    · intro stored
      rw [loads_iff]
      simpa using stored []

/-- The source of a null constant. -/
def nullSource : Source :=
  ⟨"null", Documented.render (Node.expr (.literal .null))⟩

/-- A turn that loads a null constant, and nothing else. -/
def quietTurns : List Turn :=
  [⟨.loadText nullSource.name nullSource.text, none⟩]

/-- Turns that fail in several ways, of which one can not print, and that save a file before
they end. -/
def eventfulTurns : List Turn :=
  [⟨.loadPath "missing", none⟩, ⟨.loadText "open" "[", none⟩, ⟨.generate 0 .java, none⟩,
    ⟨.outline 7, none⟩, ⟨.loadText nullSource.name nullSource.text, none⟩,
    ⟨.outline 1, some .noSpace⟩, ⟨.setOutputDirectory (some "out"), none⟩,
    ⟨.generate 1 .java, none⟩, ⟨.setOutputDirectory none, none⟩]

/-- A source has the same output after an eventful run as in a run that did nothing else. -/
theorem output_after_eventfulTurns :
    (((startIn {}).performAll quietTurns).1.perform ⟨.generate 0 .cpp, none⟩).2.output =
      (((startIn {}).performAll eventfulTurns).1.perform ⟨.generate 1 .cpp, none⟩).2.output := by
  have quiet : Prints {} quietTurns ((startIn {}).performAll quietTurns).1 0 nullSource :=
    ⟨rfl, loads_iff.mpr rfl, rfl⟩
  have eventful : Prints {} eventfulTurns ((startIn {}).performAll eventfulTurns).1 1
      nullSource :=
    ⟨rfl, loads_iff.mpr (by decide +kernel), by decide +kernel⟩
  have indent : ((startIn {}).performAll quietTurns).1.bench.indent =
      ((startIn {}).performAll eventfulTurns).1.bench.indent := by
    decide +kernel
  exact (output_determined_by_source.1 quiet eventful indent (by decide +kernel) none).1 .cpp

end Run

end Sourcewright
