import Sourcewright.Proofs.Workbench.Deliveries
import Sourcewright.Proofs.Workbench.Steps

/-!
# The status of work

Work on a source ends well exactly if it can be completed, and nothing was reported in
the run before it.  It can be completed if the source is known and holds a tree, the tree
can be written, and what is written is accepted at that turn.  Then it has been printed or
saved.

Work on an unknown source ends badly as well, but it is forgotten: the run goes on as if
the request had not been made.
-/

namespace Sourcewright

open Report (Source)

/-- The number of the source that a request asks to work on. -/
def Request.subject? : Request → Option Nat
  | .generate source _ => some source
  | .outline source => some source
  | _ => none

theorem Status.exitCode_eq_zero_iff {status : Status} : status.exitCode = 0 ↔ status = .ok := by
  cases status <;> decide

namespace Workbench

theorem workOn_eq_deliver_iff {bench : Workbench} {number : Nat} {work : Node → Work}
    {delivery : Delivery} :
    bench.workOn number work = .deliver delivery ↔
      ∃ source tree, bench.sources[number]? = some source ∧
        Documented.load Node source.text = .ok tree ∧ work tree = .deliver delivery := by
  cases known : bench.sources[number]? with
  | none => simp [workOn, known]
  | some source =>
      cases reads : Documented.load Node source.text with
      | error rejection => simp [workOn, known, reads]
      | ok tree => simp [workOn, known, reads]

theorem generate_eq_deliver_iff {bench : Workbench} {number : Nat} {target : Target}
    {delivery : Delivery} :
    bench.generate number target = .deliver delivery ↔
      ∃ source tree file, bench.sources[number]? = some source ∧
        Documented.load Node source.text = .ok tree ∧
        target.generate bench.indent tree = .ok file ∧ bench.delivery file = delivery := by
  simp only [generate, workOn_eq_deliver_iff]
  constructor
  · rintro ⟨source, tree, known, reads, delivered⟩
    cases generated : target.generate bench.indent tree with
    | ok file =>
        simp only [generated, Work.deliver.injEq] at delivered
        exact ⟨source, tree, file, known, reads, generated, delivered⟩
    | error obstacle =>
        simp only [generated] at delivered
        cases delivered
  · rintro ⟨source, tree, file, known, reads, generated, rfl⟩
    exact ⟨source, tree, known, reads, by simp only [generated]⟩

theorem outline_eq_deliver_iff {bench : Workbench} {number : Nat} {delivery : Delivery} :
    bench.outline number = .deliver delivery ↔
      ∃ source tree, bench.sources[number]? = some source ∧
        Documented.load Node source.text = .ok tree ∧
        .print (tree.outlineText bench.outlineWidth ++ "\n") = delivery := by
  simp only [outline, workOn_eq_deliver_iff, Work.deliver.injEq]

theorem workFor?_eq_unknownSource {bench : Workbench} {request : Request} {number : Nat}
    (asks : request.subject? = some number) (unknown : bench.sources[number]? = none) :
    bench.workFor? request = some .unknownSource := by
  cases request with
  | generate source target =>
      cases asks
      simp only [workFor?, generate, workOn, unknown]
  | outline source =>
      cases asks
      simp only [workFor?, outline, workOn, unknown]
  | _ => cases asks

theorem exists_workFor?_eq (bench : Workbench) {request : Request} {number : Nat}
    (asks : request.subject? = some number) : ∃ work, bench.workFor? request = some work := by
  cases request with
  | generate source target => exact ⟨_, rfl⟩
  | outline source => exact ⟨_, rfl⟩
  | _ => cases asks

/-- What the work that a request asks for comes to, if it comes to a delivery. -/
inductive Produces (bench : Workbench) : Request → Delivery → Prop
  | generate {number : Nat} {target : Target} {source : Source} {tree : Node}
      {file : SourceFile} (known : bench.sources[number]? = some source)
      (reads : Documented.load Node source.text = .ok tree)
      (generated : target.generate bench.indent tree = .ok file) :
      Produces bench (.generate number target) (bench.delivery file)
  | outline {number : Nat} {source : Source} {tree : Node}
      (known : bench.sources[number]? = some source)
      (reads : Documented.load Node source.text = .ok tree) :
      Produces bench (.outline number) (.print (tree.outlineText bench.outlineWidth ++ "\n"))

theorem produces_iff {bench : Workbench} {request : Request} {delivery : Delivery} :
    bench.Produces request delivery ↔ bench.workFor? request = some (.deliver delivery) := by
  constructor
  · intro produces
    cases produces with
    | generate known reads generated =>
        exact congrArg some (generate_eq_deliver_iff.mpr ⟨_, _, _, known, reads, generated, rfl⟩)
    | outline known reads =>
        exact congrArg some (outline_eq_deliver_iff.mpr ⟨_, _, known, reads, rfl⟩)
  · intro work
    cases request with
    | generate number target =>
        obtain ⟨source, tree, file, known, reads, generated, rfl⟩ :=
          generate_eq_deliver_iff.mp (Option.some.inj work)
        exact .generate known reads generated
    | outline number =>
        obtain ⟨source, tree, known, reads, rfl⟩ :=
          outline_eq_deliver_iff.mp (Option.some.inj work)
        exact .outline known reads
    | _ => cases work

end Workbench

namespace Run

/-- The work that a request asks for can be completed at its turn. -/
def Completes (run : Run) (turn : Turn) : Prop :=
  ∃ delivery, run.bench.Produces turn.request delivery ∧
    run.place.Accepts turn.outputTrouble delivery

theorem completes_iff_of_work {run : Run} {turn : Turn} {delivery : Delivery}
    (work : run.bench.workFor? turn.request = some (.deliver delivery)) :
    run.Completes turn ↔ run.place.Accepts turn.outputTrouble delivery := by
  simp [Completes, Workbench.produces_iff, work]

theorem not_completes_of_work {run : Run} {turn : Turn} {work : Work}
    (asked : run.bench.workFor? turn.request = some work)
    (nothing : ∀ delivery, work ≠ .deliver delivery) : ¬run.Completes turn := by
  rintro ⟨delivery, produces, -⟩
  rw [Workbench.produces_iff, asked, Option.some.injEq] at produces
  exact nothing delivery produces

/-- The delivery that a request for work produces was carried out. -/
def Delivers (run : Run) (turn : Turn) (next : Run) (reply : Reply) : Prop :=
  ∃ delivery, run.bench.Produces turn.request delivery ∧
    delivery.Done run.place next.place reply.printed

/-- A request for work ends well exactly if the work can be completed and nothing was
reported before.  What is completed is delivered. -/
theorem Step.exists_status {run next : Run} {turn : Turn} {reply : Reply} {number : Nat}
    (step : run.Step turn next reply) (asks : turn.request.subject? = some number) :
    ∃ status, reply.result = .finished status ∧
      (status.exitCode = 0 ↔ run.Completes turn ∧ run.bench.hasReported = false) ∧
      (run.Completes turn → run.Delivers turn next reply) := by
  obtain ⟨asked, isAsked⟩ := run.bench.exists_workFor?_eq asks
  have failed_iff (fails : ¬run.Completes turn) :
      Status.failed.exitCode = 0 ↔ run.Completes turn ∧ run.bench.hasReported = false := by
    simp [fails, Status.exitCode]
  cases step with
  | loaded offered => simp [source?_eq_none_of_work isAsked] at offered
  | unreadable offered => simp [offer?_eq_none_of_work isAsked] at offered
  | settled nothingOffered noWork sources hasReported => simp [isAsked] at noWork
  | unknown work =>
      have fails : ¬run.Completes turn := not_completes_of_work work nofun
      exact ⟨.failed, rfl, failed_iff fails, fun completes => absurd completes fails⟩
  | refused work =>
      have fails : ¬run.Completes turn := not_completes_of_work work nofun
      exact ⟨.failed, rfl, failed_iff fails, fun completes => absurd completes fails⟩
  | @delivered delivery place printed work outcome =>
      have accepted := Workplace.accepts_of_deliver outcome rfl
      have completes : run.Completes turn := (completes_iff_of_work work).mpr accepted
      refine ⟨run.bench.status, rfl, ?_, fun _ => ?_⟩
      · rw [Status.exitCode_eq_zero_iff]
        simp [completes, Workbench.status]
      · obtain ⟨after, shown, delivered, done⟩ := Workplace.deliver_of_accepts accepted
        cases outcome.symm.trans delivered
        exact ⟨delivery, Workbench.produces_iff.mpr work, done⟩
  | undelivered work outcome failure =>
      have fails : ¬run.Completes turn := by
        rw [completes_iff_of_work work]
        exact Workplace.not_accepts_of_deliver outcome failure
      exact ⟨.failed, rfl, failed_iff fails, fun completes => absurd completes fails⟩

theorem perform_of_unknown {run : Run} {turn : Turn} {number : Nat}
    (asks : turn.request.subject? = some number) (unknown : run.bench.sources[number]? = none) :
    run.perform turn = (run, { result := .finished .failed }) := by
  rw [perform_eq_carryOut (Workbench.workFor?_eq_unknownSource asks unknown)]
  rfl

theorem handedOut_iff (place : Workplace) (turns : List Turn) (number : Nat) :
    (∃ reply ∈ ((startIn place).performAll turns).2, reply.loadedSource? = some number) ↔
      number < ((startIn place).performAll turns).1.bench.sources.length := by
  rw [← List.mem_filterMap, numbers_eq_range, List.mem_range]

/-- A request to load a null constant. -/
def loadNull : Turn :=
  ⟨.loadText "null" (Documented.render (Node.expr (.literal .null))), none⟩

end Run

end Sourcewright
