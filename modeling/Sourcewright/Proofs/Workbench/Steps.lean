import Sourcewright.Workbench.Run

/-!
# The steps of a run

`Run.Step` says once what a request can do to a run: a source is taken in or can not be
read, a setting is changed, or work is asked for, which may be on an unknown source, may be
refused, and may be delivered or not.  What a step keeps, and with it what a whole run
keeps, follows from these seven cases.

Sources are only ever added, under the next number that is free.  That something was
reported is remembered: the workbench has noted a report exactly if a reply held one.
-/

namespace Sourcewright

open Report (Diagnostic Source)

/-- The number that a reply hands out for a source that was loaded. -/
def Reply.loadedSource? (reply : Reply) : Option Nat :=
  match reply.result with
  | .loaded source => source
  | _ => none

/-- The work that a request asks for, if it asks for any. -/
def Workbench.workFor? (bench : Workbench) : Request → Option Work
  | .generate source target => some (bench.generate source target)
  | .outline source => some (bench.outline source)
  | _ => none

namespace Run

/-- A run on a new workbench. -/
def startIn (place : Workplace) : Run :=
  { place := place }

/-- The run after it was noted that something was reported. -/
def noteReport (run : Run) : Run :=
  { run with bench := run.bench.noteReport }

/-- The name and the text that a request offers as a source, if it asks to load one.
There may be trouble instead of the text. -/
def offer? (run : Run) : Request → Option (String × Except Trouble String)
  | .loadText name text => some (name, .ok text)
  | .loadBytes name content => some (name, decodeText content)
  | .loadPath path => some (path, (run.place.read path).bind decodeText)
  | _ => none

/-- The source that a request loads, if it asks to load one that can be read. -/
def source? (run : Run) (request : Request) : Option Source :=
  match run.offer? request with
  | some (name, .ok text) => some ⟨name, text⟩
  | _ => none

/-- What a request can do at its turn. -/
inductive Step (run : Run) (turn : Turn) : Run → Reply → Prop
  | loaded {source : Source} (offered : run.source? turn.request = some source) :
      Step run turn { run with bench := run.bench.add source }
        { result := .loaded (some run.bench.sources.length) }
  | unreadable {name : String} {trouble : Trouble}
      (offered : run.offer? turn.request = some (name, .error trouble)) :
      Step run turn run.noteReport
        { result := .loaded none, reported := [.unreadable name trouble] }
  | settled {bench : Workbench} (nothingOffered : run.offer? turn.request = none)
      (noWork : run.bench.workFor? turn.request = none)
      (sources : bench.sources = run.bench.sources)
      (hasReported : bench.hasReported = run.bench.hasReported) :
      Step run turn { run with bench := bench } { result := .settled }
  | unknown (work : run.bench.workFor? turn.request = some .unknownSource) :
      Step run turn run { result := .finished .failed }
  | refused {diagnostic : Diagnostic}
      (work : run.bench.workFor? turn.request = some (.report diagnostic)) :
      Step run turn run.noteReport { result := .finished .failed, reported := [diagnostic] }
  | delivered {delivery : Delivery} {place : Workplace} {printed : String}
      (work : run.bench.workFor? turn.request = some (.deliver delivery))
      (accepted : run.place.deliver turn.outputTrouble delivery = (place, { printed })) :
      Step run turn { run with place }
        { result := .finished run.bench.status, printed }
  | undelivered {delivery : Delivery} {place : Workplace} {delivered : Delivered}
      {name : String} {trouble : Trouble}
      (work : run.bench.workFor? turn.request = some (.deliver delivery))
      (attempted : run.place.deliver turn.outputTrouble delivery = (place, delivered))
      (failure : delivered.failure = some (name, trouble)) :
      Step run turn { run.noteReport with place }
        { result := .finished .failed, reported := [.unwritable name trouble] }

/-! ## One request -/

theorem step_receive {run : Run} {turn : Turn} {name : String} {text : Except Trouble String}
    (offered : run.offer? turn.request = some (name, text)) :
    run.Step turn (run.receive name text).1 (run.receive name text).2 := by
  cases text with
  | ok text =>
      have source : run.source? turn.request = some ⟨name, text⟩ := by
        simp only [source?, offered]
      exact .loaded source
  | error trouble => exact .unreadable offered

theorem step_carryOut {run : Run} {turn : Turn} {work : Work}
    (asked : run.bench.workFor? turn.request = some work) :
    run.Step turn (run.carryOut turn.outputTrouble work).1
      (run.carryOut turn.outputTrouble work).2 := by
  cases work with
  | unknownSource => exact .unknown asked
  | report diagnostic => exact .refused asked
  | deliver delivery =>
      rcases outcome : run.place.deliver turn.outputTrouble delivery with ⟨place, printed, failure⟩
      rw [carryOut, outcome]
      cases failure with
      | none => exact .delivered asked outcome
      | some failure => exact .undelivered asked outcome rfl

theorem perform_eq_carryOut {run : Run} {turn : Turn} {work : Work}
    (asked : run.bench.workFor? turn.request = some work) :
    run.perform turn = run.carryOut turn.outputTrouble work := by
  obtain ⟨request, outputTrouble⟩ := turn
  cases request with
  | generate source target =>
      cases asked
      rfl
  | outline source =>
      cases asked
      rfl
  | _ => cases asked

theorem perform_generate (run : Run) (number : Nat) (target : Target)
    (outputTrouble : Option Trouble) :
    run.perform ⟨.generate number target, outputTrouble⟩ =
      run.carryOut outputTrouble (run.bench.generate number target) :=
  rfl

theorem perform_outline (run : Run) (number : Nat) (outputTrouble : Option Trouble) :
    run.perform ⟨.outline number, outputTrouble⟩ =
      run.carryOut outputTrouble (run.bench.outline number) :=
  rfl

theorem step_perform (run : Run) (turn : Turn) :
    run.Step turn (run.perform turn).1 (run.perform turn).2 := by
  obtain ⟨request, outputTrouble⟩ := turn
  cases request with
  | loadText name text => exact step_receive rfl
  | loadBytes name content => exact step_receive rfl
  | loadPath path => exact step_receive rfl
  | setWidth width => exact .settled rfl rfl rfl rfl
  | setIndent indent => exact .settled rfl rfl rfl rfl
  | setOutputDirectory directory => exact .settled rfl rfl rfl rfl
  | generate source target => exact step_carryOut rfl
  | outline source => exact step_carryOut rfl

theorem offer?_eq_none_of_work {run : Run} {request : Request} {work : Work}
    (asked : run.bench.workFor? request = some work) : run.offer? request = none := by
  cases request with
  | generate source target => rfl
  | outline source => rfl
  | _ => cases asked

theorem source?_eq_none_of_work {run : Run} {request : Request} {work : Work}
    (asked : run.bench.workFor? request = some work) : run.source? request = none := by
  simp only [source?, offer?_eq_none_of_work asked]

namespace Step

variable {run next : Run} {turn : Turn} {reply : Reply}

theorem hasReported_iff (step : run.Step turn next reply) :
    next.bench.hasReported = true ↔ run.bench.hasReported = true ∨ reply.reported ≠ [] := by
  cases step with
  | loaded offered => simp [Workbench.add]
  | unreadable offered => simp [noteReport, Workbench.noteReport]
  | settled nothingOffered noWork sources hasReported => simp [hasReported]
  | unknown work => simp
  | refused work => simp [noteReport, Workbench.noteReport]
  | delivered work accepted => simp
  | undelivered work attempted failure => simp [noteReport, Workbench.noteReport]

/-- A step adds the source that it loads, and no other. -/
theorem sources_eq (step : run.Step turn next reply) :
    next.bench.sources = run.bench.sources ++ (run.source? turn.request).toList := by
  cases step with
  | loaded offered => simp [offered, Workbench.add]
  | unreadable offered => simp [source?, offered, noteReport, Workbench.noteReport]
  | settled nothingOffered noWork sources hasReported => simp [source?, nothingOffered, sources]
  | unknown work => simp [source?_eq_none_of_work work]
  | refused work => simp [source?_eq_none_of_work work, noteReport, Workbench.noteReport]
  | delivered work accepted => simp [source?_eq_none_of_work work]
  | undelivered work attempted failure =>
      simp [source?_eq_none_of_work work, noteReport, Workbench.noteReport]

/-- A step hands out the next free number for the source that it loads. -/
theorem loadedSource?_eq (step : run.Step turn next reply) :
    reply.loadedSource? = (run.source? turn.request).map fun _ => run.bench.sources.length := by
  cases step with
  | loaded offered => simp [offered, Reply.loadedSource?]
  | unreadable offered => simp [source?, offered, Reply.loadedSource?]
  | settled nothingOffered noWork sources hasReported =>
      simp [source?, nothingOffered, Reply.loadedSource?]
  | unknown work => simp [source?_eq_none_of_work work, Reply.loadedSource?]
  | refused work => simp [source?_eq_none_of_work work, Reply.loadedSource?]
  | delivered work accepted => simp [source?_eq_none_of_work work, Reply.loadedSource?]
  | undelivered work attempted failure => simp [source?_eq_none_of_work work, Reply.loadedSource?]

theorem reported_ne_nil_of_not_loaded (step : run.Step turn next reply)
    (failed : reply.result = .loaded none) : reply.reported ≠ [] := by
  cases step with
  | unreadable offered => simp
  | _ => cases failed

end Step

/-! ## Requests one after the other -/

@[simp]
theorem performAll_nil (run : Run) : run.performAll [] = (run, []) :=
  rfl

@[simp]
theorem performAll_cons (run : Run) (turn : Turn) (turns : List Turn) :
    run.performAll (turn :: turns) =
      (((run.perform turn).1.performAll turns).1,
        (run.perform turn).2 :: ((run.perform turn).1.performAll turns).2) :=
  rfl

theorem performAll_append (run : Run) (earlier later : List Turn) :
    run.performAll (earlier ++ later) =
      (((run.performAll earlier).1.performAll later).1,
        (run.performAll earlier).2 ++ ((run.performAll earlier).1.performAll later).2) := by
  induction earlier generalizing run with
  | nil => simp
  | cons turn earlier ih => simp [ih]

theorem length_replies (run : Run) (turns : List Turn) :
    (run.performAll turns).2.length = turns.length := by
  induction turns generalizing run with
  | nil => rfl
  | cons turn turns ih => simp [ih]

/-- What a workbench remembers of a run is whether anything was reported in it. -/
theorem hasReported_performAll_iff (run : Run) (turns : List Turn) :
    (run.performAll turns).1.bench.hasReported = true ↔
      run.bench.hasReported = true ∨
        ∃ reply ∈ (run.performAll turns).2, reply.reported ≠ [] := by
  induction turns generalizing run with
  | nil => simp
  | cons turn turns ih =>
      simp only [performAll_cons, ih, (run.step_perform turn).hasReported_iff,
        List.mem_cons, exists_eq_or_imp, or_assoc]

theorem reported_ne_nil_of_not_loaded (run : Run) (turns : List Turn) :
    ∀ reply ∈ (run.performAll turns).2, reply.result = .loaded none → reply.reported ≠ [] := by
  induction turns generalizing run with
  | nil => simp
  | cons turn turns ih =>
      rw [performAll_cons, List.forall_mem_cons]
      exact ⟨(run.step_perform turn).reported_ne_nil_of_not_loaded, ih _⟩

theorem sources_performAll (run : Run) (turns : List Turn) :
    run.bench.sources <+: (run.performAll turns).1.bench.sources := by
  induction turns generalizing run with
  | nil => exact List.prefix_rfl
  | cons turn turns ih =>
      have added : run.bench.sources <+: (run.perform turn).1.bench.sources := by
        rw [(run.step_perform turn).sources_eq]
        exact List.prefix_append _ _
      exact added.trans (ih _)

theorem getElem?_sources_performAll {run : Run} {number : Nat} {source : Source}
    (stored : run.bench.sources[number]? = some source) (turns : List Turn) :
    (run.performAll turns).1.bench.sources[number]? = some source := by
  obtain ⟨added, sources⟩ := run.sources_performAll turns
  obtain ⟨within, -⟩ := List.getElem?_eq_some_iff.mp stored
  rw [← sources, List.getElem?_append_left within, stored]

/-- Numbers are handed out in order, from the first one that is free. -/
theorem filterMap_loadedSource? (run : Run) (turns : List Turn) :
    run.bench.sources.length + ((run.performAll turns).2.filterMap Reply.loadedSource?).length =
        (run.performAll turns).1.bench.sources.length ∧
      (run.performAll turns).2.filterMap Reply.loadedSource? =
        List.range' run.bench.sources.length
          ((run.performAll turns).2.filterMap Reply.loadedSource?).length := by
  induction turns generalizing run with
  | nil => simp
  | cons turn turns ih =>
      have step := run.step_perform turn
      obtain ⟨count, numbers⟩ := ih (run.perform turn).1
      cases offered : run.source? turn.request with
      | none =>
          have nothing := step.loadedSource?_eq
          have kept := step.sources_eq
          simp only [offered, Option.map_none, Option.toList_none, List.append_nil] at nothing kept
          rw [kept] at count numbers
          simp only [performAll_cons, List.filterMap_cons_none nothing]
          exact ⟨count, numbers⟩
      | some source =>
          have handedOut := step.loadedSource?_eq
          have added := step.sources_eq
          simp only [offered, Option.map_some, Option.toList_some] at handedOut added
          rw [added, List.length_append, List.length_singleton] at count numbers
          simp only [performAll_cons, List.filterMap_cons_some handedOut, List.length_cons,
            List.range'_succ]
          exact ⟨by omega, congrArg _ numbers⟩

theorem numbers_eq_range (place : Workplace) (turns : List Turn) :
    ((startIn place).performAll turns).2.filterMap Reply.loadedSource? =
      List.range ((startIn place).performAll turns).1.bench.sources.length := by
  obtain ⟨count, numbers⟩ := (startIn place).filterMap_loadedSource? turns
  have none : (startIn place).bench.sources.length = 0 := rfl
  rw [none, Nat.zero_add] at count
  rw [numbers, none, count, List.range_eq_range']

end Run

end Sourcewright
