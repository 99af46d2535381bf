import Sourcewright.Proofs.Emission.Balance
import Sourcewright.Proofs.Emission.Inline

/-!
# Indentation

A writer keeps a level and a flag, so that it can indent a line when its first text arrives.
Where there is indentation can also be said without them, by looking back at the steps: before
the first text since the latest start of a line, unless a line has been ended in between.  This
holds whatever the order of the steps.  A line may be started again before it is ended, a block
may be opened within a line, and more blocks may be closed than have been opened.

Main statement: what is written by any steps consists of their texts and line ends in order, and
of indentation before exactly these first texts, at the level that holds at the text.  So there
is always a text behind indentation, and a line without text is empty.  Spaces are counted in 64
bits, which shows only where a level asks for more of them than there could ever be.
-/

namespace Sourcewright.Emission

/-! ## First texts of lines -/

namespace Step

/-- The text of a step, which is empty for steps that have none. -/
def text : Step → String
  | .startLine text => text
  | .write text => text
  | .writeLine text => text
  | .endLine => ""
  | .startBlock => ""
  | .endBlock => ""

/-- Whether a step starts a line, before its text. -/
def startsLine : Step → Bool
  | .startLine _ => true
  | .writeLine _ => true
  | .write _ => false
  | .endLine => false
  | .startBlock => false
  | .endBlock => false

/-- Whether a step ends a line, behind its text. -/
def endsLine : Step → Bool
  | .endLine => true
  | .writeLine _ => true
  | .startLine _ => false
  | .write _ => false
  | .startBlock => false
  | .endBlock => false

/-- A line has been started, and since the latest start there was no text and no line end. -/
def OnBlankLine (steps : List Step) : Prop :=
  ∃ earlier start since, steps = earlier ++ start :: since ∧
    start.startsLine = true ∧ (∀ step ∈ since, step.startsLine = false) ∧
    ∀ step ∈ start :: since, step.text = "" ∧ step.endsLine = false

/-- Behind other steps, a step has a text that is the first one on a started line. -/
def FirstOnLine (before : List Step) (step : Step) : Prop :=
  step.text ≠ "" ∧ (step.startsLine = true ∨ OnBlankLine before)

theorem not_onBlankLine_nil : ¬OnBlankLine [] := by
  rintro ⟨earlier, start, since, split, -⟩
  simp at split

theorem onBlankLine_append_singleton (before : List Step) (step : Step) :
    OnBlankLine (before ++ [step]) ↔
      (step.text = "" ∧ step.endsLine = false) ∧
        (step.startsLine = true ∨ OnBlankLine before) := by
  constructor
  · rintro ⟨earlier, start, since, split, starts, latest, blank⟩
    cases since using List.reverseRecOn with
    | nil =>
        obtain ⟨-, rfl⟩ := List.append_singleton_inj.mp split
        exact ⟨blank step List.mem_cons_self, .inl starts⟩
    | append_singleton since last =>
        rw [← List.cons_append, ← List.append_assoc] at split
        obtain ⟨rfl, rfl⟩ := List.append_singleton_inj.mp split
        rw [← List.cons_append] at blank
        obtain ⟨blankBefore, blankStep⟩ := List.forall_mem_append.mp blank
        have latestBefore := (List.forall_mem_append.mp latest).1
        exact ⟨blankStep step List.mem_cons_self,
          .inr ⟨earlier, start, since, rfl, starts, latestBefore, blankBefore⟩⟩
  · rintro ⟨blankStep, started⟩
    -- A step that starts a line is the latest start itself, whatever was started before.
    cases restarts : step.startsLine with
    | true =>
        refine ⟨before, step, [], rfl, restarts, List.forall_mem_nil _, ?_⟩
        exact List.forall_mem_singleton.mpr blankStep
    | false =>
        rw [restarts] at started
        obtain ⟨earlier, start, since, rfl, starts, latest, blank⟩ :=
          started.resolve_left Bool.false_ne_true
        refine ⟨earlier, start, since ++ [step], by simp, starts, ?_, ?_⟩
        · exact List.forall_mem_append.mpr ⟨latest, List.forall_mem_singleton.mpr restarts⟩
        · rw [← List.cons_append]
          exact List.forall_mem_append.mpr ⟨blank, List.forall_mem_singleton.mpr blankStep⟩

/-- Whether a started line is blank behind a step, given whether there was one before it. -/
def blankAfter (blank : Bool) (step : Step) : Bool :=
  !step.endsLine && (step.text.isEmpty && (step.startsLine || blank))

/-- Whether a started line is blank behind steps, given whether there was one before them. -/
def blankAfterAll (blank : Bool) (steps : List Step) : Bool :=
  steps.foldl blankAfter blank

theorem blankAfterAll_iff (steps : List Step) :
    blankAfterAll false steps = true ↔ OnBlankLine steps := by
  induction steps using List.reverseRecOn with
  | nil => exact iff_of_false Bool.false_ne_true not_onBlankLine_nil
  | append_singleton before step ih =>
      rw [onBlankLine_append_singleton, ← ih, blankAfterAll, List.foldl_concat]
      simp [blankAfter, blankAfterAll, and_left_comm, and_assoc]

instance (steps : List Step) : Decidable (OnBlankLine steps) :=
  decidable_of_iff _ (blankAfterAll_iff steps)

instance (before : List Step) (step : Step) : Decidable (FirstOnLine before step) :=
  inferInstanceAs (Decidable (_ ∧ _))

end Step

/-! ## Chunks of text -/

/-- What written text consists of. -/
inductive Chunk where
  | indentation (width : Nat)
  | text (written : String)
  | lineEnd
deriving DecidableEq

namespace Chunk

def isIndentation : Chunk → Bool
  | .indentation _ => true
  | .text _ => false
  | .lineEnd => false

def render : Chunk → String
  | .indentation width => Writer.spaces width
  | .text written => written
  | .lineEnd => "\n"

def renderAll (chunks : List Chunk) : String :=
  String.join (chunks.map render)

theorem renderAll_append (first second : List Chunk) :
    renderAll (first ++ second) = renderAll first ++ renderAll second := by
  rw [renderAll, List.map_append, String.join_append, renderAll, renderAll]

theorem renderAll_ite (condition : Prop) [Decidable condition] (chunk : Chunk) :
    renderAll (if condition then [chunk] else []) = if condition then chunk.render else "" := by
  split
  · rw [renderAll, List.map_singleton, String.join_cons, String.join_nil, String.append_empty]
  · rfl

end Chunk

namespace Step

/-- The text of a step, unless it is empty, and then its line end, if any. -/
def contents (step : Step) : List Chunk :=
  (if step.text ≠ "" then [.text step.text] else []) ++
    if step.endsLine then [.lineEnd] else []

/-- What a step writes behind other steps, given the number of spaces at each level.  The first
text of a line is indented at the level behind these steps. -/
def chunks (width : Nat → Nat) (before : List Step) (step : Step) : List Chunk :=
  (if step.FirstOnLine before then [.indentation (width (levelAfterAll 0 before))] else []) ++
    step.contents

/-- What steps write behind other steps. -/
def chunksOfAll (width : Nat → Nat) (before : List Step) : List Step → List Chunk
  | [] => []
  | step :: rest => step.chunks width before ++ chunksOfAll width (before ++ [step]) rest

theorem contents_of_no_text {step : Step} (empty : step.text = "") :
    step.contents = if step.endsLine then [.lineEnd] else [] := by
  rw [contents, if_neg (not_not_intro empty), List.nil_append]

theorem renderAll_contents (step : Step) :
    Chunk.renderAll step.contents = step.text ++ if step.endsLine then "\n" else "" := by
  have shown : (if step.text ≠ "" then (Chunk.text step.text).render else "") = step.text := by
    by_cases empty : step.text = ""
    · rw [if_neg (not_not_intro empty), empty]
    · rw [if_pos empty]
      rfl
  rw [contents, Chunk.renderAll_append, Chunk.renderAll_ite, Chunk.renderAll_ite, shown]
  rfl

/-- Steps without text write nothing but their line ends. -/
theorem chunksOfAll_of_no_text (width : Nat → Nat) (before : List Step) {steps : List Step}
    (empty : ∀ step ∈ steps, step.text = "") :
    chunksOfAll width before steps = steps.flatMap contents := by
  induction steps generalizing before with
  | nil => rfl
  | cons step rest ih =>
      obtain ⟨emptyStep, emptyRest⟩ := List.forall_mem_cons.mp empty
      have unindented : ¬step.FirstOnLine before := fun first => first.1 emptyStep
      rw [chunksOfAll, ih (before ++ [step]) emptyRest, chunks, if_neg unindented,
        List.nil_append, List.flatMap_cons]

/-- Only the numbers of spaces at the levels of first texts matter. -/
theorem chunksOfAll_congr {width other : Nat → Nat} {before steps : List Step}
    (same : ∀ between step after, steps = between ++ step :: after →
      step.FirstOnLine (before ++ between) →
        width (levelAfterAll 0 (before ++ between)) =
          other (levelAfterAll 0 (before ++ between))) :
    chunksOfAll width before steps = chunksOfAll other before steps := by
  induction steps generalizing before with
  | nil => rfl
  | cons step rest ih =>
      have here : step.chunks width before = step.chunks other before := by
        by_cases first : step.FirstOnLine before
        · have equal := same [] step rest rfl (by rwa [List.append_nil])
          rw [List.append_nil] at equal
          rw [chunks, chunks, if_pos first, if_pos first, equal]
        · rw [chunks, chunks, if_neg first, if_neg first]
      have further : chunksOfAll width (before ++ [step]) rest =
          chunksOfAll other (before ++ [step]) rest := by
        apply ih
        intro between next after split first
        rw [List.append_assoc, List.singleton_append] at first ⊢
        exact same (step :: between) next after (congrArg (List.cons step) split) first
      rw [chunksOfAll, chunksOfAll, here, further]

theorem isIndentation_of_mem_contents {step : Step} {chunk : Chunk}
    (member : chunk ∈ step.contents) : chunk.isIndentation = false := by
  obtain inText | inEnd := List.mem_append.mp member
  · obtain ⟨-, rfl⟩ := List.mem_ite_nil_right.mp inText |>.imp_right List.mem_singleton.mp
    rfl
  · obtain ⟨-, rfl⟩ := List.mem_ite_nil_right.mp inEnd |>.imp_right List.mem_singleton.mp
    rfl

/-- Apart from indentation there are the texts and line ends of the steps, in order. -/
theorem filter_chunksOfAll (width : Nat → Nat) (before steps : List Step) :
    (chunksOfAll width before steps).filter (fun chunk => !chunk.isIndentation) =
      steps.flatMap contents := by
  induction steps generalizing before with
  | nil => rfl
  | cons step rest ih =>
      have kept : step.contents.filter (fun chunk => !chunk.isIndentation) = step.contents :=
        List.filter_eq_self.mpr fun chunk member => by
          rw [isIndentation_of_mem_contents member, Bool.not_false]
      have visible : (step.chunks width before).filter (fun chunk => !chunk.isIndentation) =
          step.contents := by
        rw [chunks, List.filter_append, kept]
        split <;> rfl
      rw [chunksOfAll, List.filter_append, visible, ih, List.flatMap_cons]

theorem text_behind_indentation_of_step {width : Nat → Nat} {before : List Step} {step : Step}
    {earlier later : List Chunk} {count : Nat}
    (split : step.chunks width before = earlier ++ .indentation count :: later) :
    ∃ written rest, written ≠ "" ∧ later = .text written :: rest := by
  have absent (earlier later : List Chunk) :
      step.contents ≠ earlier ++ .indentation count :: later := by
    intro split
    have inside : Chunk.indentation count ∈ step.contents := by simp [split]
    cases isIndentation_of_mem_contents inside
  by_cases first : step.FirstOnLine before
  · rw [chunks, if_pos first, List.singleton_append] at split
    cases earlier with
    | nil =>
        obtain ⟨-, rfl⟩ := List.cons.inj split
        exact ⟨step.text, _, first.1, by rw [contents, if_pos first.1, List.singleton_append]⟩
    | cons chunk earlier => exact absurd (List.cons.inj split).2 (absent _ _)
  · rw [chunks, if_neg first, List.nil_append] at split
    exact absurd split (absent _ _)

/-- Indentation is directly followed by a text. -/
theorem text_behind_indentation {width : Nat → Nat} {before steps : List Step}
    {earlier later : List Chunk} {count : Nat}
    (split : chunksOfAll width before steps = earlier ++ .indentation count :: later) :
    ∃ written rest, written ≠ "" ∧ later = .text written :: rest := by
  induction steps generalizing before earlier with
  | nil => simp [chunksOfAll] at split
  | cons step steps ih =>
      -- The indentation stands in the chunks of the first step or behind them.
      rw [chunksOfAll] at split
      obtain ⟨between, -, split⟩ | ⟨between, stepSplit, split⟩ :=
        List.append_eq_append_iff.mp split
      · exact ih split
      · cases between with
        | nil =>
            have behind : chunksOfAll width (before ++ [step]) steps =
                [] ++ .indentation count :: later := split.symm
            exact ih behind
        | cons chunk between =>
            obtain ⟨rfl, rfl⟩ := List.cons.inj split
            obtain ⟨written, rest, nonempty, rfl⟩ := text_behind_indentation_of_step stepSplit
            exact ⟨written, rest ++ _, nonempty, rfl⟩

end Step

/-! ## Writers -/

namespace Writer

theorem indent_write (writer : Writer) (text : String) :
    (writer.write text).indent = writer.indent := by
  unfold write
  split <;> rfl

theorem indent_take (writer : Writer) (step : Step) :
    (writer.take step).indent = writer.indent := by
  cases step with
  | startLine text => exact indent_write _ text
  | write text => exact indent_write writer text
  | writeLine text => exact indent_write _ text
  | endLine => rfl
  | startBlock => rfl
  | endBlock => rfl

theorem indent_run (writer : Writer) (steps : List Step) :
    (writer.run steps).indent = writer.indent := by
  induction steps generalizing writer with
  | nil => rfl
  | cons step steps ih => exact (ih (writer.take step)).trans (writer.indent_take step)

theorem pending_write (writer : Writer) (text : String) :
    (writer.write text).pending = (text.isEmpty && writer.pending) := by
  cases empty : text.isEmpty <;> simp [write, empty]

/-- Indentation is due exactly on a blank line. -/
theorem pending_take (writer : Writer) (step : Step) :
    (writer.take step).pending = step.blankAfter writer.pending := by
  cases step with
  | startLine text => exact pending_write _ text
  | write text => exact pending_write writer text
  | writeLine text => rfl
  | endLine => rfl
  | startBlock => rfl
  | endBlock => rfl

theorem pending_run (writer : Writer) (steps : List Step) :
    (writer.run steps).pending = Step.blankAfterAll writer.pending steps :=
  (List.foldl_hom pending fun before step => (pending_take before step).symm).symm

/-- Every step writes its text on a line that may be new, and may end this line. -/
theorem code_take (writer : Writer) (step : Step) :
    (writer.take step).code =
      ({ writer with pending := step.startsLine || writer.pending }.write step.text).code ++
        if step.endsLine then "\n" else "" := by
  cases step with
  | writeLine text => rfl
  | endLine => rfl
  | _ => exact String.append_empty.symm

theorem firstOnLine_iff (indent : Nat) (before : List Step) {step : Step}
    (nonempty : step.text ≠ "") :
    step.FirstOnLine before ↔
      (step.startsLine || (run { indent } before).pending) = true := by
  rw [Step.FirstOnLine, and_iff_right nonempty, pending_run, Bool.or_eq_true,
    Step.blankAfterAll_iff]

theorem code_run_append_singleton (indent : Nat) (before : List Step) (step : Step) :
    (run { indent } (before ++ [step])).code =
      (run { indent } before).code ++ Chunk.renderAll
        (step.chunks (fun level => indent * level % UInt64.size) before) := by
  have taken : run { indent } (before ++ [step]) = (run { indent } before).take step :=
    run_append _ before [step]
  rw [taken, code_take, Step.chunks, Chunk.renderAll_append, Chunk.renderAll_ite,
    Step.renderAll_contents]
  by_cases empty : step.text = ""
  · have unindented : ¬step.FirstOnLine before := fun first => first.1 empty
    rw [empty, write_empty, if_neg unindented, String.empty_append, String.empty_append]
  · rw [code_write_of_ne empty, indentation, width, level_run, indent_run]
    simp only [firstOnLine_iff indent before empty, String.append_assoc, Chunk.render]

/-- What has been written grows by the chunks of the steps taken. -/
theorem code_run_append (indent : Nat) (before steps : List Step) :
    (run { indent } (before ++ steps)).code =
      (run { indent } before).code ++ Chunk.renderAll
        (Step.chunksOfAll (fun level => indent * level % UInt64.size) before steps) := by
  induction steps generalizing before with
  | nil =>
      rw [List.append_nil]
      exact String.append_empty.symm
  | cons step steps ih =>
      rw [List.append_cons, ih, code_run_append_singleton, Step.chunksOfAll,
        Chunk.renderAll_append, String.append_assoc]

/-- A line without text is empty. -/
theorem code_run_blankLine (indent : Nat) (before : List Step) {line : List Step} {last : Step}
    (unended : ∀ step ∈ line, step.endsLine = false) (ends : last.endsLine = true)
    (empty : ∀ step ∈ line ++ [last], step.text = "") :
    (run { indent } (before ++ line ++ [last])).code = (run { indent } before).code ++ "\n" := by
  obtain ⟨emptyLine, emptyLast⟩ := List.forall_mem_append.mp empty
  have nothing : line.flatMap Step.contents = [] := by
    refine List.flatMap_eq_nil_iff.mpr fun step member => ?_
    rw [Step.contents_of_no_text (emptyLine step member), unended step member]
    rfl
  have ending : [last].flatMap Step.contents = [.lineEnd] := by
    rw [List.flatMap_singleton, Step.contents_of_no_text (emptyLast last List.mem_cons_self), ends]
    rfl
  rw [List.append_assoc, code_run_append, Step.chunksOfAll_of_no_text _ before empty,
    List.flatMap_append, nothing, ending]
  rfl

/-- A block that is opened within a line counts, and a line that is started again is indented
again only if it gets a text. -/
example :
    Step.chunksOfAll (fun level => 2 * level) []
        [.endBlock, .startBlock, .startLine "", .startBlock, .write "", .write "x", .write "y",
          .startLine "", .endLine, .write "z", .writeLine ""] =
      [.indentation 4, .text "x", .text "y", .lineEnd, .text "z", .lineEnd] := by
  decide

end Writer

end Sourcewright.Emission
