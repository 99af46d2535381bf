import Sourcewright.Document.Reader
import Sourcewright.Proofs.Document.Consumption

/-!
# Faults lie in the document

The readers of all shapes leave ends of their texts, since they are put together from scanners.
A fault that floats outwards keeps an end of the text too, and closing the bracket around it
places it there.  By induction over the brackets that may be open, every fault of a document
lies in the document.
-/

namespace Sourcewright.Document

/-! ## Values without brackets -/

theorem within_rejectWord (expected : Expected) (found : Found) (letters rest : List Char) :
    (rejectWord expected found letters rest).Within rest := by
  have scans := consumes_scanLetters letters rest
  fun_cases rejectWord expected found letters rest with
  | case1 fault failed => exact scans.within failed
  | case2 after scanned => exact within_faultHere _ (scans.suffix scanned)

theorem within_rejectOther (expected : Expected) (text : List Char) :
    (rejectOther expected text).Within text := by
  have word (found : Found) (letters rest : List Char) (first : Char) :
      (rejectWord expected found letters rest).Within (first :: rest) :=
    (within_rejectWord expected found letters rest).mono (List.suffix_cons first rest)
  fun_cases rejectOther expected text with
  | case1 => exact within_faultAhead _ (List.suffix_refl [])
  | case2 rest => exact word .null _ rest 'n'
  | case3 rest => exact word (.truth true) _ rest 't'
  | case4 rest => exact word (.truth false) _ rest 'f'
  | case5 char rest _ _ _ _ fault failed =>
      exact (consuming_scanNumber (char :: rest)).within failed
  | case6 char rest _ _ _ _ number after scanned =>
      exact within_faultHere _ ((consuming_scanNumber (char :: rest)).suffix scanned)
  | case7 rest fault failed =>
      exact ((consuming_scanText rest).within failed).mono (List.suffix_cons '"' rest)
  | case8 rest chars after scanned =>
      have shorter := (consuming_scanText rest).suffix scanned
      exact within_faultHere _ (shorter.trans (List.suffix_cons '"' rest))
  | case9 => exact within_faultHere _ (List.suffix_refl _)
  | case10 => exact within_faultHere _ (List.suffix_refl _)
  | case11 => exact within_faultAhead _ (List.suffix_refl _)

theorem within_rejectOther_skipSpace (expected : Expected) (text : List Char) :
    (rejectOther expected (skipSpace text)).Within text :=
  (within_rejectOther expected _).mono (suffix_skipSpace text)

/-- Reading a fixed word and giving back a value for it. -/
theorem consumes_word {α : Type} (letters : List Char) (value : α) {text rest : List Char}
    (suffix : rest <:+ text) :
    Consumes Prod.snd text
      (scanLetters letters rest >>= fun after => pure (value, after)) :=
  ((consumes_scanLetters letters rest).mono suffix).bind fun after => List.suffix_refl after

theorem consuming_readTruth : Consuming readTruth := by
  intro text
  fun_cases readTruth text with
  | case1 rest start => exact consumes_word _ _ (suffix_behind start)
  | case2 rest start => exact consumes_word _ _ (suffix_behind start)
  | case3 => exact within_rejectOther_skipSpace _ text

/-- Where a number is expected, what is scanned goes on with what is made of the number. -/
theorem consumes_number {next : Number × List Char → Except Fault (Value × List Char)}
    (expected : Expected) (text : List Char)
    (further : ∀ number rest, Consumes Prod.snd rest (next (number, rest))) :
    Consumes Prod.snd text
      (if startsNumber (skipSpace text) then scanNumber (skipSpace text) >>= next
        else .error (rejectOther expected (skipSpace text))) := by
  refine .ite (fun _ => ?_) fun _ => within_rejectOther_skipSpace expected text
  have scans := (consuming_scanNumber (skipSpace text)).mono (suffix_skipSpace text)
  exact scans.bind fun scanned => further scanned.1 scanned.2

theorem consuming_readInteger : Consuming readInteger := by
  intro text
  refine consumes_number .integer text fun number rest => ?_
  cases number with
  | natural value =>
      exact .ite (fun _ => List.suffix_refl rest)
        fun _ => within_faultHere _ (List.suffix_refl rest)
  | negative magnitude => exact List.suffix_refl rest
  | float value => exact within_faultHere _ (List.suffix_refl rest)

theorem consuming_readFloat : Consuming readFloat := by
  intro text
  refine consumes_number .float text fun number rest => ?_
  cases number with
  | natural value => exact List.suffix_refl rest
  | negative magnitude => exact List.suffix_refl rest
  | float value => exact List.suffix_refl rest

theorem consuming_readText : Consuming readText := by
  intro text
  fun_cases readText text with
  | case1 rest start =>
      exact ((consuming_scanText rest).mono (suffix_behind start)).keep fun _ _ => ⟨_, rfl⟩
  | case2 => exact within_rejectOther_skipSpace _ text

theorem consuming_readNothing : Consuming readNothing := by
  intro text
  fun_cases readNothing text with
  | case1 rest start => exact consumes_word _ _ (suffix_behind start)
  | case2 => exact within_rejectOther_skipSpace _ text

theorem consuming_readNullable (nullable : Bool) {read : Reader Value}
    (consuming : Consuming read) : Consuming (readNullable nullable read) := by
  intro text
  fun_cases readNullable nullable read text with
  | case1 _ rest start => exact consumes_word _ _ (suffix_behind start)
  | case2 => exact (consuming _).mono (suffix_skipSpace text)
  | case3 => exact consuming text

/-! ## Brackets -/

/-- What is left behind a bracket, and the fault of a bracket that does not end, lie in a
text. -/
def EndsWithin (text : List Char) (ending : List Char × Option Fault) : Prop :=
  ending.1 <:+ text ∧ ∀ fault, ending.2 = some fault → fault.Within text

/-- Brackets end within every text. -/
def Closing (ending : List Char → List Char × Option Fault) : Prop :=
  ∀ text, EndsWithin text (ending text)

theorem endsWithin_none {text rest : List Char} (suffix : rest <:+ text) :
    EndsWithin text (rest, none) :=
  ⟨suffix, fun _ none => by cases none⟩

theorem endsWithin_faultAhead {text rest : List Char} (cause : Cause) (suffix : rest <:+ text) :
    EndsWithin text (rest, some (faultAhead cause rest)) := by
  refine ⟨suffix, fun fault eq => ?_⟩
  cases eq
  exact within_faultAhead cause suffix

theorem closing_endList : Closing endList := by
  intro text
  fun_cases endList text with
  | case1 => exact endsWithin_faultAhead _ List.nil_suffix
  | case2 rest start => exact endsWithin_none (suffix_behind start)
  | case3 rest after closes start =>
      exact endsWithin_faultAhead _ ((suffix_skipSpace rest).trans (suffix_behind start))
  | case4 rest after goesOn start =>
      exact endsWithin_faultAhead _ ((suffix_skipSpace rest).trans (suffix_behind start))
  | case5 char rest start => exact endsWithin_faultAhead _ (suffix_of_skipSpace_eq_cons start)

theorem closing_endObject : Closing endObject := by
  intro text
  fun_cases endObject text with
  | case1 => exact endsWithin_faultAhead _ List.nil_suffix
  | case2 rest start => exact endsWithin_none (suffix_behind start)
  | case3 rest start => exact endsWithin_faultAhead _ (suffix_of_skipSpace_eq_cons start)
  | case4 char rest start => exact endsWithin_faultAhead _ (suffix_of_skipSpace_eq_cons start)

theorem consumes_closeWith {α : Type} {ending : List Char → List Char × Option Fault}
    (closing : Closing ending) {text : List Char} {result : Except Fault (α × List Char)}
    (consumes : Consumes Prod.snd text result) :
    Consumes Prod.snd text (closeWith ending result) := by
  revert consumes
  fun_cases closeWith ending result with
  | case1 contents rest after ends =>
      intro consumes
      have suffix := (closing rest).1
      rw [ends] at suffix
      exact suffix.trans consumes
  | case2 contents rest left fault ends =>
      intro consumes
      have within := (closing rest).2 fault (by rw [ends])
      exact within.mono consumes
  | case3 cause rest =>
      intro consumes
      cases consumes with
      | floating suffix => exact within_faultHere _ ((closing rest).1.trans suffix)
  | case4 cause remaining => exact id

theorem consumes_nextElement? (first : Bool) (text : List Char) :
    Consumes (fun start => start.getD text) text (nextElement? first text) := by
  fun_cases nextElement? first text with
  | case1 => exact within_faultAhead _ List.nil_suffix
  | case2 => exact List.suffix_refl text
  | case3 char rest start => exact suffix_of_skipSpace_eq_cons start
  | case4 => exact within_faultAhead _ List.nil_suffix
  | case5 rest _ afterNext start _ inner =>
      exact within_faultAhead _ ((suffix_of_skipSpace_eq_cons inner).trans (suffix_behind start))
  | case6 rest _ next afterNext inner _ start =>
      exact (suffix_of_skipSpace_eq_cons inner).trans (suffix_behind start)
  | case7 char rest start => exact within_faultAhead _ (suffix_of_skipSpace_eq_cons start)

theorem consumes_nextKey? (first : Bool) (text : List Char) :
    Consumes (fun start => start.getD text) text (nextKey? first text) := by
  fun_cases nextKey? first text with
  | case1 => exact within_faultAhead _ List.nil_suffix
  | case2 => exact List.suffix_refl text
  | case3 rest _ start => exact suffix_behind start
  | case4 char rest start => exact within_faultAhead _ (suffix_of_skipSpace_eq_cons start)
  | case5 => exact within_faultAhead _ List.nil_suffix
  | case6 rest _ afterNext start _ inner =>
      exact (suffix_behind inner).trans (suffix_behind start)
  | case7 rest _ afterNext start _ inner =>
      exact within_faultAhead _ ((suffix_of_skipSpace_eq_cons inner).trans (suffix_behind start))
  | case8 rest _ next afterNext inner _ _ start =>
      exact within_faultAhead _ ((suffix_of_skipSpace_eq_cons inner).trans (suffix_behind start))
  | case9 char rest start => exact within_faultAhead _ (suffix_of_skipSpace_eq_cons start)

theorem consuming_readElements {read : Reader Value} (consuming : Consuming read)
    (limit : Nat) (first : Bool) : Consuming (readElements read limit first) := by
  induction limit generalizing first with
  | zero => exact fun text => within_faultAhead _ (List.suffix_refl text)
  | succ limit ih =>
      intro text
      refine (consumes_nextElement? first text).bind fun start => ?_
      cases start with
      | none => exact List.suffix_refl text
      | some start =>
          refine (consuming start).bind ?_
          rintro ⟨value, rest⟩
          exact (ih false rest).keep fun _ _ => ⟨_, rfl⟩

/-! ## Lists, records and choices

`read` is the reader for what stands inside of a bracket.
-/

section Inside

variable {read : Shape → Reader Value} (consuming : ∀ shape, Consuming (read shape))

include consuming

theorem consuming_readMember (member : Member) : Consuming (readMember read member) :=
  consuming_readNullable member.nullable (consuming member.shape)

theorem consuming_readPositional (expected : Expected) (total : Nat) (members : List Member)
    (index : Nat) : Consuming (readPositional read expected total members index) := by
  induction members generalizing index with
  | nil => exact fun text => List.suffix_refl text
  | cons member members ih =>
      intro text
      refine (consumes_nextElement? (index == 0) text).bind fun start => ?_
      cases start with
      | some start =>
          refine (consuming_readMember consuming member start).bind ?_
          rintro ⟨value, rest⟩
          exact (ih (index + 1) rest).keep fun _ _ => ⟨_, rfl⟩
      | none =>
          cases member.fallback with
          | some value => exact (ih (index + 1) text).keep fun _ _ => ⟨_, rfl⟩
          | none => exact .floating (List.suffix_refl text)

theorem consuming_readMembers (members : List Member) (limit : Nat) (first : Bool)
    (seen : List (String × Value)) :
    Consuming (readMembers read members limit first seen) := by
  induction limit generalizing first seen with
  | zero => exact fun text => within_faultAhead _ (List.suffix_refl text)
  | succ limit ih =>
      intro text
      refine (consumes_nextKey? first text).bind fun start => ?_
      cases start with
      | none => exact List.suffix_refl text
      | some keyStart =>
          refine (consuming_scanText keyStart).bind ?_
          rintro ⟨keyChars, afterKey⟩
          dsimp only
          cases members.find? (·.name == String.ofList keyChars) with
          | some member =>
              refine .ite (fun _ => .floating (List.suffix_refl afterKey)) fun _ => ?_
              refine (consumes_scanColon afterKey).bind fun valueStart => ?_
              refine (consuming_readMember consuming member valueStart).bind ?_
              rintro ⟨value, rest⟩
              exact ih false _ rest
          | none =>
              refine (consumes_scanColon afterKey).bind fun valueStart => ?_
              exact (consumes_skipOpen [] true valueStart).bind fun rest => ih false seen rest

theorem consuming_readNamed (members : List Member) : Consuming (readNamed read members) := by
  intro text
  refine (consuming_readMembers consuming members _ true [] text).bind ?_
  rintro ⟨seen, rest⟩
  dsimp only
  cases completeMembers seen members with
  | ok values => exact List.suffix_refl rest
  | error name => exact .floating (List.suffix_refl rest)

theorem consuming_readContent (alternative : Alternative) :
    Consuming (readContent read alternative) := by
  intro text
  rw [readContent]
  cases alternative.content with
  | nothing => exact (consuming_readNothing text).keep fun _ _ => ⟨_, rfl⟩
  | value shape nullable =>
      exact (consuming_readNullable nullable (consuming shape) text).keep fun _ _ => ⟨_, rfl⟩
  | members kind => exact (consuming (.tree kind) text).keep fun _ _ => ⟨_, rfl⟩

end Inside

theorem consuming_readAlternative (alternatives : List Alternative) :
    Consuming (readAlternative alternatives) := by
  intro text
  refine (consuming_scanText text).bind ?_
  rintro ⟨chars, rest⟩
  dsimp only
  cases alternatives.find? (·.name == String.ofList chars) with
  | some alternative => exact List.suffix_refl rest
  | none => exact within_faultHere _ (List.suffix_refl rest)

theorem consumes_closeChoice (text : List Char) : Consumes id text (closeChoice text) := by
  fun_cases closeChoice text with
  | case1 => exact within_faultHere _ List.nil_suffix
  | case2 rest start => exact suffix_behind start
  | case3 char rest start => exact within_faultHere _ (suffix_of_skipSpace_eq_cons start)

theorem consumes_alternativeStart (text : List Char) :
    Consumes id text (alternativeStart text) := by
  fun_cases alternativeStart text with
  | case1 => exact within_faultAhead _ List.nil_suffix
  | case2 rest start => exact suffix_behind start
  | case3 rest start => exact within_faultAhead _ (suffix_of_skipSpace_eq_cons start)
  | case4 char rest start => exact within_faultAhead _ (suffix_of_skipSpace_eq_cons start)

/-! ## Documents -/

section Step

variable {inside : Inside}
  (consuming : ∀ read, inside = some read → ∀ shape, Consuming (read shape))

include consuming

theorem consuming_readList (element : Shape) : Consuming (readList inside element) := by
  intro text
  revert consuming
  fun_cases readList inside element text with
  | case1 rest start =>
      exact fun _ => within_faultAhead _ (suffix_of_skipSpace_eq_cons start)
  | case2 rest start read =>
      intro consuming
      have elements :=
        consuming_readElements (consuming read rfl element) (rest.length + 1) true rest
      have closed := consumes_closeWith closing_endList (elements.mono (suffix_behind start))
      exact closed.keep fun _ _ => ⟨_, rfl⟩
  | case3 => exact fun _ => within_rejectOther_skipSpace _ text

theorem consuming_readRecord (expected : Expected) (members : List Member) :
    Consuming (readRecord inside expected members) := by
  intro text
  revert consuming
  fun_cases readRecord inside expected members text with
  | case1 rest start =>
      exact fun _ => within_faultAhead _ (suffix_of_skipSpace_eq_cons start)
  | case2 rest start read =>
      intro consuming
      have named := consuming_readNamed (consuming read rfl) members rest
      have closed := consumes_closeWith closing_endObject (named.mono (suffix_behind start))
      exact closed.keep fun _ _ => ⟨_, rfl⟩
  | case3 rest start =>
      exact fun _ => within_faultAhead _ (suffix_of_skipSpace_eq_cons start)
  | case4 rest start read =>
      intro consuming
      have positional :=
        consuming_readPositional (consuming read rfl) expected members.length members 0 rest
      have closed := consumes_closeWith closing_endList (positional.mono (suffix_behind start))
      exact closed.keep fun _ _ => ⟨_, rfl⟩
  | case5 => exact fun _ => within_rejectOther_skipSpace _ text

theorem consuming_readChoice (alternatives : List Alternative) :
    Consuming (readChoice inside alternatives) := by
  intro text
  revert consuming
  fun_cases readChoice inside alternatives text with
  | case1 _ rest start =>
      intro _
      refine ((consuming_readAlternative alternatives rest).mono (suffix_behind start)).bind ?_
      rintro ⟨alternative, after⟩
      dsimp only
      cases alternative.content with
      | nothing => exact List.suffix_refl after
      | value shape nullable => exact .floating (List.suffix_refl after)
      | members kind => exact .floating (List.suffix_refl after)
  | case2 rest start =>
      exact fun _ => within_faultAhead _ (suffix_of_skipSpace_eq_cons start)
  | case3 rest start read =>
      intro consuming
      refine ((consumes_alternativeStart rest).mono (suffix_behind start)).bind fun nameStart => ?_
      refine (consuming_readAlternative alternatives nameStart).bind ?_
      rintro ⟨alternative, afterName⟩
      refine (consumes_scanColon afterName).bind fun contentStart => ?_
      refine (consuming_readContent (consuming read rfl) alternative contentStart).bind ?_
      rintro ⟨value, afterContent⟩
      exact (consumes_closeChoice afterContent).bind fun after => List.suffix_refl after
  | case4 => exact fun _ => within_faultAhead _ List.nil_suffix
  | case5 => exact fun _ => within_faultAhead _ (suffix_skipSpace text)

theorem consuming_readStep (shape : Shape) : Consuming (readStep inside shape) := by
  cases shape with
  | truth => exact consuming_readTruth
  | integer => exact consuming_readInteger
  | float => exact consuming_readFloat
  | text => exact consuming_readText
  | list element => exact consuming_readList consuming element
  | tree kind =>
      rw [readStep]
      cases kind.definition with
      | record expected members => exact consuming_readRecord consuming expected members
      | choice alternatives => exact consuming_readChoice consuming alternatives

end Step

theorem consuming_readShape (depth : Nat) (shape : Shape) : Consuming (readShape depth shape) := by
  induction depth generalizing shape with
  | zero =>
      refine consuming_readStep ?_ shape
      rintro read ⟨⟩
  | succ depth ih =>
      refine consuming_readStep ?_ shape
      rintro read ⟨⟩
      exact ih

theorem consuming_inside (depth : Nat) {read : Shape → Reader Value}
    (inside : some (readShape depth) = some read) (shape : Shape) : Consuming (read shape) :=
  Option.some.inj inside ▸ consuming_readShape depth shape

theorem within_of_readChars {shape : Shape} {text : List Char} {fault : Fault}
    (failed : readChars shape text = .error fault) : fault.Within text := by
  have consumes : Consumes (fun _ => []) text (readChars shape text) := by
    refine (consuming_readShape depthLimit shape text).bind ?_
    rintro ⟨value, rest⟩
    dsimp only
    cases start : skipSpace rest with
    | nil => exact List.nil_suffix
    | cons char after => exact within_faultAhead _ (suffix_of_skipSpace_eq_cons start)
  exact consumes.within failed

end Sourcewright.Document
