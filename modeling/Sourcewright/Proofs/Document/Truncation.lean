import Sourcewright.Document.Load
import Sourcewright.Proofs.Document.Extension
import Sourcewright.Proofs.Document.FaultPlaces

/-!
# Truncated and extended documents

A reader that has closed its bracket is done with the text: whatever follows, it reads the
same.  A tree is always written in a bracket, so a document that is accepted can only be
extended by space, and it is not accepted before its last bracket is closed.
-/

namespace Sourcewright.Document

/-! ## Values without brackets -/

theorem extends_word {α : Type} (letters : List Char) (value : α) (rest more : List Char) :
    Extends (fun _ => True) (growing more)
      (scanLetters letters rest >>= fun after => pure (value, after))
      (scanLetters letters (rest ++ more) >>= fun after => pure (value, after)) :=
  (extends_scanLetters letters rest more).andThen fun _ _ => rfl

theorem delimited_readTruth : Delimited readTruth := by
  intro text more
  fun_cases readTruth text with
  | case1 rest start =>
      rw [readTruth, skipSpace_append_eq_cons start]
      exact extends_word _ _ rest more
  | case2 rest start =>
      rw [readTruth, skipSpace_append_eq_cons start]
      exact extends_word _ _ rest more
  | case3 => trivial

/-- Where a number is expected, more text leaves what is made of the number as it is. -/
theorem extends_number {next : Number × List Char → Except Fault (Value × List Char)}
    (expected : Expected) (text more : List Char)
    (converts : ∀ number, (∃ value, ∀ rest, next (number, rest) = .ok (value, rest)) ∨
      ∀ rest, ∃ fault, next (number, rest) = .error fault) :
    Extends (·.2 ≠ []) (growing more)
      (if startsNumber (skipSpace text) then scanNumber (skipSpace text) >>= next
        else .error (rejectOther expected (skipSpace text)))
      (if startsNumber (skipSpace (text ++ more)) then
          scanNumber (skipSpace (text ++ more)) >>= next
        else .error (rejectOther expected (skipSpace (text ++ more)))) := by
  cases start : skipSpace text with
  | nil => trivial
  | cons first rest =>
      rw [skipSpace_append_eq_cons start more]
      refine .ite (fun _ => ?_) fun _ => trivial
      exact (extendable_scanNumber (first :: rest) more).convert converts

theorem extendable_readInteger : Extendable readInteger := by
  intro text more
  refine extends_number .integer text more fun number => ?_
  cases number with
  | natural value =>
      by_cases fits : value < Nat.pow 2 63
      · exact .inl ⟨_, fun _ => if_pos fits⟩
      · exact .inr fun _ => ⟨_, if_neg fits⟩
  | negative magnitude => exact .inl ⟨_, fun _ => rfl⟩
  | float value => exact .inr fun _ => ⟨_, rfl⟩

theorem extendable_readFloat : Extendable readFloat := by
  intro text more
  refine extends_number .float text more fun number => ?_
  cases number with
  | natural value => exact .inl ⟨_, fun _ => rfl⟩
  | negative magnitude => exact .inl ⟨_, fun _ => rfl⟩
  | float value => exact .inl ⟨_, fun _ => rfl⟩

theorem delimited_readText : Delimited readText := by
  intro text more
  fun_cases readText text with
  | case1 rest start =>
      rw [readText, skipSpace_append_eq_cons start]
      exact (delimited_scanText rest more).andThenRead fun _ _ _ => rfl
  | case2 => trivial

theorem delimited_readNothing : Delimited readNothing := by
  intro text more
  fun_cases readNothing text with
  | case1 rest start =>
      rw [readNothing, skipSpace_append_eq_cons start]
      exact extends_word _ _ rest more
  | case2 => trivial

theorem Delimited.extendable {α : Type} {read : Reader α} (delimited : Delimited read) :
    Extendable read :=
  fun text more => (delimited text more).weaken fun _ _ => trivial

theorem extendable_readNullable (nullable : Bool) {read : Reader Value}
    (consuming : Consuming read) (extendable : Extendable read) :
    Extendable (readNullable nullable read) := by
  intro text more
  fun_cases readNullable nullable read text with
  | case1 isNullable rest start =>
      rw [readNullable, if_pos isNullable, skipSpace_append_eq_cons start]
      exact (extends_word _ _ rest more).weaken fun _ _ => trivial
  | case2 isNullable notNull =>
      cases start : skipSpace text with
      | nil => exact Consumes.extends_nil (consuming [])
      | cons first rest =>
          have further :
              readNullable nullable read (text ++ more) = read (first :: rest ++ more) := by
            rw [readNullable, if_pos isNullable, skipSpace_append_eq_cons start]
            split
            case h_1 same =>
              cases same
              exact absurd start (notNull rest)
            case h_2 => rfl
          rw [further]
          exact extendable (first :: rest) more
  | case3 notNullable =>
      rw [readNullable, if_neg notNullable]
      exact extendable text more

/-! ## Brackets -/

/-- A bracket that ends needs something to end with, and it ends whatever follows. -/
def Settling (ending : List Char → List Char × Option Fault) : Prop :=
  ∀ ⦃text after⦄, ending text = (after, none) →
    text ≠ [] ∧ ∀ more, ending (text ++ more) = (after ++ more, none)

theorem ne_nil_of_skipSpace_eq_cons {text rest : List Char} {first : Char}
    (start : skipSpace text = first :: rest) : text ≠ [] := by
  rintro rfl
  cases start

theorem settling_endList : Settling endList := by
  intro text after
  fun_cases endList text with
  | case2 rest start =>
      rintro ⟨⟩
      refine ⟨ne_nil_of_skipSpace_eq_cons start, fun more => ?_⟩
      simp only [endList, skipSpace_append_eq_cons start, if_true]
  | case1 | case3 | case4 | case5 => simp

theorem settling_endObject : Settling endObject := by
  intro text after
  fun_cases endObject text with
  | case2 rest start =>
      rintro ⟨⟩
      refine ⟨ne_nil_of_skipSpace_eq_cons start, fun more => ?_⟩
      simp only [endObject, skipSpace_append_eq_cons start, if_true]
  | case1 | case3 | case4 => simp

/-- What is read in a bracket has to leave the end of the bracket, so it is settled. -/
theorem extends_closeWith {α : Type} {ending : List Char → List Char × Option Fault}
    (settling : Settling ending) {more : List Char}
    {result further : Except Fault (α × List Char)}
    (extended : Extends (·.2 ≠ []) (growing more) result further) :
    Extends (fun _ => True) (growing more) (closeWith ending result)
      (closeWith ending further) := by
  revert extended
  fun_cases closeWith ending result with
  | case1 contents rest after ends =>
      intro extended
      obtain ⟨nonempty, endsFurther⟩ := settling ends
      rw [extended nonempty, growing, closeWith, endsFurther more]
      exact fun _ => rfl
  | case2 | case3 | case4 => exact fun _ => trivial

theorem extends_nextElement? (first : Bool) (text more : List Char) :
    Extends (fun _ => True) (Option.map (· ++ more)) (nextElement? first text)
      (nextElement? first (text ++ more)) := by
  unfold nextElement?
  cases start : skipSpace text with
  | nil => trivial
  | cons char rest =>
      rw [skipSpace_append_eq_cons start]
      refine .ite (fun _ _ => rfl) fun _ => .ite (fun _ _ => rfl) fun _ => ?_
      refine .ite (fun _ => ?_) fun _ => trivial
      cases inner : skipSpace rest with
      | nil => trivial
      | cons next afterNext =>
          rw [skipSpace_append_eq_cons inner]
          exact .ite (fun _ => trivial) fun _ _ => rfl

theorem extends_nextKey? (first : Bool) (text more : List Char) :
    Extends (fun _ => True) (Option.map (· ++ more)) (nextKey? first text)
      (nextKey? first (text ++ more)) := by
  unfold nextKey?
  cases start : skipSpace text with
  | nil => trivial
  | cons char rest =>
      rw [skipSpace_append_eq_cons start]
      refine .ite (fun _ _ => rfl) fun _ => ?_
      refine .ite (fun _ => .ite (fun _ _ => rfl) fun _ => trivial) fun _ => ?_
      refine .ite (fun _ => ?_) fun _ => trivial
      cases inner : skipSpace rest with
      | nil => trivial
      | cons next afterNext =>
          rw [skipSpace_append_eq_cons inner]
          refine .ite (fun _ _ => rfl) fun _ => ?_
          exact .ite (fun _ => trivial) fun _ => trivial

/-- The elements of a list are read with more text behind it, and with a higher limit. -/
theorem extends_readElements {read : Reader Value} (extendable : Extendable read)
    {limit higher : Nat} (higherLimit : limit ≤ higher) (first : Bool) (text more : List Char) :
    Extends (fun _ => True) (growing more) (readElements read limit first text)
      (readElements read higher first (text ++ more)) := by
  induction limit generalizing higher first text with
  | zero => trivial
  | succ limit ih =>
      obtain ⟨higher, rfl⟩ : ∃ lower, higher = lower + 1 := ⟨higher - 1, by omega⟩
      refine (extends_nextElement? first text more).andThen fun start => ?_
      cases start with
      | none => exact fun _ => rfl
      | some start =>
          refine (extendable start more).bindRead ?_ fun value rest => ?_
          · intro value rest later eq _
            rintro rfl
            cases limit <;> cases eq
          · exact (ih (by omega) false rest).andThenRead fun _ _ _ => rfl

/-! ## Lists, records and choices

`read` is the reader for what stands inside of a bracket.
-/

section Inside

variable {read : Shape → Reader Value} (consuming : ∀ shape, Consuming (read shape))
  (extendable : ∀ shape, Extendable (read shape))

include consuming extendable

theorem extendable_readMember (member : Member) : Extendable (readMember read member) :=
  extendable_readNullable member.nullable (consuming member.shape) (extendable member.shape)

theorem extendable_readPositional (expected : Expected) (total : Nat) (members : List Member)
    (index : Nat) : Extendable (readPositional read expected total members index) := by
  intro text more
  induction members generalizing index text with
  | nil => exact fun _ => rfl
  | cons member members ih =>
      refine (extends_nextElement? (index == 0) text more).andThen fun start => ?_
      cases start with
      | some start =>
          refine (extendable_readMember consuming extendable member start more).bindConsuming ?_ ?_
          · exact fun _ rest => (consuming_readPositional consuming expected total members
              (index + 1) rest).keep fun _ _ => ⟨_, rfl⟩
          · exact fun _ rest => (ih (index + 1) rest).convert fun _ => .inl ⟨_, fun _ => rfl⟩
      | none =>
          dsimp only [Option.map_none]
          cases member.fallback with
          | some value => exact (ih (index + 1) text).convert fun _ => .inl ⟨_, fun _ => rfl⟩
          | none => trivial

theorem extends_readMembers (members : List Member) {limit higher : Nat}
    (higherLimit : limit ≤ higher) (first : Bool) (seen : List (String × Value))
    (text more : List Char) :
    Extends (fun _ => True) (growing more) (readMembers read members limit first seen text)
      (readMembers read members higher first seen (text ++ more)) := by
  induction limit generalizing higher first seen text with
  | zero => trivial
  | succ limit ih =>
      obtain ⟨higher, rfl⟩ : ∃ lower, higher = lower + 1 := ⟨higher - 1, by omega⟩
      refine (extends_nextKey? first text more).andThen fun start => ?_
      cases start with
      | none => exact fun _ => rfl
      | some keyStart =>
          refine (delimited_scanText keyStart more).andThenRead fun keyChars afterKey => ?_
          dsimp only
          cases members.find? (·.name == String.ofList keyChars) with
          | some member =>
              refine .ite (fun _ => trivial) fun _ => ?_
              refine (extends_scanColon afterKey more).andThen fun valueStart => ?_
              refine (extendable_readMember consuming extendable member valueStart more).bindRead
                ?_ fun value rest => ih (by omega) false _ rest
              rintro value rest later eq - rfl
              cases limit <;> cases eq
          | none =>
              refine (extends_scanColon afterKey more).andThen fun valueStart => ?_
              refine (extends_skipOpen [] true valueStart more).bind
                ?_ fun rest => ih (by omega) false seen rest
              rintro rest later eq - rfl
              cases limit <;> cases eq

theorem delimited_readNamed (members : List Member) : Delimited (readNamed read members) := by
  intro text more
  have limits : text.length + 1 ≤ (text ++ more).length + 1 := by
    rw [List.length_append]
    omega
  refine (extends_readMembers consuming extendable members limits true [] text
    more).andThenRead fun seen rest => ?_
  dsimp only
  cases completeMembers seen members with
  | ok values => exact fun _ => rfl
  | error name => trivial

theorem extendable_readContent (alternative : Alternative) :
    Extendable (readContent read alternative) := by
  intro text more
  simp only [readContent]
  cases alternative.content with
  | nothing =>
      exact (delimited_readNothing.extendable text more).convert fun _ => .inl ⟨_, fun _ => rfl⟩
  | value shape nullable =>
      exact (extendable_readNullable nullable (consuming shape) (extendable shape) text
        more).convert fun _ => .inl ⟨_, fun _ => rfl⟩
  | members kind =>
      exact (extendable (.tree kind) text more).convert fun _ => .inl ⟨_, fun _ => rfl⟩

end Inside

theorem delimited_readAlternative (alternatives : List Alternative) :
    Delimited (readAlternative alternatives) := by
  intro text more
  refine (delimited_scanText text more).andThenRead fun chars rest => ?_
  dsimp only
  cases alternatives.find? (·.name == String.ofList chars) with
  | some alternative => exact fun _ => rfl
  | none => trivial

theorem extends_closeChoice (text more : List Char) :
    Extends (fun _ => True) (· ++ more) (closeChoice text) (closeChoice (text ++ more)) := by
  fun_cases closeChoice text with
  | case1 => trivial
  | case2 rest start =>
      simp only [closeChoice, skipSpace_append_eq_cons start, if_true]
      exact fun _ => rfl
  | case3 => trivial

theorem extends_alternativeStart (text more : List Char) :
    Extends (fun _ => True) (· ++ more) (alternativeStart text)
      (alternativeStart (text ++ more)) := by
  fun_cases alternativeStart text with
  | case1 => trivial
  | case2 rest start =>
      simp only [alternativeStart, skipSpace_append_eq_cons start, if_true]
      exact fun _ => rfl
  | case3 => trivial
  | case4 => trivial

/-! ## Documents -/

section Step

variable {inside : Inside}
  (consuming : ∀ read, inside = some read → ∀ shape, Consuming (read shape))
  (extendable : ∀ read, inside = some read → ∀ shape, Extendable (read shape))

include extendable in
theorem delimited_readList (element : Shape) : Delimited (readList inside element) := by
  intro text more
  revert extendable
  fun_cases readList inside element text with
  | case1 => exact fun _ => trivial
  | case2 rest start read =>
      intro extendable
      have limits : rest.length + 1 ≤ (rest ++ more).length + 1 := by
        rw [List.length_append]
        omega
      have elements := extends_readElements (extendable read rfl element) limits true rest more
      rw [readList, skipSpace_append_eq_cons start]
      exact (extends_closeWith settling_endList
        (elements.weaken fun _ _ => trivial)).andThenRead fun _ _ _ => rfl
  | case3 => exact fun _ => trivial

include consuming extendable

theorem delimited_readRecord (expected : Expected) (members : List Member) :
    Delimited (readRecord inside expected members) := by
  intro text more
  revert consuming extendable
  fun_cases readRecord inside expected members text with
  | case1 | case3 | case5 => exact fun _ _ => trivial
  | case2 rest start read =>
      intro consuming extendable
      have named := delimited_readNamed (consuming read rfl) (extendable read rfl) members
      rw [readRecord, skipSpace_append_eq_cons start]
      exact (extends_closeWith settling_endObject
        (named.extendable rest more)).andThenRead fun _ _ _ => rfl
  | case4 rest start read =>
      intro consuming extendable
      have positional := extendable_readPositional (consuming read rfl) (extendable read rfl)
        expected members.length members 0
      rw [readRecord, skipSpace_append_eq_cons start]
      exact (extends_closeWith settling_endList
        (positional rest more)).andThenRead fun _ _ _ => rfl

theorem delimited_readChoice (alternatives : List Alternative) :
    Delimited (readChoice inside alternatives) := by
  intro text more
  revert consuming extendable
  fun_cases readChoice inside alternatives text with
  | case1 _ rest start =>
      intro _ _
      rw [readChoice, skipSpace_append_eq_cons start]
      refine (delimited_readAlternative alternatives rest more).andThenRead
        fun alternative after => ?_
      dsimp only
      cases alternative.content with
      | nothing => exact fun _ => rfl
      | value shape nullable => trivial
      | members kind => trivial
  | case2 | case4 | case5 => exact fun _ _ => trivial
  | case3 rest start read =>
      intro consuming extendable
      rw [readChoice, skipSpace_append_eq_cons start]
      refine (extends_alternativeStart rest more).andThen fun nameStart => ?_
      refine (delimited_readAlternative alternatives nameStart more).andThenRead
        fun alternative afterName => ?_
      refine (extends_scanColon afterName more).andThen fun contentStart => ?_
      refine (extendable_readContent (consuming read rfl) (extendable read rfl) alternative
        contentStart more).bindRead ?_ fun value afterContent =>
          (extends_closeChoice afterContent more).andThen fun _ _ => rfl
      -- The bracket that is closed stands behind the content.
      rintro value afterContent later eq - rfl
      cases eq

/-- Only a number may go on behind the text it was read from. -/
theorem delimited_readStep {shape : Shape} (notInteger : shape ≠ .integer)
    (notFloat : shape ≠ .float) : Delimited (readStep inside shape) := by
  cases shape with
  | truth => exact delimited_readTruth
  | integer => exact absurd rfl notInteger
  | float => exact absurd rfl notFloat
  | text => exact delimited_readText
  | list element => exact delimited_readList extendable element
  | tree kind =>
      rw [readStep]
      cases kind.definition with
      | record expected members => exact delimited_readRecord consuming extendable expected members
      | choice alternatives => exact delimited_readChoice consuming extendable alternatives

theorem extendable_readStep (shape : Shape) : Extendable (readStep inside shape) := by
  by_cases integer : shape = .integer
  · rw [integer]
    exact extendable_readInteger
  · by_cases float : shape = .float
    · rw [float]
      exact extendable_readFloat
    · exact (delimited_readStep consuming extendable integer float).extendable

end Step

theorem extendable_readShape (depth : Nat) (shape : Shape) :
    Extendable (readShape depth shape) := by
  induction depth generalizing shape with
  | zero => refine extendable_readStep ?_ ?_ shape <;> rintro read ⟨⟩
  | succ depth ih =>
      refine extendable_readStep (fun _ => consuming_inside depth) ?_ shape
      rintro read ⟨⟩
      exact ih

theorem delimited_readShape (depth : Nat) {shape : Shape} (notInteger : shape ≠ .integer)
    (notFloat : shape ≠ .float) : Delimited (readShape depth shape) := by
  cases depth with
  | zero => refine delimited_readStep ?_ ?_ notInteger notFloat <;> rintro read ⟨⟩
  | succ depth =>
      refine delimited_readStep (fun _ => consuming_inside depth) ?_ notInteger notFloat
      rintro read ⟨⟩
      exact extendable_readShape depth

theorem skipSpace_eq_nil_iff {text : List Char} : skipSpace text = [] ↔ Spaces text := by
  rw [skipSpace, List.dropWhile_eq_nil_iff]
  refine forall₂_congr fun char _ => ?_
  simp [isSpace, or_assoc]

theorem readChars_eq_ok_iff {shape : Shape} {text : List Char} {value : Value} :
    readChars shape text = .ok value ↔
      ∃ rest, readShape depthLimit shape text = .ok (value, rest) ∧ Spaces rest := by
  constructor
  · intro ok
    obtain ⟨⟨read, rest⟩, shaped, ended⟩ := exists_of_bind_eq_ok ok
    dsimp only at ended
    cases start : skipSpace rest with
    | nil =>
        rw [start] at ended
        cases ended
        exact ⟨rest, shaped, skipSpace_eq_nil_iff.mp start⟩
    | cons char after =>
        rw [start] at ended
        cases ended
  · rintro ⟨rest, shaped, blank⟩
    simp only [readChars, shaped, bind, Except.bind, skipSpace_eq_nil_iff.mpr blank]
    rfl

/-- A document that is read stays the same with space behind it, and nothing else may follow. -/
theorem readChars_append_iff {shape : Shape} (notInteger : shape ≠ .integer)
    (notFloat : shape ≠ .float) {text : List Char} {value : Value}
    (ok : readChars shape text = .ok value) {more : List Char} {other : Value} :
    readChars shape (text ++ more) = .ok other ↔ Spaces more ∧ other = value := by
  obtain ⟨rest, shaped, blank⟩ := readChars_eq_ok_iff.mp ok
  have delimited := delimited_readShape depthLimit notInteger notFloat
  have further := (delimited text more).eq_ok shaped trivial
  have spaces : Spaces (rest ++ more) ↔ Spaces more := by
    simp only [Spaces, List.forall_mem_append] at blank ⊢
    exact and_iff_right blank
  rw [readChars_eq_ok_iff]
  constructor
  · rintro ⟨left, again, blankLeft⟩
    cases further.symm.trans again
    exact ⟨spaces.mp blankLeft, rfl⟩
  · rintro ⟨blankMore, rfl⟩
    exact ⟨rest ++ more, further, spaces.mpr blankMore⟩

theorem mem_of_readAlternative {alternatives : List Alternative} {text rest : List Char}
    {alternative : Alternative}
    (ok : readAlternative alternatives text = .ok (alternative, rest)) :
    alternative ∈ alternatives := by
  obtain ⟨⟨chars, after⟩, -, named⟩ := exists_of_bind_eq_ok ok
  dsimp only at named
  cases known : alternatives.find? (·.name == String.ofList chars) with
  | none =>
      rw [known] at named
      cases named
  | some found =>
      rw [known] at named
      cases named
      exact List.mem_of_find?_eq_some known

theorem closing_of_closeChoice {text rest : List Char} (ok : closeChoice text = .ok rest) :
    '\x7d' :: rest <:+ text := by
  revert ok
  fun_cases closeChoice text with
  | case2 after start =>
      rintro ⟨⟩
      exact suffix_of_skipSpace_eq_cons start
  | case1 | case3 => rintro ⟨⟩

/-- A choice between alternatives that all carry something ends in a bracket. -/
theorem closing_of_readChoice {inside : Inside}
    (consuming : ∀ read, inside = some read → ∀ shape, Consuming (read shape))
    {alternatives : List Alternative}
    (carry : ∀ alternative ∈ alternatives, alternative.content ≠ .nothing)
    {text rest : List Char} {value : Value}
    (ok : readChoice inside alternatives text = .ok (value, rest)) :
    '\x7d' :: rest <:+ text := by
  revert consuming ok
  fun_cases readChoice inside alternatives text with
  | case1 _ inner start =>
      intro _ ok
      obtain ⟨⟨alternative, after⟩, named, ok⟩ := exists_of_bind_eq_ok ok
      have carries := carry alternative (mem_of_readAlternative named)
      dsimp only at ok
      cases content : alternative.content with
      | nothing => exact absurd content carries
      | value shape nullable =>
          rw [content] at ok
          cases ok
      | members kind =>
          rw [content] at ok
          cases ok
  | case3 inner start read =>
      intro consuming ok
      obtain ⟨nameStart, atName, ok⟩ := exists_of_bind_eq_ok ok
      obtain ⟨⟨alternative, afterName⟩, named, ok⟩ := exists_of_bind_eq_ok ok
      obtain ⟨contentStart, atColon, ok⟩ := exists_of_bind_eq_ok ok
      obtain ⟨⟨content, afterContent⟩, filled, ok⟩ := exists_of_bind_eq_ok ok
      obtain ⟨after, closed, ok⟩ := exists_of_bind_eq_ok ok
      cases ok
      have closes := closing_of_closeChoice closed
      have reads := consuming_readContent (consuming read rfl) alternative
      have inContent := (reads contentStart).suffix filled
      have behindName := (consumes_scanColon afterName).suffix atColon
      have inName := (consuming_readAlternative alternatives nameStart).suffix named
      have opened := (consumes_alternativeStart inner).suffix atName
      exact ((((closes.trans inContent).trans behindName).trans inName).trans opened).trans
        (suffix_behind start)
  | case2 | case4 | case5 => rintro - ⟨⟩

end Sourcewright.Document

namespace Sourcewright

open Document

theorem Documented.load_eq_ok_iff {α : Type} [Documented α] {text : String} {tree : α} :
    load α text = .ok tree ↔
      ∃ value, readChars (shape α) text.toList = .ok value ∧ ofValue? value = some tree := by
  unfold load Document.read
  cases readChars (shape α) text.toList with
  | error fault => simp
  | ok value =>
      cases held : ofValue? (α := α) value with
      | none => simp [held]
      | some found => simp [held]

namespace Node

theorem load_append_iff {text more : String} {node other : Node}
    (loaded : Documented.load Node text = .ok node) :
    Documented.load Node (text ++ more) = .ok other ↔ Spaces more.toList ∧ other = node := by
  obtain ⟨value, ok, held⟩ := Documented.load_eq_ok_iff.mp loaded
  rw [Documented.load_eq_ok_iff, String.toList_append]
  constructor
  · rintro ⟨found, okFurther, heldFurther⟩
    obtain ⟨blank, rfl⟩ := (readChars_append_iff (by decide) (by decide) ok).mp okFurther
    cases held.symm.trans heldFurther
    exact ⟨blank, rfl⟩
  · rintro ⟨blank, rfl⟩
    exact ⟨value, (readChars_append_iff (by decide) (by decide) ok).mpr ⟨blank, rfl⟩, held⟩

theorem exists_closing_of_load {text : String} {node : Node}
    (loaded : Documented.load Node text = .ok node) :
    ∃ body tail, text = body ++ "\x7d" ++ tail ∧ Spaces tail.toList := by
  obtain ⟨value, ok, -⟩ := Documented.load_eq_ok_iff.mp loaded
  obtain ⟨rest, shaped, blank⟩ := readChars_eq_ok_iff.mp ok
  obtain ⟨body, eq⟩ :=
    closing_of_readChoice (fun _ => consuming_inside 126) (by simp [carrying]) shaped
  refine ⟨String.ofList body, String.ofList rest, ?_, ?_⟩
  · rw [← String.toList_inj, ← eq]
    simp
  · rwa [String.toList_ofList]

/-- A document of a tree is neither extended nor cut short without notice.  With anything but
space behind it, it is rejected, and with space it holds the same tree.  It has a last closing
bracket, with space behind it, and whatever ends before that bracket is rejected. -/
theorem load_append_or_cut {text : String} {node : Node}
    (loaded : Documented.load Node text = .ok node) :
    (∀ more other, Documented.load Node (text ++ more) = .ok other ↔
      Spaces more.toList ∧ other = node) ∧
    (∃ body tail, text = body ++ "\x7d" ++ tail ∧ Spaces tail.toList) ∧
    ∀ cut rest, text = cut ++ rest → '\x7d' ∈ rest.toList →
      ∃ rejection, Documented.load Node cut = .error rejection := by
  refine ⟨fun more other => load_append_iff loaded, exists_closing_of_load loaded, ?_⟩
  rintro cut rest rfl bracket
  cases early : Documented.load Node cut with
  | error rejection => exact ⟨rejection, rfl⟩
  | ok other =>
      have spaces := ((load_append_iff early).mp loaded).1
      exact absurd (spaces '\x7d' bracket) (by decide)

/-- A class that is written as a list, with the members at its end left out.  Its name looks like
the end of a document. -/
theorem load_append_or_cut_ofBracketName :
    ∃ text, text = "\x7b\"class\":[[],\"\",\"]\x7d\"]\x7d" ∧
      Documented.load Node text = .ok (.classDecl { name := "]\x7d" }) ∧
      Documented.load Node (text ++ "\n\t") = .ok (.classDecl { name := "]\x7d" }) ∧
      (∀ other, Documented.load Node (text ++ "\x7d") ≠ .ok other) ∧
      ∃ rejection, Documented.load Node "\x7b\"class\":[[],\"\",\"]\x7d" = .error rejection := by
  have loaded : Documented.load Node "\x7b\"class\":[[],\"\",\"]\x7d\"]\x7d" =
      .ok (.classDecl { name := "]\x7d" }) := by
    cbv
  obtain ⟨further, -, cut⟩ := load_append_or_cut loaded
  refine ⟨_, rfl, loaded, (further _ _).mpr ⟨by decide, rfl⟩, fun other accepted => ?_, ?_⟩
  · exact absurd ((further _ _).mp accepted).1 (by decide)
  · exact cut _ "\"]\x7d" rfl (by decide)

end Node

end Sourcewright
