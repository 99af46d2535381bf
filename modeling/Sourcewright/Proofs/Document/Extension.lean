import Sourcewright.Proofs.Document.Consumption
import Sourcewright.Proofs.Document.Skipping

/-!
# Text behind what was scanned

What a scanner takes off the front of a text is settled by what it takes: with more text
behind, it takes the same and leaves more.  Only where a number ends with the text is nothing
settled, since further digits would continue it.

The law is stated once for results of all kinds, as `Extends`, with the results for which it
is claimed as a parameter, and it is closed under scanning one thing behind the other.
-/

namespace Sourcewright.Document

theorem ne_nil_of_suffix {text rest : List Char} (suffix : rest <:+ text) (left : rest ≠ []) :
    text ≠ [] := by
  rintro rfl
  exact left (List.suffix_nil.mp suffix)

section Laws

variable {α β : Type}

/-- Where the first result is settled, the second is the first with more behind it. -/
def Extends (settled : α → Prop) (grow : α → α) : (result further : Except Fault α) → Prop
  | .ok value, further => settled value → further = .ok (grow value)
  | .error _, _ => True

/-- The result of a reader with more text behind what it left. -/
def growing (more : List Char) (result : α × List Char) : α × List Char :=
  (result.1, result.2 ++ more)

/-- A reader takes the same off every longer text. -/
def Delimited (read : Reader α) : Prop :=
  ∀ text more, Extends (fun _ => True) (growing more) (read text) (read (text ++ more))

/-- A reader that has left something takes the same off every longer text. -/
def Extendable (read : Reader α) : Prop :=
  ∀ text more, Extends (·.2 ≠ []) (growing more) (read text) (read (text ++ more))

variable {settled settledLater : α → Prop} {grow : α → α} {result further : Except Fault α}

theorem Extends.eq_ok {value : α} (extended : Extends settled grow result further)
    (eq : result = .ok value) (isSettled : settled value) : further = .ok (grow value) := by
  rw [eq] at extended
  exact extended isSettled

theorem Extends.intro
    (same : ∀ value, result = .ok value → settled value → further = .ok (grow value)) :
    Extends settled grow result further := by
  cases result with
  | ok value => exact same value rfl
  | error fault => trivial

theorem Extends.weaken (extended : Extends settled grow result further)
    (stronger : ∀ value, settledLater value → settled value) :
    Extends settledLater grow result further := by
  cases result with
  | ok value => exact fun later => extended (stronger value later)
  | error fault => trivial

theorem Extends.bind {settledNext : β → Prop} {growNext : β → β}
    {next nextFurther : α → Except Fault β} (extended : Extends settled grow result further)
    (settles : ∀ value later, next value = .ok later → settledNext later → settled value)
    (continued : ∀ value,
      Extends settledNext growNext (next value) (nextFurther (grow value))) :
    Extends settledNext growNext (result >>= next) (further >>= nextFurther) := by
  cases result with
  | error fault => trivial
  | ok value =>
      change Extends settledNext growNext (next value) _
      cases eq : next value with
      | error fault => trivial
      | ok later =>
          intro isSettled
          rw [extended (settles value later eq isSettled)]
          exact (continued value).eq_ok eq isSettled

theorem Extends.ite {condition : Prop} [Decidable condition] {other otherFurther : Except Fault α}
    (extended : condition → Extends settled grow result further)
    (otherwise : ¬condition → Extends settled grow other otherFurther) :
    Extends settled grow (if condition then result else other)
      (if condition then further else otherFurther) := by
  by_cases holds : condition
  · rw [if_pos holds, if_pos holds]
    exact extended holds
  · rw [if_neg holds, if_neg holds]
    exact otherwise holds

/-- Behind what is always settled, anything may follow. -/
theorem Extends.andThen {settledNext : β → Prop} {growNext : β → β}
    {next nextFurther : α → Except Fault β}
    (extended : Extends (fun _ => True) grow result further)
    (continued : ∀ value,
      Extends settledNext growNext (next value) (nextFurther (grow value))) :
    Extends settledNext growNext (result >>= next) (further >>= nextFurther) :=
  extended.bind (fun _ _ _ _ => trivial) continued

/-- Behind a reader, what follows is given what it has read and what it left. -/
theorem Extends.andThenRead {more : List Char} {result further : Except Fault (α × List Char)}
    {settledNext : β → Prop} {growNext : β → β}
    {next nextFurther : α × List Char → Except Fault β}
    (extended : Extends (fun _ => True) (growing more) result further)
    (continued : ∀ value rest,
      Extends settledNext growNext (next (value, rest)) (nextFurther (value, rest ++ more))) :
    Extends settledNext growNext (result >>= next) (further >>= nextFurther) :=
  extended.andThen fun read => continued read.1 read.2

/-- Behind a reader that has to leave something, what follows has to need it. -/
theorem Extends.bindRead {more : List Char} {result further : Except Fault (α × List Char)}
    {settledNext : β → Prop} {growNext : β → β}
    {next nextFurther : α × List Char → Except Fault β}
    (extended : Extends (·.2 ≠ []) (growing more) result further)
    (settles : ∀ value rest later, next (value, rest) = .ok later → settledNext later → rest ≠ [])
    (continued : ∀ value rest,
      Extends settledNext growNext (next (value, rest)) (nextFurther (value, rest ++ more))) :
    Extends settledNext growNext (result >>= next) (further >>= nextFurther) :=
  extended.bind (fun read => settles read.1 read.2) fun read => continued read.1 read.2

theorem Extends.bindConsuming {more : List Char} {result further : Except Fault (α × List Char)}
    {left : β → List Char} {growNext : β → β} {next nextFurther : α × List Char → Except Fault β}
    (extended : Extends (·.2 ≠ []) (growing more) result further)
    (consumes : ∀ value rest, Consumes left rest (next (value, rest)))
    (continued : ∀ value rest,
      Extends (left · ≠ []) growNext (next (value, rest)) (nextFurther (value, rest ++ more))) :
    Extends (left · ≠ []) growNext (result >>= next) (further >>= nextFurther) :=
  extended.bindRead
    (fun value rest _ eq nonempty => ne_nil_of_suffix ((consumes value rest).suffix eq) nonempty)
    continued

/-- What is made of a value that was read, or refused, does not depend on what is left. -/
theorem Extends.convert {more : List Char} {result further : Except Fault (α × List Char)}
    {next : α × List Char → Except Fault (β × List Char)}
    (extended : Extends (·.2 ≠ []) (growing more) result further)
    (converts : ∀ value, (∃ other, ∀ rest, next (value, rest) = .ok (other, rest)) ∨
      ∀ rest, ∃ fault, next (value, rest) = .error fault) :
    Extends (·.2 ≠ []) (growing more) (result >>= next) (further >>= next) := by
  refine extended.bindRead ?_ ?_
  · intro value rest later eq left
    rcases converts value with ⟨other, kept⟩ | refused
    · rw [kept] at eq
      cases eq
      exact left
    · obtain ⟨fault, failed⟩ := refused rest
      cases failed.symm.trans eq
  · intro value rest
    rcases converts value with ⟨other, kept⟩ | refused
    · rw [kept, kept]
      exact fun _ => rfl
    · obtain ⟨fault, failed⟩ := refused rest
      rw [failed]
      trivial

end Laws

/-- Nothing is left behind the end of a text, so nothing is settled there. -/
theorem Consumes.extends_nil {α : Type} {left : α → List Char} {grow : α → α}
    {result further : Except Fault α} (consumes : Consumes left [] result) :
    Extends (left · ≠ []) grow result further := by
  cases result with
  | ok value => exact fun rest => absurd (List.suffix_nil.mp consumes) rest
  | error fault => trivial

/-! ## Texts -/

theorem extends_scanLetters (letters text more : List Char) :
    Extends (fun _ => True) (· ++ more) (scanLetters letters text)
      (scanLetters letters (text ++ more)) := by
  fun_induction scanLetters letters text with
  | case1 => exact fun _ => rfl
  | case2 => trivial
  | case3 letters char rest ih =>
      rw [List.cons_append, scanLetters, if_pos rfl]
      exact ih
  | case4 => trivial

theorem delimited_scanHexQuad : Delimited scanHexQuad := by
  intro text more
  fun_cases scanHexQuad text with
  | case1 first second third fourth rest value digits =>
      simp only [List.cons_append, scanHexQuad, digits]
      exact fun _ => rfl
  | case2 => trivial
  | case3 => trivial

theorem extends_scanSurrogateMark (mark : Char) (text more : List Char) :
    Extends (fun _ => True) (· ++ more) (scanSurrogateMark mark text)
      (scanSurrogateMark mark (text ++ more)) := by
  fun_cases scanSurrogateMark mark text with
  | case1 => trivial
  | case2 rest =>
      rw [List.cons_append, scanSurrogateMark, if_pos rfl]
      exact fun _ => rfl
  | case3 => trivial

theorem delimited_scanCodeEscape : Delimited scanCodeEscape := by
  intro text more
  refine (delimited_scanHexQuad text more).andThenRead fun code rest => ?_
  refine .ite (fun _ => trivial) fun _ => .ite (fun _ => ?_) fun _ _ => rfl
  refine (extends_scanSurrogateMark '\\' rest more).andThen fun afterBackslash => ?_
  refine (extends_scanSurrogateMark 'u' afterBackslash more).andThen fun afterLetter => ?_
  refine (delimited_scanHexQuad afterLetter more).andThenRead fun second afterSecond => ?_
  refine .ite (fun _ _ => ?_) fun _ => trivial
  rw [growing]

theorem delimited_scanEscape : Delimited scanEscape := by
  intro text more
  fun_cases scanEscape text with
  | case1 => trivial
  | case2 char rest meaning simple =>
      simp only [List.cons_append, scanEscape, simple]
      exact fun _ => rfl
  | case3 rest => exact delimited_scanCodeEscape rest more
  | case4 => trivial

theorem delimited_scanText : Delimited scanText := by
  intro text more
  fun_induction scanText text with
  | case1 => trivial
  | case2 rest =>
      rw [List.cons_append, scanText, if_pos rfl]
      exact fun _ => rfl
  | case3 rest fault failed => trivial
  | case4 => trivial
  | case5 rest meaning afterEscape escaped chars afterText scanned _ ih =>
      refine fun _ => ?_
      have escapedFurther := (delimited_scanEscape rest more).eq_ok escaped trivial
      have scannedFurther := ih.eq_ok scanned trivial
      rw [List.cons_append, scanText_backslash escapedFurther]
      dsimp only [growing]
      rw [scannedFurther]
      rfl
  | case6 => trivial
  | case7 => trivial
  | case8 char rest notQuote notBackslash notControl chars afterText scanned ih =>
      refine fun _ => ?_
      rw [List.cons_append, scanText, if_neg notQuote, if_neg notBackslash, if_neg notControl,
        ih.eq_ok scanned trivial]
      rfl

/-! ## Numbers -/

/-- Where something is left behind leading characters of a kind, more text at the end changes
neither these characters nor what stands in front of it. -/
theorem span_append {test : Char → Bool} {text : List Char} (left : text.dropWhile test ≠ [])
    (more : List Char) :
    (text ++ more).takeWhile test = text.takeWhile test ∧
      (text ++ more).dropWhile test = text.dropWhile test ++ more := by
  have nonempty := List.isEmpty_eq_false_iff.mpr left
  constructor
  · have shorter : (text.takeWhile test).length ≠ text.length := by
      intro same
      have whole := congrArg List.length (List.takeWhile_append_dropWhile (p := test) (l := text))
      rw [List.length_append, same] at whole
      exact left (List.length_eq_zero_iff.mp (by omega))
    rw [List.takeWhile_append, if_neg shorter]
  · rw [List.dropWhile_append, nonempty]
    rfl

theorem extends_floatOfParts (negative : Bool) (significand : Nat) (exponent : Int)
    (rest more : List Char) :
    Extends (·.2 ≠ []) (growing more) (floatOfParts negative significand exponent rest)
      (floatOfParts negative significand exponent (rest ++ more)) := by
  fun_cases floatOfParts negative significand exponent rest with
  | case1 value scaled =>
      simp only [floatOfParts, scaled]
      exact fun _ => rfl
  | case2 => trivial

theorem extendable_scanExponentDigits (negative : Bool) (significand : Nat) (start : Int)
    (negativeExponent : Bool) (value : Nat) :
    Extendable (scanExponentDigits negative significand start negativeExponent value) := by
  intro text more
  fun_induction scanExponentDigits negative significand start negativeExponent value text with
  | case1 => exact (consumes_floatOfParts ..).extends_nil
  | case2 value char rest digit larger fits ih =>
      rw [List.cons_append, scanExponentDigits, if_pos digit, if_pos fits]
      exact ih
  | case3 => trivial
  | case4 value char rest digit larger tooGreat vanishes =>
      rw [List.cons_append, scanExponentDigits, if_pos digit, if_neg tooGreat, if_neg vanishes]
      refine fun left => ?_
      rw [(span_append left more).2]
      rfl
  | case5 value char rest noDigit =>
      rw [List.cons_append, scanExponentDigits, if_neg noDigit]
      exact extends_floatOfParts _ _ _ (char :: rest) more

theorem dropSign_append {text : List Char} (nonempty : text ≠ []) (more : List Char) :
    dropSign (text ++ more) = dropSign text ++ more := by
  fun_cases dropSign text with
  | case1 rest => rfl
  | case2 rest => rfl
  | case3 text noPlus noMinus =>
      obtain ⟨char, rest, rfl⟩ := List.exists_cons_of_ne_nil nonempty
      rw [List.cons_append, dropSign]
      · rintro tail ⟨⟩
        exact noPlus rest rfl
      · rintro tail ⟨⟩
        exact noMinus rest rfl

theorem extendable_scanExponent (negative : Bool) (significand : Nat) (start : Int) :
    Extendable (scanExponent negative significand start) := by
  intro text more
  cases text with
  | nil => trivial
  | cons sign rest =>
      have unsigned := dropSign_append (List.cons_ne_nil sign rest) more
      simp only [scanExponent, unsigned, List.head?_append, List.head?_cons]
      cases dropSign (sign :: rest) with
      | nil => trivial
      | cons char digits =>
          exact .ite (fun _ => extendable_scanExponentDigits _ _ _ _ _ digits more)
            fun _ => trivial

theorem extendable_finishFloat (negative : Bool) (significand : Nat) (exponent : Int) :
    Extendable (finishFloat negative significand exponent) := by
  intro text more
  cases text with
  | nil => exact Consumes.extends_nil (consuming_finishFloat ..)
  | cons char rest =>
      exact .ite (fun _ => extendable_scanExponent _ _ _ rest more)
        fun _ => extends_floatOfParts _ _ _ (char :: rest) more

theorem extendable_scanFraction (negative : Bool) (significand : Nat) (exponent : Int) :
    Extendable (scanFraction negative significand exponent) := by
  intro text more
  by_cases left : text.dropWhile isDigit = []
  · -- The text ends with the fraction, so nothing is left behind the number.
    fun_cases scanFraction negative significand exponent text with
    | case1 => trivial
    | case2 digits rest =>
        rw [show rest = [] from left]
        exact Consumes.extends_nil (consuming_finishFloat ..)
  · obtain ⟨digits, rest⟩ := span_append left more
    simp only [scanFraction, digits, rest]
    exact .ite (fun _ => trivial) fun _ => extendable_finishFloat _ _ _ _ more

theorem extendable_finishWhole (negative : Bool) (digits : List Char) :
    Extendable (finishWhole negative digits) := by
  intro text more
  cases text with
  | nil => exact Consumes.extends_nil (consuming_finishWhole ..)
  | cons char rest =>
      by_cases point : char = '.'
      · subst point
        exact extendable_scanFraction _ _ _ rest more
      · have unpointed (rest tail : List Char) : char :: rest ≠ '.' :: tail :=
          fun same => point (List.cons.inj same).1
        rw [List.cons_append, finishWhole_of_unpointed negative digits (unpointed rest),
          finishWhole_of_unpointed negative digits (unpointed (rest ++ more))]
        refine .ite (fun _ => extendable_scanExponent _ _ _ rest more) fun _ => ?_
        exact .ite (fun _ _ => rfl) fun _ => extends_floatOfParts _ _ _ (char :: rest) more

theorem extendable_scanMagnitude (negative : Bool) : Extendable (scanMagnitude negative) := by
  intro text more
  fun_cases scanMagnitude negative text with
  | case1 => trivial
  | case2 => trivial
  | case3 rest alone =>
      by_cases left : rest = []
      · subst left
        exact Consumes.extends_nil (consuming_finishWhole negative ['0'] [])
      · have aloneFurther : ¬(rest ++ more).head?.any isDigit := by
          rwa [List.head?_append_of_ne_nil rest left]
        rw [List.cons_append, scanMagnitude, if_pos rfl, if_neg aloneFurther]
        exact extendable_finishWhole negative ['0'] rest more
  | case4 char rest notZero digit =>
      rw [List.cons_append, scanMagnitude, if_neg notZero, if_pos digit]
      by_cases left : rest.dropWhile isDigit = []
      · rw [left]
        exact Consumes.extends_nil (consuming_finishWhole ..)
      · obtain ⟨digits, after⟩ := span_append left more
        rw [digits, after]
        exact extendable_finishWhole negative _ _ more
  | case5 => trivial

theorem extendable_scanNumber : Extendable scanNumber := by
  intro text more
  fun_cases scanNumber text with
  | case1 rest => exact extendable_scanMagnitude true rest more
  | case2 text unsigned =>
      cases text with
      | nil => exact Consumes.extends_nil (consuming_scanMagnitude false [])
      | cons char rest =>
          rw [List.cons_append, scanNumber]
          · exact extendable_scanMagnitude false (char :: rest) more
          · rintro tail ⟨⟩
            exact unsigned rest rfl

/-! ## Skipped values -/

theorem extends_skipEscape (text more : List Char) :
    Extends (fun _ => True) (· ++ more) (skipEscape text) (skipEscape (text ++ more)) := by
  fun_cases skipEscape text with
  | case1 => trivial
  | case2 char rest meaning simple =>
      simp only [List.cons_append, skipEscape, simple]
      exact fun _ => rfl
  | case3 => trivial
  | case4 rest code afterCode scanned notSimple =>
      have further := (delimited_scanHexQuad rest more).eq_ok scanned trivial
      simp only [List.cons_append, skipEscape, notSimple, if_true, further]
      exact fun _ => rfl
  | case5 => trivial

theorem extends_skipText (text more : List Char) :
    Extends (fun _ => True) (· ++ more) (skipText text) (skipText (text ++ more)) := by
  fun_induction skipText text with
  | case1 => trivial
  | case2 rest =>
      rw [List.cons_append, skipText, if_pos rfl]
      exact fun _ => rfl
  | case3 => trivial
  | case4 rest afterEscape escaped _ ih =>
      have escapedFurther := (extends_skipEscape rest more).eq_ok escaped trivial
      rw [List.cons_append, skipText_backslash escapedFurther]
      exact ih
  | case5 => trivial
  | case6 char rest notQuote notBackslash notControl ih =>
      rw [List.cons_append, skipText, if_neg notQuote, if_neg notBackslash, if_neg notControl]
      exact ih

theorem extends_skipExponent (text more : List Char) :
    Extends (· ≠ []) (· ++ more) (skipExponent text) (skipExponent (text ++ more)) := by
  cases text with
  | nil => exact Consumes.extends_nil (consumes_skipExponent [])
  | cons sign rest =>
      have unsigned := dropSign_append (List.cons_ne_nil sign rest) more
      by_cases left : dropSign (sign :: rest) = []
      · simp only [skipExponent, left]
        trivial
      · simp only [skipExponent, unsigned, List.head?_append_of_ne_nil _ left]
        refine .ite (fun _ further => ?_) fun _ => trivial
        rw [(span_append further more).2]

theorem extends_skipOptionalExponent (text more : List Char) :
    Extends (· ≠ []) (· ++ more) (skipOptionalExponent text)
      (skipOptionalExponent (text ++ more)) := by
  cases text with
  | nil => exact Consumes.extends_nil (consumes_skipOptionalExponent [])
  | cons char rest => exact .ite (fun _ => extends_skipExponent rest more) fun _ _ => rfl

theorem extends_skipFraction (text more : List Char) :
    Extends (· ≠ []) (· ++ more) (skipFraction text) (skipFraction (text ++ more)) := by
  fun_cases skipFraction text with
  | case1 rest digits =>
      by_cases left : rest.dropWhile isDigit = []
      · rw [left]
        exact Consumes.extends_nil (consumes_skipOptionalExponent [])
      · have nonempty : rest ≠ [] := by
          rintro rfl
          exact left rfl
        have digitsFurther : (rest ++ more).head?.any isDigit := by
          rwa [List.head?_append_of_ne_nil rest nonempty]
        rw [List.cons_append, skipFraction, if_pos digitsFurther, (span_append left more).2]
        exact extends_skipOptionalExponent _ more
  | case2 => trivial
  | case3 text unpointed =>
      cases text with
      | nil => exact Consumes.extends_nil (consumes_skipOptionalExponent [])
      | cons char rest =>
          rw [List.cons_append, skipFraction]
          · exact extends_skipOptionalExponent (char :: rest) more
          · rintro tail ⟨⟩
            exact unpointed rest rfl

theorem extends_skipMagnitude (text more : List Char) :
    Extends (· ≠ []) (· ++ more) (skipMagnitude text) (skipMagnitude (text ++ more)) := by
  fun_cases skipMagnitude text with
  | case1 => trivial
  | case2 => trivial
  | case3 rest alone =>
      by_cases left : rest = []
      · subst left
        exact Consumes.extends_nil (consumes_skipFraction [])
      · have aloneFurther : ¬(rest ++ more).head?.any isDigit := by
          rwa [List.head?_append_of_ne_nil rest left]
        rw [List.cons_append, skipMagnitude, if_pos rfl, if_neg aloneFurther]
        exact extends_skipFraction rest more
  | case4 char rest notZero digit =>
      rw [List.cons_append, skipMagnitude, if_neg notZero, if_pos digit]
      by_cases left : rest.dropWhile isDigit = []
      · rw [left]
        exact Consumes.extends_nil (consumes_skipFraction [])
      · rw [(span_append left more).2]
        exact extends_skipFraction _ more
  | case5 => trivial

theorem extends_skipScalar (text more : List Char) :
    Extends (· ≠ []) (· ++ more) (skipScalar text) (skipScalar (text ++ more)) := by
  have word (letters rest : List Char) : Extends (· ≠ []) (· ++ more) (scanLetters letters rest)
      (scanLetters letters (rest ++ more)) :=
    (extends_scanLetters letters rest more).weaken fun _ _ => trivial
  cases text with
  | nil => trivial
  | cons char rest =>
      refine .ite (fun _ => word _ rest) fun _ => ?_
      refine .ite (fun _ => word _ rest) fun _ => ?_
      refine .ite (fun _ => word _ rest) fun _ => ?_
      refine .ite (fun _ => (extends_skipText rest more).weaken fun _ _ => trivial) fun _ => ?_
      refine .ite (fun _ => extends_skipMagnitude rest more) fun _ => ?_
      exact .ite (fun _ => extends_skipMagnitude (char :: rest) more) fun _ => trivial

theorem skipSpace_append_eq_cons {text rest : List Char} {first : Char}
    (start : skipSpace text = first :: rest) (more : List Char) :
    skipSpace (text ++ more) = first :: (rest ++ more) := by
  rw [skipSpace_append_of_starts start, start, List.cons_append]

theorem extends_scanColon (text more : List Char) :
    Extends (fun _ => True) (· ++ more) (scanColon text) (scanColon (text ++ more)) := by
  fun_cases scanColon text with
  | case1 => trivial
  | case2 rest start =>
      simp only [scanColon, skipSpace_append_eq_cons start]
      exact fun _ => rfl
  | case3 => trivial

theorem extends_skipKey (text more : List Char) :
    Extends (fun _ => True) (· ++ more) (skipKey text) (skipKey (text ++ more)) := by
  fun_cases skipKey text with
  | case1 => trivial
  | case2 => trivial
  | case3 rest start afterKey skipped =>
      have further := (extends_skipText rest more).eq_ok skipped trivial
      simp only [skipKey, skipSpace_append_eq_cons start, further]
      exact extends_scanColon afterKey more
  | case4 => trivial

theorem extends_skipToValue (bracket : Bracket) (text more : List Char) :
    Extends (fun _ => True) (· ++ more) (skipToValue bracket text)
      (skipToValue bracket (text ++ more)) := by
  cases bracket with
  | list => exact fun _ => rfl
  | object => exact extends_skipKey text more

theorem extends_skipOpen (brackets : List Bracket) (valueNext : Bool) (text more : List Char) :
    Extends (· ≠ []) (· ++ more) (skipOpen brackets valueNext text)
      (skipOpen brackets valueNext (text ++ more)) := by
  fun_induction skipOpen brackets valueNext text with
  | case1 => trivial
  | case2 => trivial
  | case3 brackets text char rest start plain afterScalar skipped ih =>
      -- A number may go on behind the text, unless the brackets around it are closed there.
      refine .intro fun after eq left => ?_
      have nonempty := ne_nil_of_suffix ((consumes_skipOpen brackets false _).suffix eq) left
      have further := (extends_skipScalar (char :: rest) more).eq_ok skipped nonempty
      rw [skipOpen_scalar (skipSpace_append_eq_cons start more) plain further]
      exact ih.eq_ok eq left
  | case4 => trivial
  | case5 brackets text char rest start bracket opens afterNext inner ih =>
      rw [skipOpen_bracket (skipSpace_append_eq_cons start more) opens
        (skipSpace_append_eq_cons inner more), if_pos rfl]
      exact ih
  | case6 => trivial
  | case7 brackets text char rest start bracket opens next afterNext inner notClosing ready skipped
      ih =>
      have further := (extends_skipToValue bracket (next :: afterNext) more).eq_ok skipped trivial
      rw [List.cons_append] at further
      rw [skipOpen_bracket (skipSpace_append_eq_cons start more) opens
        (skipSpace_append_eq_cons inner more), if_neg notClosing, further]
      exact ih
  | case8 text =>
      rw [skipOpen]
      exact fun _ => rfl
  | case9 => trivial
  | case10 => trivial
  | case11 text bracket brackets rest ready skipped start ih =>
      have further := (extends_skipToValue bracket rest more).eq_ok skipped trivial
      rw [skipOpen_comma (skipSpace_append_eq_cons start more), further]
      exact ih
  | case12 text bracket brackets rest start _ ih =>
      rw [skipOpen_closing (skipSpace_append_eq_cons start more)]
      exact ih
  | case13 => trivial

end Sourcewright.Document
