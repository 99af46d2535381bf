import Sourcewright.Document.Skip

/-!
# What scanners leave

A scanner takes characters off the front of a text, so what it leaves is an end of the text.
Where it fails, it counts the bytes that follow the fault in what it was left with.  The count
never exceeds the bytes of the whole text, so it gives a place in the text.

The law is stated once for results of all kinds, as `Consumes`, with what is left as a
function of the result, and it is closed under scanning one thing behind the other.
-/

namespace Sourcewright.Document

theorem byteLength_cons (char : Char) (text : List Char) :
    byteLength (char :: text) = char.utf8Size + byteLength text :=
  rfl

theorem byteLength_append (first second : List Char) :
    byteLength (first ++ second) = byteLength first + byteLength second := by
  induction first with
  | nil => exact (Nat.zero_add _).symm
  | cons char first ih =>
      rw [List.cons_append, byteLength_cons, ih, byteLength_cons, Nat.add_assoc]

theorem byteLength_le_of_suffix {rest text : List Char} (suffix : rest <:+ text) :
    byteLength rest ≤ byteLength text := by
  obtain ⟨before, rfl⟩ := suffix
  rw [byteLength_append]
  omega

/-- A fault lies in a text: it is followed by no more than the text, or it floats in front of
an end of the text. -/
inductive Fault.Within (text : List Char) : Fault → Prop
  | placed {cause : Cause} {remaining : Nat} (bounded : remaining ≤ byteLength text) :
      Within text (.placed cause remaining)
  | floating {cause : Cause} {rest : List Char} (suffix : rest <:+ text) :
      Within text (.floating cause rest)

/-- What is left by a result is an end of the text, or the fault lies in the text. -/
def Consumes {α : Type} (left : α → List Char) (text : List Char) : Except Fault α → Prop
  | .ok result => left result <:+ text
  | .error fault => fault.Within text

/-- A reader leaves an end of every text that it is given. -/
def Consuming {α : Type} (read : Reader α) : Prop :=
  ∀ text, Consumes Prod.snd text (read text)

section Laws

variable {α β : Type} {left : α → List Char} {leftLater : β → List Char}
  {text rest : List Char}

theorem within_faultHere (cause : Cause) (suffix : rest <:+ text) :
    (faultHere cause rest).Within text :=
  .placed (byteLength_le_of_suffix suffix)

theorem within_faultAhead (cause : Cause) (suffix : rest <:+ text) :
    (faultAhead cause rest).Within text :=
  .placed (Nat.le_trans (Nat.sub_le _ _) (byteLength_le_of_suffix suffix))

theorem Fault.Within.mono {fault : Fault} (within : fault.Within rest) (suffix : rest <:+ text) :
    fault.Within text := by
  cases within with
  | placed bounded => exact .placed (Nat.le_trans bounded (byteLength_le_of_suffix suffix))
  | floating further => exact .floating (further.trans suffix)

theorem Consumes.suffix {result : Except Fault α} {value : α}
    (consumes : Consumes left text result) (eq : result = .ok value) : left value <:+ text := by
  rw [eq] at consumes
  exact consumes

theorem Consumes.within {result : Except Fault α} {fault : Fault}
    (consumes : Consumes left text result) (eq : result = .error fault) : fault.Within text := by
  rw [eq] at consumes
  exact consumes

theorem Consumes.mono {result : Except Fault α} (consumes : Consumes left rest result)
    (suffix : rest <:+ text) : Consumes left text result := by
  cases result with
  | ok result => exact List.IsSuffix.trans consumes suffix
  | error fault => exact Fault.Within.mono consumes suffix

theorem Consumes.bind {result : Except Fault α} {next : α → Except Fault β}
    (consumes : Consumes left text result)
    (further : ∀ first, Consumes leftLater (left first) (next first)) :
    Consumes leftLater text (result >>= next) := by
  cases result with
  | ok first => exact (further first).mono consumes
  | error fault => exact consumes

theorem Consumes.keep {result : Except Fault (α × List Char)}
    {next : α × List Char → Except Fault (β × List Char)}
    (consumes : Consumes Prod.snd text result)
    (kept : ∀ value rest, ∃ other, next (value, rest) = .ok (other, rest)) :
    Consumes Prod.snd text (result >>= next) := by
  refine consumes.bind ?_
  rintro ⟨value, rest⟩
  obtain ⟨other, eq⟩ := kept value rest
  rw [eq]
  exact List.suffix_refl rest

theorem Consumes.ite {condition : Prop} [Decidable condition] {result other : Except Fault α}
    (consumes : condition → Consumes left text result)
    (otherwise : ¬condition → Consumes left text other) :
    Consumes left text (if condition then result else other) := by
  by_cases holds : condition
  · rw [if_pos holds]
    exact consumes holds
  · rw [if_neg holds]
    exact otherwise holds

theorem suffix_skipSpace (text : List Char) : skipSpace text <:+ text :=
  List.dropWhile_suffix isSpace

theorem suffix_of_skipSpace_eq_cons {char : Char} (split : skipSpace text = char :: rest) :
    char :: rest <:+ text :=
  split ▸ suffix_skipSpace text

theorem suffix_behind {char : Char} (split : skipSpace text = char :: rest) : rest <:+ text :=
  (List.suffix_cons char rest).trans (suffix_of_skipSpace_eq_cons split)

end Laws

/-! ## Texts -/

theorem consumes_scanLetters (letters text : List Char) :
    Consumes id text (scanLetters letters text) := by
  fun_induction scanLetters letters text with
  | case1 text => exact List.suffix_refl text
  | case2 => exact within_faultHere _ (List.suffix_refl [])
  | case3 letters char rest ih => exact ih.mono (List.suffix_cons char rest)
  | case4 => exact within_faultAhead _ (List.suffix_refl _)

theorem within_hexFault (text : List Char) : (hexFault text).Within text := by
  fun_cases hexFault text with
  | case1 short => exact .placed (Nat.zero_le _)
  | case2 long => exact .placed (Nat.sub_le _ _)

theorem consuming_scanHexQuad : Consuming scanHexQuad := by
  intro text
  fun_cases scanHexQuad text with
  | case1 first second third fourth rest value digits =>
      exact List.suffix_append [first, second, third, fourth] rest
  | case2 => exact within_hexFault _
  | case3 => exact within_hexFault _

theorem consumes_scanSurrogateMark (mark : Char) (text : List Char) :
    Consumes id text (scanSurrogateMark mark text) := by
  fun_cases scanSurrogateMark mark text with
  | case1 => exact within_faultHere _ (List.suffix_refl [])
  | case2 rest => exact List.suffix_cons mark rest
  | case3 => exact within_faultAhead _ (List.suffix_refl _)

theorem consuming_scanCodeEscape : Consuming scanCodeEscape := by
  intro text
  refine (consuming_scanHexQuad text).bind ?_
  rintro ⟨code, rest⟩
  refine .ite (fun _ => within_faultHere _ (List.suffix_refl _)) fun _ => ?_
  refine .ite (fun _ => ?_) fun _ => List.suffix_refl _
  refine (consumes_scanSurrogateMark '\\' rest).bind fun afterBackslash => ?_
  refine (consumes_scanSurrogateMark 'u' afterBackslash).bind fun afterLetter => ?_
  refine (consuming_scanHexQuad afterLetter).bind ?_
  rintro ⟨second, afterSecond⟩
  exact .ite (fun _ => List.suffix_refl _) fun _ => within_faultHere _ (List.suffix_refl _)

theorem consuming_scanEscape : Consuming scanEscape := by
  intro text
  fun_cases scanEscape text with
  | case1 => exact within_faultHere _ (List.suffix_refl [])
  | case2 char rest meaning simple => exact List.suffix_cons char rest
  | case3 rest => exact (consuming_scanCodeEscape rest).mono (List.suffix_cons 'u' rest)
  | case4 => exact within_faultAhead _ (List.suffix_refl _)

theorem consuming_scanText : Consuming scanText := by
  intro text
  fun_induction scanText text with
  | case1 => exact within_faultHere _ (List.suffix_refl [])
  | case2 rest => exact List.suffix_cons _ rest
  | case3 rest fault failed =>
      have within := (consuming_scanEscape rest).within failed
      exact within.mono (List.suffix_cons _ rest)
  | case4 rest meaning afterEscape escaped fault failed _ ih =>
      have shorter := (consuming_scanEscape rest).suffix escaped
      have within := ih.within failed
      exact within.mono (shorter.trans (List.suffix_cons _ rest))
  | case5 rest meaning afterEscape escaped chars afterText scanned _ ih =>
      have shorter := (consuming_scanEscape rest).suffix escaped
      have further := ih.suffix scanned
      exact (further.trans shorter).trans (List.suffix_cons _ rest)
  | case6 => exact within_faultAhead _ (List.suffix_refl _)
  | case7 char rest _ _ _ fault failed ih =>
      exact (ih.within failed).mono (List.suffix_cons char rest)
  | case8 char rest _ _ _ chars afterText scanned ih =>
      exact (ih.suffix scanned).trans (List.suffix_cons char rest)

/-! ## Numbers -/

theorem consumes_floatOfParts (negative : Bool) (significand : Nat) (exponent : Int)
    (rest : List Char) :
    Consumes Prod.snd rest (floatOfParts negative significand exponent rest) := by
  fun_cases floatOfParts negative significand exponent rest with
  | case1 value scaled => exact List.suffix_refl rest
  | case2 => exact within_faultHere _ (List.suffix_refl rest)

theorem consuming_scanExponentDigits (negative : Bool) (significand : Nat) (start : Int)
    (negativeExponent : Bool) (value : Nat) :
    Consuming (scanExponentDigits negative significand start negativeExponent value) := by
  intro text
  fun_induction scanExponentDigits negative significand start negativeExponent value text with
  | case1 => exact consumes_floatOfParts ..
  | case2 value char rest isDigit larger fits ih => exact ih.mono (List.suffix_cons char rest)
  | case3 value char rest => exact within_faultHere _ (List.suffix_cons char rest)
  | case4 value char rest =>
      exact (List.dropWhile_suffix isDigit).trans (List.suffix_cons char rest)
  | case5 => exact consumes_floatOfParts ..

theorem suffix_dropSign (text : List Char) : dropSign text <:+ text := by
  fun_cases dropSign text with
  | case1 rest => exact List.suffix_cons '+' rest
  | case2 rest => exact List.suffix_cons '-' rest
  | case3 => exact List.suffix_refl text

theorem consuming_scanExponent (negative : Bool) (significand : Nat) (start : Int) :
    Consuming (scanExponent negative significand start) := by
  intro text
  have unsigned := suffix_dropSign text
  fun_cases scanExponent negative significand start text with
  | case1 => exact within_faultHere _ List.nil_suffix
  | case2 _ char rest eq =>
      rw [eq] at unsigned
      exact (consuming_scanExponentDigits ..).mono ((List.suffix_cons char rest).trans unsigned)
  | case3 char rest eq =>
      rw [eq] at unsigned
      exact within_faultAhead _ unsigned

theorem consuming_finishFloat (negative : Bool) (significand : Nat) (exponent : Int) :
    Consuming (finishFloat negative significand exponent) := by
  intro text
  fun_cases finishFloat negative significand exponent text with
  | case1 => exact consumes_floatOfParts ..
  | case2 char rest => exact (consuming_scanExponent ..).mono (List.suffix_cons char rest)
  | case3 => exact consumes_floatOfParts ..

theorem consuming_scanFraction (negative : Bool) (significand : Nat) (exponent : Int) :
    Consuming (scanFraction negative significand exponent) := by
  intro text
  have shorter : text.dropWhile isDigit <:+ text := List.dropWhile_suffix isDigit
  exact .ite (fun _ => within_faultAhead _ shorter)
    fun _ => (consuming_finishFloat ..).mono shorter

theorem finishWhole_of_unpointed (negative : Bool) (digits : List Char) {text : List Char}
    (unpointed : ∀ rest, text ≠ '.' :: rest) :
    finishWhole negative digits text =
      if text.head?.any isExponentMark then
        scanExponent negative (absorbDigits 0 digits).1 (absorbDigits 0 digits).2.length
          (text.drop 1)
      else if (absorbDigits 0 digits).2.isEmpty then
        .ok (integerOfParts negative (absorbDigits 0 digits).1, text)
      else
        floatOfParts negative (absorbDigits 0 digits).1 (absorbDigits 0 digits).2.length text := by
  rw [finishWhole]
  exact unpointed

theorem consuming_finishWhole (negative : Bool) (digits : List Char) :
    Consuming (finishWhole negative digits) := by
  intro text
  by_cases point : ∃ rest, text = '.' :: rest
  · obtain ⟨rest, rfl⟩ := point
    exact (consuming_scanFraction ..).mono (List.suffix_cons '.' rest)
  · rw [finishWhole_of_unpointed negative digits (not_exists.mp point)]
    refine .ite (fun _ => (consuming_scanExponent ..).mono (List.drop_suffix 1 text)) fun _ => ?_
    exact .ite (fun _ => List.suffix_refl text) fun _ => consumes_floatOfParts ..

theorem consuming_scanMagnitude (negative : Bool) : Consuming (scanMagnitude negative) := by
  intro text
  fun_cases scanMagnitude negative text with
  | case1 => exact within_faultHere _ (List.suffix_refl [])
  | case2 rest => exact within_faultAhead _ (List.suffix_cons '0' rest)
  | case3 rest => exact (consuming_finishWhole ..).mono (List.suffix_cons '0' rest)
  | case4 char rest =>
      have behind := List.suffix_cons char rest
      exact (consuming_finishWhole ..).mono ((List.dropWhile_suffix isDigit).trans behind)
  | case5 => exact within_faultAhead _ (List.suffix_refl _)

theorem consuming_scanNumber : Consuming scanNumber := by
  intro text
  fun_cases scanNumber text with
  | case1 rest => exact (consuming_scanMagnitude true rest).mono (List.suffix_cons '-' rest)
  | case2 => exact consuming_scanMagnitude false text

/-! ## Skipped values -/

theorem consumes_skipEscape (text : List Char) : Consumes id text (skipEscape text) := by
  fun_cases skipEscape text with
  | case1 => exact within_faultHere _ (List.suffix_refl [])
  | case2 char rest => exact List.suffix_cons char rest
  | case3 rest fault failed =>
      have within := (consuming_scanHexQuad rest).within failed
      exact within.mono (List.suffix_cons 'u' rest)
  | case4 rest code afterCode scanned =>
      have shorter := (consuming_scanHexQuad rest).suffix scanned
      exact List.IsSuffix.trans shorter (List.suffix_cons 'u' rest)
  | case5 => exact within_faultAhead _ (List.suffix_refl _)

theorem consumes_skipText (text : List Char) : Consumes id text (skipText text) := by
  fun_induction skipText text with
  | case1 => exact within_faultHere _ (List.suffix_refl [])
  | case2 rest => exact List.suffix_cons _ rest
  | case3 rest fault failed =>
      have within := (consumes_skipEscape rest).within failed
      exact within.mono (List.suffix_cons _ rest)
  | case4 rest afterEscape escaped _ ih =>
      have shorter := (consumes_skipEscape rest).suffix escaped
      exact ih.mono (shorter.trans (List.suffix_cons _ rest))
  | case5 => exact within_faultHere _ (List.suffix_refl _)
  | case6 char rest _ _ _ ih => exact ih.mono (List.suffix_cons char rest)

theorem consumes_skipExponent (text : List Char) : Consumes id text (skipExponent text) :=
  .ite (fun _ => (List.dropWhile_suffix isDigit).trans (suffix_dropSign text))
    fun _ => within_faultAhead _ (suffix_dropSign text)

theorem consumes_skipOptionalExponent (text : List Char) :
    Consumes id text (skipOptionalExponent text) := by
  fun_cases skipOptionalExponent text with
  | case1 => exact List.suffix_refl []
  | case2 char rest => exact (consumes_skipExponent rest).mono (List.suffix_cons char rest)
  | case3 => exact List.suffix_refl _

theorem consumes_skipFraction (text : List Char) : Consumes id text (skipFraction text) := by
  fun_cases skipFraction text with
  | case1 rest =>
      have behind := List.suffix_cons '.' rest
      exact (consumes_skipOptionalExponent _).mono ((List.dropWhile_suffix isDigit).trans behind)
  | case2 rest => exact within_faultAhead _ (List.suffix_cons '.' rest)
  | case3 => exact consumes_skipOptionalExponent text

theorem consumes_skipMagnitude (text : List Char) : Consumes id text (skipMagnitude text) := by
  fun_cases skipMagnitude text with
  | case1 => exact within_faultAhead _ (List.suffix_refl [])
  | case2 rest => exact within_faultAhead _ (List.suffix_cons '0' rest)
  | case3 rest => exact (consumes_skipFraction rest).mono (List.suffix_cons '0' rest)
  | case4 char rest =>
      have behind := List.suffix_cons char rest
      exact (consumes_skipFraction _).mono ((List.dropWhile_suffix isDigit).trans behind)
  | case5 => exact within_faultAhead _ (List.suffix_refl _)

theorem consumes_skipScalar (text : List Char) : Consumes id text (skipScalar text) := by
  have word (letters rest : List Char) (first : Char) :
      Consumes id (first :: rest) (scanLetters letters rest) :=
    (consumes_scanLetters letters rest).mono (List.suffix_cons first rest)
  fun_cases skipScalar text with
  | case1 => exact within_faultAhead _ (List.suffix_refl [])
  | case2 rest => exact word _ rest 'n'
  | case3 rest => exact word _ rest 't'
  | case4 rest => exact word _ rest 'f'
  | case5 rest => exact (consumes_skipText rest).mono (List.suffix_cons '"' rest)
  | case6 rest => exact (consumes_skipMagnitude rest).mono (List.suffix_cons '-' rest)
  | case7 digit rest => exact consumes_skipMagnitude (digit :: rest)
  | case8 => exact within_faultAhead _ (List.suffix_refl _)

theorem consumes_scanColon (text : List Char) : Consumes id text (scanColon text) := by
  fun_cases scanColon text with
  | case1 => exact within_faultAhead _ List.nil_suffix
  | case2 rest start => exact suffix_behind start
  | case3 => exact within_faultAhead _ (suffix_skipSpace text)

theorem consumes_skipKey (text : List Char) : Consumes id text (skipKey text) := by
  fun_cases skipKey text with
  | case1 => exact within_faultAhead _ List.nil_suffix
  | case2 rest start fault failed =>
      exact ((consumes_skipText rest).within failed).mono (suffix_behind start)
  | case3 rest start afterKey skipped =>
      have shorter := (consumes_skipText rest).suffix skipped
      exact (consumes_scanColon afterKey).mono (shorter.trans (suffix_behind start))
  | case4 => exact within_faultAhead _ (suffix_skipSpace text)

theorem consumes_skipToValue (bracket : Bracket) (text : List Char) :
    Consumes id text (skipToValue bracket text) := by
  cases bracket with
  | list => exact List.suffix_refl text
  | object => exact consumes_skipKey text

theorem consumes_skipOpen (brackets : List Bracket) (valueNext : Bool) (text : List Char) :
    Consumes id text (skipOpen brackets valueNext text) := by
  fun_induction skipOpen brackets valueNext text with
  | case1 => exact within_faultAhead _ List.nil_suffix
  | case2 _ text char rest start _ fault failed =>
      have within := (consumes_skipScalar (char :: rest)).within failed
      exact within.mono (suffix_of_skipSpace_eq_cons start)
  | case3 _ text char rest start _ afterScalar skipped ih =>
      have shorter := (consumes_skipScalar (char :: rest)).suffix skipped
      exact ih.mono (shorter.trans (suffix_of_skipSpace_eq_cons start))
  | case4 => exact within_faultAhead _ List.nil_suffix
  | case5 _ text char rest start bracket _ afterNext inner ih =>
      exact ih.mono ((suffix_behind inner).trans (suffix_behind start))
  | case6 _ text char rest start bracket _ next afterNext inner _ fault failed =>
      have within := (consumes_skipToValue bracket (next :: afterNext)).within failed
      exact within.mono ((suffix_of_skipSpace_eq_cons inner).trans (suffix_behind start))
  | case7 _ text char rest start bracket _ next afterNext inner _ ready skipped ih =>
      have shorter := (consumes_skipToValue bracket (next :: afterNext)).suffix skipped
      have opened := (suffix_of_skipSpace_eq_cons inner).trans (suffix_behind start)
      exact ih.mono (shorter.trans opened)
  | case8 text => exact List.suffix_refl text
  | case9 => exact within_faultAhead _ List.nil_suffix
  | case10 text bracket _ rest fault failed start =>
      have within := (consumes_skipToValue bracket rest).within failed
      exact within.mono (suffix_behind start)
  | case11 text bracket _ rest ready skipped start ih =>
      have shorter := (consumes_skipToValue bracket rest).suffix skipped
      exact ih.mono (shorter.trans (suffix_behind start))
  | case12 text bracket _ rest start _ ih => exact ih.mono (suffix_behind start)
  | case13 text bracket _ char rest start =>
      exact within_faultAhead _ (suffix_of_skipSpace_eq_cons start)

end Sourcewright.Document
