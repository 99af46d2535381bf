import Mathlib.Tactic.SplitIfs
import Sourcewright.Document.Scan
import Sourcewright.Target

/-!
# What a compiler sees of a text

A compiler does not see the characters of a text as they stand there.  Both targets work on
code units, of eight bits in C++ and of sixteen bits in Java.  C++ joins two lines where a
backslash stands directly in front of a line feed.  Java translates escapes that give a code
unit by its hexadecimal digits, everywhere in a text and before anything else is looked at; a
backslash starts such an escape if the number of backslashes directly in front of it is even.
-/

namespace Sourcewright

/-- What a compiler sees: a code unit, or an escape that stands for none. -/
inductive Symbol where
  | unit (code : Nat)
  | malformed
deriving DecidableEq

/-- The UTF-16 code units of a character. -/
def utf16 (char : Char) : List Nat :=
  if char.toNat < 0x10000 then
    [char.toNat]
  else
    [0xd800 + (char.toNat - 0x10000) / 0x400, 0xdc00 + (char.toNat - 0x10000) % 0x400]

namespace Target

def encode : Target → Char → List Nat
  | .cpp, char => (String.utf8EncodeChar char).map UInt8.toNat
  | .java, char => utf16 char

def units (target : Target) (text : List Char) : List Nat :=
  text.flatMap target.encode

/-- A text in which nothing is translated. -/
def plain (target : Target) (text : List Char) : List Symbol :=
  (target.units text).map .unit

end Target

/-- A text with its lines joined where a backslash stands in front of a line feed. -/
def joinLines : List Char → List Char
  | '\\' :: '\n' :: rest => joinLines rest
  | char :: rest => char :: joinLines rest
  | [] => []

/-- The code unit that four hexadecimal digits stand for, and what follows them. -/
def hexUnit : List Char → Symbol × List Char
  | first :: second :: third :: fourth :: after =>
    match Document.hexQuad? first second third fourth with
    | some code => (.unit code, after)
    | none => (.malformed, first :: second :: third :: fourth :: after)
  | few => (.malformed, few)

/-- The escape behind a backslash, which starts with one or more letters `u`, and what
follows it. -/
def unicodeEscape? : List Char → Option (Symbol × List Char)
  | 'u' :: rest => some (hexUnit (rest.dropWhile (· == 'u')))
  | _ => none

theorem hexUnit_length (text : List Char) : (hexUnit text).2.length ≤ text.length := by
  fun_cases hexUnit text with
  | case1 first second third fourth after code digits =>
      simp only [List.length_cons]
      omega
  | case2 => exact Nat.le_refl _
  | case3 => exact Nat.le_refl _

theorem unicodeEscape?_length {text after : List Char} {symbol : Symbol}
    (escape : unicodeEscape? text = some (symbol, after)) : after.length < text.length := by
  revert escape
  fun_cases unicodeEscape? text with
  | case1 rest =>
      intro escape
      have digits := hexUnit_length (rest.dropWhile (· == 'u'))
      have letters := (List.dropWhile_sublist (l := rest) (· == 'u')).length_le
      rw [Option.some.inj escape] at digits
      exact Nat.lt_succ_of_le (Nat.le_trans digits letters)
  | case2 => rintro ⟨⟩

/-- A text with its escapes translated, given whether the number of backslashes directly in
front of it is odd. -/
def translateFrom (odd : Bool) (text : List Char) : List Symbol :=
  match text with
  | [] => []
  | char :: rest =>
    if char = '\\' then
      if odd then
        .unit '\\'.toNat :: translateFrom false rest
      else
        match _escape : unicodeEscape? rest with
        | some (symbol, after) => symbol :: translateFrom false after
        | none => .unit '\\'.toNat :: translateFrom true rest
    else
      Target.java.plain [char] ++ translateFrom false rest
termination_by text.length
decreasing_by
  · simp
  · have shorter := unicodeEscape?_length _escape
    rw [List.length_cons]
    omega
  · simp
  · simp

/-- What a compiler for the target sees of a text. -/
def Target.symbols : Target → List Char → List Symbol
  | .cpp, text => Target.cpp.plain (joinLines text)
  | .java, text => translateFrom false text

@[simp]
theorem Target.symbols_nil (target : Target) : target.symbols [] = [] := by
  cases target with
  | cpp => rfl
  | java => rw [symbols, translateFrom]

/-! ## Code units -/

namespace Target

theorem encode_of_ascii (target : Target) {char : Char} (ascii : char.toNat < 128) :
    target.encode char = [char.toNat] := by
  cases target with
  | cpp =>
      have size : char.utf8Size = 1 := by
        rw [Char.utf8Size_eq_one_iff, UInt32.le_iff_toNat_le]
        exact Nat.le_of_lt_succ ascii
      rw [encode, String.utf8EncodeChar_eq_singleton size, List.map_singleton]
      have small : char.val.toNat < 256 := by
        have same : char.val.toNat = char.toNat := rfl
        omega
      rw [UInt32.toNat_toUInt8, Nat.mod_eq_of_lt small]
      rfl
  | java => rw [encode, utf16, if_pos (by omega)]

theorem le_of_mem_encode {target : Target} {char : Char} (beyond : 128 ≤ char.toNat) {code : Nat}
    (member : code ∈ target.encode char) : 128 ≤ code := by
  cases target with
  | cpp =>
      have same : char.val.toNat = char.toNat := rfl
      rw [encode, String.utf8EncodeChar] at member
      simp only [same] at member
      split_ifs at member
      · omega
      all_goals
        simp only [List.map_cons, List.map_nil, UInt8.toNat_ofNat', List.mem_cons,
          List.not_mem_nil, or_false] at member
        omega
  | java =>
      rw [encode, utf16] at member
      split_ifs at member
      · rw [List.mem_singleton] at member
        omega
      · simp only [List.mem_cons, List.not_mem_nil, or_false] at member
        omega

/-- No code unit of a character is taken for another character, if that one is ASCII. -/
theorem ne_of_mem_encode {target : Target} {char other : Char} (different : char ≠ other)
    (otherAscii : other.toNat < 128) {code : Nat} (member : code ∈ target.encode char) :
    code ≠ other.toNat := by
  by_cases ascii : char.toNat < 128
  · rw [target.encode_of_ascii ascii, List.mem_singleton] at member
    rw [member]
    exact fun same => different (Char.toNat_inj.mp same)
  · have beyond := le_of_mem_encode (Nat.le_of_not_lt ascii) member
    omega

@[simp]
theorem units_nil (target : Target) : target.units [] = [] :=
  rfl

theorem units_append (target : Target) (first second : List Char) :
    target.units (first ++ second) = target.units first ++ target.units second :=
  List.flatMap_append

@[simp]
theorem plain_nil (target : Target) : target.plain [] = [] :=
  rfl

theorem plain_append (target : Target) (first second : List Char) :
    target.plain (first ++ second) = target.plain first ++ target.plain second := by
  rw [plain, units_append, List.map_append, plain, plain]

theorem plain_cons (target : Target) (char : Char) (rest : List Char) :
    target.plain (char :: rest) = target.plain [char] ++ target.plain rest := by
  rw [← plain_append, List.singleton_append]

theorem plain_of_ascii (target : Target) {text : List Char}
    (ascii : ∀ char ∈ text, char.toNat < 128) :
    target.plain text = text.map fun char => .unit char.toNat := by
  induction text with
  | nil => rfl
  | cons char text ih =>
      obtain ⟨first, further⟩ := List.forall_mem_cons.mp ascii
      rw [plain_cons, ih further, List.map_cons, plain, units, List.flatMap_singleton,
        target.encode_of_ascii first]
      rfl

end Target

theorem utf16_prefix_free {first second : Char} {rest others : List Nat}
    (same : utf16 first ++ rest = utf16 second ++ others) : first = second ∧ rest = others := by
  have firstValid := first.valid
  have secondValid := second.valid
  simp only [UInt32.isValidChar, Nat.isValidChar] at firstValid secondValid
  have firstCode : first.val.toNat = first.toNat := rfl
  have secondCode : second.val.toNat = second.toNat := rfl
  rw [utf16, utf16] at same
  rw [← Char.toNat_inj]
  split_ifs at same
  all_goals
    simp only [List.cons_append, List.nil_append, List.cons.injEq] at same
  · exact same
  · omega
  · omega
  · exact ⟨by omega, same.2.2⟩

/-- The code units of a text are those of no other text. -/
theorem Target.units_injective (target : Target) : Function.Injective target.units := by
  intro first second same
  cases target with
  | cpp =>
      have bytes (text : List Char) :
          Target.cpp.units text = (text.flatMap String.utf8EncodeChar).map UInt8.toNat := by
        rw [units, List.map_flatMap]
        rfl
      rw [bytes, bytes] at same
      have encoded := (List.map_inj_right fun _ _ => UInt8.toNat_inj.mp).mp same
      have texts : String.ofList first = String.ofList second := by
        rw [← String.toByteArray_inj, String.toByteArray_ofList, String.toByteArray_ofList,
          List.utf8Encode, encoded, List.utf8Encode]
      rw [← String.toList_ofList (l := first), texts, String.toList_ofList]
  | java =>
      have nonempty (char : Char) (text : List Char) : Target.java.units (char :: text) ≠ [] := by
        intro empty
        rw [units, List.flatMap_cons, List.append_eq_nil_iff, encode, utf16] at empty
        split_ifs at empty <;> cases empty.1
      induction first generalizing second with
      | nil =>
          cases second with
          | nil => rfl
          | cons char second => exact absurd same.symm (nonempty char second)
      | cons char first ih =>
          cases second with
          | nil => exact absurd same (nonempty char first)
          | cons other second =>
              rw [units, units, List.flatMap_cons, List.flatMap_cons] at same
              obtain ⟨rfl, further⟩ := utf16_prefix_free same
              rw [ih further]

/-! ## Joined lines -/

/-- Two texts are joined line by line each on its own, unless a backslash at the end of the
first one meets a line feed. -/
theorem joinLines_append {first second : List Char}
    (apart : first.getLast? ≠ some '\\' ∨ second.head? ≠ some '\n') :
    joinLines (first ++ second) = joinLines first ++ joinLines second := by
  fun_induction joinLines first with
  | case1 rest ih =>
      rw [List.cons_append, List.cons_append, joinLines]
      refine ih (apart.imp_left fun closed ends => closed ?_)
      simp [List.getLast?_cons, ends]
  | case2 char rest notJoined ih =>
      rw [List.cons_append, joinLines, ih, List.cons_append]
      · refine apart.imp_left fun closed ends => closed ?_
        simp [List.getLast?_cons, ends]
      · rintro behind rfl starts
        cases rest with
        | nil =>
            rcases apart with closed | notFeed
            · exact closed rfl
            · exact notFeed (by rw [← List.nil_append second, starts]; rfl)
        | cons next rest =>
            rw [List.cons_append, List.cons.injEq] at starts
            exact notJoined rest rfl (by rw [starts.1])
  | case3 => rfl

theorem joinLines_of_unbroken {text : List Char} (unbroken : '\n' ∉ text) :
    joinLines text = text := by
  fun_induction joinLines text with
  | case1 rest => simp at unbroken
  | case2 char rest _ ih => rw [ih (List.not_mem_of_not_mem_cons unbroken)]
  | case3 => rfl

/-! ## Translated escapes -/

theorem translateFrom_cons {char : Char} (notBackslash : char ≠ '\\') (odd : Bool)
    (rest : List Char) :
    translateFrom odd (char :: rest) = Target.java.plain [char] ++ translateFrom false rest := by
  rw [translateFrom, if_neg notBackslash]

theorem translateFrom_second_backslash (rest : List Char) :
    translateFrom true ('\\' :: rest) = .unit '\\'.toNat :: translateFrom false rest := by
  rw [translateFrom, if_pos rfl, if_pos rfl]

theorem translateFrom_backslash {rest : List Char} (none : unicodeEscape? rest = none) :
    translateFrom false ('\\' :: rest) = .unit '\\'.toNat :: translateFrom true rest := by
  rw [translateFrom, if_pos rfl, if_neg Bool.false_ne_true]
  split
  case h_1 symbol after found => cases none.symm.trans found
  case h_2 => rfl

theorem translateFrom_escape {rest after : List Char} {symbol : Symbol}
    (escape : unicodeEscape? rest = some (symbol, after)) :
    translateFrom false ('\\' :: rest) = symbol :: translateFrom false after := by
  rw [translateFrom, if_pos rfl, if_neg Bool.false_ne_true]
  split
  case h_1 found behind same =>
    cases escape.symm.trans same
    rfl
  case h_2 missing => cases escape.symm.trans missing

theorem unicodeEscape?_of_ne {char : Char} (different : char ≠ 'u') (rest : List Char) :
    unicodeEscape? (char :: rest) = none := by
  rw [unicodeEscape?]
  rintro behind ⟨⟩
  exact different rfl

/-- Whether a character ends what stands in front of it, as no escape goes on with it. -/
def endsEscape (char : Char) : Bool :=
  char != '\\' && char != 'u' && Document.hexValue? char == none

theorem hexUnit_of_mem_take {mark : Char} (notDigit : Document.hexValue? mark = none)
    {text : List Char} (early : mark ∈ text.take 4) : hexUnit text = (.malformed, text) := by
  revert early
  fun_cases hexUnit text with
  | case1 first second third fourth after code digits =>
      intro early
      have missing : Document.hexQuad? first second third fourth = none := by
        simp only [List.take_succ_cons, List.take_zero, List.mem_cons, List.not_mem_nil,
          or_false] at early
        rcases early with rfl | rfl | rfl | rfl <;> simp [Document.hexQuad?, notDigit]
      cases missing.symm.trans digits
  | case2 => exact fun _ => rfl
  | case3 => exact fun _ => rfl

theorem hexUnit_append {mark : Char} (notDigit : Document.hexValue? mark = none)
    (text rest : List Char) :
    hexUnit (text ++ mark :: rest) = ((hexUnit text).1, (hexUnit text).2 ++ mark :: rest) := by
  -- A mark among the four characters that should be digits is what makes them malformed.
  have early (few : text.length < 4) :
      hexUnit (text ++ mark :: rest) = (.malformed, text ++ mark :: rest) := by
    refine hexUnit_of_mem_take notDigit (List.mem_take_iff_getElem.mpr ⟨text.length, ?_, ?_⟩)
    · simp only [List.length_append, List.length_cons]
      omega
    · simp
  match text with
  | [] | [_] | [_, _] | [_, _, _] => exact early (by simp)
  | first :: second :: third :: fourth :: after =>
    simp only [List.cons_append, hexUnit]
    cases Document.hexQuad? first second third fourth <;> rfl

theorem unicodeEscape?_append {mark : Char} (ends : endsEscape mark = true)
    (text rest : List Char) :
    unicodeEscape? (text ++ mark :: rest) =
      (unicodeEscape? text).map fun (symbol, after) => (symbol, after ++ mark :: rest) := by
  simp only [endsEscape, Bool.and_eq_true, bne_iff_ne, beq_iff_eq] at ends
  obtain ⟨⟨-, notLetter⟩, notDigit⟩ := ends
  cases text with
  | nil => exact unicodeEscape?_of_ne notLetter rest
  | cons char text =>
      by_cases letter : char = 'u'
      · subst letter
        have letters : (text ++ mark :: rest).dropWhile (· == 'u') =
            text.dropWhile (· == 'u') ++ mark :: rest := by
          rw [List.dropWhile_append, List.dropWhile_cons_of_neg (by simp [notLetter])]
          cases text.dropWhile (· == 'u') with
          | nil => rfl
          | cons next after => rfl
        rw [List.cons_append, unicodeEscape?, unicodeEscape?, letters, hexUnit_append notDigit]
        rfl
      · rw [List.cons_append, unicodeEscape?_of_ne letter, unicodeEscape?_of_ne letter]
        rfl

theorem translateFrom_mark {mark : Char} (ends : endsEscape mark = true) (odd : Bool)
    (text rest : List Char) :
    translateFrom odd (text ++ mark :: rest) =
      translateFrom odd text ++ (Target.java.plain [mark] ++ translateFrom false rest) := by
  have notBackslash : mark ≠ '\\' := by
    rintro rfl
    exact absurd ends (by decide)
  fun_induction translateFrom odd text with
  | case1 odd => exact translateFrom_cons notBackslash odd rest
  | case2 behind ih =>
      rw [List.cons_append, translateFrom_second_backslash, ih, List.cons_append]
  | case3 odd behind isEven symbol after escape ih =>
      have further : unicodeEscape? (behind ++ mark :: rest) =
          some (symbol, after ++ mark :: rest) := by
        rw [unicodeEscape?_append ends, escape]
        rfl
      rw [eq_false_of_ne_true isEven, List.cons_append, translateFrom_escape further,
        ih, List.cons_append]
  | case4 odd behind isEven noEscape ih =>
      have further : unicodeEscape? (behind ++ mark :: rest) = none := by
        rw [unicodeEscape?_append ends, noEscape]
        rfl
      rw [eq_false_of_ne_true isEven, List.cons_append, translateFrom_backslash further,
        ih, List.cons_append]
  | case5 odd char behind other ih =>
      rw [List.cons_append, translateFrom_cons other, ih, List.append_assoc]

theorem translateFrom_append {text : List Char} (unescaped : '\\' ∉ text) (rest : List Char) :
    translateFrom false (text ++ rest) = Target.java.plain text ++ translateFrom false rest := by
  induction text with
  | nil => rfl
  | cons char text ih =>
      rw [List.mem_cons, not_or] at unescaped
      rw [List.cons_append, translateFrom_cons (Ne.symm unescaped.1), ih unescaped.2,
        Target.plain_cons _ char text, List.append_assoc]

/-- A backslash belongs to the character behind it, which may be a backslash too. -/
theorem translateFrom_pair {char : Char} (notLetter : char ≠ 'u') (rest : List Char) :
    translateFrom false ('\\' :: char :: rest) =
      Target.java.plain ['\\', char] ++ translateFrom false rest := by
  have first : Target.java.plain ['\\'] = [.unit '\\'.toNat] :=
    Target.java.plain_of_ascii (by simp)
  rw [translateFrom_backslash (unicodeEscape?_of_ne notLetter rest),
    Target.plain_cons _ '\\' [char], first, List.singleton_append, List.cons_append]
  congr 1
  by_cases second : char = '\\'
  · rw [second, translateFrom_second_backslash, first, List.singleton_append]
  · exact translateFrom_cons second true rest

/-! ## Parts of a text -/

namespace Target

/-- A character that ends escapes cuts a text in two, unless it is a line feed behind a
backslash. -/
theorem symbols_mark (target : Target) {mark : Char} (ends : endsEscape mark = true)
    {text : List Char} (closed : target = .cpp → mark ≠ '\n' ∨ text.getLast? ≠ some '\\')
    (rest : List Char) :
    target.symbols (text ++ mark :: rest) =
      target.symbols text ++ (target.plain [mark] ++ target.symbols rest) := by
  cases target with
  | cpp =>
      have apart : text.getLast? ≠ some '\\' ∨ (mark :: rest).head? ≠ some '\n' :=
        (closed rfl).symm.imp_right fun notFeed same => notFeed (Option.some.inj same)
      rw [symbols, joinLines_append apart, plain_append, joinLines, plain_cons]
      · rfl
      · rintro behind rfl -
        exact absurd ends (by decide)
  | java => exact translateFrom_mark ends false text rest

/-- A text can be cut in two behind a line feed. -/
theorem symbols_append_of_feed (target : Target) {text : List Char}
    (ends : text.getLast? = some '\n') (rest : List Char) :
    target.symbols (text ++ rest) = target.symbols text ++ target.symbols rest := by
  cases target with
  | cpp =>
      have closed : text.getLast? ≠ some '\\' := by
        rw [ends]
        exact fun same => absurd (Option.some.inj same) (by decide)
      rw [symbols, joinLines_append (.inl closed), plain_append]
      rfl
  | java =>
      obtain ⟨line, rfl⟩ := List.getLast?_eq_some_iff.mp ends
      have alone : translateFrom false (line ++ ['\n']) = _ :=
        translateFrom_mark (by decide) false line []
      rw [symbols, List.append_assoc, List.singleton_append, translateFrom_mark (by decide),
        symbols, alone, translateFrom, List.append_nil, List.append_assoc, symbols]

/-- A text can be cut in two in front of a character that ends escapes. -/
theorem symbols_append_of_mark (target : Target) {mark : Char} (ends : endsEscape mark = true)
    (notFeed : mark ≠ '\n') (text rest : List Char) :
    target.symbols (text ++ mark :: rest) =
      target.symbols text ++ target.symbols (mark :: rest) := by
  have alone : target.symbols ([] ++ mark :: rest) = _ :=
    target.symbols_mark ends (fun _ => .inl notFeed) rest
  rw [List.nil_append, symbols_nil, List.nil_append] at alone
  rw [target.symbols_mark ends (fun _ => .inl notFeed), alone]

theorem symbols_append_of_unescaped (target : Target) {text : List Char}
    (unescaped : '\\' ∉ text) (unbroken : '\n' ∉ text) (rest : List Char) :
    target.symbols (text ++ rest) = target.plain text ++ target.symbols rest := by
  cases target with
  | cpp =>
      have closed : text.getLast? ≠ some '\\' := fun ends =>
        unescaped (List.mem_of_getLast? ends)
      rw [symbols, joinLines_append (.inl closed), joinLines_of_unbroken unbroken, plain_append]
      rfl
  | java => exact translateFrom_append unescaped rest

theorem cpp_symbols_joined (text rest : List Char) :
    Target.cpp.symbols (text ++ '\\' :: '\n' :: rest) =
      Target.cpp.symbols text ++ Target.cpp.symbols rest := by
  have apart : ('\\' :: '\n' :: rest).head? ≠ some '\n' :=
    fun same => absurd (Option.some.inj same) (by decide)
  rw [symbols, joinLines_append (.inr apart), plain_append, joinLines]
  rfl

end Target

end Sourcewright
