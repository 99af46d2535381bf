import Sourcewright.Proofs.Emission.CommentLines
import Sourcewright.Proofs.Emission.SourceText

/-!
# Comments as compilers read them

A comment is copied into the code as it is, behind two slashes on each of its lines.  What a
compiler makes of these lines also depends on what stands on them.  In C++ a backslash at the
end of the last line joins the line behind the comment to it, so that this line is lost.  In
Java an escape can stand for a line end, and what is behind it on the line is code again; and
an escape without its digits is an error even inside a comment.

Main statement: apart from these cases a comment leaves the code around it as it is.  In these
cases it does not: the line behind it is swallowed, or code is injected.
-/

namespace Sourcewright

namespace Symbol

/-- An ASCII character as it is seen. -/
def mark (char : Char) : Symbol :=
  .unit char.toNat

/-- Whether what is seen ends a line. -/
def endsLine (symbol : Symbol) : Bool :=
  symbol == mark '\n' || symbol == mark '\r'

/-- Whether what is seen can stand inside a line comment. -/
def inline (symbol : Symbol) : Bool :=
  symbol != .malformed && !symbol.endsLine

/-- Whether what is seen only separates what stands around it. -/
def blank (symbol : Symbol) : Bool :=
  symbol == mark ' ' || symbol == mark '\n'

/-- What is left of something inside a comment.  Escapes are translated before comments are
found, so that a malformed one is an error there, too. -/
def fault (symbol : Symbol) : List Symbol :=
  if symbol = .malformed then [symbol] else []

end Symbol

open Sourcewright.Symbol (mark)

/-- Where a reader of code is: a slash may start a comment, a star may end one, and a
backslash in a literal keeps what follows it from ending the literal. -/
inductive Mode where
  | code
  | slash
  | lineComment
  | blockComment
  | star
  | literal (quote : Symbol)
  | escaped (quote : Symbol)
deriving DecidableEq

namespace Mode

/-- Read on in code: what is left of a symbol, and where the reader is then. -/
def stepCode (symbol : Symbol) : List Symbol × Mode :=
  if symbol = mark '/' then ([], .slash)
  else if symbol = mark '"' ∨ symbol = mark '\x27' then ([symbol], .literal symbol)
  else ([symbol], .code)

/-- Read on.  A line comment leaves the end of its line, and any other comment leaves a
space. -/
def step : Mode → Symbol → List Symbol × Mode
  | .code, symbol => stepCode symbol
  | .slash, symbol =>
    if symbol = mark '/' then ([], .lineComment)
    else if symbol = mark '*' then ([], .blockComment)
    else (mark '/' :: (stepCode symbol).1, (stepCode symbol).2)
  | .lineComment, symbol =>
    if symbol.endsLine then ([symbol], .code) else (symbol.fault, .lineComment)
  | .blockComment, symbol =>
    if symbol = mark '*' then ([], .star) else (symbol.fault, .blockComment)
  | .star, symbol =>
    if symbol = mark '/' then ([mark ' '], .code)
    else if symbol = mark '*' then ([], .star)
    else (symbol.fault, .blockComment)
  | .literal quote, symbol =>
    if symbol = quote ∨ symbol.endsLine then ([symbol], .code)
    else if symbol = mark '\\' then ([symbol], .escaped quote)
    else ([symbol], .literal quote)
  | .escaped quote, symbol => ([symbol], .literal quote)

/-- What is left at the end of a text: a slash that started no comment. -/
def held : Mode → List Symbol
  | .slash => [mark '/']
  | _ => []

/-- What is left of a text without its comments. -/
def withoutComments (mode : Mode) : List Symbol → List Symbol
  | [] => mode.held
  | symbol :: rest => (mode.step symbol).1 ++ withoutComments (mode.step symbol).2 rest

/-- Where the reader is behind a text. -/
def after (mode : Mode) : List Symbol → Mode
  | [] => mode
  | symbol :: rest => after (mode.step symbol).2 rest

theorem withoutComments_append {mode : Mode} {first : List Symbol}
    (inCode : mode.after first = .code) (second : List Symbol) :
    mode.withoutComments (first ++ second) =
      mode.withoutComments first ++ Mode.code.withoutComments second := by
  induction first generalizing mode with
  | nil =>
      rw [after] at inCode
      subst inCode
      rfl
  | cons symbol first ih =>
      rw [List.cons_append, withoutComments, withoutComments, ih inCode, List.append_assoc]

/-- A malformed escape is found wherever it stands. -/
theorem count_malformed_withoutComments (mode : Mode) (symbols : List Symbol) :
    (mode.withoutComments symbols).count .malformed = symbols.count .malformed := by
  have inCode (symbol : Symbol) :
      (stepCode symbol).1.count .malformed = [symbol].count .malformed := by
    unfold stepCode
    split_ifs with slash <;> simp [*, mark]
  have atFault (symbol : Symbol) : symbol.fault.count .malformed = [symbol].count .malformed := by
    unfold Symbol.fault
    split_ifs with malformed
    · rfl
    · simp [malformed]
  have one (mode : Mode) (symbol : Symbol) :
      (mode.step symbol).1.count .malformed = [symbol].count .malformed := by
    cases mode <;> simp only [step, inCode]
    all_goals split_ifs
    all_goals simp [*, mark]
  induction symbols generalizing mode with
  | nil => cases mode <;> rfl
  | cons symbol symbols ih =>
      rw [withoutComments, List.count_append, ih, one, ← List.count_append,
        List.singleton_append]

/-- Reading a text leads from a place to a place, and leaves nothing but blanks. -/
def Passes (start : Mode) (symbols : List Symbol) (stop : Mode) : Prop :=
  ∃ blanks, (∀ symbol ∈ blanks, symbol.blank = true) ∧
    ∀ rest, start.withoutComments (symbols ++ rest) = blanks ++ stop.withoutComments rest

namespace Passes

theorem nil (mode : Mode) : mode.Passes [] mode :=
  ⟨[], nofun, fun _ => rfl⟩

theorem append {start middle stop : Mode} {first second : List Symbol}
    (before : start.Passes first middle) (behind : middle.Passes second stop) :
    start.Passes (first ++ second) stop := by
  obtain ⟨blanks, blank, reads⟩ := before
  obtain ⟨others, otherBlank, readsOn⟩ := behind
  refine ⟨blanks ++ others, List.forall_mem_append.mpr ⟨blank, otherBlank⟩, fun rest => ?_⟩
  rw [List.append_assoc, reads, readsOn, List.append_assoc]

theorem spaces (target : Target) (count : Nat) :
    Mode.code.Passes (target.plain (List.replicate count ' ')) .code := by
  induction count with
  | zero => exact nil _
  | succ count ih =>
      rw [List.replicate_succ, Target.plain_cons, target.plain_of_ascii (by simp)]
      refine append ⟨[mark ' '], by decide, fun rest => rfl⟩ ih

theorem slashes (target : Target) : Mode.code.Passes (target.plain ['/', '/']) .lineComment := by
  rw [target.plain_of_ascii (by simp)]
  exact ⟨[], nofun, fun rest => rfl⟩

theorem inline {symbols : List Symbol} (inline : ∀ symbol ∈ symbols, symbol.inline = true) :
    Mode.lineComment.Passes symbols .lineComment := by
  induction symbols with
  | nil => exact nil _
  | cons symbol symbols ih =>
      obtain ⟨first, further⟩ := List.forall_mem_cons.mp inline
      simp only [Symbol.inline, Bool.and_eq_true, bne_iff_ne, Bool.not_eq_true'] at first
      have dropped : Mode.lineComment.Passes [symbol] .lineComment :=
        ⟨[], nofun, fun rest => by simp [withoutComments, step, first, Symbol.fault]⟩
      exact dropped.append (ih further)

theorem feed : Mode.lineComment.Passes [mark '\n'] .code :=
  ⟨[mark '\n'], by decide, fun _ => rfl⟩

end Passes

end Mode

/-! ## The lines of a comment -/

namespace Emission

/-- Lines as they stand in the code, each behind its indentation. -/
def indented (width : Nat) : List String → List Char
  | [] => []
  | line :: lines => List.replicate width ' ' ++ (line.toList ++ '\n' :: indented width lines)

theorem toList_renderAll (indent level : Nat) {lines : List String}
    (nonempty : ∀ line ∈ lines, line ≠ "") :
    (Line.renderAll indent level (lines.map (Line.mk 0))).toList =
      indented (indent * level % UInt64.size) lines := by
  induction lines with
  | nil => rfl
  | cons line lines ih =>
      obtain ⟨first, further⟩ := List.forall_mem_cons.mp nonempty
      simp [Line.renderAll, Line.render, first, ih further, indented, Writer.spaces]

/-- Every line of a comment starts with two slashes, and no break follows them. -/
theorem commentLine_split {text line : String} (member : line ∈ commentLines text) :
    ∃ tail, line.toList = ['/', '/'] ++ tail ∧ '\n' ∉ tail ∧ '\r' ∉ tail := by
  have unbroken {char : Char} (inside : char ∈ line.toList) : isBreak char = false :=
    not_isBreak_of_mem_commentLines member inside
  obtain ⟨original, -, ⟨-, rfl⟩ | ⟨shown, last, blanks, -, -, -, rfl⟩⟩ := exists_commentsOn member
  · exact ⟨[], rfl, nofun, nofun⟩
  · have chars : ("// " ++ String.ofList (shown ++ [last])).toList =
        ['/', '/'] ++ (' ' :: (shown ++ [last])) := by simp
    refine ⟨_, chars, fun feed => ?_, fun carriage => ?_⟩
    · exact absurd (unbroken (chars ▸ List.mem_append_right _ feed)) (by decide)
    · exact absurd (unbroken (chars ▸ List.mem_append_right _ carriage)) (by decide)

/-- Nothing of a line comment can be seen as the end of its line if no break stands in it. -/
theorem inline_of_mem_plain {target : Target} {text : List Char} (notFeed : '\n' ∉ text)
    (notReturn : '\r' ∉ text) {symbol : Symbol} (member : symbol ∈ target.plain text) :
    symbol.inline = true := by
  rw [Target.plain, Target.units, List.mem_map] at member
  obtain ⟨code, isUnit, rfl⟩ := member
  obtain ⟨char, inText, inChar⟩ := List.mem_flatMap.mp isUnit
  have feed : code ≠ '\n'.toNat :=
    Target.ne_of_mem_encode (ne_of_mem_of_not_mem inText notFeed) (by decide) inChar
  have carriage : code ≠ '\r'.toNat :=
    Target.ne_of_mem_encode (ne_of_mem_of_not_mem inText notReturn) (by decide) inChar
  simpa [Symbol.inline, Symbol.endsLine, mark] using ⟨feed, carriage⟩

/-- Reading the lines of a comment leads on from code, and from a line comment that goes on. -/
theorem passes_start {target : Target} {mode : Mode} (starts : mode = .code ∨ mode = .lineComment)
    (width : Nat) {tail : List Symbol} (inline : ∀ symbol ∈ tail, symbol.inline = true) :
    mode.Passes (target.plain (List.replicate width ' ' ++ ['/', '/']) ++ tail) .lineComment := by
  rcases starts with rfl | rfl
  · rw [Target.plain_append]
    exact ((Mode.Passes.spaces target width).append (.slashes target)).append (.inline inline)
  · refine (Mode.Passes.inline fun symbol member => ?_).append (.inline inline)
    exact inline_of_mem_plain (by simp) (by simp) member

theorem getLast?_append_of_not_mem {first second : List Char} {char : Char}
    (absent : char ∉ first) :
    (first ++ second).getLast? = some char ↔ second.getLast? = some char := by
  rw [List.getLast?_append]
  cases second.getLast? with
  | none =>
      rw [Option.none_or]
      exact ⟨fun ends => absurd (List.mem_of_getLast? ends) absent, nofun⟩
  | some last => rw [Option.some_or]

theorem symbols_start (target : Target) (width : Nat) (tail : List Char) :
    target.symbols (List.replicate width ' ' ++ (['/', '/'] ++ tail)) =
      target.plain (List.replicate width ' ' ++ ['/', '/']) ++ target.symbols tail := by
  rw [← List.append_assoc, target.symbols_append_of_unescaped (by simp) (by simp)]

theorem symbols_line (target : Target) (width : Nat) {tail : List Char}
    (closed : target = .cpp → tail.getLast? ≠ some '\\') (rest : List Char) :
    target.symbols (List.replicate width ' ' ++ (['/', '/'] ++ tail ++ '\n' :: rest)) =
      target.plain (List.replicate width ' ' ++ ['/', '/']) ++ target.symbols tail ++
        (mark '\n' :: target.symbols rest) := by
  have feed : target.plain ['\n'] = [mark '\n'] := target.plain_of_ascii (by simp)
  rw [← List.append_assoc, target.symbols_mark (by decide), symbols_start, feed,
    List.singleton_append]
  intro isCpp
  refine .inr fun ends => closed isCpp ?_
  rwa [getLast?_append_of_not_mem (by simp), getLast?_append_of_not_mem (by decide)] at ends

/-- Where reading goes on behind lines in C++: in a comment still, if the last line ends in a
backslash. -/
def placeBehind (mode : Mode) (lines : List String) : Mode :=
  match lines.getLast? with
  | none => mode
  | some line => if line.toList.getLast? = some '\\' then .lineComment else .code

theorem placeBehind_cons (mode : Mode) (line : String) (lines : List String) :
    placeBehind mode (line :: lines) =
      placeBehind (if line.toList.getLast? = some '\\' then .lineComment else .code) lines := by
  cases lines with
  | nil => rfl
  | cons next lines => simp [placeBehind, List.getLast?_cons]

theorem passes_cpp {mode : Mode} (starts : mode = .code ∨ mode = .lineComment) (width : Nat)
    {lines : List String} (comments : ∀ line ∈ lines,
      ∃ tail, line.toList = ['/', '/'] ++ tail ∧ '\n' ∉ tail ∧ '\r' ∉ tail) :
    mode.Passes (Target.cpp.symbols (indented width lines)) (placeBehind mode lines) := by
  induction lines generalizing mode with
  | nil => exact .nil mode
  | cons line lines ih =>
      obtain ⟨⟨tail, chars, notFeed, notReturn⟩, further⟩ := List.forall_mem_cons.mp comments
      have plain : ∀ {part : List Char}, part ⊆ tail →
          ∀ symbol ∈ Target.cpp.symbols part, symbol.inline = true := by
        intro part within symbol member
        rw [Target.symbols, joinLines_of_unbroken (fun feed => notFeed (within feed))] at member
        exact inline_of_mem_plain (fun feed => notFeed (within feed))
          (fun carriage => notReturn (within carriage)) member
      have ends : line.toList.getLast? = some '\\' ↔ tail.getLast? = some '\\' := by
        rw [chars, getLast?_append_of_not_mem (by decide)]
      rw [placeBehind_cons, indented]
      by_cases joined : tail.getLast? = some '\\'
      · -- The next line goes on with the comment of this one.
        obtain ⟨shown, rfl⟩ := List.getLast?_eq_some_iff.mp joined
        have cut : List.replicate width ' ' ++
            (['/', '/'] ++ (shown ++ ['\\']) ++ '\n' :: indented width lines) =
              List.replicate width ' ' ++ (['/', '/'] ++ shown) ++
                '\\' :: '\n' :: indented width lines := by simp
        rw [if_pos (ends.mpr joined), chars, cut, Target.cpp_symbols_joined, symbols_start]
        exact (passes_start starts width (plain (List.subset_append_left shown _))).append
          (ih (.inr rfl) further)
      · rw [if_neg (mt ends.mp joined), chars, symbols_line Target.cpp width fun _ => joined]
        exact (passes_start starts width (plain (List.Subset.refl tail))).append
          (Mode.Passes.feed.append (ih (.inl rfl) further))

theorem passes_java (width : Nat)
    {lines : List String} (comments : ∀ line ∈ lines, ∃ tail, line.toList = ['/', '/'] ++ tail ∧
      ∀ symbol ∈ Target.java.symbols tail, symbol.inline = true) :
    Mode.code.Passes (Target.java.symbols (indented width lines)) .code := by
  induction lines with
  | nil =>
      rw [indented, Target.symbols_nil]
      exact .nil _
  | cons line lines ih =>
      obtain ⟨⟨tail, chars, inline⟩, further⟩ := List.forall_mem_cons.mp comments
      rw [indented, chars, symbols_line Target.java width nofun]
      exact (passes_start (.inl rfl) width inline).append (Mode.Passes.feed.append (ih further))

/-! ## Comments in code -/

/-- What a compiler sees of a text besides comments. -/
def seen (target : Target) (text : List Char) : List Symbol :=
  Mode.code.withoutComments (target.symbols text)

/-- What follows a comment is read as if the comment were not there and the other text were
in its place: the comment itself adds blanks only, and what precedes it is read as it is.
Code must be going on in front of the comment, not a literal or another comment. -/
def ReadsAs (target : Target) (text : String) (following instead : List Char) : Prop :=
  ∀ writer : Writer, Mode.code.after (target.symbols writer.code.toList) = .code →
    ∃ blanks, (∀ symbol ∈ blanks, symbol.blank = true) ∧
      seen target (((comment text).run writer).1.code.toList ++ following) =
        seen target writer.code.toList ++ blanks ++ seen target instead

/-- Whether the last line of a comment ends in a backslash. -/
def EndsInBackslash (text : String) : Prop :=
  ((commentLines text).getLast?.bind fun line => line.toList.getLast?) = some '\\'

instance (text : String) : Decidable (EndsInBackslash text) :=
  inferInstanceAs (Decidable (_ = _))

/-- Whether nothing on the lines of a comment is seen as a line end or is malformed. -/
def StaysInline (text : String) : Prop :=
  ∀ line ∈ commentLines text, ∀ symbol ∈ Target.java.symbols line.toList, symbol.inline = true

theorem code_comment (text : String) (writer : Writer) :
    ((comment text).run writer).1.code.toList =
      writer.code.toList ++ indented writer.width (commentLines text) := by
  have nonempty (line : String) (member : line ∈ commentLines text) : line ≠ "" := by
    rintro rfl
    obtain ⟨tail, chars, -⟩ := commentLine_split member
    cases chars
  rw [run_comment, String.toList_append, toList_renderAll _ _ nonempty, Writer.width]

theorem getLast?_indented (width : Nat) {lines : List String} (nonempty : lines ≠ []) :
    (indented width lines).getLast? = some '\n' := by
  induction lines with
  | nil => exact absurd rfl nonempty
  | cons line lines ih =>
      rw [indented, List.getLast?_append, List.getLast?_append, List.getLast?_cons]
      cases lines with
      | nil => rfl
      | cons next lines => rw [ih (List.cons_ne_nil next lines), Option.getD_some, Option.some_or,
          Option.some_or]

/-- A comment starts with a space or a slash and ends in a line feed, so that no escape and no
joined line goes beyond it. -/
theorem symbols_comment (target : Target) (text : String) (width : Nat)
    (code following : List Char) :
    target.symbols (code ++ indented width (commentLines text) ++ following) =
      target.symbols code ++ (target.symbols (indented width (commentLines text)) ++
        target.symbols following) := by
  obtain ⟨line, lines, cut⟩ : ∃ line lines, commentLines text = line :: lines := by
    exact List.exists_cons_of_ne_nil (commentLines_ne_nil text)
  have member : line ∈ commentLines text := cut ▸ List.mem_cons_self
  obtain ⟨tail, chars, -⟩ := commentLine_split member
  have ends : (indented width (line :: lines)).getLast? = some '\n' :=
    getLast?_indented width (List.cons_ne_nil line lines)
  have behind : target.symbols (code ++ indented width (line :: lines)) =
      target.symbols code ++ target.symbols (indented width (line :: lines)) := by
    rw [indented, chars]
    cases width with
    | zero => exact target.symbols_append_of_mark (by decide) (by decide) _ _
    | succ width => exact target.symbols_append_of_mark (by decide) (by decide) _ _
  have codeEnds : (code ++ indented width (line :: lines)).getLast? = some '\n' := by
    rw [List.getLast?_append, ends, Option.some_or]
  rw [cut, target.symbols_append_of_feed codeEnds, behind, List.append_assoc]

theorem seen_comment {target : Target} {text : String} {mode : Mode} {writer : Writer}
    (inCode : Mode.code.after (target.symbols writer.code.toList) = .code)
    (passes : Mode.code.Passes (target.symbols
      (indented writer.width (commentLines text))) mode) :
    ∃ blanks, (∀ symbol ∈ blanks, symbol.blank = true) ∧ ∀ following,
      seen target (((comment text).run writer).1.code.toList ++ following) =
        seen target writer.code.toList ++ blanks ++
          mode.withoutComments (target.symbols following) := by
  obtain ⟨blanks, blank, reads⟩ := passes
  refine ⟨blanks, blank, fun following => ?_⟩
  rw [code_comment, seen, symbols_comment, Mode.withoutComments_append inCode, reads, seen,
    List.append_assoc]

theorem seen_comment_cpp (text : String) {writer : Writer}
    (inCode : Mode.code.after (Target.cpp.symbols writer.code.toList) = .code) :
    ∃ blanks, (∀ symbol ∈ blanks, symbol.blank = true) ∧ ∀ following,
      seen .cpp (((comment text).run writer).1.code.toList ++ following) =
        seen .cpp writer.code.toList ++ blanks ++
          (if EndsInBackslash text then Mode.lineComment else .code).withoutComments
            (Target.cpp.symbols following) := by
  have place : placeBehind .code (commentLines text) =
      if EndsInBackslash text then .lineComment else .code := by
    have isLast := List.getLast?_eq_some_getLast (commentLines_ne_nil text)
    simp only [placeBehind, EndsInBackslash, isLast, Option.bind_some]
  have passes : Mode.code.Passes (Target.cpp.symbols
      (indented writer.width (commentLines text))) _ :=
    passes_cpp (.inl rfl) _ fun line member => commentLine_split member
  rw [place] at passes
  exact seen_comment inCode passes

theorem readsAs_of_closed {text : String} (closed : ¬ EndsInBackslash text)
    (following : List Char) : ReadsAs .cpp text following following := by
  intro writer inCode
  obtain ⟨blanks, blank, reads⟩ := seen_comment_cpp text inCode
  rw [if_neg closed] at reads
  exact ⟨blanks, blank, reads following⟩

/-- The first line behind a comment that goes on is lost. -/
theorem readsAs_of_endsInBackslash {text : String} (goesOn : EndsInBackslash text)
    {line : List Char} (notFeed : '\n' ∉ line) (notReturn : '\r' ∉ line)
    (closed : line.getLast? ≠ some '\\') (following : List Char) :
    ReadsAs .cpp text (line ++ '\n' :: following) following := by
  intro writer inCode
  have feed : Target.cpp.plain ['\n'] = [mark '\n'] := Target.cpp.plain_of_ascii (by simp)
  have inline (symbol : Symbol) (member : symbol ∈ Target.cpp.symbols line) :
      symbol.inline = true := by
    rw [Target.symbols, joinLines_of_unbroken notFeed] at member
    exact inline_of_mem_plain notFeed notReturn member
  obtain ⟨blanks, blank, reads⟩ := seen_comment_cpp text inCode
  obtain ⟨others, otherBlank, readsOn⟩ := (Mode.Passes.inline inline).append .feed
  refine ⟨blanks ++ others, List.forall_mem_append.mpr ⟨blank, otherBlank⟩, ?_⟩
  rw [reads, if_pos goesOn, Target.cpp.symbols_mark (by decide) fun _ => .inr closed, feed,
    ← List.append_assoc, readsOn, seen, seen, List.append_assoc, List.append_assoc,
    List.append_assoc]

theorem readsAs_of_staysInline {text : String} (inline : StaysInline text)
    (following : List Char) : ReadsAs .java text following following := by
  intro writer inCode
  have lines : ∀ line ∈ commentLines text, ∃ tail, line.toList = ['/', '/'] ++ tail ∧
      ∀ symbol ∈ Target.java.symbols tail, symbol.inline = true := by
    intro line member
    obtain ⟨tail, chars, -⟩ := commentLine_split member
    refine ⟨tail, chars, fun symbol inTail => inline line member symbol ?_⟩
    rw [chars, Target.java.symbols_append_of_unescaped (by decide) (by decide)]
    exact List.mem_append_right _ inTail
  obtain ⟨blanks, blank, reads⟩ := seen_comment inCode (passes_java _ lines)
  exact ⟨blanks, blank, reads following⟩

theorem mem_symbols_indented {width : Nat} {lines : List String}
    (comments : ∀ line ∈ lines, ∃ tail, line.toList = ['/', '/'] ++ tail) {line : String}
    (member : line ∈ lines) {symbol : Symbol}
    (inLine : symbol ∈ Target.java.symbols line.toList) :
    symbol ∈ Target.java.symbols (indented width lines) := by
  induction lines with
  | nil => cases member
  | cons first lines ih =>
      obtain ⟨⟨tail, chars⟩, further⟩ := List.forall_mem_cons.mp comments
      rw [indented, chars, symbols_line Target.java width nofun]
      rcases List.mem_cons.mp member with rfl | behind
      · rw [chars, Target.java.symbols_append_of_unescaped (by decide) (by decide)] at inLine
        refine List.mem_append_left _ ?_
        rw [Target.plain_append, List.append_assoc]
        exact List.mem_append_right _ inLine
      · exact List.mem_append_right _ (List.mem_cons_of_mem _ (ih further behind))

/-- A malformed escape in a comment is an error of the whole text. -/
theorem not_readsAs_of_malformed {text : String} (malformed : ∃ line ∈ commentLines text,
    .malformed ∈ Target.java.symbols line.toList) (following : List Char) :
    ¬ ReadsAs .java text following following := by
  intro reads
  obtain ⟨line, member, inLine⟩ := malformed
  have found : .malformed ∈ Target.java.symbols (indented 0 (commentLines text)) := by
    refine mem_symbols_indented (fun line isLine => ?_) member inLine
    obtain ⟨tail, chars, -⟩ := commentLine_split isLine
    exact ⟨tail, chars⟩
  obtain ⟨blanks, blank, same⟩ := reads ⟨0, "", 0, false⟩ (by simp [Mode.after])
  have noFault : blanks.count .malformed = 0 :=
    List.count_eq_zero.mpr fun inBlanks => absurd (blank _ inBlanks) (by decide)
  have counts := congrArg (List.count .malformed) same
  have unindented : Writer.width ⟨0, "", 0, false⟩ = 0 := rfl
  simp only [code_comment, unindented, seen, symbols_comment, List.count_append,
    Mode.count_malformed_withoutComments, noFault] at counts
  have positive := List.count_pos_iff.mpr found
  omega

theorem commentLines_of_oneLine {text : String}
    (unbroken : ∀ char ∈ text.toList, isBreak char = false) {last : Char}
    (ends : text.toList.getLast? = some last) (visible : Text.isBlank last = false) :
    commentLines text = ["// " ++ text] := by
  obtain ⟨shown, chars⟩ := List.getLast?_eq_some_iff.mp ends
  have trimmed : Text.trimEnd text.toList = text.toList := by
    rw [trimEnd_eq_rdropWhile, chars]
    exact List.rdropWhile_concat_neg _ _ _ (by simp [visible])
  have nonempty : text.toList.isEmpty = false := by simp [chars]
  rw [commentLines_eq_map, textLines_of_unbroken unbroken, List.map_singleton, commentLine,
    trimmed, nonempty, String.ofList_toList]
  rfl

/-- The lines of a comment whose text starts with an escape for a line feed. -/
theorem symbols_injected {code : List Char} (unbroken : ∀ char ∈ code, isBreak char = false)
    {last : Char} (ends : code.getLast? = some last) (visible : Text.isBlank last = false)
    (width : Nat) :
    Target.java.symbols (indented width (commentLines ("\\u000a" ++ String.ofList code))) =
      Target.java.plain (List.replicate width ' ' ++ ['/', '/']) ++ [mark ' '] ++ [mark '\n'] ++
        Target.java.symbols (code ++ ['\n']) := by
  have chars : ("\\u000a" ++ String.ofList code).toList = "\\u000a".toList ++ code := by simp
  have oneLine : commentLines ("\\u000a" ++ String.ofList code) =
      ["// " ++ ("\\u000a" ++ String.ofList code)] := by
    refine commentLines_of_oneLine ?_ ?_ visible
    · rw [chars]
      exact List.forall_mem_append.mpr ⟨by simp [isBreak], unbroken⟩
    · rw [chars, List.getLast?_append, ends, Option.some_or]
  have written : indented width ["// " ++ ("\\u000a" ++ String.ofList code)] =
      List.replicate width ' ' ++
        (['/', '/'] ++ (' ' :: ("\\u000a".toList ++ (code ++ ['\n'])))) := by
    simp [indented]
  have escape : translateFrom false ("\\u000a".toList ++ (code ++ ['\n'])) =
      mark '\n' :: translateFrom false (code ++ ['\n']) :=
    translateFrom_escape rfl
  have space : Target.java.plain [' '] = [mark ' '] := Target.java.plain_of_ascii (by simp)
  rw [oneLine, written, symbols_start, Target.symbols, translateFrom_cons (by decide), escape,
    space, Target.symbols]
  simp

/-- An escape can end the line of a comment, so that the rest of the line is code. -/
theorem readsAs_of_injected {code : List Char} (unbroken : ∀ char ∈ code, isBreak char = false)
    {last : Char} (ends : code.getLast? = some last) (visible : Text.isBlank last = false)
    (following : List Char) :
    ReadsAs .java ("\\u000a" ++ String.ofList code) following (code ++ '\n' :: following) := by
  intro writer inCode
  have space : ∀ symbol ∈ [mark ' '], symbol.inline = true := by decide
  have lineEnds : (code ++ ['\n']).getLast? = some '\n' := by simp
  have joined : code ++ '\n' :: following = code ++ ['\n'] ++ following := by simp
  obtain ⟨blanks, blank, reads⟩ :=
    (passes_start (.inl rfl) writer.width space).append .feed
  refine ⟨blanks, blank, ?_⟩
  rw [code_comment, seen, symbols_comment, Mode.withoutComments_append inCode,
    symbols_injected unbroken ends visible, List.append_assoc _ (Target.java.symbols _), reads,
    joined, ← Target.java.symbols_append_of_feed lineEnds, ← List.append_assoc]
  rfl

/-- A comment leaves the code around it as it is, in C++ if its last line does not end in a
backslash, and in Java if no escape on its lines is malformed or stands for a line end.
Otherwise it may not: in C++ the line behind the comment is lost; in Java a malformed escape is
an error, and any line of code can be had from a comment. -/
theorem comment_reads_as (text : String) (following : List Char) :
    (¬ EndsInBackslash text → ReadsAs .cpp text following following) ∧
    (EndsInBackslash text → ∀ line : List Char, '\n' ∉ line → '\r' ∉ line →
      line.getLast? ≠ some '\\' → ReadsAs .cpp text (line ++ '\n' :: following) following) ∧
    (StaysInline text → ReadsAs .java text following following) ∧
    ((∃ line ∈ commentLines text, .malformed ∈ Target.java.symbols line.toList) →
      ¬ ReadsAs .java text following following) ∧
    (∀ (code : List Char) (last : Char), (∀ char ∈ code, isBreak char = false) →
      code.getLast? = some last → Text.isBlank last = false →
      ReadsAs .java ("\\u000a" ++ String.ofList code) following (code ++ '\n' :: following)) := by
  refine ⟨fun closed => ?_, fun goesOn line notFeed notReturn closed => ?_, fun inline => ?_,
    fun malformed => ?_, fun code last unbroken ends visible => ?_⟩
  · exact readsAs_of_closed closed following
  · exact readsAs_of_endsInBackslash goesOn notFeed notReturn closed following
  · exact readsAs_of_staysInline inline following
  · exact not_readsAs_of_malformed malformed following
  · exact readsAs_of_injected unbroken ends visible following

theorem comment_reads_as_cases :
    ReadsAs .cpp "a note" "b;".toList "b;".toList ∧
    ReadsAs .cpp "in C:\\users\\" "a;\nb;".toList "b;".toList ∧
    ReadsAs .java "a note" "b;".toList "b;".toList ∧
    ¬ ReadsAs .java "in C:\\users\\" "b;".toList "b;".toList ∧
    ReadsAs .java "\\u000aa;" "b;".toList "a;\nb;".toList := by
  have note : commentLines "a note" = ["// a note"] :=
    commentLines_of_oneLine (by simp [isBreak]) rfl (by decide)
  have users : commentLines "in C:\\users\\" = ["// in C:\\users\\"] :=
    commentLines_of_oneLine (by simp [isBreak]) rfl (by decide)
  have noteInline : StaysInline "a note" := by
    intro line member symbol inLine
    rw [note, List.mem_singleton] at member
    rw [member, ← List.append_nil (String.toList _),
      Target.java.symbols_append_of_unescaped (by decide) (by decide), Target.symbols_nil,
      List.append_nil] at inLine
    exact inline_of_mem_plain (by decide) (by decide) inLine
  have malformed : ∃ line ∈ commentLines "in C:\\users\\",
      .malformed ∈ Target.java.symbols line.toList := by
    refine ⟨_, users ▸ List.mem_singleton_self _, ?_⟩
    have symbols : Target.java.symbols ("// in C:".toList ++ "\\users\\".toList) =
        Target.java.plain "// in C:".toList ++
          (.malformed :: translateFrom false "sers\\".toList) := by
      rw [Target.java.symbols_append_of_unescaped (by decide) (by decide), Target.symbols]
      exact congrArg _ (translateFrom_escape rfl)
    exact symbols ▸ List.mem_append_right _ List.mem_cons_self
  exact ⟨(comment_reads_as _ _).1 (by decide),
    (comment_reads_as _ _).2.1 (by decide) "a;".toList (by decide) (by decide) (by decide),
    (comment_reads_as _ _).2.2.1 noteInline,
    (comment_reads_as _ _).2.2.2.1 malformed,
    (comment_reads_as "" _).2.2.2.2 "a;".toList ';' (by simp [isBreak]) (by decide) (by decide)⟩

end Emission

end Sourcewright
