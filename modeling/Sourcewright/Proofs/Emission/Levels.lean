import Sourcewright.Proofs.Emission.Tokens

/-!
# Levels of tokens

Every token of an expression stands at the level given by the parentheses around it.  The
parentheses of an expression match, so what is written outside of them can be told from what
is written inside, and tokens can be taken apart at the first or the last token of a kind
that stands outside.
-/

namespace Sourcewright.Emission

def levelAfter (level : Nat) : Token → Nat
  | .opening => level + 1
  | .closing => level - 1
  | _ => level

/-- The tokens together with the levels at which they stand. -/
def levels : Nat → List Token → List (Nat × Token)
  | _, [] => []
  | level, token :: rest => (level, token) :: levels (levelAfter level token) rest

theorem levels_append (level : Nat) (first second : List Token) :
    levels level (first ++ second) =
      levels level first ++ levels (first.foldl levelAfter level) second := by
  induction first generalizing level with
  | nil => rfl
  | cons token rest ih =>
      rw [List.cons_append, levels, ih, levels, List.cons_append, List.foldl_cons]

theorem levels_injective {level : Nat} {first second : List Token}
    (same : levels level first = levels level second) : first = second := by
  have tokens (level : Nat) (list : List Token) : (levels level list).map Prod.snd = list := by
    induction list generalizing level with
    | nil => rfl
    | cons token rest ih => rw [levels, List.map_cons, ih]
  rw [← tokens level first, same, tokens]

/-- The parentheses match, and no token of a kind stands outside of them. -/
structure Avoids (kind : Token → Bool) (tokens : List Token) : Prop where
  matched : ∀ level, tokens.foldl levelAfter level = level
  le_level : ∀ level, ∀ pair ∈ levels level tokens, level ≤ pair.1
  outer : ∀ level token, (level, token) ∈ levels level tokens → kind token = false

namespace Avoids

variable {kind : Token → Bool}

theorem nil : Avoids kind [] :=
  ⟨fun _ => rfl, fun _ _ member => (List.not_mem_nil member).elim,
    fun _ _ member => (List.not_mem_nil member).elim⟩

theorem levels_append {first : List Token} (avoids : Avoids kind first) (level : Nat)
    (second : List Token) :
    levels level (first ++ second) = levels level first ++ levels level second := by
  rw [Emission.levels_append, avoids.matched]

theorem append {first second : List Token} (avoidsFirst : Avoids kind first)
    (avoidsSecond : Avoids kind second) : Avoids kind (first ++ second) where
  matched level := by rw [List.foldl_append, avoidsFirst.matched, avoidsSecond.matched]
  le_level level pair member := by
    rw [avoidsFirst.levels_append, List.mem_append] at member
    rcases member with inFirst | inSecond
    · exact avoidsFirst.le_level level pair inFirst
    · exact avoidsSecond.le_level level pair inSecond
  outer level token member := by
    rw [avoidsFirst.levels_append, List.mem_append] at member
    rcases member with inFirst | inSecond
    · exact avoidsFirst.outer level token inFirst
    · exact avoidsSecond.outer level token inSecond

/-- A token that is no parenthesis stands outside of parentheses. -/
theorem singleton {token : Token} (keeps : ∀ level, levelAfter level token = level)
    (avoided : kind token = false) : Avoids kind [token] := by
  refine ⟨keeps, ?_, ?_⟩
  · intro level pair member
    rw [List.mem_singleton.mp member]
  · intro level other member
    cases List.mem_singleton.mp member
    exact avoided

/-- What is between parentheses is not outside, whatever it is. -/
theorem parenthesized {other : Token → Bool} {inner : List Token} (closed : Avoids other inner)
    (opening : kind .opening = false) : Avoids kind (.opening :: inner ++ [.closing]) := by
  have listed (level : Nat) : levels level (.opening :: inner ++ [.closing]) =
      (level, .opening) :: (levels (level + 1) inner ++ [(level + 1, .closing)]) := by
    rw [List.cons_append, levels, levelAfter, closed.levels_append]
    rfl
  have inside (level : Nat) (pair : Nat × Token)
      (member : pair ∈ levels level (.opening :: inner ++ [.closing])) :
      pair = (level, .opening) ∨ level + 1 ≤ pair.1 := by
    rw [listed, List.mem_cons, List.mem_append, List.mem_singleton] at member
    rcases member with rfl | inInner | rfl
    · exact .inl rfl
    · exact .inr (closed.le_level (level + 1) pair inInner)
    · exact .inr (le_refl _)
  refine ⟨?_, ?_, ?_⟩
  · intro level
    rw [List.cons_append, List.foldl_cons, List.foldl_append, levelAfter, closed.matched]
    rfl
  · intro level pair member
    rcases inside level pair member with rfl | deeper
    · exact le_refl _
    · omega
  · intro level token member
    rcases inside level _ member with same | deeper
    · cases same
      exact opening
    · omega

theorem mono {other : Token → Bool} {tokens : List Token} (avoids : Avoids kind tokens)
    (implies : ∀ token, other token = true → kind token = true) : Avoids other tokens where
  matched := avoids.matched
  le_level := avoids.le_level
  outer level token member := by
    by_contra found
    rw [Bool.not_eq_false] at found
    have avoided := avoids.outer level token member
    rw [implies token found] at avoided
    cases avoided

end Avoids

/-! ## Taking tokens apart -/

theorem append_cons_inj_of_first {α : Type} {mark : α → Prop} {first second : List α}
    {middle other : α} {rest further : List α} (inFirst : ∀ element ∈ first, ¬ mark element)
    (inSecond : ∀ element ∈ second, ¬ mark element) (middleMark : mark middle)
    (otherMark : mark other) (same : first ++ middle :: rest = second ++ other :: further) :
    first = second ∧ middle = other ∧ rest = further := by
  induction first generalizing second with
  | nil =>
      cases second with
      | nil => exact ⟨rfl, List.cons.inj same⟩
      | cons element second =>
          rw [(List.cons.inj same).1] at middleMark
          exact absurd middleMark (inSecond element List.mem_cons_self)
  | cons element first ih =>
      cases second with
      | nil =>
          rw [← (List.cons.inj same).1] at otherMark
          exact absurd otherMark (inFirst element List.mem_cons_self)
      | cons head second =>
          obtain ⟨heads, tails⟩ := List.cons.inj same
          obtain ⟨firsts, middles⟩ := ih (List.forall_mem_cons.mp inFirst).2
            (List.forall_mem_cons.mp inSecond).2 tails
          exact ⟨by rw [heads, firsts], middles⟩

theorem append_cons_inj_of_last {α : Type} {mark : α → Prop} {first second : List α}
    {middle other : α} {rest further : List α} (inRest : ∀ element ∈ rest, ¬ mark element)
    (inFurther : ∀ element ∈ further, ¬ mark element) (middleMark : mark middle)
    (otherMark : mark other) (same : first ++ middle :: rest = second ++ other :: further) :
    first = second ∧ rest = further := by
  have reversed := congrArg List.reverse same
  simp only [List.reverse_append, List.reverse_cons, List.append_assoc, List.singleton_append]
    at reversed
  obtain ⟨rests, -, firsts⟩ := append_cons_inj_of_first
    (fun element member => inRest element (List.mem_reverse.mp member))
    (fun element member => inFurther element (List.mem_reverse.mp member))
    middleMark otherMark reversed
  exact ⟨List.reverse_inj.mp firsts, List.reverse_inj.mp rests⟩

/-- The first token of a kind that stands outside of parentheses is where it is. -/
theorem Avoids.split {kind : Token → Bool} {first second : List Token} {middle other : Token}
    {rest further : List Token} (avoidsFirst : Avoids kind first)
    (avoidsSecond : Avoids kind second) (middleKind : kind middle = true)
    (otherKind : kind other = true) (same : first ++ middle :: rest = second ++ other :: further) :
    first = second ∧ middle = other ∧ rest = further := by
  have leveled := congrArg (levels 0) same
  rw [avoidsFirst.levels_append, avoidsSecond.levels_append, levels, levels] at leveled
  have unmarked {tokens : List Token} (avoids : Avoids kind tokens) :
      ∀ pair ∈ levels 0 tokens, ¬ (pair.1 = 0 ∧ kind pair.2 = true) := by
    rintro ⟨level, token⟩ member ⟨rfl, found⟩
    rw [avoids.outer 0 token member] at found
    cases found
  obtain ⟨firsts, -, -⟩ := append_cons_inj_of_first (unmarked avoidsFirst) (unmarked avoidsSecond)
    ⟨rfl, middleKind⟩ ⟨rfl, otherKind⟩ leveled
  obtain rfl := levels_injective firsts
  exact ⟨rfl, List.cons.inj (List.append_cancel_left same)⟩

/-- The last parentheses that stand outside of others are where they are. -/
theorem Avoids.splitGroup {kind : Token → Bool} {first second inner other : List Token}
    (firstClosed : Avoids kind first) (secondClosed : Avoids kind second)
    (innerClosed : Avoids kind inner) (otherClosed : Avoids kind other)
    (same : first ++ (.opening :: inner ++ [.closing]) =
      second ++ (.opening :: other ++ [.closing])) :
    first = second ∧ inner = other := by
  have opened : first ++ .opening :: inner = second ++ .opening :: other := by
    rw [← List.append_assoc, ← List.append_assoc] at same
    exact List.append_cancel_right same
  have leveled := congrArg (levels 0) opened
  rw [firstClosed.levels_append, secondClosed.levels_append, levels, levels] at leveled
  have deeper {tokens : List Token} (closed : Avoids kind tokens) :
      ∀ pair ∈ levels 1 tokens, ¬ pair.1 = 0 := by
    intro pair member
    have level := closed.le_level 1 pair member
    omega
  obtain ⟨firsts, inners⟩ :=
    append_cons_inj_of_last (deeper innerClosed) (deeper otherClosed) rfl rfl leveled
  exact ⟨levels_injective firsts, levels_injective inners⟩

/-! ## Lists of arguments -/

/-- The parentheses match. -/
abbrev Closed : List Token → Prop :=
  Avoids fun _ => false

theorem Avoids.closed {kind : Token → Bool} {tokens : List Token} (avoids : Avoids kind tokens) :
    Closed tokens :=
  avoids.mono nofun

theorem closed_listedTokens {parts : List (List Token)} (closed : ∀ part ∈ parts, Closed part) :
    Closed (listedTokens parts) := by
  have further {parts : List (List Token)} (closed : ∀ part ∈ parts, Closed part) :
      Closed (parts.flatMap (.comma :: ·)) := by
    induction parts with
    | nil => exact Avoids.nil
    | cons part parts ih =>
        obtain ⟨first, rest⟩ := List.forall_mem_cons.mp closed
        have comma : Closed [.comma] := Avoids.singleton (fun _ => rfl) rfl
        exact (comma.append first).append (ih rest)
  cases parts with
  | nil => exact Avoids.nil
  | cons part parts =>
      obtain ⟨first, rest⟩ := List.forall_mem_cons.mp closed
      exact first.append (further rest)

def isComma (token : Token) : Bool :=
  token == .comma

/-- Parts that end with commas are told apart by them. -/
theorem flatMap_comma_injective {first second : List (List Token)}
    (firstAvoids : ∀ part ∈ first, Avoids isComma part)
    (secondAvoids : ∀ part ∈ second, Avoids isComma part)
    (same : first.flatMap (· ++ [.comma]) = second.flatMap (· ++ [.comma])) : first = second := by
  induction first generalizing second with
  | nil =>
      cases second with
      | nil => rfl
      | cons part second => simp at same
  | cons part first ih =>
      cases second with
      | nil => simp at same
      | cons other second =>
          obtain ⟨partAvoids, firstRest⟩ := List.forall_mem_cons.mp firstAvoids
          obtain ⟨otherAvoids, secondRest⟩ := List.forall_mem_cons.mp secondAvoids
          simp only [List.flatMap_cons, List.append_assoc, List.singleton_append] at same
          obtain ⟨parts, -, rests⟩ := partAvoids.split otherAvoids rfl rfl same
          rw [parts, ih firstRest secondRest rests]

theorem listedTokens_append_comma {parts : List (List Token)} (nonempty : parts ≠ []) :
    listedTokens parts ++ [.comma] = parts.flatMap (· ++ [.comma]) := by
  have shifted (parts : List (List Token)) :
      parts.flatMap (.comma :: ·) ++ [.comma] = .comma :: parts.flatMap (· ++ [.comma]) := by
    induction parts with
    | nil => rfl
    | cons part parts ih =>
        rw [List.flatMap_cons, List.append_assoc, ih, List.flatMap_cons, List.append_assoc]
        rfl
  cases parts with
  | nil => exact absurd rfl nonempty
  | cons part parts =>
      rw [listedTokens, List.append_assoc, shifted, List.flatMap_cons, List.append_assoc]
      rfl

theorem listedTokens_injective {first second : List (List Token)}
    (firstParts : ∀ part ∈ first, Avoids isComma part ∧ part ≠ [])
    (secondParts : ∀ part ∈ second, Avoids isComma part ∧ part ≠ [])
    (same : listedTokens first = listedTokens second) : first = second := by
  have empty {parts : List (List Token)} (members : ∀ part ∈ parts, Avoids isComma part ∧ part ≠ [])
      (none : listedTokens parts = []) : parts = [] := by
    cases parts with
    | nil => rfl
    | cons part parts =>
        exact absurd (List.append_eq_nil_iff.mp none).1 (members part List.mem_cons_self).2
  by_cases firstEmpty : first = []
  · subst firstEmpty
    exact (empty secondParts same.symm).symm
  · by_cases secondEmpty : second = []
    · subst secondEmpty
      exact empty firstParts same
    · apply flatMap_comma_injective (fun part member => (firstParts part member).1)
        (fun part member => (secondParts part member).1)
      rw [← listedTokens_append_comma firstEmpty, same, listedTokens_append_comma secondEmpty]

/-! ## Expressions -/

/-- Words without any character of a name. -/
def isSymbol : Token → Bool
  | .word chars => chars.all fun char => !isNameChar char
  | _ => false

def isEquals (token : Token) : Bool :=
  token == .word ['=']

theorem isSymbol_of_isEquals (token : Token) (equals : isEquals token = true) :
    isSymbol token = true := by
  rw [beq_iff_eq.mp equals]
  decide

theorem isSymbol_symbol {target : Target} {operator : Operator} {symbol : String}
    (spelled : target.symbol? operator = some symbol) :
    isSymbol (.word symbol.toList) = true ∧ isEquals (.word symbol.toList) = false := by
  cases target <;> cases operator <;> cases spelled <;> decide

theorem Avoids.operand {kind : Token → Bool} {inner : List Token} (operation : Bool)
    (opening : kind .opening = false) (closed : Closed inner)
    (avoids : operation = false → Avoids kind inner) :
    Avoids kind (operandTokens operation inner) := by
  cases operation with
  | false => exact avoids rfl
  | true => exact closed.parenthesized opening

theorem closed_arguments {target : Target} {arguments : List Expr}
    (closed : ∀ argument ∈ arguments, Closed (exprTokens target argument)) :
    Closed (listedTokens (exprsTokens target arguments)) := by
  rw [exprsTokens_eq_map]
  apply closed_listedTokens
  intro part member
  obtain ⟨argument, listed, rfl⟩ := List.mem_map.mp member
  exact closed argument listed

theorem Avoids.applied {kind : Token → Bool} {head : List Token} (avoids : Avoids kind head)
    (opening : kind .opening = false) {target : Target} {arguments : List Expr}
    (closed : ∀ argument ∈ arguments, Closed (exprTokens target argument)) :
    Avoids kind (head ++ argumentTokens (exprsTokens target arguments)) :=
  avoids.append ((closed_arguments closed).parenthesized opening)

/-- No comma stands outside of the parentheses of an expression. -/
theorem avoids_comma (target : Target) (value : Expr) :
    Avoids isComma (exprTokens target value) := by
  have dot : Avoids isComma [.dot] := Avoids.singleton (fun _ => rfl) rfl
  have word (chars : List Char) : Avoids isComma [.word chars] :=
    Avoids.singleton (fun _ => rfl) rfl
  induction value using Expr.induction with
  | literal value =>
      rw [exprTokens]
      cases value <;> exact Avoids.singleton (fun _ => rfl) rfl
  | param named => exact word _
  | binary operator left right leftIH rightIH =>
      have leftOperand := Avoids.operand (isOperation left) rfl leftIH.closed fun _ => leftIH
      have rightOperand := Avoids.operand (isOperation right) rfl rightIH.closed fun _ => rightIH
      rw [exprTokens]
      exact leftOperand.append ((word _).append rightOperand)
  | assign assigned value assignedIH valueIH =>
      rw [exprTokens]
      exact assignedIH.append ((word _).append valueIH)
  | call receiver method arguments receiverIH argumentsIH =>
      rw [exprTokens]
      apply (receiverIH.append (dot.append (word _))).applied rfl
      exact fun argument member => (argumentsIH argument member).closed
  | staticCall method arguments argumentsIH =>
      rw [exprTokens]
      apply Avoids.applied _ rfl fun argument member => (argumentsIH argument member).closed
      cases target with
      | cpp => exact word _
      | java => exact (word _).append (dot.append (word _))
  | construct type arguments argumentsIH =>
      rw [exprTokens]
      apply Avoids.applied _ rfl fun argument member => (argumentsIH argument member).closed
      cases target with
      | cpp => exact word _
      | java => exact (word _).append (word _)
  | field type name =>
      cases target with
      | cpp => exact word _
      | java => exact (word _).append (dot.append (word _))

theorem closed_exprTokens (target : Target) (value : Expr) : Closed (exprTokens target value) :=
  (avoids_comma target value).closed

theorem exprTokens_ne_nil (target : Target) (value : Expr) : exprTokens target value ≠ [] := by
  cases value with
  | field type name => cases target <;> exact List.cons_ne_nil _ _
  | _ => simp [exprTokens, argumentTokens]

end Sourcewright.Emission
