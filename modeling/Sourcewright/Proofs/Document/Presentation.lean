import Sourcewright.Proofs.Document.Fitting
import Sourcewright.Proofs.Document.Skipping

/-!
# Presentations of a document

A value can be presented in many ways.  The members of a record may stand in any order, those
that hold their default may be left out, and members that the record does not know may stand
between them, with any well-formed value.  Space may stand between any two parts, and the
characters of texts may be escaped.

Main statement: the written form of a value that fits its place is one of its presentations.
-/

namespace Sourcewright.Document

/-! ## Spelling -/

/-- How the characters of a text may be written between quotation marks. -/
inductive Spells : (body chars : List Char) → Prop
  | nil : Spells [] []
  | plain {char : Char} {body chars : List Char} (notQuote : char ≠ '"')
      (notBackslash : char ≠ '\\') (notControl : ¬ char.toNat < 0x20)
      (further : Spells body chars) : Spells (char :: body) (char :: chars)
  | escape {mark meaning : Char} {body chars : List Char}
      (known : (mark, meaning) ∈ textEscapes) (further : Spells body chars) :
      Spells ('\\' :: mark :: body) (meaning :: chars)
  | code {first second third fourth : Char} {value : Nat} {body chars : List Char}
      (digits : hexQuad? first second third fourth = some value)
      (scalar : value < 0xd800 ∨ 0xe000 ≤ value) (further : Spells body chars) :
      Spells ('\\' :: 'u' :: first :: second :: third :: fourth :: body)
        (Char.ofNat value :: chars)
  | pair {first second third fourth fifth sixth seventh eighth : Char} {leading trailing : Nat}
      {body chars : List Char} (leadingDigits : hexQuad? first second third fourth = some leading)
      (leads : 0xd800 ≤ leading ∧ leading < 0xdc00)
      (trailingDigits : hexQuad? fifth sixth seventh eighth = some trailing)
      (trails : 0xdc00 ≤ trailing ∧ trailing < 0xe000) (further : Spells body chars) :
      Spells ('\\' :: 'u' :: first :: second :: third :: fourth ::
          '\\' :: 'u' :: fifth :: sixth :: seventh :: eighth :: body)
        (Char.ofNat (0x10000 + (leading - 0xd800) * 0x400 + (trailing - 0xdc00)) :: chars)

theorem scanEscape_code {first second third fourth : Char} {value : Nat}
    (digits : hexQuad? first second third fourth = some value)
    (scalar : value < 0xd800 ∨ 0xe000 ≤ value) (rest : List Char) :
    scanEscape ('u' :: first :: second :: third :: fourth :: rest) =
      .ok (Char.ofNat value, rest) := by
  have notLeading : isLeadingSurrogate value = false := by
    simp only [isLeadingSurrogate, Bool.and_eq_false_iff, decide_eq_false_iff_not]
    omega
  have notTrailing : isTrailingSurrogate value = false := by
    simp only [isTrailingSurrogate, Bool.and_eq_false_iff, decide_eq_false_iff_not]
    omega
  simp [scanEscape, simpleEscape?, scanCodeEscape, scanHexQuad, digits, notLeading,
    notTrailing, bind, Except.bind]

theorem scanEscape_pair {first second third fourth fifth sixth seventh eighth : Char}
    {leading trailing : Nat} (leadingDigits : hexQuad? first second third fourth = some leading)
    (leads : 0xd800 ≤ leading ∧ leading < 0xdc00)
    (trailingDigits : hexQuad? fifth sixth seventh eighth = some trailing)
    (trails : 0xdc00 ≤ trailing ∧ trailing < 0xe000) (rest : List Char) :
    scanEscape ('u' :: first :: second :: third :: fourth ::
        '\\' :: 'u' :: fifth :: sixth :: seventh :: eighth :: rest) =
      .ok (Char.ofNat (0x10000 + (leading - 0xd800) * 0x400 + (trailing - 0xdc00)), rest) := by
  have isLeading : isLeadingSurrogate leading = true := by
    simpa [isLeadingSurrogate] using leads
  have notTrailing : isTrailingSurrogate leading = false := by
    simp only [isTrailingSurrogate, Bool.and_eq_false_iff, decide_eq_false_iff_not]
    omega
  have isTrailing : isTrailingSurrogate trailing = true := by
    simpa [isTrailingSurrogate] using trails
  simp [scanEscape, simpleEscape?, scanCodeEscape, scanHexQuad, leadingDigits, isLeading,
    notTrailing, trailingDigits, isTrailing, scanSurrogateMark, bind, Except.bind]

theorem Spells.scanText {body chars : List Char} (spells : Spells body chars)
    (rest : List Char) : scanText (body ++ '"' :: rest) = .ok (chars, rest) := by
  induction spells with
  | nil => rw [List.nil_append, Document.scanText, if_pos rfl]
  | plain notQuote notBackslash notControl _ ih =>
      rw [List.cons_append, Document.scanText, if_neg notQuote, if_neg notBackslash,
        if_neg notControl, ih]
  | @escape mark meaning body chars known _ ih =>
      have scanned : scanEscape (mark :: (body ++ '"' :: rest)) =
          .ok (meaning, body ++ '"' :: rest) := by
        rw [scanEscape, simpleEscape?_of_mem known]
      rw [List.cons_append, List.cons_append, scanText_backslash scanned, ih]
      rfl
  | @code _ _ _ _ _ body _ digits scalar _ ih =>
      have scanned := scanEscape_code digits scalar (body ++ '"' :: rest)
      exact (scanText_backslash scanned).trans (by rw [ih]; rfl)
  | @pair _ _ _ _ _ _ _ _ _ _ body _ leadingDigits leads trailingDigits trails _ ih =>
      have scanned := scanEscape_pair leadingDigits leads trailingDigits trails
        (body ++ '"' :: rest)
      exact (scanText_backslash scanned).trans (by rw [ih]; rfl)

theorem mem_textEscapes {mark meaning : Char} (stands : simpleEscape? mark = some meaning) :
    (mark, meaning) ∈ textEscapes := by
  unfold simpleEscape? at stands
  split_ifs at stands with quote backslash slash backspace formFeed newline carriage tab
  all_goals
    cases stands
    subst_vars
    decide

/-- A text is spelled as it is written. -/
theorem spells_flatMap_escapedChar (chars : List Char) :
    Spells (chars.flatMap escapedChar) chars := by
  induction chars with
  | nil => exact .nil
  | cons char chars ih =>
      rw [List.flatMap_cons]
      rcases escapedChar_cases char with ⟨mark, meaning, written⟩ | ⟨control, written⟩ |
        ⟨notQuote, notBackslash, notControl, written⟩
      · rw [written]
        exact .escape (mem_textEscapes meaning) ih
      · have spelled := Spells.code (hexQuad?_digitChar control) (.inl (by omega)) ih
        rw [Char.ofNat_toNat] at spelled
        rw [written]
        exact spelled
      · rw [written]
        exact .plain notQuote notBackslash notControl ih

/-! ## Presentations -/

def quoted (body : List Char) : List Char :=
  '"' :: (body ++ ['"'])

/-- The members that may be left out. -/
def optionalNames : List String :=
  ["modifiers", "namespace", "references", "fields", "constructors", "methods", "classes",
    "params", "args", "body", "init", "receiver"]

/-- What a member holds if nothing is in it. -/
def Member.emptyValue? (member : Member) : Option Value :=
  if member.nullable then some .null
  else match member.shape with
    | .list _ => some (.list [])
    | .text => some (.text "")
    | _ => none

/-- A member falls back to being empty if it may be left out, and is required otherwise. -/
theorem Kind.fallback_eq (kind : Kind) :
    ∀ member ∈ kind.members, member.fallback =
      if member.name ∈ optionalNames then member.emptyValue? else none := by
  cases kind <;>
    simp [members, definition, tags, required, emptyByDefault, absentByDefault, optionalNames,
      Member.emptyValue?]

theorem Kind.fallback_of_optional {kind : Kind} {expected : Expected} {members : List Member}
    (defined : kind.definition = .record expected members) {member : Member}
    (inside : member ∈ members) (optional : member.name ∈ optionalNames) :
    member.fallback = member.emptyValue? := by
  have isMember : member ∈ kind.members := by
    rw [Kind.members, defined]
    exact inside
  rw [kind.fallback_eq member isMember, if_pos optional]

/-- How a value may be presented at a place in a document.  The entries of an object that
presents a record stand for members of the record with their values, or for no member; the
members that are dropped may be left out and hold nothing. -/
inductive Presents : (nullable : Bool) → Shape → Value → (text : List Char) → Prop
  | null (shape : Shape) : Presents true shape .null Value.null.chars
  | truth {nullable : Bool} (value : Bool) :
      Presents nullable .truth (.truth value) (Value.truth value).chars
  | integer {nullable : Bool} (value : Int64) :
      Presents nullable .integer (.integer value) (Value.integer value).chars
  | text {nullable : Bool} {value : String} {body : List Char}
      (spells : Spells body value.toList) : Presents nullable .text (.text value) (quoted body)
  | list {nullable : Bool} {element : Shape} {blanks : List Char}
      {items : List (Value × Padded)} (blank : Spaces blanks)
      (presents : ∀ item ∈ items, Presents false element item.1 item.2.body) :
      Presents nullable (.list element) (.list (items.map Prod.fst))
        ('[' :: (blanks ++ (separated (items.map fun item => item.2.chars) ++ [']'])))
  | record {nullable : Bool} {kind : Kind} {expected : Expected} {members : List Member}
      {values : List Value} {blanks : List Char}
      {entries : List (Option (Member × Value) × Entry)} {dropped : List (Member × Value)}
      (defined : kind.definition = .record expected members)
      (lengths : members.length = values.length)
      (complete : (entries.filterMap Prod.fst ++ dropped).Perm (members.zip values))
      (empty : ∀ pair ∈ dropped,
        pair.1.name ∈ optionalNames ∧ pair.1.emptyValue? = some pair.2)
      (blank : Spaces blanks)
      (named : ∀ pair entry, (some pair, entry) ∈ entries →
        Spells entry.key.body pair.1.name.toList)
      (presents : ∀ pair entry, (some pair, entry) ∈ entries →
        Presents pair.1.nullable pair.1.shape pair.2 entry.value.body)
      (unknown : ∀ entry, (none, entry) ∈ entries → WellFormed entry.value.body ∧
        ∃ name : String, Spells entry.key.body name.toList ∧ name ∉ members.map Member.name) :
      Presents nullable (.tree kind) (kind.recordOf values)
        ('\x7b' :: (blanks ++ (separated (entries.map fun entry => entry.2.chars) ++ ['\x7d'])))
  | tag {nullable : Bool} {kind : Kind} {alternatives : List Alternative} {name : String}
      {body : List Char} (defined : kind.definition = .choice alternatives)
      (known : ⟨name, .nothing⟩ ∈ alternatives) (spells : Spells body name.toList) :
      Presents nullable (.tree kind) (.tag name) (quoted body)
  | variant {nullable contentNullable : Bool} {kind : Kind} {alternatives : List Alternative}
      {name : String} {content : Content} {shape : Shape} {value : Value} {entry : Entry}
      (defined : kind.definition = .choice alternatives)
      (known : ⟨name, content⟩ ∈ alternatives)
      (placed : content.place? = some (contentNullable, shape))
      (spells : Spells entry.key.body name.toList)
      (presents : Presents contentNullable shape value entry.value.body) :
      Presents nullable (.tree kind) (.variant name value)
        ('\x7b' :: (entry.chars ++ ['\x7d']))

/-! ## The written form -/

/-- A text without space around it. -/
def Padded.bare (body : List Char) : Padded :=
  ⟨[], body, [], .nil, .nil⟩

theorem Padded.chars_bare (body : List Char) : (Padded.bare body).chars = body :=
  List.append_nil body

/-- A key as it is written and a value, without space. -/
def Entry.bare (name : String) (value : List Char) : Entry :=
  ⟨.bare (name.toList.flatMap escapedChar), .bare value⟩

theorem Entry.chars_bare (name : String) (value : List Char) :
    (Entry.bare name value).chars = textChars name ++ ':' :: value := by
  simp [bare, chars, Padded.chars, Padded.bare, textChars]

theorem furtherParts_items (items : List Value) :
    furtherParts (items.map Value.chars) = Value.furtherItemChars items := by
  induction items with
  | nil => rfl
  | cons item items ih =>
      rw [List.map_cons, furtherParts, List.flatMap_cons, ← furtherParts, ih,
        Value.furtherItemChars]

theorem separated_items (items : List Value) :
    separated (items.map Value.chars) = Value.itemChars items := by
  cases items with
  | nil => rfl
  | cons item items => rw [List.map_cons, separated, furtherParts_items, Value.itemChars]

theorem furtherParts_members {members : List Member} {values : List Value}
    (lengths : members.length = values.length) :
    furtherParts ((members.zip values).map fun pair =>
        (Entry.bare pair.1.name pair.2.chars).chars) =
      Value.furtherMemberChars (members.map Member.name) values := by
  induction members generalizing values with
  | nil =>
      cases values with
      | nil => rfl
      | cons value values => cases lengths
  | cons member members ih =>
      cases values with
      | nil => cases lengths
      | cons value values =>
          rw [List.zip_cons_cons, List.map_cons, furtherParts, List.flatMap_cons,
            ← furtherParts, ih (Nat.succ.inj lengths), Entry.chars_bare]
          rfl

theorem separated_members {members : List Member} {values : List Value}
    (lengths : members.length = values.length) :
    separated ((members.zip values).map fun pair =>
        (Entry.bare pair.1.name pair.2.chars).chars) =
      Value.memberChars (members.map Member.name) values := by
  match members, values, lengths with
  | [], [], _ => rfl
  | member :: members, value :: values, lengths =>
      rw [List.zip_cons_cons, List.map_cons, separated,
        furtherParts_members (Nat.succ.inj lengths), Entry.chars_bare]
      rfl

/-- The items of a list as they are written. -/
def bareItems (items : List Value) : List (Value × Padded) :=
  items.map fun item => (item, .bare item.chars)

theorem map_fst_bareItems (items : List Value) : (bareItems items).map Prod.fst = items := by
  rw [bareItems, List.map_map]
  exact List.map_id items

theorem Value.chars_list (items : List Value) :
    (Value.list items).chars =
      '[' :: ([] ++ (separated ((bareItems items).map fun item => item.2.chars) ++ [']'])) := by
  simp only [bareItems, List.map_map, Function.comp_def, Padded.chars_bare, separated_items,
    List.nil_append]
  rfl

/-- The members of a record with their values as they are written. -/
def bareEntries (members : List Member) (values : List Value) :
    List (Option (Member × Value) × Entry) :=
  (members.zip values).map fun pair => (some pair, .bare pair.1.name pair.2.chars)

theorem mem_bareEntries {members : List Member} {values : List Value}
    {found : Option (Member × Value)} {entry : Entry} :
    (found, entry) ∈ bareEntries members values ↔
      ∃ pair ∈ members.zip values,
        found = some pair ∧ entry = .bare pair.1.name pair.2.chars := by
  simp only [bareEntries, List.mem_map, Prod.mk.injEq, eq_comm]

theorem filterMap_bareEntries (members : List Member) (values : List Value) :
    (bareEntries members values).filterMap Prod.fst = members.zip values := by
  rw [bareEntries, List.filterMap_map]
  exact List.filterMap_some

theorem Kind.chars_recordOf {kind : Kind} {expected : Expected} {members : List Member}
    {values : List Value} (defined : kind.definition = .record expected members)
    (lengths : members.length = values.length) :
    (kind.recordOf values).chars =
      '\x7b' :: ([] ++ (separated ((bareEntries members values).map fun entry => entry.2.chars) ++
        ['\x7d'])) := by
  rw [bareEntries, List.map_map, Function.comp_def, separated_members lengths, recordOf,
    memberNames_eq defined]
  rfl

theorem Value.chars_variant (name : String) (value : Value) :
    (Value.variant name value).chars =
      '\x7b' :: ((Entry.bare name value.chars).chars ++ ['\x7d']) := by
  rw [Entry.chars_bare]
  rfl

/-- A value that fits its place is presented by its written form. -/
theorem Fits.presents {nullable : Bool} {shape : Shape} {value : Value}
    (fits : Fits nullable shape value) : Presents nullable shape value value.chars := by
  induction fits with
  | null shape => exact .null shape
  | truth value => exact .truth value
  | integer value => exact .integer value
  | text value => exact .text (spells_flatMap_escapedChar value.toList)
  | @list nullable element items _ ih =>
      have presents :
          Presents nullable (.list element) (.list ((bareItems items).map Prod.fst)) _ :=
        .list .nil (List.forall_mem_map.mpr ih)
      rw [map_fst_bareItems] at presents
      rw [Value.chars_list]
      exact presents
  | @record _ _ _ members values defined lengths _ ih =>
      have complete : ((bareEntries members values).filterMap Prod.fst ++ []).Perm
          (members.zip values) := by
        rw [filterMap_bareEntries, List.append_nil]
      rw [Kind.chars_recordOf defined lengths]
      refine .record defined lengths complete nofun .nil (fun pair entry member => ?_)
        (fun pair entry member => ?_) (fun entry member => ?_)
      · obtain ⟨pair, -, ⟨⟩, rfl⟩ := mem_bareEntries.mp member
        exact spells_flatMap_escapedChar _
      · obtain ⟨pair, inside, ⟨⟩, rfl⟩ := mem_bareEntries.mp member
        exact ih pair inside
      · obtain ⟨pair, -, ⟨⟩, -⟩ := mem_bareEntries.mp member
  | tag defined known => exact .tag defined known (spells_flatMap_escapedChar _)
  | variant defined known placed _ ih =>
      rw [Value.chars_variant]
      exact .variant defined known placed (spells_flatMap_escapedChar _) ih

end Sourcewright.Document
