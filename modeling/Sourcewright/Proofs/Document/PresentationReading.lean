import Mathlib.Data.List.Nodup
import Sourcewright.Proofs.Document.Nesting
import Sourcewright.Proofs.Document.Presentation

/-!
# Reading presentations

Reading does not depend on how a value is presented.  For lists and records the loops of the
reader are followed entry by entry: an entry leaves its value, or nothing if no member has its
name, and the members that are left out fall back to being empty.

The brackets of a part may nest deeper than the reader allows.  So a part is read if it is
within the limits, and otherwise the reader stops in it at the bracket that is one too many.

* Every presentation of a value is read, if the brackets of the value do not nest too deep.
  Brackets in values that are skipped do not count.
* The written form of a value is read exactly if its brackets do not nest too deep.
-/

namespace Sourcewright.Document

/-! ## Space in front of values -/

theorem readStep_skipSpace (inside : Inside) (shape : Shape) (input : List Char) :
    readStep inside shape (skipSpace input) = readStep inside shape input := by
  cases shape with
  | tree kind =>
      simp only [readStep]
      cases kind.definition <;>
        simp only [readDefinition, readRecord, readChoice, skipSpace_skipSpace]
  | _ =>
      simp only [readStep, readTruth, readInteger, readFloat, readText, readList,
        skipSpace_skipSpace]

theorem readNullable_skipSpace (nullable : Bool) (depth : Nat) (shape : Shape)
    (input : List Char) :
    readNullable nullable (readShape depth shape) (skipSpace input) =
      readNullable nullable (readShape depth shape) input := by
  cases nullable with
  | true => simp only [readNullable, skipSpace_skipSpace, if_true]
  | false => cases depth <;> exact readStep_skipSpace _ shape input

/-! ## Limited reading -/

/-- What is within the limits of a reader is read, and at anything else the depth limit is
met. -/
def Limited {α : Type} (within : Prop) (outcome : Except Fault α) (result : α) : Prop :=
  (within → outcome = .ok result) ∧
  (¬within → ∃ remaining, outcome = .error (.placed .depthLimit remaining))

namespace Limited

variable {α β : Type} {within : Prop} {outcome : Except Fault α} {result : α}

theorem of_ok (isWithin : within) (read : outcome = .ok result) : Limited within outcome result :=
  ⟨fun _ => read, fun beyond => absurd isWithin beyond⟩

theorem congr {other : Prop} (limited : Limited within outcome result) (same : within ↔ other) :
    Limited other outcome result := by
  rwa [← same]

/-- What is read one after the other is within the limits if both are. -/
theorem bind {nextWithin : Prop} {next : α → Except Fault β} {final : β}
    (first : Limited within outcome result)
    (second : Limited nextWithin (next result) final) :
    Limited (within ∧ nextWithin) (outcome >>= next) final := by
  constructor
  · rintro ⟨isWithin, nextIsWithin⟩
    rw [first.1 isWithin]
    exact second.1 nextIsWithin
  · intro beyond
    by_cases isWithin : within
    · obtain ⟨remaining, stopped⟩ := second.2 fun nextIsWithin => beyond ⟨isWithin, nextIsWithin⟩
      rw [first.1 isWithin]
      exact ⟨remaining, stopped⟩
    · obtain ⟨remaining, stopped⟩ := first.2 isWithin
      rw [stopped]
      exact ⟨remaining, rfl⟩

/-- What is done with what was read opens no brackets. -/
theorem andThen {next : α → Except Fault β} {final : β}
    (read : Limited within outcome result) (finished : next result = .ok final) :
    Limited within (outcome >>= next) final :=
  (read.bind (.of_ok trivial finished)).congr (Iff.of_eq (and_true within))

/-- A bracket that is closed where it should be. -/
theorem close {rest after : List Char} {contents : Except Fault (α × List Char)}
    {ending : List Char → List Char × Option Fault} (ended : ending rest = (after, none))
    (read : Limited within contents (result, rest)) :
    Limited within (closeWith ending contents) (result, after) := by
  constructor
  · intro isWithin
    rw [read.1 isWithin, closeWith, ended]
  · intro beyond
    obtain ⟨remaining, stopped⟩ := read.2 beyond
    rw [stopped]
    exact ⟨remaining, rfl⟩

end Limited

/-- A text is read as a value, and nothing of what follows is used up. -/
def Reads (within : Prop) (read : Reader Value) (text : List Char) (value : Value) : Prop :=
  ∀ rest, Ends rest → Limited within (read (text ++ rest)) (value, rest)

theorem Reads.congr {within other : Prop} {read : Reader Value} {text : List Char} {value : Value}
    (reads : Reads within read text value) (same : within ↔ other) :
    Reads other read text value :=
  fun rest ends => (reads rest ends).congr same

theorem Reads.nullable {within : Prop} {read : Reader Value} {text : List Char} {value : Value}
    (reads : Reads within read text value)
    (starts : ∃ first further, text = first :: further ∧ isSpace first = false ∧ first ≠ 'n')
    (nullable : Bool) : Reads within (readNullable nullable read) text value := by
  intro rest ends
  cases nullable with
  | false => exact reads rest ends
  | true =>
      obtain ⟨first, further, rfl, visible, notNull⟩ := starts
      have same : readNullable true read (first :: further ++ rest) =
          read (first :: further ++ rest) := by
        simp [readNullable, skipSpace_cons visible, notNull]
      rw [same]
      exact reads rest ends

/-! ## Lists -/

theorem nextElement?_first {item : Padded} (starts : StartsValue item.body)
    {spaces : List Char} (blank : Spaces spaces) (rest : List Char) :
    nextElement? true (spaces ++ (item.chars ++ rest)) =
      .ok (some (item.body ++ (item.after ++ rest))) := by
  have start : skipSpace (spaces ++ (item.chars ++ rest)) = _ :=
    (skipSpace_append blank _).trans (item.skipSpace_chars starts rest)
  obtain ⟨first, further, body, -, notEnd, -⟩ := starts
  simp [nextElement?, start, body, notEnd]

theorem nextElement?_further {item : Padded} (starts : StartsValue item.body)
    {spaces : List Char} (blank : Spaces spaces) (rest : List Char) :
    nextElement? false (spaces ++ ',' :: (item.chars ++ rest)) =
      .ok (some (item.body ++ (item.after ++ rest))) := by
  have comma : skipSpace (spaces ++ ',' :: (item.chars ++ rest)) = ',' :: (item.chars ++ rest) :=
    skipSpace_append blank _
  have start := item.skipSpace_chars starts rest
  obtain ⟨first, further, body, -, notEnd, -⟩ := starts
  simp [nextElement?, comma, start, body, notEnd]

/-- The items behind the first one are read up to the end of the list. -/
theorem readElements_further {read : Reader Value} (within : Value → Prop)
    {items : List (Value × Padded)} (starts : ∀ item ∈ items, StartsValue item.2.body)
    (reads : ∀ item ∈ items, Reads (within item.1) read item.2.body item.1)
    {spaces : List Char} (blank : Spaces spaces) {limit : Nat} (enough : items.length < limit)
    (rest : List Char) :
    ∃ left, skipSpace left = ']' :: rest ∧
      Limited (∀ item ∈ items, within item.1)
        (readElements read limit false
          (spaces ++ (furtherParts (items.map fun item => item.2.chars) ++ ']' :: rest)))
        (items.map Prod.fst, left) := by
  induction items generalizing spaces limit with
  | nil =>
      obtain ⟨limit, rfl⟩ := Nat.exists_eq_succ_of_ne_zero (Nat.ne_zero_of_lt enough)
      have start : skipSpace (spaces ++ ']' :: rest) = ']' :: rest := skipSpace_append blank _
      refine ⟨spaces ++ ']' :: rest, start, .of_ok nofun ?_⟩
      have ended : nextElement? false (spaces ++ ']' :: rest) = .ok none := by
        simp [nextElement?, start]
      simp only [List.map_nil, furtherParts, List.flatMap_nil, List.nil_append, readElements,
        ended]
      rfl
  | cons item items ih =>
      obtain ⟨limit, rfl⟩ := Nat.exists_eq_succ_of_ne_zero (Nat.ne_zero_of_lt enough)
      obtain ⟨itemStarts, itemsStart⟩ := List.forall_mem_cons.mp starts
      obtain ⟨itemReads, itemsRead⟩ := List.forall_mem_cons.mp reads
      obtain ⟨left, ended, further⟩ := ih itemsStart itemsRead item.2.blankAfter
        (Nat.lt_of_succ_lt_succ enough)
      have ends : Ends (item.2.after ++
          (furtherParts (items.map fun item => item.2.chars) ++ ']' :: rest)) :=
        (ends_furtherParts .list _ rest).append item.2.blankAfter
      refine ⟨left, ended, ?_⟩
      rw [List.map_cons, furtherParts_cons, List.forall_mem_cons]
      simp only [readElements, nextElement?_further itemStarts blank]
      exact (itemReads _ ends).bind (further.andThen rfl)

theorem length_separated (parts : List (List Char)) :
    parts.length ≤ (separated parts).length + 1 := by
  have further (parts : List (List Char)) : parts.length ≤ (furtherParts parts).length := by
    induction parts with
    | nil => exact Nat.le_refl 0
    | cons part parts ih =>
        simp only [furtherParts, List.flatMap_cons, List.length_append, List.length_cons] at ih ⊢
        omega
  cases parts with
  | nil => exact Nat.zero_le _
  | cons part parts =>
      have fewer := further parts
      simp only [separated, List.length_append, List.length_cons]
      omega

/-- The items of a list are read up to its end. -/
theorem readElements_items {read : Reader Value} (within : Value → Prop)
    {items : List (Value × Padded)} (starts : ∀ item ∈ items, StartsValue item.2.body)
    (reads : ∀ item ∈ items, Reads (within item.1) read item.2.body item.1)
    {blanks : List Char} (blank : Spaces blanks) {limit : Nat} (enough : items.length < limit)
    (rest : List Char) :
    ∃ left, skipSpace left = ']' :: rest ∧
      Limited (∀ item ∈ items, within item.1)
        (readElements read limit true
          (blanks ++ (separated (items.map fun item => item.2.chars) ++ ']' :: rest)))
        (items.map Prod.fst, left) := by
  obtain ⟨limit, rfl⟩ := Nat.exists_eq_succ_of_ne_zero (Nat.ne_zero_of_lt enough)
  cases items with
  | nil =>
      have start : skipSpace (blanks ++ ']' :: rest) = ']' :: rest := skipSpace_append blank _
      refine ⟨blanks ++ ']' :: rest, start, .of_ok nofun ?_⟩
      have ended : nextElement? true (blanks ++ ']' :: rest) = .ok none := by
        simp [nextElement?, start]
      simp only [List.map_nil, separated, List.nil_append, readElements, ended]
      rfl
  | cons item items =>
      obtain ⟨left, ended, further⟩ := readElements_further within starts reads .nil enough rest
      have itemStarts := starts item List.mem_cons_self
      refine ⟨left, ended, ?_⟩
      rw [List.map_cons, List.nil_append, furtherParts_cons] at further
      rw [List.map_cons, separated, List.append_assoc]
      -- The first item is found behind spaces where further ones are found behind a comma.
      have first := nextElement?_first itemStarts blank
      have behindComma := nextElement?_further itemStarts .nil
      simp only [List.nil_append] at behindComma
      simp only [readElements, first]
      simp only [readElements, behindComma] at further
      exact further

/-! ## Records -/

/-- If names are unique, nothing before an entry has its name. -/
theorem exists_before_named {α : Type} {name : α → String} {entries : List α}
    (unique : (entries.map name).Nodup) {entry : α} (member : entry ∈ entries) :
    ∃ before after, entries = before ++ entry :: after ∧
      ∀ other ∈ before, name other ≠ name entry := by
  obtain ⟨before, after, rfl⟩ := List.append_of_mem member
  refine ⟨before, after, rfl, fun other inside => ?_⟩
  rw [List.map_append, List.map_cons, List.nodup_append] at unique
  exact unique.2.2 _ (List.mem_map_of_mem inside) _ List.mem_cons_self

theorem find?_name {α : Type} {name : α → String} {entries : List α}
    (unique : (entries.map name).Nodup) {entry : α} (member : entry ∈ entries) :
    entries.find? (fun other => name other == name entry) = some entry := by
  obtain ⟨before, after, split, different⟩ := exists_before_named unique member
  rw [List.find?_eq_some_iff_append]
  exact ⟨beq_self_eq_true _, before, after, split, by simpa using different⟩

theorem lookup_name {entries : List (String × Value)}
    (unique : (entries.map Prod.fst).Nodup) {entry : String × Value} (member : entry ∈ entries) :
    entries.lookup entry.1 = some entry.2 := by
  obtain ⟨before, after, split, different⟩ := exists_before_named unique member
  rw [List.lookup_eq_some_iff]
  refine ⟨before, after, split, fun other inside => ?_⟩
  simpa using (different other inside).symm

theorem nextKey?_first (entry : Entry) {spaces : List Char} (blank : Spaces spaces)
    (rest : List Char) :
    nextKey? true (spaces ++ (entry.chars ++ rest)) =
      .ok (some (entry.key.body ++ '"' ::
        (entry.key.after ++ ':' :: (entry.value.chars ++ rest)))) := by
  have start : skipSpace (spaces ++ (entry.chars ++ rest)) = _ :=
    (skipSpace_append blank _).trans (entry.skipSpace_chars rest)
  simp [nextKey?, start]

theorem nextKey?_further (entry : Entry) {spaces : List Char} (blank : Spaces spaces)
    (rest : List Char) :
    nextKey? false (spaces ++ ',' :: (entry.chars ++ rest)) =
      .ok (some (entry.key.body ++ '"' ::
        (entry.key.after ++ ':' :: (entry.value.chars ++ rest)))) := by
  have comma : skipSpace (spaces ++ ',' :: (entry.chars ++ rest)) =
      ',' :: (entry.chars ++ rest) :=
    skipSpace_append blank _
  simp [nextKey?, comma, entry.skipSpace_chars rest]

theorem readMembers_step {read : Shape → Reader Value} {members : List Member}
    (unique : (members.map Member.name).Nodup) {member : Member} (known : member ∈ members)
    {seen : List (String × Value)} (fresh : seen.lookup member.name = none)
    {first : Bool} {text key behind start : List Char}
    (next : nextKey? first text = .ok (some key))
    (named : scanText key = .ok (member.name.toList, behind))
    (colon : scanColon behind = .ok start) (limit : Nat) :
    readMembers read members (limit + 1) first seen text =
      readMember read member start >>= fun found =>
        readMembers read members limit false ((member.name, found.1) :: seen) found.2 := by
  simp only [readMembers, next, named, String.ofList_toList, find?_name unique known,
    fresh, colon, bind, Except.bind, Option.isSome_none, Bool.false_eq_true, if_false]

/-- A member that the record does not know is skipped. -/
theorem readMembers_unknown {read : Shape → Reader Value} {members : List Member}
    {name : String} (unknown : name ∉ members.map Member.name) {seen : List (String × Value)}
    {first : Bool} {text key behind start after : List Char}
    (next : nextKey? first text = .ok (some key))
    (named : scanText key = .ok (name.toList, behind))
    (colon : scanColon behind = .ok start) (skipped : skipValue start = .ok after)
    (limit : Nat) :
    readMembers read members (limit + 1) first seen text =
      readMembers read members limit false seen after := by
  have notFound : members.find? (·.name == name) = none := by
    rw [List.find?_eq_none]
    intro member inside same
    exact unknown (List.mem_map.mpr ⟨member, inside, beq_iff_eq.mp same⟩)
  simp only [readMembers, next, named, String.ofList_toList, notFound, colon, skipped, bind,
    Except.bind]

/-- What is needed of an entry so that it is read in a record with the given members: it
stands for one of them, or it is skipped. -/
def EntryReads (within : Value → Prop) (read : Shape → Reader Value) (members : List Member) :
    Option (Member × Value) × Entry → Prop
  | (some pair, entry) => pair.1 ∈ members ∧ Spells entry.key.body pair.1.name.toList ∧
      ∀ rest, Ends rest → Limited (within pair.2)
        (readMember read pair.1 (entry.value.chars ++ rest)) (pair.2, entry.value.after ++ rest)
  | (none, entry) => WellFormed entry.value.body ∧
      ∃ name : String, Spells entry.key.body name.toList ∧ name ∉ members.map Member.name

/-- The members found among entries, with the last one first. -/
def foundMembers (entries : List (Option (Member × Value) × Entry)) : List (String × Value) :=
  ((entries.filterMap Prod.fst).map fun pair => (pair.1.name, pair.2)).reverse

theorem foundMembers_cons (entry : Option (Member × Value) × Entry)
    (entries : List (Option (Member × Value) × Entry)) (seen : List (String × Value)) :
    foundMembers (entry :: entries) ++ seen =
      foundMembers entries ++ (foundMembers [entry] ++ seen) := by
  rcases entry with ⟨_ | pair, entry⟩ <;> simp [foundMembers]

theorem lookup_eq_none {seen : List (String × Value)} {name : String}
    (absent : name ∉ seen.map Prod.fst) : seen.lookup name = none := by
  rw [List.lookup_eq_none_iff]
  intro other inside
  exact bne_iff_ne.mpr fun same => absent (List.mem_map.mpr ⟨other, inside, same.symm⟩)

/-- An entry is read: the member that it stands for, if any, is added to what has been
seen. -/
theorem EntryReads.step {within : Value → Prop} {read : Shape → Reader Value}
    {members : List Member} (unique : (members.map Member.name).Nodup)
    {entry : Option (Member × Value) × Entry} (reads : EntryReads within read members entry)
    {seen : List (String × Value)}
    (distinct : ((foundMembers [entry] ++ seen).map Prod.fst).Nodup) {first : Bool}
    {text rest : List Char}
    (next : nextKey? first text = .ok (some (entry.2.key.body ++ '"' ::
      (entry.2.key.after ++ ':' :: (entry.2.value.chars ++ rest)))))
    (ends : Ends rest) {limit : Nat} {further : Prop} {result : List (String × Value) × List Char}
    (continued : Limited further (readMembers read members limit false
      (foundMembers [entry] ++ seen) (entry.2.value.after ++ rest)) result) :
    Limited ((∀ pair ∈ entry.1, within pair.2) ∧ further)
      (readMembers read members (limit + 1) first seen text) result := by
  obtain ⟨found, entry⟩ := entry
  have colon := scanColon_append entry.key.blankAfter (entry.value.chars ++ rest)
  cases found with
  | none =>
      obtain ⟨wellFormed, name, spells, unknown⟩ := reads
      rw [readMembers_unknown unknown next (spells.scanText _) colon
        (wellFormed.skipValue ends) limit]
      exact continued.congr (by simp)
  | some pair =>
      obtain ⟨known, spells, memberReads⟩ := reads
      have fresh : seen.lookup pair.1.name = none :=
        lookup_eq_none (List.nodup_cons.mp distinct).1
      rw [readMembers_step unique known fresh next (spells.scanText _) colon]
      exact ((memberReads rest ends).bind continued).congr (by simp)

/-- The entries behind the first one are read up to the end of the object. -/
theorem readMembers_further {within : Value → Prop} {read : Shape → Reader Value}
    {members : List Member} (unique : (members.map Member.name).Nodup)
    {entries : List (Option (Member × Value) × Entry)}
    (reads : ∀ entry ∈ entries, EntryReads within read members entry)
    {seen : List (String × Value)}
    (distinct : ((foundMembers entries ++ seen).map Prod.fst).Nodup)
    {spaces : List Char} (blank : Spaces spaces) {limit : Nat} (enough : entries.length < limit)
    (rest : List Char) :
    ∃ left, skipSpace left = '\x7d' :: rest ∧
      Limited (∀ pair ∈ entries.filterMap Prod.fst, within pair.2)
        (readMembers read members limit false seen
          (spaces ++ (furtherParts (entries.map fun entry => entry.2.chars) ++ '\x7d' :: rest)))
        (foundMembers entries ++ seen, left) := by
  induction entries generalizing seen spaces limit with
  | nil =>
      obtain ⟨limit, rfl⟩ := Nat.exists_eq_succ_of_ne_zero (Nat.ne_zero_of_lt enough)
      have start : skipSpace (spaces ++ '\x7d' :: rest) = '\x7d' :: rest :=
        skipSpace_append blank _
      refine ⟨spaces ++ '\x7d' :: rest, start, .of_ok nofun ?_⟩
      have ended : nextKey? false (spaces ++ '\x7d' :: rest) = .ok none := by
        simp [nextKey?, start]
      simp only [List.map_nil, furtherParts, List.flatMap_nil, List.nil_append, readMembers,
        ended]
      rfl
  | cons entry entries ih =>
      obtain ⟨limit, rfl⟩ := Nat.exists_eq_succ_of_ne_zero (Nat.ne_zero_of_lt enough)
      obtain ⟨entryReads, entriesRead⟩ := List.forall_mem_cons.mp reads
      rw [foundMembers_cons] at distinct ⊢
      obtain ⟨left, ended, further⟩ := ih entriesRead distinct entry.2.value.blankAfter
        (Nat.lt_of_succ_lt_succ enough)
      have distinctHere : ((foundMembers [entry] ++ seen).map Prod.fst).Nodup := by
        rw [List.map_append] at distinct
        exact distinct.of_append_right
      have next := nextKey?_further entry.2 blank
        (furtherParts (entries.map fun entry => entry.2.chars) ++ '\x7d' :: rest)
      have stepped := entryReads.step unique distinctHere next (ends_furtherParts .object _ rest)
        further
      refine ⟨left, ended, ?_⟩
      rw [List.map_cons, furtherParts_cons]
      refine stepped.congr ?_
      rcases entry with ⟨_ | pair, entry⟩ <;> simp

theorem readMembers_entries {within : Value → Prop} {read : Shape → Reader Value}
    {members : List Member} (unique : (members.map Member.name).Nodup)
    {entries : List (Option (Member × Value) × Entry)}
    (reads : ∀ entry ∈ entries, EntryReads within read members entry)
    (distinct : ((foundMembers entries).map Prod.fst).Nodup)
    {blanks : List Char} (blank : Spaces blanks) {limit : Nat} (enough : entries.length < limit)
    (rest : List Char) :
    ∃ left, skipSpace left = '\x7d' :: rest ∧
      Limited (∀ pair ∈ entries.filterMap Prod.fst, within pair.2)
        (readMembers read members limit true []
          (blanks ++ (separated (entries.map fun entry => entry.2.chars) ++ '\x7d' :: rest)))
        (foundMembers entries, left) := by
  obtain ⟨limit, rfl⟩ := Nat.exists_eq_succ_of_ne_zero (Nat.ne_zero_of_lt enough)
  cases entries with
  | nil =>
      have start : skipSpace (blanks ++ '\x7d' :: rest) = '\x7d' :: rest :=
        skipSpace_append blank _
      refine ⟨blanks ++ '\x7d' :: rest, start, .of_ok nofun ?_⟩
      have ended : nextKey? true (blanks ++ '\x7d' :: rest) = .ok none := by
        simp [nextKey?, start]
      simp only [List.map_nil, separated, List.nil_append, readMembers, ended]
      rfl
  | cons entry entries =>
      rw [← List.append_nil (foundMembers (entry :: entries))] at distinct ⊢
      obtain ⟨left, ended, further⟩ :=
        readMembers_further unique reads distinct .nil enough rest
      refine ⟨left, ended, ?_⟩
      rw [List.map_cons, List.nil_append, furtherParts_cons] at further
      rw [List.map_cons, separated, List.append_assoc]
      have first := nextKey?_first entry.2 blank
      have behindComma := nextKey?_further entry.2 .nil
      simp only [List.nil_append] at behindComma
      simp only [readMembers, first]
      simp only [readMembers, behindComma] at further
      exact further

theorem completeMembers_eq_ok {seen : List (String × Value)} {members : List Member}
    {values : List Value}
    (found : List.Forall₂ (fun member value =>
      (seen.lookup member.name).or member.fallback = some value) members values) :
    completeMembers seen members = .ok values := by
  induction found with
  | nil => rfl
  | cons first _ ih => simp only [completeMembers, first, ih]; rfl

/-- The values of all members are found among the entries or are defaults. -/
theorem completeMembers_foundMembers {members : List Member} {values : List Value}
    (unique : (members.map Member.name).Nodup) (lengths : members.length = values.length)
    {entries : List (Option (Member × Value) × Entry)} {dropped : List (Member × Value)}
    (complete : (entries.filterMap Prod.fst ++ dropped).Perm (members.zip values))
    (defaults : ∀ pair ∈ dropped, pair.1.fallback = some pair.2) :
    ((foundMembers entries).map Prod.fst).Nodup ∧
      completeMembers (foundMembers entries) members = .ok values := by
  have names : ((members.zip values).map fun pair => pair.1.name) = members.map Member.name := by
    have firsts := List.map_fst_zip (Nat.le_of_eq lengths)
    calc ((members.zip values).map fun pair => pair.1.name)
        = ((members.zip values).map Prod.fst).map Member.name := by rw [List.map_map]; rfl
      _ = members.map Member.name := by rw [firsts]
  have distinct := (complete.map fun pair => pair.1.name).nodup_iff.mpr (names ▸ unique)
  rw [List.map_append, List.nodup_append] at distinct
  have foundNames : (foundMembers entries).map Prod.fst =
      ((entries.filterMap Prod.fst).map fun pair => pair.1.name).reverse := by
    simp [foundMembers]
  have foundDistinct : ((foundMembers entries).map Prod.fst).Nodup := by
    rw [foundNames]
    exact List.nodup_reverse.mpr distinct.1
  refine ⟨foundDistinct, completeMembers_eq_ok (List.forall₂_iff_zip.mpr ⟨lengths, ?_⟩)⟩
  intro member value inside
  rcases List.mem_append.mp (complete.mem_iff.mpr inside) with found | isDropped
  · have listed : (member.name, value) ∈ foundMembers entries := by
      rw [foundMembers, List.mem_reverse]
      exact List.mem_map.mpr ⟨(member, value), found, rfl⟩
    rw [lookup_name foundDistinct listed, Option.some_or]
  · have absent : member.name ∉ (foundMembers entries).map Prod.fst := by
      rw [foundNames, List.mem_reverse]
      intro named
      exact distinct.2.2 _ named _ (List.mem_map.mpr ⟨(member, value), isDropped, rfl⟩) rfl
    rw [lookup_eq_none absent, Option.none_or, defaults _ isDropped]

/-! ## Values -/

theorem Presents.startsValue {nullable : Bool} {shape : Shape} {value : Value}
    {text : List Char} (presents : Presents nullable shape value text) : StartsValue text := by
  cases presents with
  | null => exact ⟨_, _, rfl, by decide⟩
  | truth value => cases value <;> exact ⟨_, _, rfl, by decide⟩
  | integer value =>
      obtain ⟨first, rest, chars, visible, starts⟩ := wholeText_eq_cons value.toInt
      refine ⟨first, rest, chars, visible, ?_, ?_⟩ <;>
        · rintro rfl
          exact absurd starts (by decide)
  | _ => exact ⟨_, _, rfl, by decide⟩

section Values

variable {within : Prop}

theorem reads_truth (isWithin : within) (nullable : Bool) (depth : Nat) (value : Bool) :
    Reads within (readNullable nullable (readShape depth .truth)) (Value.truth value).chars
      (.truth value) := by
  refine Reads.nullable (fun rest _ => .of_ok isWithin ?_) ?_ nullable
  · cases depth <;> exact readTruth_chars value rest
  · cases value <;> exact ⟨_, _, rfl, by decide⟩

theorem reads_integer (isWithin : within) (nullable : Bool) (depth : Nat) (value : Int64) :
    Reads within (readNullable nullable (readShape depth .integer)) (Value.integer value).chars
      (.integer value) := by
  refine Reads.nullable (fun rest ends => .of_ok isWithin ?_) ?_ nullable
  · cases depth <;> exact readInteger_chars value ends
  · obtain ⟨first, rest, chars, visible, starts⟩ := wholeText_eq_cons value.toInt
    refine ⟨first, rest, chars, visible, ?_⟩
    rintro rfl
    exact absurd starts (by decide)

theorem reads_text (isWithin : within) (nullable : Bool) (depth : Nat) {value : String}
    {body : List Char} (spells : Spells body value.toList) :
    Reads within (readNullable nullable (readShape depth .text)) (quoted body) (.text value) := by
  refine Reads.nullable (fun rest _ => .of_ok isWithin ?_) ⟨_, _, rfl, by decide⟩ nullable
  have start : skipSpace (quoted body ++ rest) = '"' :: (body ++ '"' :: rest) := by
    simp [quoted, skipSpace, isSpace]
  have read : readText (quoted body ++ rest) = .ok (.text value, rest) := by
    simp only [readText, start, spells.scanText, bind, Except.bind, String.ofList_toList]
    rfl
  cases depth <;> exact read

theorem reads_list (within : Value → Prop) {element : Shape} {depth : Nat}
    {items : List (Value × Padded)} (starts : ∀ item ∈ items, StartsValue item.2.body)
    (reads : ∀ item ∈ items, Reads (within item.1) (readShape depth element) item.2.body item.1)
    {blanks : List Char} (blank : Spaces blanks) :
    Reads (∀ item ∈ items, within item.1) (readShape (depth + 1) (.list element))
      ('[' :: (blanks ++ (separated (items.map fun item => item.2.chars) ++ [']'])))
      (.list (items.map Prod.fst)) := by
  intro rest _
  have text : '[' :: (blanks ++ (separated (items.map fun item => item.2.chars) ++ [']'])) ++
      rest =
        '[' :: (blanks ++ (separated (items.map fun item => item.2.chars) ++ ']' :: rest)) := by
    simp
  have enough : items.length <
      (blanks ++ (separated (items.map fun item => item.2.chars) ++ ']' :: rest)).length + 1 := by
    have fewer := length_separated (items.map fun item => item.2.chars)
    simp only [List.length_append, List.length_cons, List.length_map] at fewer ⊢
    omega
  obtain ⟨left, ended, elements⟩ := readElements_items within starts reads blank enough rest
  have closed : endList left = (rest, none) := by
    simp [endList, ended]
  have start := skipSpace_cons (show isSpace '[' = false by decide)
    (blanks ++ (separated (items.map fun item => item.2.chars) ++ ']' :: rest))
  rw [text]
  simp only [readShape, readStep, readList, start]
  exact (elements.close closed).andThen rfl

/-- The names of the members of a record are different. -/
theorem Kind.nodup_memberNames (kind : Kind) : kind.memberNames.Nodup := by
  cases kind <;> decide

theorem reads_record {within : Value → Prop} {kind : Kind} {expected : Expected}
    {members : List Member} {values : List Value}
    (defined : kind.definition = .record expected members)
    (lengths : members.length = values.length) {depth : Nat}
    {entries : List (Option (Member × Value) × Entry)} {dropped : List (Member × Value)}
    (complete : (entries.filterMap Prod.fst ++ dropped).Perm (members.zip values))
    (defaults : ∀ pair ∈ dropped, pair.1.fallback = some pair.2)
    (reads : ∀ entry ∈ entries, EntryReads within (readShape depth) members entry)
    {blanks : List Char} (blank : Spaces blanks) :
    Reads (∀ pair ∈ entries.filterMap Prod.fst, within pair.2)
      (readShape (depth + 1) (.tree kind))
      ('\x7b' :: (blanks ++ (separated (entries.map fun entry => entry.2.chars) ++ ['\x7d'])))
      (kind.recordOf values) := by
  intro rest _
  have names := Kind.memberNames_eq defined
  have unique : (members.map Member.name).Nodup := names ▸ kind.nodup_memberNames
  obtain ⟨distinct, completed⟩ :=
    completeMembers_foundMembers unique lengths complete defaults
  have text : '\x7b' :: (blanks ++ (separated (entries.map fun entry => entry.2.chars) ++
      ['\x7d'])) ++ rest =
        '\x7b' :: (blanks ++ (separated (entries.map fun entry => entry.2.chars) ++
          '\x7d' :: rest)) := by
    simp
  have enough : entries.length <
      (blanks ++ (separated (entries.map fun entry => entry.2.chars) ++
        '\x7d' :: rest)).length + 1 := by
    have fewer := length_separated (entries.map fun entry => entry.2.chars)
    simp only [List.length_append, List.length_cons, List.length_map] at fewer ⊢
    omega
  obtain ⟨left, ended, found⟩ := readMembers_entries unique reads distinct blank enough rest
  have named : Limited (∀ pair ∈ entries.filterMap Prod.fst, within pair.2)
      (readNamed (readShape depth) members
        (blanks ++ (separated (entries.map fun entry => entry.2.chars) ++ '\x7d' :: rest)))
      (values, left) :=
    found.andThen (by simp only [completed]; rfl)
  have closed : endObject left = (rest, none) := by
    simp [endObject, ended]
  have start := skipSpace_cons (show isSpace '\x7b' = false by decide)
    (blanks ++ (separated (entries.map fun entry => entry.2.chars) ++ '\x7d' :: rest))
  rw [text, Kind.recordOf, names]
  simp only [readShape, readStep, defined, readDefinition, readRecord, start]
  exact (named.close closed).andThen rfl

/-- The names of the alternatives of a kind of tree are different. -/
theorem Kind.nodup_alternatives {kind : Kind} {alternatives : List Alternative}
    (defined : kind.definition = .choice alternatives) :
    (alternatives.map Alternative.name).Nodup := by
  cases kind <;> cases defined <;> decide

theorem readAlternative_eq {kind : Kind} {alternatives : List Alternative}
    (defined : kind.definition = .choice alternatives) {alternative : Alternative}
    (known : alternative ∈ alternatives) {text rest : List Char}
    (named : scanText text = .ok (alternative.name.toList, rest)) :
    readAlternative alternatives text = .ok (alternative, rest) := by
  have unique := Kind.nodup_alternatives defined
  simp only [readAlternative, named, String.ofList_toList, find?_name unique known,
    bind, Except.bind]
  rfl

theorem reads_tag (isWithin : within) (nullable : Bool) (depth : Nat) {kind : Kind}
    {alternatives : List Alternative} (defined : kind.definition = .choice alternatives)
    {name : String} (known : ⟨name, .nothing⟩ ∈ alternatives) {body : List Char}
    (spells : Spells body name.toList) :
    Reads within (readNullable nullable (readShape depth (.tree kind))) (quoted body)
      (.tag name) := by
  refine Reads.nullable (fun rest _ => .of_ok isWithin ?_) ⟨_, _, rfl, by decide⟩ nullable
  have start : skipSpace (quoted body ++ rest) = '"' :: (body ++ '"' :: rest) := by
    simp [quoted, skipSpace, isSpace]
  have read (inside : Inside) :
      readChoice inside alternatives (quoted body ++ rest) = .ok (.tag name, rest) := by
    simp only [readChoice, start, readAlternative_eq defined known (spells.scanText rest), bind,
      Except.bind]
    rfl
  cases depth <;> simp only [readShape, readStep, defined, readDefinition] <;> exact read _

theorem readContent_placed (read : Shape → Reader Value) {name : String} {content : Content}
    {nullable : Bool} {shape : Shape} (placed : content.place? = some (nullable, shape))
    (text : List Char) :
    readContent read ⟨name, content⟩ text =
      readNullable nullable (read shape) text >>= fun found =>
        .ok (.variant name found.1, found.2) := by
  cases content with
  | nothing => cases placed
  | value shape nullable =>
      cases placed
      rfl
  | members kind =>
      cases placed
      rfl

/-- A text between spaces is read up to the space behind it. -/
theorem read_padded {nullable : Bool} {depth : Nat} {shape : Shape} {value : Value}
    {padded : Padded} (starts : StartsValue padded.body)
    (reads : Reads within (readNullable nullable (readShape depth shape)) padded.body value)
    {rest : List Char} (ends : Ends rest) :
    Limited within (readNullable nullable (readShape depth shape) (padded.chars ++ rest))
      (value, padded.after ++ rest) := by
  rw [← readNullable_skipSpace, padded.skipSpace_chars starts]
  exact reads _ (ends.append padded.blankAfter)

theorem reads_variant {kind : Kind} {alternatives : List Alternative}
    (defined : kind.definition = .choice alternatives) {name : String} {content : Content}
    (known : ⟨name, content⟩ ∈ alternatives) {nullable : Bool} {shape : Shape}
    (placed : content.place? = some (nullable, shape)) {entry : Entry}
    (spells : Spells entry.key.body name.toList) {depth : Nat} {value : Value}
    (starts : StartsValue entry.value.body)
    (reads : Reads within (readNullable nullable (readShape depth shape)) entry.value.body
      value) :
    Reads within (readShape (depth + 1) (.tree kind)) ('\x7b' :: (entry.chars ++ ['\x7d']))
      (.variant name value) := by
  intro rest _
  have text : '\x7b' :: (entry.chars ++ ['\x7d']) ++ rest =
      '\x7b' :: (entry.chars ++ '\x7d' :: rest) := by
    simp
  have start := skipSpace_cons (show isSpace '\x7b' = false by decide)
    (entry.chars ++ '\x7d' :: rest)
  have named : alternativeStart (entry.chars ++ '\x7d' :: rest) =
      .ok (entry.key.body ++ '"' :: (entry.key.after ++
        ':' :: (entry.value.chars ++ '\x7d' :: rest))) := by
    simp [alternativeStart, entry.skipSpace_chars]
  have closed : closeChoice (entry.value.after ++ '\x7d' :: rest) = .ok rest := by
    have start : skipSpace (entry.value.after ++ '\x7d' :: rest) = '\x7d' :: rest :=
      skipSpace_append entry.value.blankAfter _
    simp [closeChoice, start]
  have contentRead : Limited within (readContent (readShape depth) ⟨name, content⟩
      (entry.value.chars ++ '\x7d' :: rest))
      (.variant name value, entry.value.after ++ '\x7d' :: rest) := by
    rw [readContent_placed _ placed]
    exact (read_padded starts reads (.cons (show '\x7d' ∈ _ by decide) rest)).andThen rfl
  have opened : readShape (depth + 1) (.tree kind) ('\x7b' :: (entry.chars ++ '\x7d' :: rest)) =
      readContent (readShape depth) ⟨name, content⟩ (entry.value.chars ++ '\x7d' :: rest) >>=
        fun found => closeChoice found.2 >>= fun after => .ok (found.1, after) := by
    simp only [readShape, readStep, defined, readDefinition, readChoice, start, named,
      readAlternative_eq defined known (spells.scanText _),
      scanColon_append entry.key.blankAfter, bind, Except.bind]
    rfl
  rw [text, opened]
  refine contentRead.andThen ?_
  rw [closed]
  rfl

end Values

/-! ## Presentations -/

theorem Value.mostNesting_le_iff {values : List Value} {depth : Nat} :
    mostNesting values ≤ depth ↔ ∀ value ∈ values, value.nesting ≤ depth := by
  induction values with
  | nil => simp [mostNesting]
  | cons first values ih => rw [mostNesting, Nat.max_le, ih, List.forall_mem_cons]

/-- What stands inside of a bracket nests less deep. -/
theorem exists_depth {nesting depth : Nat} (within : nesting + 1 ≤ depth) :
    ∃ inner, depth = inner + 1 ∧ nesting ≤ inner :=
  ⟨depth - 1, by omega, by omega⟩

/-- A presentation is read as the value that it presents. -/
theorem Presents.reads {nullable : Bool} {shape : Shape} {value : Value} {text : List Char}
    (presents : Presents nullable shape value text) {depth : Nat}
    (within : value.nesting ≤ depth) :
    Reads True (readNullable nullable (readShape depth shape)) text value := by
  -- Each bracket of the value uses up one level; brackets that are skipped use up none.
  induction presents generalizing depth with
  | null => exact fun rest _ => .of_ok trivial (readNullable_null _ rest)
  | truth value => exact reads_truth trivial _ depth value
  | integer value => exact reads_integer trivial _ depth value
  | text spells => exact reads_text trivial _ depth spells
  | list blank presents ih =>
      obtain ⟨inner, rfl, withinInner⟩ := exists_depth within
      rw [Value.mostNesting_le_iff, List.forall_mem_map] at withinInner
      have read := reads_list (fun _ => True)
        (fun item member => (presents item member).startsValue)
        (fun item member => ih item member (withinInner item member)) blank
      exact (read.congr (by simp)).nullable ⟨_, _, rfl, by decide⟩ _
  | @record _ _ _ members _ _ entries dropped defined lengths complete empty blank named presents
      unknown ih =>
      obtain ⟨inner, rfl, withinInner⟩ := exists_depth within
      rw [Value.mostNesting_le_iff] at withinInner
      have defaults (pair : Member × Value) (isDropped : pair ∈ dropped) :
          pair.1.fallback = some pair.2 := by
        have inside := complete.mem_iff.mp (List.mem_append_right _ isDropped)
        obtain ⟨optional, isEmpty⟩ := empty pair isDropped
        exact (Kind.fallback_of_optional defined (List.of_mem_zip inside).1 optional).trans isEmpty
      have reads : ∀ entry ∈ entries,
          EntryReads (fun _ => True) (readShape inner) members entry := by
        rintro ⟨found, entry⟩ member
        cases found with
        | none => exact unknown entry member
        | some pair =>
            have inside := complete.mem_iff.mp (List.mem_append_left dropped
              (List.mem_filterMap.mpr ⟨_, member, rfl⟩))
            obtain ⟨isMember, isValue⟩ := List.of_mem_zip inside
            refine ⟨isMember, named pair entry member, fun rest ends => ?_⟩
            exact read_padded (presents pair entry member).startsValue
              (ih pair entry member (withinInner _ isValue)) ends
      have read := reads_record defined lengths complete defaults reads blank
      exact (read.congr (by simp)).nullable ⟨_, _, rfl, by decide⟩ _
  | tag defined known spells => exact reads_tag trivial _ depth defined known spells
  | variant defined known placed spells presents ih =>
      obtain ⟨inner, rfl, withinInner⟩ := exists_depth within
      exact (reads_variant defined known placed spells presents.startsValue
        (ih withinInner)).nullable ⟨_, _, rfl, by decide⟩ _

/-- A presentation with space around it is read as a document. -/
theorem Presents.readChars {shape : Shape} {value : Value} {document : Padded}
    (presents : Presents false shape value document.body)
    (within : value.nesting ≤ depthLimit) : readChars shape document.chars = .ok value := by
  have read := (read_padded presents.startsValue (presents.reads within) .nil).1 trivial
  have ended : skipSpace document.after = [] := by
    rw [← List.append_nil document.after, skipSpace_append document.blankAfter]
    rfl
  simp only [List.append_nil, readNullable, Bool.false_eq_true, if_false] at read
  simp only [Document.readChars, read, ended, bind, Except.bind]
  rfl

/-! ## Written values -/

/-- A value in a bracket nests one deeper than what stands inside of the bracket. -/
theorem Reads.bracketed {shape : Shape} {text : List Char} {value : Value} {nesting : Nat}
    (stops : ∀ rest, ∃ remaining,
      readShape 0 shape (text ++ rest) = .error (.placed .depthLimit remaining))
    (inside : ∀ depth, Reads (nesting ≤ depth) (readShape (depth + 1) shape) text value)
    (depth : Nat) : Reads (nesting + 1 ≤ depth) (readShape depth shape) text value := by
  intro rest ends
  cases depth with
  | zero => exact ⟨fun within => absurd within (Nat.not_succ_le_zero nesting), fun _ => stops rest⟩
  | succ depth => exact (inside depth rest ends).congr (by omega)

theorem stops_list (element : Shape) (text : List Char) :
    ∃ remaining, readShape 0 (.list element) ('[' :: text) =
      .error (.placed .depthLimit remaining) :=
  ⟨_, rfl⟩

theorem stops_tree (kind : Kind) (text : List Char) :
    ∃ remaining, readShape 0 (.tree kind) ('\x7b' :: text) =
      .error (.placed .depthLimit remaining) := by
  simp only [readShape, readStep]
  cases kind.definition <;> exact ⟨_, rfl⟩

theorem forall_mem_zip_iff {members : List Member} {values : List Value}
    (lengths : members.length = values.length) (holds : Value → Prop) :
    (∀ pair ∈ members.zip values, holds pair.2) ↔ ∀ value ∈ values, holds value := by
  constructor
  · intro all value inside
    rw [← List.map_snd_zip (Nat.le_of_eq lengths.symm)] at inside
    obtain ⟨pair, member, rfl⟩ := List.mem_map.mp inside
    exact all pair member
  · intro all pair member
    exact all pair.2 (List.of_mem_zip member).2

/-- A value that fits its place is read back from its written form if its brackets nest no
deeper than the reader allows, and otherwise the reader stops at a bracket. -/
theorem Fits.reads {nullable : Bool} {shape : Shape} {value : Value}
    (fits : Fits nullable shape value) (depth : Nat) :
    Reads (value.nesting ≤ depth) (readNullable nullable (readShape depth shape)) value.chars
      value := by
  induction fits generalizing depth with
  | null shape => exact fun rest _ => .of_ok (Nat.zero_le depth) (readNullable_null _ rest)
  | truth value => exact reads_truth (Nat.zero_le depth) _ depth value
  | integer value => exact reads_integer (Nat.zero_le depth) _ depth value
  | text value => exact reads_text (Nat.zero_le depth) _ depth (spells_flatMap_escapedChar _)
  | @list nullable element items fits ih =>
      have starts : ∀ item ∈ bareItems items, StartsValue item.2.body :=
        List.forall_mem_map.mpr fun item inside => (fits item inside).presents.startsValue
      have reads (inner : Nat) : ∀ item ∈ bareItems items,
          Reads (item.1.nesting ≤ inner) (readShape inner element) item.2.body item.1 :=
        List.forall_mem_map.mpr fun item inside => ih item inside inner
      have deepest (inner : Nat) : (∀ item ∈ bareItems items, item.1.nesting ≤ inner) ↔
          Value.mostNesting items ≤ inner := by
        rw [Value.mostNesting_le_iff, bareItems, List.forall_mem_map]
      rw [Value.chars_list]
      refine Reads.nullable (.bracketed (fun rest => stops_list element _) (fun inner => ?_) depth)
        ⟨_, _, rfl, by decide⟩ nullable
      have read := reads_list (fun value => value.nesting ≤ inner) starts (reads inner) .nil
      rw [map_fst_bareItems] at read
      exact read.congr (deepest inner)
  | @record nullable kind _ members values defined lengths fits ih =>
      have complete : ((bareEntries members values).filterMap Prod.fst ++ []).Perm
          (members.zip values) := by
        rw [filterMap_bareEntries, List.append_nil]
      have reads (inner : Nat) : ∀ entry ∈ bareEntries members values,
          EntryReads (fun value => value.nesting ≤ inner) (readShape inner) members entry := by
        rintro ⟨found, entry⟩ member
        obtain ⟨pair, inside, rfl, rfl⟩ := mem_bareEntries.mp member
        refine ⟨(List.of_mem_zip inside).1, spells_flatMap_escapedChar _, fun rest ends => ?_⟩
        exact read_padded (fits pair inside).presents.startsValue (ih pair inside inner) ends
      have deepest (inner : Nat) :
          (∀ pair ∈ (bareEntries members values).filterMap Prod.fst, pair.2.nesting ≤ inner) ↔
            Value.mostNesting values ≤ inner := by
        rw [Value.mostNesting_le_iff, filterMap_bareEntries]
        exact forall_mem_zip_iff lengths fun value => value.nesting ≤ inner
      rw [Kind.chars_recordOf defined lengths]
      refine Reads.nullable (.bracketed (fun rest => stops_tree kind _) (fun inner => ?_) depth)
        ⟨_, _, rfl, by decide⟩ nullable
      exact (reads_record defined lengths complete (List.forall_mem_nil _) (reads inner) .nil).congr
        (deepest inner)
  | tag defined known =>
      exact reads_tag (Nat.zero_le depth) _ depth defined known (spells_flatMap_escapedChar _)
  | @variant nullable _ kind _ name _ _ value defined known placed fits ih =>
      rw [Value.chars_variant]
      refine Reads.nullable (.bracketed (fun rest => stops_tree kind _) (fun inner => ?_) depth)
        ⟨_, _, rfl, by decide⟩ nullable
      exact reads_variant defined known placed (spells_flatMap_escapedChar _)
        fits.presents.startsValue (ih inner)

theorem Fits.nests {nullable : Bool} {shape : Shape} {value : Value}
    (fits : Fits nullable shape value) : value.Nests := by
  induction fits with
  | null shape => exact Value.nests_null
  | truth value => exact Value.nests_truth value
  | integer value => exact Value.nests_integer value
  | text value => exact Value.nests_text value
  | list _ ih => exact Value.nests_list ih
  | record defined lengths _ ih =>
      rw [Kind.recordOf, Kind.memberNames_eq defined]
      exact Value.nests_record (by rw [List.length_map, lengths])
        ((forall_mem_zip_iff lengths Value.Nests).mp ih)
  | tag _ _ => exact Value.nests_tag _
  | variant _ _ _ _ ih => exact Value.nests_variant _ ih

end Sourcewright.Document
