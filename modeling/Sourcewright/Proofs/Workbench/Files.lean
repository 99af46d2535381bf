import Sourcewright.Workbench.Workplace

/-!
# Files on a disk

What the operations of a disk do to its files and to the ways along its directories.  Making
directories changes no file and closes no way; writing a file changes the file at the end of
one way only, and closes none either.

A path that is joined from two is walked along the first and then along the second, unless
the second one starts at the root.
-/

namespace Sourcewright

namespace Disk

def file? (disk : Disk) (location : Location) : Option ByteArray :=
  match disk.entry? location with
  | some (.file content) => some content
  | _ => none

theorem lookup_filter_of_ne {location other : Location} (different : other ≠ location)
    (entries : List (Location × Entry)) :
    (entries.filter fun entry => entry.1 != location).lookup other = entries.lookup other := by
  induction entries with
  | nil => rfl
  | cons entry entries ih =>
      obtain ⟨place, found⟩ := entry
      by_cases dropped : place = location
      · have passed : (other == place) = false := by
          rw [dropped]
          simpa using different
        rw [List.filter_cons_of_neg (by simp [dropped]), ih, List.lookup_cons, passed]
      · rw [List.filter_cons_of_pos (by simpa using dropped), List.lookup_cons, List.lookup_cons,
          ih]

theorem lookup_filter_self (location : Location) (entries : List (Location × Entry)) :
    (entries.filter fun entry => entry.1 != location).lookup location = none := by
  rw [List.lookup_eq_none_iff]
  intro entry member
  obtain ⟨-, kept⟩ := List.mem_filter.mp member
  rw [bne_iff_ne] at kept ⊢
  exact kept.symm

theorem entry?_put {disk : Disk} {location : Location} (inside : location ≠ []) (entry : Entry)
    (other : Location) :
    Disk.entry? (disk.put location entry) other =
      if other = location then some entry else disk.entry? other := by
  by_cases same : other = location
  · subst same
    simp [put, entry?, inside, List.lookup_append, lookup_filter_self]
  · have notLast : (other == location) = false := by simpa using same
    rw [if_neg same, entry?, entry?, put, List.lookup_append, lookup_filter_of_ne same]
    simp [List.lookup_cons, notLast]

theorem ne_nil_of_not_directory {disk : Disk} {location : Location}
    (found : disk.entry? location ≠ some .directory) : location ≠ [] := by
  rintro rfl
  exact found rfl

/-! ## Ways -/

/-- A disk has all directories that another one has. -/
def Extends (disk before : Disk) : Prop :=
  ∀ location, before.entry? location = some .directory → disk.entry? location = some .directory

theorem Extends.trans {last next first : Disk} (later : last.Extends next)
    (earlier : next.Extends first) : last.Extends first := fun location isDirectory =>
  later location (earlier location isDirectory)

theorem Extends.put {disk : Disk} {location : Location}
    (notDirectory : disk.entry? location ≠ some .directory) (entry : Entry) :
    (disk.put location entry).Extends disk := by
  intro other isDirectory
  have different : other ≠ location := by
    rintro rfl
    exact notDirectory isDirectory
  rw [entry?_put (ne_nil_of_not_directory notDirectory), if_neg different, isDirectory]

theorem walk_cons_eq_ok_iff {disk : Disk} {location reached : Location} {name : String}
    {names : List String} :
    disk.walk location (name :: names) = .ok reached ↔
      disk.entry? location = some .directory ∧
        ∃ next, follow location name = .ok next ∧ disk.walk next names = .ok reached := by
  rw [walk]
  cases found : disk.entry? location with
  | none => simp
  | some entry =>
      cases entry with
      | file content => simp
      | directory => cases follow location name <;> simp

theorem walk_append (disk : Disk) (location : Location) (names further : List String) :
    disk.walk location (names ++ further) =
      (disk.walk location names).bind fun reached => disk.walk reached further := by
  induction names generalizing location with
  | nil => rfl
  | cons name names ih =>
      rw [List.cons_append, walk, walk]
      cases disk.entry? location with
      | none => rfl
      | some entry =>
          cases entry with
          | file content => rfl
          | directory =>
              cases follow location name with
              | error trouble => rfl
              | ok next => exact ih next

theorem eq_append_of_walk {disk : Disk} {location reached : Location} {name : String}
    (proper : name ≠ "." ∧ name ≠ "..") (walked : disk.walk location [name] = .ok reached) :
    reached = location ++ [name] := by
  obtain ⟨-, next, followed, arrived⟩ := walk_cons_eq_ok_iff.mp walked
  cases arrived
  rw [follow, if_neg proper.1, if_neg proper.2] at followed
  by_cases long : nameLimit < name.utf8ByteSize
  · rw [if_pos long] at followed
    cases followed
  · rw [if_neg long] at followed
    exact (Except.ok.inj followed).symm

theorem walk_dropLast_of_walk {disk : Disk} {location reached : Location} {names : List String}
    (walked : disk.walk location (".." :: names) = .ok reached) :
    disk.walk location.dropLast names = .ok reached := by
  obtain ⟨-, next, followed, arrived⟩ := walk_cons_eq_ok_iff.mp walked
  cases followed
  exact arrived

theorem Extends.walk_eq_ok {disk before : Disk} (wider : disk.Extends before)
    {location reached : Location} {names : List String}
    (walked : before.walk location names = .ok reached) :
    disk.walk location names = .ok reached := by
  induction names generalizing location with
  | nil => exact walked
  | cons name names ih =>
      obtain ⟨isDirectory, next, followed, arrived⟩ := walk_cons_eq_ok_iff.mp walked
      exact walk_cons_eq_ok_iff.mpr ⟨wider location isDirectory, next, followed, ih arrived⟩

/-! ## Making directories -/

/-- A disk has the files of another one, and all its directories. -/
structure Keeps (disk before : Disk) : Prop where
  file?_eq : ∀ location, disk.file? location = before.file? location
  wider : disk.Extends before

theorem Keeps.refl (disk : Disk) : disk.Keeps disk :=
  ⟨fun _ => rfl, fun _ isDirectory => isDirectory⟩

theorem Keeps.trans {last next first : Disk} (later : last.Keeps next)
    (earlier : next.Keeps first) : last.Keeps first where
  file?_eq location := (later.file?_eq location).trans (earlier.file?_eq location)
  wider := later.wider.trans earlier.wider

theorem makeDirectory_eq_ok_iff {disk made : Disk} {location : Location} {names : List String} :
    disk.makeDirectory location names = .ok made ↔
      ∃ found, disk.walk location names = .ok found ∧ disk.entry? found = none ∧
        disk.put found .directory = made := by
  rw [makeDirectory]
  cases disk.walk location names with
  | error trouble => simp
  | ok found => cases here : disk.entry? found <;> simp [here]

theorem keeps_makeDirectory {disk made : Disk} {location : Location} {names : List String}
    (making : disk.makeDirectory location names = .ok made) : made.Keeps disk := by
  obtain ⟨found, -, nothing, rfl⟩ := makeDirectory_eq_ok_iff.mp making
  have notDirectory : disk.entry? found ≠ some .directory := by
    rw [nothing]
    nofun
  refine ⟨fun other => ?_, .put notDirectory .directory⟩
  rw [file?, file?, entry?_put (ne_nil_of_not_directory notDirectory)]
  by_cases same : other = found
  · rw [if_pos same, same, nothing]
  · rw [if_neg same]

theorem keeps_settleDirectory (disk : Disk) (location : Location) (names : List String) :
    (disk.settleDirectory location names).1.Keeps disk := by
  rw [settleDirectory]
  cases making : disk.makeDirectory location names with
  | ok made => exact keeps_makeDirectory making
  | error trouble => cases disk.isDirectory location names <;> exact .refl disk

theorem keeps_makeAlong (disk : Disk) (location : Location) (ways : List (List String)) :
    (disk.makeAlong location ways).1.Keeps disk := by
  induction ways with
  | nil => exact .refl disk
  | cons names outer ih =>
      have settles := disk.keeps_settleDirectory location names
      rw [makeAlong]
      cases disk.makeDirectory location names with
      | ok made => exact settles
      | error trouble =>
          cases trouble with
          | missing =>
              -- The directories around come first, and only then this one.
              generalize disk.makeAlong location outer = along at ih ⊢
              obtain ⟨made, trouble?⟩ := along
              cases trouble? with
              | some trouble => exact ih
              | none => exact (made.keeps_settleDirectory location names).trans ih
          | _ => exact settles

theorem keeps_makeDirectories (disk : Disk) (location : Location) (names : List String) :
    (disk.makeDirectories location names).1.Keeps disk := by
  rw [makeDirectories]
  cases names.isEmpty with
  | true => exact .refl disk
  | false => exact disk.keeps_makeAlong location (names :: waypoints names)

/-! ## Writing files -/

/-- The files of a disk after one of them was written. -/
def Writes (disk before : Disk) (location : Location) (content : ByteArray) : Prop :=
  ∀ other, disk.file? other = if other = location then some content else before.file? other

theorem writeFile_eq_ok_iff {disk written : Disk} {location : Location} {names : List String}
    {content : ByteArray} :
    disk.writeFile location names content = .ok written ↔
      ∃ found, disk.walk location names = .ok found ∧ disk.entry? found ≠ some .directory ∧
        disk.put found (.file content) = written := by
  rw [writeFile]
  cases disk.walk location names with
  | error trouble => simp
  | ok found =>
      cases here : disk.entry? found with
      | none => simp [here]
      | some entry => cases entry <;> simp [here]

theorem writes_writeFile {disk written : Disk} {location : Location} {names : List String}
    {content : ByteArray} (writing : disk.writeFile location names content = .ok written) :
    ∃ found, disk.walk location names = .ok found ∧ written.Writes disk found content ∧
      written.Extends disk := by
  obtain ⟨found, walked, notDirectory, rfl⟩ := writeFile_eq_ok_iff.mp writing
  refine ⟨found, walked, fun other => ?_, .put notDirectory _⟩
  rw [file?, entry?_put (ne_nil_of_not_directory notDirectory)]
  by_cases same : other = found
  · rw [if_pos same, if_pos same]
  · rw [if_neg same, if_neg same, file?]

end Disk

/-! ## Paths -/

theorem slashParts_ne_nil (text : List Char) : slashParts text ≠ [] := by
  cases text with
  | nil => exact List.cons_ne_nil _ _
  | cons char rest =>
      rw [slashParts]
      by_cases slash : char = '/'
      · rw [if_pos slash]
        exact List.cons_ne_nil _ _
      · rw [if_neg slash]
        cases slashParts rest <;> exact List.cons_ne_nil _ _

theorem slashParts_append_slash (before after : List Char) :
    slashParts (before ++ '/' :: after) = slashParts before ++ slashParts after := by
  induction before with
  | nil => rfl
  | cons char before ih =>
      rw [List.cons_append, slashParts, slashParts, ih]
      by_cases slash : char = '/'
      · rw [if_pos slash, if_pos slash, List.cons_append]
      · obtain ⟨part, parts, split⟩ := List.exists_cons_of_ne_nil (slashParts_ne_nil before)
        rw [if_neg slash, if_neg slash, split]
        rfl

theorem slashParts_of_notMem {text : List Char} (noSlash : '/' ∉ text) :
    slashParts text = [text] := by
  induction text with
  | nil => rfl
  | cons char rest ih =>
      obtain ⟨notSlash, noFurther⟩ := List.ne_and_not_mem_of_not_mem_cons noSlash
      rw [slashParts, if_neg (Ne.symm notSlash), ih noFurther]

theorem pathNames_append_slash (before after : String) :
    pathNames (before ++ "/" ++ after) = pathNames before ++ pathNames after := by
  have cut : (before ++ "/" ++ after).toList = before.toList ++ '/' :: after.toList := by simp
  rw [pathNames, cut, slashParts_append_slash, List.filter_append, List.map_append]
  rfl

theorem pathNames_of_notMem {name : String} (noSlash : '/' ∉ name.toList) (nonempty : name ≠ "") :
    pathNames name = [name] := by
  have parts : name.toList.isEmpty = false := by simpa using nonempty
  rw [pathNames, slashParts_of_notMem noSlash, List.filter_cons_of_pos (by simp [parts])]
  simp

theorem pathNames_of_endsInSlash {directory : String}
    (ends : directory.toList.getLast? = some '/') (name : String) :
    pathNames (directory ++ name) = pathNames directory ++ pathNames name := by
  obtain ⟨start, split⟩ := List.getLast?_eq_some_iff.mp ends
  have directory_eq : directory = String.ofList start ++ "/" ++ "" := by
    rw [← String.toList_inj]
    simp [split]
  have joined : directory ++ name = String.ofList start ++ "/" ++ name := by
    rw [← String.toList_inj]
    simp [split]
  rw [joined, pathNames_append_slash, directory_eq, pathNames_append_slash]
  simp [pathNames, slashParts]

theorem pathNames_joinPath (directory : String) {name : String}
    (relative : isAbsolutePath name = false) :
    pathNames (joinPath directory name) = pathNames directory ++ pathNames name := by
  rw [joinPath, if_neg (by simp [relative])]
  by_cases empty : directory = ""
  · subst empty
    simp [pathNames, slashParts]
  · by_cases ends : directory.toList.getLast? = some '/'
    · rw [if_pos (by simp [ends]), pathNames_of_endsInSlash ends]
    · rw [if_neg (by simp [empty, ends]), pathNames_append_slash]

theorem isAbsolutePath_joinPath (directory : String) {name : String}
    (relative : isAbsolutePath name = false) :
    isAbsolutePath (joinPath directory name) = isAbsolutePath directory := by
  rw [joinPath, if_neg (by simp [relative])]
  by_cases empty : directory = ""
  · subst empty
    rw [if_pos (by decide), String.empty_append, relative]
    rfl
  · have nonempty : directory.toList ≠ [] := by simpa using empty
    obtain ⟨first, rest, cut⟩ := List.exists_cons_of_ne_nil nonempty
    split <;> simp [isAbsolutePath, cut]

end Sourcewright
