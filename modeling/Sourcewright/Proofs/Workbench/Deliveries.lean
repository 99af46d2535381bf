import Sourcewright.Proofs.Workbench.Files

/-!
# Deliveries

A delivery is a text to be printed or a file to be saved.  A place accepts it if printing meets
no trouble, or if the directory can be made and the file in it can be written.

What was accepted is done: the text was printed, or the file has its content where its path
leads to, and no other file has changed.  What was not accepted is answered by a failure, and
no file has changed at all.
-/

namespace Sourcewright

namespace Workplace

/-- A path leads to a location.  There may be nothing. -/
def LeadsTo (place : Workplace) (path : String) (location : Location) : Prop :=
  place.disk.walk (place.start path) (pathNames path) = .ok location

theorem LeadsTo.unique {place : Workplace} {path : String} {first second : Location}
    (toFirst : place.LeadsTo path first) (toSecond : place.LeadsTo path second) :
    first = second :=
  Except.ok.inj (toFirst.symm.trans toSecond)

/-- A place accepts a delivery if printing meets no trouble, or if the directory can be made
and the file in it can be written. -/
def Accepts (place : Workplace) (outputTrouble : Option Trouble) : Delivery → Prop
  | .print _ => outputTrouble = none
  | .save directory file => ∃ made written,
      place.makeDirectories directory = (made, none) ∧
        made.write (joinPath directory file.name) file.content = .ok written

end Workplace

/-- A delivery was carried out between two moments: its text was printed, or its file was saved
and is the only one that has changed. -/
def Delivery.Done (before after : Workplace) (printed : String) : Delivery → Prop
  | .print text => printed = text ∧ after = before
  | .save directory file => printed = "" ∧ after.directory = before.directory ∧
      ∃ location, after.LeadsTo (joinPath directory file.name) location ∧
        after.disk.Writes before.disk location file.content.toUTF8

namespace Workplace

variable {place : Workplace} {outputTrouble : Option Trouble}

/-! ## Making directories and writing files -/

theorem keeps_makeDirectories (place : Workplace) (path : String) :
    (place.makeDirectories path).1.disk.Keeps place.disk := by
  rw [makeDirectories]
  cases pathTrouble? path with
  | some trouble => exact .refl _
  | none => exact place.disk.keeps_makeDirectories _ _

theorem directory_makeDirectories (place : Workplace) (path : String) :
    (place.makeDirectories path).1.directory = place.directory := by
  rw [makeDirectories]
  cases pathTrouble? path <;> rfl

theorem write_eq_ok_iff {written : Workplace} {path content : String} :
    place.write path content = .ok written ↔
      pathTrouble? path = none ∧ ∃ disk,
        place.disk.writeFile (place.start path) (pathNames path) content.toUTF8 = .ok disk ∧
          { place with disk := disk } = written := by
  rw [write]
  cases pathTrouble? path with
  | some trouble => simp
  | none =>
      cases place.disk.writeFile (place.start path) (pathNames path) content.toUTF8 <;> simp

theorem exists_written {written : Workplace} {path content : String}
    (writing : place.write path content = .ok written) :
    written.directory = place.directory ∧
      ∃ location, written.LeadsTo path location ∧
        written.disk.Writes place.disk location content.toUTF8 := by
  obtain ⟨-, disk, writingFile, rfl⟩ := write_eq_ok_iff.mp writing
  obtain ⟨location, walked, writes, wider⟩ := Disk.writes_writeFile writingFile
  exact ⟨rfl, location, wider.walk_eq_ok walked, writes⟩

/-! ## Saving -/

variable {directory : String} {file : SourceFile}

theorem save_of_accepts (accepted : place.Accepts outputTrouble (.save directory file)) :
    ∃ after, place.save directory file = (after, {}) ∧
      Delivery.Done place after "" (.save directory file) := by
  obtain ⟨made, written, making, writing⟩ := accepted
  have saved : place.save directory file = (written, {}) := by
    simp only [save, making, writing]
  have kept := place.keeps_makeDirectories directory
  have stays := place.directory_makeDirectories directory
  rw [making] at kept stays
  obtain ⟨staysToo, location, leads, writes⟩ := exists_written writing
  refine ⟨written, saved, rfl, staysToo.trans stays, location, leads, fun other => ?_⟩
  rw [writes other, kept.file?_eq]

theorem save_of_not_accepts (refused : ¬place.Accepts outputTrouble (.save directory file)) :
    ∃ after failure, place.save directory file = (after, { failure := some failure }) ∧
      after.directory = place.directory ∧ after.disk.Keeps place.disk := by
  have kept := place.keeps_makeDirectories directory
  have stays := place.directory_makeDirectories directory
  rw [save]
  rcases making : place.makeDirectories directory with ⟨made, trouble?⟩
  rw [making] at kept stays
  cases trouble? with
  | some trouble => exact ⟨made, _, rfl, stays, kept⟩
  | none =>
      cases writing : made.write (joinPath directory file.name) file.content with
      | ok written => exact absurd ⟨made, written, making, writing⟩ refused
      | error trouble =>
          simp only [writing]
          exact ⟨made, _, rfl, stays, kept⟩

/-! ## Delivering -/

variable {delivery : Delivery}

theorem deliver_of_accepts (accepted : place.Accepts outputTrouble delivery) :
    ∃ after printed, place.deliver outputTrouble delivery = (after, { printed }) ∧
      delivery.Done place after printed := by
  cases delivery with
  | print text =>
      cases accepted
      exact ⟨place, text, rfl, rfl, rfl⟩
  | save directory file =>
      obtain ⟨after, saved, done⟩ := save_of_accepts accepted
      exact ⟨after, "", saved, done⟩

theorem deliver_of_not_accepts (refused : ¬place.Accepts outputTrouble delivery) :
    ∃ after failure, place.deliver outputTrouble delivery = (after, { failure := some failure }) ∧
      after.directory = place.directory ∧ after.disk.Keeps place.disk := by
  cases delivery with
  | print text =>
      cases outputTrouble with
      | none => exact absurd rfl refused
      | some trouble => exact ⟨place, _, rfl, rfl, .refl _⟩
  | save directory file => exact save_of_not_accepts refused

theorem accepts_of_deliver {delivered : Delivered} {after : Workplace}
    (outcome : place.deliver outputTrouble delivery = (after, delivered))
    (succeeded : delivered.failure = none) : place.Accepts outputTrouble delivery := by
  by_cases accepted : place.Accepts outputTrouble delivery
  · exact accepted
  · obtain ⟨other, failure, failed, -⟩ := deliver_of_not_accepts accepted
    cases outcome.symm.trans failed
    cases succeeded

theorem not_accepts_of_deliver {delivered : Delivered} {after : Workplace}
    {failure : String × Trouble}
    (outcome : place.deliver outputTrouble delivery = (after, delivered))
    (failed : delivered.failure = some failure) : ¬place.Accepts outputTrouble delivery := by
  intro accepted
  obtain ⟨other, printed, done, -⟩ := deliver_of_accepts accepted
  cases outcome.symm.trans done
  cases failed

end Workplace

end Sourcewright
