/-
# Gradebook.Document.Settings — settings as documents
-/
import Gradebook.Document.Schema
import Gradebook.Settings

namespace Gradebook

open Document (Reader misfit fields orElse)

set_option autoImplicit false

namespace StorageSettings

def toTree (s : StorageSettings) : Tree :=
  .table [("store_path", .text s.storePath), ("courses_path", .text s.coursesPath)]

def ofTree (m : Manner) : Reader StorageSettings := fun t => do
  match ← fields m ["store_path", "courses_path"] t with
  | [store, courses] =>
    let d : StorageSettings := {}
    .ok ⟨← orElse d.storePath (Document.text m) store,
      ← orElse d.coursesPath (Document.text m) courses⟩
  | _ => misfit "storage settings" t

end StorageSettings

namespace GradeFlags

def toTree (f : GradeFlags) : Tree :=
  .table [("persistent_grades_enabled", .truth f.persistentGradesEnabled),
    ("enabled_for_all_courses", .truth f.enabledForAllCourses),
    ("persistent_grades_courses", .list (f.persistentGradesCourses.map .text)),
    ("assume_zero_if_absent", .truth f.assumeZeroIfAbsent),
    ("assume_zero_courses", .list (f.assumeZeroCourses.map .text)),
    ("write_only_if_engaged", .truth f.writeOnlyIfEngaged)]

def ofTree (m : Manner) : Reader GradeFlags := fun t => do
  match ← fields m ["persistent_grades_enabled", "enabled_for_all_courses",
      "persistent_grades_courses", "assume_zero_if_absent", "assume_zero_courses",
      "write_only_if_engaged"] t with
  | [enabled, forAll, courses, zero, zeroCourses, engaged] =>
    let d : GradeFlags := {}
    .ok ⟨← orElse d.persistentGradesEnabled (Document.truth m) enabled,
      ← orElse d.enabledForAllCourses (Document.truth m) forAll,
      ← orElse d.persistentGradesCourses (Document.list (Document.text m)) courses,
      ← orElse d.assumeZeroIfAbsent (Document.truth m) zero,
      ← orElse d.assumeZeroCourses (Document.list (Document.text m)) zeroCourses,
      ← orElse d.writeOnlyIfEngaged (Document.truth m) engaged⟩
  | _ => misfit "grade settings" t

end GradeFlags

namespace LogSettings

def toTree (s : LogSettings) : Tree :=
  .table [("enabled", .truth s.enabled), ("level", .text s.level), ("format", .text s.format),
    ("output", .text s.output), ("file", .text s.file), ("color", .truth s.color),
    ("modules", .table (s.modules.entries.map fun e => (e.1, .text e.2)))]

def ofTree (m : Manner) : Reader LogSettings := fun t => do
  match ← fields m ["enabled", "level", "format", "output", "file", "color", "modules"] t with
  | [enabled, level, format, output, file, color, modules] =>
    let d : LogSettings := {}
    .ok ⟨← orElse d.enabled (Document.truth m) enabled, ← orElse d.level (Document.text m) level,
      ← orElse d.format (Document.text m) format, ← orElse d.output (Document.text m) output,
      ← orElse d.file (Document.text m) file, ← orElse d.color (Document.truth m) color,
      ← orElse d.modules (Document.dictionary (Document.text m)) modules⟩
  | _ => misfit "log settings" t

end LogSettings

namespace Settings

def toTree (s : Settings) : Tree :=
  .table [("storage", s.storage.toTree), ("grades", s.grades.toTree),
    ("logging", s.logging.toTree)]

def ofTree (m : Manner) : Reader Settings := fun t => do
  match ← fields m ["storage", "grades", "logging"] t with
  | [storage, grades, logging] =>
    .ok ⟨← orElse {} (StorageSettings.ofTree m) storage, ← orElse {} (GradeFlags.ofTree m) grades,
      ← orElse {} (LogSettings.ofTree m) logging⟩
  | _ => misfit "settings" t

end Settings

end Gradebook
