import Boilerplate.Proofs.Frame
import Boilerplate.Proofs.Schema.Names

/-!
# The files of a schema

Each record of a schema turns into two files, and the header of the two is guarded by a macro. Only
the names of headers are compared when a schema is accepted. Files that differ in case alone count
as one file in some places, and macros are written in capitals throughout. So it takes the names of
the records, which differ in more than case, to see that no file and no guard belongs to two of
them.

A guard is put together without a check. It is spelled as an identifier if its start is, or if it
has none: the name of a record in capitals is spelled like the name.

## Main definitions

* `Record.Checked.files` — the names of the two files of a record

## Main results

* `Record.Checked.sameButCase_file_iff` — when two files of one kind differ at most in case
* `Record.Checked.guard_inj` — when two headers share their guard
* `Record.Checked.spellingFault?_guard` — guards are spelled as identifiers
* `Schema.files_and_guards_differ` — the files and the guards of an accepted schema
-/

namespace Boilerplate

open Identifier (SameButCase spellingFault? macroCase)

namespace Record.Checked

variable {unit other : Checked} {style : Style} {name name' file file' : String}

/-- The names of the two files of a record. -/
def files (unit : Checked) : List String := [unit.headerName, unit.sourceName]

/-! ### Files -/

theorem sameButCase_lowerCase (name : String) : SameButCase (lowerCase name) name := by
  simp [SameButCase, lowerCase]

/-- Files of one kind differ in more than case exactly if the names they are made from do. -/
theorem sameButCase_file_iff (ending : String) :
    SameButCase (lowerCase name ++ ending) (lowerCase name' ++ ending) ↔
      SameButCase name name' := by
  rw [Identifier.sameButCase_append_right_iff]
  constructor
  · intro h
    exact (sameButCase_lowerCase name).symm.trans (h.trans (sameButCase_lowerCase name'))
  · intro h
    exact (sameButCase_lowerCase name).trans (h.trans (sameButCase_lowerCase name').symm)

/-- The header of a record and the source file of a record differ at their end. -/
theorem not_sameButCase_headerName_sourceName (unit other : Checked) :
    ¬ SameButCase unit.headerName other.sourceName := by
  intro h
  have hend := h.getLast?_eq
  simp [headerName, sourceName] at hend

/-- Records whose names differ in more than case have files that do. -/
theorem not_sameButCase_of_mem_files (hname : ¬ SameButCase unit.record.name other.record.name)
    (hunit : file ∈ unit.files) (hother : file' ∈ other.files) : ¬ SameButCase file file' := by
  rcases List.mem_pair.mp hunit with rfl | rfl
  · rcases List.mem_pair.mp hother with rfl | rfl
    · rwa [headerName, headerName, sameButCase_file_iff]
    · exact not_sameButCase_headerName_sourceName unit other
  · rcases List.mem_pair.mp hother with rfl | rfl
    · exact fun h => not_sameButCase_headerName_sourceName other unit h.symm
    · rwa [sourceName, sourceName, sameButCase_file_iff]

theorem pairwise_files (unit : Checked) :
    unit.files.Pairwise fun file file' => ¬ SameButCase file file' :=
  List.pairwise_pair.mpr (not_sameButCase_headerName_sourceName unit unit)

/-! ### Guards -/

/-- Two headers share their guard exactly if the names of their records differ at most in case,
whatever the guards start with. -/
theorem guard_inj : unit.guard style = other.guard style ↔
    SameButCase unit.record.name other.record.name := by
  rw [guard_eq_append, guard_eq_append, String.append_right_inj, String.append_left_inj]
  exact Identifier.macroCase_eq_iff (Identifier.spellingFault?_of_fault? unit.name_faultless)
    (Identifier.spellingFault?_of_fault? other.name_faultless)

/-- A guard is spelled as an identifier if its start is, or if it has none. -/
theorem spellingFault?_guard (unit : Checked) (hstyle : Frame.Spelled style) :
    spellingFault? (unit.guard style) = none := by
  have hname : spellingFault? (macroCase unit.record.name) = none :=
    Identifier.spellingFault?_macroCase (Identifier.spellingFault?_of_fault? unit.name_faultless)
  rcases hstyle with hempty | hspelled
  · rw [guard_eq unit hempty]
    have hending : "_H".toList.all Identifier.isPart = true := by decide
    exact Identifier.spellingFault?_append hname (List.all_eq_true.mp hending)
  · -- What follows the start needs to be no name itself, so its characters suffice.
    exact Identifier.spellingFault?_append hspelled fun _ => Identifier.isPart_of_mem_macroCase

end Record.Checked

namespace Schema

variable {records : List Record} {units : List Record.Checked}

/-- The names of the records of an accepted schema differ in more than case. -/
theorem pairwise_name_of_generate (h : generate records = .ok units) :
    units.Pairwise fun unit other => ¬ SameButCase unit.record.name other.record.name :=
  (nodup_outputs_iff.mp (generate_eq_ok_iff.mp h).2.2).1

/-- Any two files of an accepted schema, headers and source files together, have names that differ
in more than case. In every style the guards of its headers differ from each other, and they are
spelled as identifiers if their start is, or if they have none. -/
theorem files_and_guards_differ (h : generate records = .ok units) :
    (units.flatMap Record.Checked.files).Pairwise (fun file file' => ¬ SameButCase file file') ∧
      ∀ style : Style, (units.map fun unit => unit.guard style).Nodup ∧
        (Frame.Spelled style → ∀ unit ∈ units, spellingFault? (unit.guard style) = none) := by
  have hnames := pairwise_name_of_generate h
  constructor
  · rw [List.pairwise_flatMap]
    refine ⟨fun unit _ => unit.pairwise_files, hnames.imp ?_⟩
    intro unit other hname file hfile file' hfile'
    exact Record.Checked.not_sameButCase_of_mem_files hname hfile hfile'
  · intro style
    constructor
    · rw [List.Nodup, List.pairwise_map]
      exact hnames.imp fun hname => mt Record.Checked.guard_inj.mp hname
    · intro hstyle unit _
      exact unit.spellingFault?_guard hstyle

/-- A style whose guards start with the name of a program. -/
def prefixing : Style := { guardPrefix := "app_" }

/-- The files and the guards of two records, the names of which start alike. -/
theorem files_and_guards_differ_at_distinctRecords :
    generate distinctRecords = .ok distinctUnits ∧ Frame.Spelled prefixing ∧
      ["a.h", "a.c", "a_b.h", "a_b.c"].Pairwise (fun file file' => ¬ SameButCase file file') ∧
      ["app_A_H", "app_A_B_H"].Nodup ∧
      ∀ unit ∈ distinctUnits, spellingFault? (unit.guard prefixing) = none := by
  have hstyle : Frame.Spelled prefixing := .inr (by decide)
  obtain ⟨hfiles, hguards⟩ := files_and_guards_differ generate_distinctRecords
  exact ⟨generate_distinctRecords, hstyle, hfiles, (hguards prefixing).1,
    (hguards prefixing).2 hstyle⟩

end Schema

end Boilerplate
