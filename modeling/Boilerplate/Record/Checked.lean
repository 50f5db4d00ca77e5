import Boilerplate.Record.Accessor

/-!
# Checked records

Code is generated only from a record whose names are in order. Such a record carries the evidence
for that, so everything that is generated, from the names of the files to the bodies of the
functions, is defined on checked records alone.

## Main definitions

* `Record.Checked` — a record without faults
* `Record.check` — checks a record, or gives its first fault
* `Record.Checked.accessors` — all functions of a record, in the order of its fields
* `Record.Checked.headerName`, `Record.Checked.sourceName` — the files of a record
-/

namespace Boilerplate

/-- A record without faults, from which code can be generated. -/
structure Record.Checked where
  record : Record
  faultless : record.fault? = none
  deriving DecidableEq

namespace Record

/-- Checks a record: the same record, known to have no faults, or its first fault. -/
def check (record : Record) : Except Fault Checked :=
  match h : record.fault? with
  | some fault => .error fault
  | none => .ok ⟨record, h⟩

namespace Checked

/-- All functions of a record: the getter and the setter of each field, in declared order. -/
def accessors (unit : Checked) : List Accessor :=
  unit.record.fields.flatMap (Accessor.ofField unit.record.name)

/-- A name without capitals. Identifiers are of ASCII, so no other capitals have to be considered.
-/
def lowerCase (name : String) : String := String.ofList (name.toList.map Char.toLower)

/-- The name of the header of a record. -/
def headerName (unit : Checked) : String := lowerCase unit.record.name ++ ".h"

/-- The name of the source file of a record. -/
def sourceName (unit : Checked) : String := lowerCase unit.record.name ++ ".c"

/-- A record without fields is declared, but not defined. -/
def isIncomplete (unit : Checked) : Bool := unit.record.fields.isEmpty

end Checked

/-- Checking succeeds with the record itself, and nothing else. -/
theorem check_eq_ok_iff {record : Record} {unit : Checked} :
    record.check = .ok unit ↔ unit.record = record := by
  unfold check
  split
  · rename_i fault h
    refine ⟨fun h' => (by cases h'), fun h' => ?_⟩
    have := unit.faultless
    simp [h', h] at this
  · rename_i h
    constructor
    · intro h'; cases h'; rfl
    · rintro rfl; rfl

/-- Checking fails with the first fault. -/
theorem check_eq_error_iff {record : Record} {fault : Fault} :
    record.check = .error fault ↔ record.fault? = some fault := by
  unfold check
  split <;> simp_all

end Record

end Boilerplate
