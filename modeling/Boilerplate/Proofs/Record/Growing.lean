import Boilerplate.Proofs.Place
import Boilerplate.Proofs.Record

/-!
# Records that grow

A record is put together field by field, and it may be checked after any of them. The check goes
through all fields again each time, but it comes to the same as checking the new field alone: a
fault that the record has stays its fault, and a record without faults can only get one from the
field that is added. So a run of additions reports the fault of the first field that was wrong when
it was added, from that field on.

## Main definitions

* `Record.Offends` — how a field is wrong that is added to a record
* `Record.addFields` — a record with fields added one after the other

## Main results

* `fault?_addField_eq_some_iff` — the fault after one more field
* `fault?_addFields_eq_some_iff` — the fault after a run of additions
* `growing_record_blames_first` — a fault stays, and is that of the first offender
-/

namespace Boilerplate.Record

variable {record : Record} {field : Field} {fields : List Field} {fault : Fault}

/-- How a field is wrong that is added to a record. The name is looked at by itself first, and only
an identifier is compared with the names that the record has already. -/
inductive Offends (record : Record) (field : Field) : Fault → Prop
  | unnamed (hname : field.name = "") :
    Offends record field (.unnamedField record.name record.fields.length)
  | badName {cause : Identifier.Fault} (hne : field.name ≠ "")
    (hname : Identifier.fault? field.name = some cause) :
    Offends record field (.badFieldName record.name field.name cause)
  | repeated (hname : Identifier.fault? field.name = none)
    (hmem : field.name ∈ record.fields.map Field.name) :
    Offends record field (.repeatedField record.name field.name)

/-! ### One more field -/

theorem Offends.fieldFault?_eq (h : record.Offends field fault) :
    fieldFault? record.name (record.fields.map Field.name) field.name = some fault := by
  cases h with
  | unnamed hname => rw [fieldFault?, if_pos hname, List.length_map]
  | badName hne hname => rw [fieldFault?, if_neg hne, hname]
  | repeated hname hmem =>
    rw [fieldFault?, if_neg (Identifier.ne_empty_of_fault? hname), hname]
    exact if_pos hmem

theorem offends_of_fieldFault?
    (h : fieldFault? record.name (record.fields.map Field.name) field.name = some fault) :
    record.Offends field fault := by
  unfold fieldFault? at h
  by_cases hempty : field.name = ""
  · rw [if_pos hempty, List.length_map] at h
    exact Option.some.inj h ▸ .unnamed hempty
  · rw [if_neg hempty] at h
    cases hname : Identifier.fault? field.name with
    | some cause =>
      rw [hname] at h
      exact Option.some.inj h ▸ .badName hempty hname
    | none =>
      simp only [hname, Option.ite_none_right_eq_some] at h
      exact Option.some.inj h.2 ▸ .repeated hname h.1

theorem fault?_addField (record : Record) (field : Field) :
    (record.addField field).fault? = (record.fault? <|>
      fieldFault? record.name (record.fields.map Field.name) field.name) := by
  simp only [fault?, name_addField, fields_addField, fieldsFault?_append]
  cases Identifier.fault? record.name <;> simp [fieldsFault?]

/-- A record with one more field keeps its fault, and without one it gets that of the field. -/
theorem fault?_addField_eq_some_iff :
    (record.addField field).fault? = some fault ↔
      record.fault? = some fault ∨ record.fault? = none ∧ record.Offends field fault := by
  rw [fault?_addField, Option.orElse_eq_orElse, Option.orElse_eq_or, Option.or_eq_some_iff]
  exact or_congr_right (and_congr_right fun _ => ⟨offends_of_fieldFault?, Offends.fieldFault?_eq⟩)

/-- A record without faults stays so exactly if the new field is named by an identifier that none of
its fields has. -/
theorem fault?_addField_eq_none_iff (h : record.fault? = none) :
    (record.addField field).fault? = none ↔
      Identifier.fault? field.name = none ∧ field.name ∉ record.fields.map Field.name := by
  rw [fault?_addField, h]
  exact fieldFault?_eq_none_iff

/-! ### Runs of additions -/

/-- A record with fields added one after the other. -/
def addFields (record : Record) (fields : List Field) : Record := fields.foldl addField record

@[simp] theorem addFields_nil (record : Record) : record.addFields [] = record := rfl

@[simp] theorem addFields_cons (record : Record) (field : Field) (fields : List Field) :
    record.addFields (field :: fields) = (record.addField field).addFields fields := rfl

/-- The fault after a run of additions is the one that was there before it, or that of the first
field that was wrong when it was added. -/
theorem fault?_addFields_eq_some_iff :
    (record.addFields fields).fault? = some fault ↔
      record.fault? = some fault ∨ ∃ field front back, fields = front ++ field :: back ∧
        (record.addFields front).fault? = none ∧ (record.addFields front).Offends field fault := by
  induction fields generalizing record with
  | nil => simp
  | cons field rest ih =>
    rw [addFields_cons, ih, fault?_addField_eq_some_iff, exists_some_place_cons_iff, or_assoc]
    rfl

theorem addFields_append (record : Record) (front back : List Field) :
    record.addFields (front ++ back) = (record.addFields front).addFields back :=
  List.foldl_append

/-- A record that has a fault keeps it when a field is added. A record without faults stays without
if the name of the field is an identifier that none of its fields has; otherwise it gets the fault
of that field: a missing name, told by the number of fields before it, a name that is no identifier,
or a name that is there already. A record without fields only needs a name that is an identifier. So
a run of additions has the fault that was there before it, or that of the first field that was wrong
when it was added, and it keeps that fault however it goes on. -/
theorem growing_record_blames_first (record : Record) (field : Field) :
    (∀ fault, record.fault? = some fault → (record.addField field).fault? = some fault) ∧
    (record.fault? = none →
      ((record.addField field).fault? = none ↔
        Identifier.fault? field.name = none ∧ field.name ∉ record.fields.map Field.name) ∧
      ∀ fault, (record.addField field).fault? = some fault ↔ record.Offends field fault) ∧
    (∀ name, fault? ⟨name, []⟩ = none ↔ Identifier.fault? name = none) ∧
    (∀ fields fault, (record.addFields fields).fault? = some fault ↔
      record.fault? = some fault ∨ ∃ field front back, fields = front ++ field :: back ∧
        (record.addFields front).fault? = none ∧ (record.addFields front).Offends field fault) ∧
    ∀ front back fault, (record.addFields front).fault? = some fault →
      (record.addFields (front ++ back)).fault? = some fault := by
  refine ⟨fun fault h => fault?_addField_eq_some_iff.mpr (.inl h), fun h => ⟨?_, fun fault => ?_⟩,
    fun name => ?_, fun fields fault => fault?_addFields_eq_some_iff, fun front back fault h => ?_⟩
  · exact fault?_addField_eq_none_iff h
  · rw [fault?_addField_eq_some_iff, h]
    simp
  · simp [fault?_eq_none_iff]
  · rw [addFields_append]
    exact fault?_addFields_eq_some_iff.mpr (.inl h)

/-- A field without a name is told by its place, and stays the fault after a field that repeats. -/
example : ((mk "A" []).addFields
    [⟨"b", .scalar .int⟩, ⟨"", .scalar .int⟩, ⟨"b", .scalar .int⟩]).fault? =
      some (.unnamedField "A" 1) := by
  decide

end Boilerplate.Record
