import Boilerplate.Proofs.Identifier
import Boilerplate.Record.Checked
import Mathlib.Data.List.Nodup

/-!
# Records without faults

The check of a record goes through its fields with the names seen so far. What it decides does not
depend on that order: the names are identifiers, and the fields are named differently.

From a field, two functions are generated. Their names tell the two kinds apart and give the field
back, so a record without faults never generates one name twice.

## Main definitions

* `Record.Generates` — whether a function name belongs to a field of a record

## Main results

* `Record.fault?_eq_none_iff` — which records have no faults
* `Record.Checked.nodup_names` — the functions of one record are named differently
* `Record.Checked.mem_names_iff` — the functions of a record
-/

namespace Boilerplate

namespace Accessor

theorem Kind.verb_append_inj {kind kind' : Kind} {rest rest' : String} :
    kind.verb ++ rest = kind'.verb ++ rest' ↔ kind = kind' ∧ rest = rest' := by
  cases kind <;> cases kind' <;> simp [Kind.verb, ← String.toList_inj]

/-- The name of a function gives back, for a known record, the kind and the field. -/
theorem functionName_inj {record field field' : String} {kind kind' : Kind} :
    functionName record kind field = functionName record kind' field' ↔
      kind = kind' ∧ field = field' := by
  simp only [functionName, String.append_assoc, String.append_right_inj, Kind.verb_append_inj]

@[simp] theorem name_ofField (record : String) (field : Field) :
    (ofField record field).map name =
      [functionName record .getter field.name, functionName record .setter field.name] := rfl

end Accessor

namespace Record

/-- A field after others has no fault exactly if its name is an identifier that none of them has.
-/
theorem fieldFault?_eq_none_iff {record : String} {earlier : List String} {name : String} :
    fieldFault? record earlier name = none ↔ Identifier.fault? name = none ∧ name ∉ earlier := by
  unfold fieldFault?
  by_cases hempty : name = ""
  · rw [if_pos hempty]
    exact ⟨fun h => (nomatch h), fun h => absurd hempty (Identifier.ne_empty_of_fault? h.1)⟩
  · rw [if_neg hempty]
    cases Identifier.fault? name <;> simp

/-- Fields after others have no fault exactly if their names are identifiers, differ from each
other, and differ from those of the others. -/
theorem fieldsFault?_eq_none_iff {record : String} {earlier : List String} {fields : List Field} :
    fieldsFault? record earlier fields = none ↔
      (∀ field ∈ fields, Identifier.fault? field.name = none) ∧
        (fields.map Field.name).Nodup ∧ ∀ field ∈ fields, field.name ∉ earlier := by
  induction fields generalizing earlier with
  | nil => simp [fieldsFault?]
  | cons field rest ih =>
    simp only [fieldsFault?, Option.orElse_eq_orElse, Option.orElse_eq_or, Option.or_eq_none_iff,
      fieldFault?_eq_none_iff, ih, List.mem_append, List.mem_singleton, not_or, List.map_cons,
      List.nodup_cons, List.forall_mem_cons, List.mem_map, not_exists, not_and, forall_and]
    tauto

/-- A record has no fault exactly if its name and those of its fields are identifiers and no two
fields share a name. -/
theorem fault?_eq_none_iff {record : Record} :
    record.fault? = none ↔
      Identifier.fault? record.name = none ∧
        (∀ field ∈ record.fields, Identifier.fault? field.name = none) ∧
        (record.fields.map Field.name).Nodup := by
  unfold fault?
  cases Identifier.fault? record.name <;> simp [fieldsFault?_eq_none_iff]

/-- A record passes the check exactly if it has no fault. -/
theorem exists_check_iff {record : Record} :
    (∃ unit, record.check = .ok unit) ↔ record.fault? = none := by
  simp only [check_eq_ok_iff]
  constructor
  · rintro ⟨unit, rfl⟩
    exact unit.faultless
  · intro h
    exact ⟨⟨record, h⟩, rfl⟩

/-- Whether a function name belongs to the getter or the setter of a field of a record. -/
def Generates (record : Record) (function : String) : Prop :=
  ∃ field ∈ record.fields, ∃ kind, function = Accessor.functionName record.name kind field.name

theorem generates_iff {record : Record} {function : String} :
    (∃ field ∈ record.fields, ∃ kind ∈ [Accessor.Kind.getter, .setter],
        function = Accessor.functionName record.name kind field.name) ↔
      record.Generates function := by
  have hkind (kind : Accessor.Kind) : kind ∈ [Accessor.Kind.getter, .setter] := by
    cases kind <;> decide
  simp only [hkind, true_and, Generates]

instance (record : Record) (function : String) : Decidable (record.Generates function) :=
  decidable_of_iff _ generates_iff

namespace Checked

theorem name_faultless (unit : Checked) : Identifier.fault? unit.record.name = none :=
  (fault?_eq_none_iff.mp unit.faultless).1

theorem field_faultless (unit : Checked) {field : Field} (h : field ∈ unit.record.fields) :
    Identifier.fault? field.name = none :=
  (fault?_eq_none_iff.mp unit.faultless).2.1 field h

theorem nodup_fields (unit : Checked) : (unit.record.fields.map Field.name).Nodup :=
  (fault?_eq_none_iff.mp unit.faultless).2.2

/-- The names of all functions of a record, in the order of its fields. -/
def names (unit : Checked) : List String := unit.accessors.map Accessor.name

theorem names_eq_flatMap (unit : Checked) :
    unit.names = unit.record.fields.flatMap fun field =>
      [Accessor.functionName unit.record.name .getter field.name,
        Accessor.functionName unit.record.name .setter field.name] := by
  simp [names, accessors, List.map_flatMap]

/-- The functions of a record are those of its fields. -/
theorem mem_names_iff {unit : Checked} {function : String} :
    function ∈ unit.names ↔ unit.record.Generates function := by
  rw [names_eq_flatMap, Generates, List.mem_flatMap]
  refine exists_congr fun field => and_congr_right fun _ => ?_
  constructor
  · intro h
    rcases List.mem_pair.mp h with rfl | rfl
    · exact ⟨.getter, rfl⟩
    · exact ⟨.setter, rfl⟩
  · rintro ⟨kind, rfl⟩
    cases kind <;> simp

/-- Two records share their header exactly if their names differ at most in case. -/
theorem headerName_inj {unit other : Checked} :
    unit.headerName = other.headerName ↔
      Identifier.SameButCase unit.record.name other.record.name := by
  simp [headerName, lowerCase, Identifier.SameButCase, ← String.toList_inj]

/-- A record without faults never generates one function name twice. -/
theorem nodup_names (unit : Checked) : unit.names.Nodup := by
  rw [names_eq_flatMap, List.nodup_flatMap]
  constructor
  · -- The two functions of one field differ in their kind.
    intro field _
    simp [Accessor.functionName_inj]
  · -- Functions of different fields differ in the field at their end.
    apply (List.pairwise_map.mp unit.nodup_fields).imp
    intro field other hne
    simp [Function.onFun, List.disjoint_left, Accessor.functionName_inj, hne]

end Checked

end Record

end Boilerplate
