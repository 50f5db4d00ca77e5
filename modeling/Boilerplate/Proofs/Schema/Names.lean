import Boilerplate.Proofs.Identifier.Macro
import Boilerplate.Proofs.Schema
import Boilerplate.Record.Code

/-!
# The names in the headers of a schema

The headers of a schema are meant to be included together. In C, types and functions share one
name space, but generation compares the names of records with each other, and those of functions
with each other, and never the one with the other. So a record may be named like a function of
another record. Apart from that, all declared names differ.

Each header also defines a macro, its include guard, and whatever has the name of that macro
disappears behind its definition. Without a chosen start, the guard is the name of the record in
capitals with `_H` behind it. No function is ever hit, since its verb is in small letters; but
records and fields may be named like that.

## Main definitions

* `Record.Checked.declared` — the identifiers that a header declares at file scope
* `Record.Checked.mentioned` — all names of a record that stand in its header
* `Record.Checked.guard` — the include guard of a header

## Main results

* `nodup_declared_iff` — when no two declarations of a schema clash
* `record_named_like_function` — two declarations that do
* `guards_spare_names_iff` — when no include guard hits a name
* `guard_named_like_field` — a field that is hit
-/

namespace Boilerplate

namespace Accessor

/-- The verb in the name of a function is in small letters. -/
theorem t_mem_functionName (record : String) (kind : Kind) (field : String) :
    't' ∈ (functionName record kind field).toList := by
  cases kind <;> simp [functionName, Kind.verb]

end Accessor

namespace Record.Checked

/-- The identifiers that the header of a record declares at file scope: its type, and then its
functions. -/
def declared (unit : Checked) : List String := unit.record.name :: unit.names

/-- All names of a record that stand in its header: its own, those of its fields and those of its
functions. -/
def mentioned (unit : Checked) : List String :=
  unit.record.name :: (unit.record.fields.map Field.name ++ unit.names)

/-- The include guard of the header of a record. -/
def guard (unit : Checked) (style : Style) : String := Frame.includeGuard unit.headerName style

theorem macroCase_lowerCase (name : String) :
    Identifier.macroCase (lowerCase name) = Identifier.macroCase name := by
  simp [Identifier.macroCase, lowerCase, Function.comp_def]

/-- Behind its start, the guard is the name of the record in capitals with `_H` behind it. -/
theorem guard_eq_append (unit : Checked) (style : Style) :
    unit.guard style = style.guardPrefix ++ (Identifier.macroCase unit.record.name ++ "_H") := by
  have hextension : Identifier.macroCase ".h" = "_H" := by decide
  rw [guard, Frame.includeGuard, headerName, Identifier.macroCase_append, macroCase_lowerCase,
    hextension]

/-- Without a chosen start, that is all of the guard. -/
theorem guard_eq (unit : Checked) {style : Style} (hstyle : style.guardPrefix = "") :
    unit.guard style = Identifier.macroCase unit.record.name ++ "_H" := by
  rw [guard_eq_append, hstyle, String.empty_append]

/-- No include guard without a chosen start is the name of a function. -/
theorem guard_not_mem_names (unit other : Checked) {style : Style}
    (hstyle : style.guardPrefix = "") : unit.guard style ∉ other.names := by
  intro hmem
  obtain ⟨field, -, kind, hname⟩ := mem_names_iff.mp hmem
  have hverb : 't' ∈ (unit.guard style).toList :=
    hname ▸ Accessor.t_mem_functionName other.record.name kind field.name
  -- Nothing in the guard comes from the style, so all of it is in capitals.
  have hcapitals : unit.guard style = Identifier.macroCase unit.headerName := by
    rw [guard, Frame.includeGuard, hstyle, String.empty_append]
  rw [hcapitals] at hverb
  have hsmall : 't'.isLower = false := Identifier.isLower_eq_false_of_mem_macroCase hverb
  exact Bool.noConfusion hsmall

end Record.Checked

namespace Schema

variable {records : List Record} {units : List Record.Checked}

theorem map_name_of_generate (h : generate records = .ok units) :
    units.map (·.record) = records :=
  checkAll_eq_ok_iff.mp (generate_eq_ok_iff.mp h).2.1

/-- What the headers of a schema declare, with the types first and the functions after them. -/
theorem declared_perm (units : List Record.Checked) :
    (units.map (·.record.name) ++ units.flatMap Record.Checked.names).Perm
      (units.flatMap Record.Checked.declared) :=
  List.map_append_flatMap_perm units (·.record.name) Record.Checked.names

/-- The types and functions that the headers of an accepted schema declare are all named
differently exactly if no record is named like a function of a record. -/
theorem nodup_declared_iff (h : generate records = .ok units) :
    (units.flatMap Record.Checked.declared).Nodup ↔
      ∀ record ∈ records, ∀ other ∈ records, ¬ other.Generates record.name := by
  obtain ⟨hnames, hcheck, houtputs⟩ := generate_eq_ok_iff.mp h
  obtain rfl := checkAll_eq_ok_iff.mp hcheck
  have htypes : (units.map (·.record.name)).Nodup := by simpa [Function.comp_def] using hnames
  have hfunctions : (units.flatMap Record.Checked.names).Nodup := nodup_names_of_outputs houtputs
  rw [← (declared_perm units).nodup_iff, List.nodup_append]
  -- Types differ from types and functions from functions, which leaves a type and a function.
  constructor
  · intro ⟨_, _, hapart⟩
    simp only [List.forall_mem_map]
    intro unit hunit other hother hgenerates
    have hname : unit.record.name ∈ other.names := Record.Checked.mem_names_iff.mpr hgenerates
    exact hapart _ (List.mem_map_of_mem hunit) _ (List.mem_flatMap.mpr ⟨other, hother, hname⟩) rfl
  · intro happart
    refine ⟨htypes, hfunctions, ?_⟩
    rintro _ htype function hfunction rfl
    obtain ⟨unit, hunit, rfl⟩ := List.mem_map.mp htype
    obtain ⟨other, hother, hname⟩ := List.mem_flatMap.mp hfunction
    exact happart _ (List.mem_map_of_mem hunit) _ (List.mem_map_of_mem hother)
      (Record.Checked.mem_names_iff.mp hname)

/-- Headers whose names resemble each other, but do not clash. -/
def distinctUnits : List Record.Checked :=
  [⟨⟨"A", [⟨"b", .scalar .int⟩]⟩, by decide⟩, ⟨⟨"A_b", [⟨"get", .scalar .int⟩]⟩, by decide⟩]

/-- The records that these headers are generated from. -/
def distinctRecords : List Record := distinctUnits.map (·.record)

theorem generate_distinctRecords : generate distinctRecords = .ok distinctUnits := by
  decide

/-- The resembling names are told apart. -/
theorem nodup_declared_iff_at_distinctRecords :
    generate distinctRecords = .ok distinctUnits ∧
      (distinctUnits.flatMap Record.Checked.declared).Nodup :=
  ⟨generate_distinctRecords, (nodup_declared_iff generate_distinctRecords).mpr (by decide +kernel)⟩

/-- A record that is named like the getter of another record is accepted, and the two clash. -/
theorem record_named_like_function :
    ∃ units, generate [⟨"A", [⟨"b", .scalar .int⟩]⟩, ⟨"A_get_b", []⟩] = .ok units ∧
      ¬ (units.flatMap Record.Checked.declared).Nodup :=
  ⟨[⟨⟨"A", [⟨"b", .scalar .int⟩]⟩, by decide⟩, ⟨⟨"A_get_b", []⟩, by decide⟩], by decide +kernel,
    by decide +kernel⟩

/-- Without a chosen start, the include guards of an accepted schema are names in none of its
headers exactly if no record and no field is named like a record in capitals with `_H` behind it.
Functions need no condition. -/
theorem guards_spare_names_iff {style : Style} (h : generate records = .ok units)
    (hstyle : style.guardPrefix = "") :
    (∀ unit ∈ units, ∀ other ∈ units, unit.guard style ∉ other.mentioned) ↔
      ∀ record ∈ records, ∀ other ∈ records,
        other.name ≠ Identifier.macroCase record.name ++ "_H" ∧
          ∀ field ∈ other.fields, field.name ≠ Identifier.macroCase record.name ++ "_H" := by
  obtain rfl := map_name_of_generate h
  have hpair (unit other : Record.Checked) : unit.guard style ∉ other.mentioned ↔
      other.record.name ≠ Identifier.macroCase unit.record.name ++ "_H" ∧
        ∀ field ∈ other.record.fields,
          field.name ≠ Identifier.macroCase unit.record.name ++ "_H" := by
    -- Functions drop out, which leaves the record itself and its fields.
    have hfunctions : unit.guard style ∉ other.names := unit.guard_not_mem_names other hstyle
    have hmentioned : unit.guard style ∈ other.mentioned ↔ other.record.name = unit.guard style ∨
        ∃ field ∈ other.record.fields, field.name = unit.guard style := by
      simp [Record.Checked.mentioned, hfunctions, eq_comm]
    rw [hmentioned, unit.guard_eq hstyle]
    push Not
    rfl
  simp only [hpair, List.forall_mem_map]

/-- The resembling names have guards that are none of them. -/
theorem guards_spare_names_iff_at_distinctRecords :
    generate distinctRecords = .ok distinctUnits ∧ ({} : Style).guardPrefix = "" ∧
      ∀ unit ∈ distinctUnits, ∀ other ∈ distinctUnits, unit.guard {} ∉ other.mentioned :=
  ⟨generate_distinctRecords, rfl,
    (guards_spare_names_iff generate_distinctRecords rfl).mpr (by decide +kernel)⟩

/-- A field that is named like the include guard of its own header is accepted, and hit. -/
theorem guard_named_like_field :
    ∃ unit, generate [⟨"a", [⟨"A_H", .scalar .int⟩]⟩] = .ok [unit] ∧
      unit.guard {} ∈ unit.mentioned :=
  ⟨⟨⟨"a", [⟨"A_H", .scalar .int⟩]⟩, by decide⟩, by decide +kernel, by decide +kernel⟩

end Schema

end Boilerplate
