import Boilerplate.Proofs.FieldType
import Boilerplate.Proofs.Pass
import Boilerplate.Proofs.Toml.Table
import Boilerplate.Record.Document
import Mathlib

-- Documents are evaluated by `cbv`, whose equations are spread over the whole library.

/-!
# What record documents declare

A document declares the records that are written in it, whether there is one at its top or several
in an array. It is looked at twice: a key that no record, field or document has makes the whole
document invalid, and only a document of the right shape is searched for types. Then either every
type is that of a field, and the records come out in order, or the first type that is not is blamed.

## Main definitions

* `FieldDeclaration.WrittenAs`, `RecordDeclaration.WrittenIn`, `RecordDeclaration.WrittenAs`,
  `Schema.WrittenIn` — how documents write fields, records and schemas
* `RecordDeclaration.HasUnknownKey`, `Schema.HasUnknownKey` — keys that are not known at their level
* `FieldDeclaration.Declares`, `RecordDeclaration.Declares` — what is declared
* `Schema.FirstUnknownType` — the first type that is not the type of a field

## Main results

* `Schema.declarations?_of_writtenIn` — what is written is read back
* `RecordDeclaration.resolveAll_eq_ok_iff`, `RecordDeclaration.resolveAll_eq_error_iff` — the
  records that are declared, and the fault if there are none
* `Schema.documents_decode_exactly` — all of it, for both kinds of documents
-/

namespace Boilerplate

/-! ### How documents are written -/

/-- How a document writes a field: as a table of its members in any order, or as an array that
starts with them. -/
inductive FieldDeclaration.WrittenAs (d : FieldDeclaration) : Toml.Value → Prop
  | table {t : Toml.Table} (h : t.Perm [("name", .string d.name), ("type", .string d.type)]) :
    WrittenAs d (.table t)
  | array {surplus : List Toml.Value} :
    WrittenAs d (.array (.string d.name :: .string d.type :: surplus))

/-- How a table writes a record: by its members in any order, of which the fields may be left out if
there are none. -/
inductive RecordDeclaration.WrittenIn (d : RecordDeclaration) : Toml.Table → Prop
  | full {t : Toml.Table} {fields : List Toml.Value}
    (hfields : List.Forall₂ FieldDeclaration.WrittenAs d.fields fields)
    (h : t.Perm [("name", .string d.name), ("fields", .array fields)]) : WrittenIn d t
  | bare (hfields : d.fields = []) : WrittenIn d [("name", .string d.name)]

/-- How a document writes one of several records: as a table, or as an array of its members. -/
inductive RecordDeclaration.WrittenAs (d : RecordDeclaration) : Toml.Value → Prop
  | table {t : Toml.Table} (h : d.WrittenIn t) : WrittenAs d (.table t)
  | array {fields surplus : List Toml.Value}
    (hfields : List.Forall₂ FieldDeclaration.WrittenAs d.fields fields) :
    WrittenAs d (.array (.string d.name :: .array fields :: surplus))
  | bare (hfields : d.fields = []) : WrittenAs d (.array [.string d.name])

/-- How a table writes the records of a schema: in an array, or not at all if there are none. -/
inductive Schema.WrittenIn (ds : List RecordDeclaration) : Toml.Table → Prop
  | full {records : List Toml.Value}
    (hrecords : List.Forall₂ RecordDeclaration.WrittenAs ds records) :
    WrittenIn ds [("records", .array records)]
  | bare (hrecords : ds = []) : WrittenIn ds []

/-- Whether a value that should be a record has a key that is not known, in itself or in one of its
fields. -/
inductive RecordDeclaration.HasUnknownKey : Toml.Value → Prop
  | record {t : Toml.Table} (h : t.HasOther ["name", "fields"]) : HasUnknownKey (.table t)
  | field {t field : Toml.Table} {fields : List Toml.Value}
    (hfields : t.lookup "fields" = some (.array fields)) (hfield : .table field ∈ fields)
    (h : field.HasOther ["name", "type"]) : HasUnknownKey (.table t)
  | listedField {field : Toml.Table} {name : Toml.Value} {fields surplus : List Toml.Value}
    (hfield : .table field ∈ fields) (h : field.HasOther ["name", "type"]) :
    HasUnknownKey (.array (name :: .array fields :: surplus))

/-- Whether a document that should hold a schema has a key that is not known, at its top or in one
of its records. -/
inductive Schema.HasUnknownKey (t : Toml.Table) : Prop
  | document (h : t.HasOther ["records"])
  | record {record : Toml.Value} {records : List Toml.Value}
    (hrecords : t.lookup "records" = some (.array records)) (hrecord : record ∈ records)
    (h : RecordDeclaration.HasUnknownKey record)

/-! ### What is read -/

namespace FieldDeclaration

variable {d : FieldDeclaration} {value : Toml.Value} {values : List Toml.Value}

theorem ofValue?_of_writtenAs (h : d.WrittenAs value) : ofValue? value = some d := by
  cases h with
  | table h =>
    rw [ofValue?, Toml.Table.onlyHas_of_perm h, Toml.Table.decode?_of_perm h (by simp),
      Toml.Table.decode?_of_perm h (by simp)]
    rfl
  | array => rfl

theorem ofValue?_of_hasOther {t : Toml.Table} (h : t.HasOther ["name", "type"]) :
    ofValue? (.table t) = none := by
  simp [ofValue?, Toml.Table.onlyHas_eq_false_iff.mpr h]

end FieldDeclaration

namespace RecordDeclaration

variable {d : RecordDeclaration} {value : Toml.Value} {values : List Toml.Value} {t : Toml.Table}

theorem fieldsOf?_of_writtenAs {fields : List FieldDeclaration}
    (h : List.Forall₂ FieldDeclaration.WrittenAs fields values) :
    fieldsOf? (.array values) = some fields :=
  Toml.Table.items_eq_some (h.imp fun _ _ => FieldDeclaration.ofValue?_of_writtenAs)

theorem ofTable?_of_writtenIn (h : d.WrittenIn t) : ofTable? t = some d := by
  obtain ⟨name, fields⟩ := d
  cases h with
  | @full _ values hfields h =>
    have hname : Toml.Table.decode? [("name", .string name), ("fields", .array values)] "name"
        Toml.Value.string? = some name := rfl
    have hread : Toml.Table.decodeOr [("name", .string name), ("fields", .array values)] "fields"
        fieldsOf? [] = some fields := fieldsOf?_of_writtenAs hfields
    rw [ofTable?, Toml.Table.onlyHas_of_perm h, Toml.Table.decode?_of_perm h (by simp),
      Toml.Table.decodeOr_of_perm h (by simp), hname, hread]
    rfl
  | bare hfields =>
    obtain rfl : fields = [] := hfields
    rfl

theorem ofValue?_of_writtenAs (h : d.WrittenAs value) : ofValue? value = some d := by
  obtain ⟨name, fields⟩ := d
  cases h with
  | table h => exact ofTable?_of_writtenIn h
  | array hfields => simp [ofValue?, Toml.Value.string?, fieldsOf?_of_writtenAs hfields]
  | bare hfields =>
    obtain rfl : fields = [] := hfields
    rfl

theorem fieldsOf?_eq_none {field : Toml.Table} (hfield : .table field ∈ values)
    (h : field.HasOther ["name", "type"]) : fieldsOf? (.array values) = none :=
  Toml.Table.items_eq_none hfield (FieldDeclaration.ofValue?_of_hasOther h)

theorem ofValue?_of_hasUnknownKey (h : HasUnknownKey value) : ofValue? value = none := by
  cases h with
  | record h => simp [ofValue?, ofTable?, Toml.Table.onlyHas_eq_false_iff.mpr h]
  | field hfields hfield h =>
    simp [ofValue?, ofTable?, Toml.Table.decodeOr, hfields, fieldsOf?_eq_none hfield h]
  | listedField hfield h => simp [ofValue?, fieldsOf?_eq_none hfield h]

end RecordDeclaration

namespace Schema

variable {ds : List RecordDeclaration} {t : Toml.Table}

/-- The records that are written in a table are those that it declares. -/
theorem declarations?_of_writtenIn (h : WrittenIn ds t) : declarations? t = some ds := by
  cases h with
  | full hrecords =>
    exact Toml.Table.items_eq_some (hrecords.imp fun _ _ => RecordDeclaration.ofValue?_of_writtenAs)
  | bare hrecords =>
    obtain rfl := hrecords
    rfl

/-- A key that is not known leaves nothing of a document, whatever else is in it. -/
theorem declarations?_of_hasUnknownKey (h : HasUnknownKey t) : declarations? t = none := by
  cases h with
  | document h => simp [declarations?, Toml.Table.onlyHas_eq_false_iff.mpr h]
  | record hrecords hrecord h =>
    have hitems :=
      Toml.Table.items_eq_none hrecord (RecordDeclaration.ofValue?_of_hasUnknownKey h)
    simp only [declarations?, Toml.Table.decodeOr, hrecords, hitems, ite_self]

end Schema

/-! ### What is declared -/

/-- Whether a field is the one that is declared. -/
def FieldDeclaration.Declares (d : FieldDeclaration) (field : Field) : Prop :=
  d.name = field.name ∧ FieldType.parse d.type = .ok field.type

/-- Whether a record is the one that is declared: its fields are, in their order. -/
def RecordDeclaration.Declares (d : RecordDeclaration) (record : Record) : Prop :=
  d.name = record.name ∧ List.Forall₂ FieldDeclaration.Declares d.fields record.fields

/-- The fields that are declared in records, in the order of the document, each with the name of its
record. -/
def Schema.declaredFields (ds : List RecordDeclaration) : List (String × FieldDeclaration) :=
  ds.flatMap fun d => d.fields.map (d.name, ·)

/-- The fault of declarations among which some type is not the type of a field: it names the first
such type, its field and its record. -/
inductive Schema.FirstUnknownType (ds : List RecordDeclaration) : Record.DocumentFault → Prop
  | mk {record : String} {field : FieldDeclaration} {front back : List (String × FieldDeclaration)}
    {cause : FieldType.Fault} (hplace : declaredFields ds = front ++ (record, field) :: back)
    (hfront : ∀ entry ∈ front, ∃ type, FieldType.parse entry.2.type = .ok type)
    (hfield : FieldType.parse field.type = .error cause) :
    FirstUnknownType ds (.unknownType record field.name field.type cause)

namespace FieldDeclaration

variable {d : FieldDeclaration} {field : Field} {record : String} {fault : Record.DocumentFault}

/-- The field that is declared in a record of the given name. -/
def resolve (record : String) (d : FieldDeclaration) : Except Record.DocumentFault Field :=
  match FieldType.parse d.type with
  | .error cause => .error (.unknownType record d.name d.type cause)
  | .ok type => .ok ⟨d.name, type⟩

theorem resolve_eq_ok_iff : d.resolve record = .ok field ↔ d.Declares field := by
  obtain ⟨name, type⟩ := field
  cases hparse : FieldType.parse d.type with
  | error cause => simp [resolve, Declares, hparse]
  | ok r => simp [resolve, Declares, hparse]

theorem resolve_eq_error_iff : d.resolve record = .error fault ↔
    ∃ cause, FieldType.parse d.type = .error cause ∧
      fault = .unknownType record d.name d.type cause := by
  cases hparse : FieldType.parse d.type with
  | error cause => simp [resolve, hparse, eq_comm]
  | ok r => simp [resolve, hparse]

theorem exists_resolve_iff :
    (∃ field, d.resolve record = .ok field) ↔ ∃ type, FieldType.parse d.type = .ok type := by
  simp only [resolve_eq_ok_iff, Declares]
  constructor
  · rintro ⟨field, -, htype⟩
    exact ⟨field.type, htype⟩
  · rintro ⟨type, htype⟩
    exact ⟨⟨d.name, type⟩, rfl, htype⟩

end FieldDeclaration

namespace RecordDeclaration

variable {d : RecordDeclaration} {ds : List RecordDeclaration} {record : Record}
  {fault : Record.DocumentFault}

theorem resolveFields_eq_mapM (record : String) (fields : List FieldDeclaration) :
    resolveFields record fields = fields.mapM (FieldDeclaration.resolve record) := by
  induction fields with
  | nil => rfl
  | cons field rest ih =>
    rw [resolveFields, List.mapM_cons, FieldDeclaration.resolve, ← ih]
    cases FieldType.parse field.type with
    | error cause => rfl
    | ok type => cases resolveFields record rest <;> rfl

theorem resolveAll_eq_mapM (ds : List RecordDeclaration) : resolveAll ds = ds.mapM resolve := by
  induction ds with
  | nil => rfl
  | cons d ds ih => rw [resolveAll, List.mapM_cons, ih]

/-- Declarations are resolved exactly to the records that they declare. -/
theorem resolve_eq_ok_iff : d.resolve = .ok record ↔ d.Declares record := by
  obtain ⟨name, fields⟩ := record
  simp only [resolve, map_eq_ok_iff, resolveFields_eq_mapM, mapM_eq_ok_iff,
    FieldDeclaration.resolve_eq_ok_iff, Declares, Record.mk.injEq]
  constructor
  · rintro ⟨_, hfields, hname, rfl⟩
    exact ⟨hname, hfields⟩
  · rintro ⟨hname, hfields⟩
    exact ⟨fields, hfields, hname, rfl⟩

theorem resolveAll_eq_ok_iff {records : List Record} :
    resolveAll ds = .ok records ↔ List.Forall₂ Declares ds records := by
  simp only [resolveAll_eq_mapM, mapM_eq_ok_iff, resolve_eq_ok_iff]

/-- A record is resolved by a pass over its fields. -/
theorem resolve_eq_map (d : RecordDeclaration) : d.resolve =
    ((d.fields.map (d.name, ·)).mapM (Function.uncurry FieldDeclaration.resolve)).map
      (⟨d.name, ·⟩) := by
  rw [resolve, resolveFields_eq_mapM, List.mapM_map]
  rfl

/-- Records fail as one pass over all of their fields does. -/
theorem resolveAll_eq_error_iff_mapM : resolveAll ds = .error fault ↔
    (Schema.declaredFields ds).mapM (Function.uncurry FieldDeclaration.resolve) =
      .error fault := by
  induction ds with
  | nil => simp [resolveAll, Schema.declaredFields, pure_ne_error]
  | cons d ds ih =>
    have hrecord : (∃ record, d.resolve = .ok record) ↔ ∃ fields, (d.fields.map (d.name, ·)).mapM
        (Function.uncurry FieldDeclaration.resolve) = .ok fields := by
      simp only [resolve_eq_map, map_eq_ok_iff]
      constructor
      · rintro ⟨_, fields, h, -⟩
        exact ⟨fields, h⟩
      · rintro ⟨fields, h⟩
        exact ⟨_, fields, h, rfl⟩
    rw [Schema.declaredFields, List.flatMap_cons, mapM_append_eq_error_iff, ← hrecord,
      ← Schema.declaredFields, ← ih, resolveAll]
    simp only [bind_eq_error_iff, pure_ne_error, and_false, exists_false, or_false,
      resolve_eq_map, map_eq_error_iff, exists_and_right]

theorem resolveAll_eq_error_iff :
    resolveAll ds = .error fault ↔ Schema.FirstUnknownType ds fault := by
  rw [resolveAll_eq_error_iff_mapM, mapM_eq_error_iff]
  constructor
  · rintro ⟨⟨record, field⟩, front, back, hplace, hfront, hfield⟩
    obtain ⟨cause, hcause, rfl⟩ := FieldDeclaration.resolve_eq_error_iff.mp hfield
    exact .mk hplace
      (fun entry hentry => FieldDeclaration.exists_resolve_iff.mp (hfront entry hentry)) hcause
  · rintro ⟨hplace, hfront, hfield⟩
    exact ⟨_, _, _, hplace,
      fun entry hentry => FieldDeclaration.exists_resolve_iff.mpr (hfront entry hentry),
      FieldDeclaration.resolve_eq_error_iff.mpr ⟨_, hfield, rfl⟩⟩

end RecordDeclaration

/-! ### Documents -/

/-- The declaration of a record. -/
def Record.declaration (record : Record) : RecordDeclaration :=
  ⟨record.name, record.fields.map fun field => ⟨field.name, field.type.spelling⟩⟩

/-- Whether the types of the fields of a record were all declared by texts. -/
def Record.TypesDeclared (record : Record) : Prop :=
  ∀ field ∈ record.fields, ∃ text, FieldType.parse text = .ok field.type

theorem Record.declares_declaration {record : Record} (h : record.TypesDeclared) :
    record.declaration.Declares record := by
  refine ⟨rfl, ?_⟩
  rw [declaration, List.forall₂_map_left_iff, List.forall₂_same]
  intro field hfield
  obtain ⟨text, htext⟩ := h field hfield
  exact ⟨rfl, FieldType.parse_spelling htext⟩

namespace Schema

variable {text : String} {t : Toml.Table} {ds : List RecordDeclaration}

theorem parseDocument_of_writtenIn (htext : Toml.parse? text = some t) (h : WrittenIn ds t) :
    parseDocument text = RecordDeclaration.resolveAll ds := by
  simp only [parseDocument, htext, ofTable, declarations?_of_writtenIn h]

theorem recordDocument_of_writtenIn {d : RecordDeclaration} (htext : Toml.parse? text = some t)
    (h : d.WrittenIn t) : Record.parseDocument text = d.resolve := by
  simp only [Record.parseDocument, htext, Record.ofTable, RecordDeclaration.ofTable?_of_writtenIn h]

/-- Records whose types were declared are read back from a document that they are written in, in
their order, and each of them is read back from a document that only holds its own table. A key that
is not known makes a document invalid, at its top as well as in a record or a field, whatever else
the document holds. A document of the right shape fails exactly if some type is not the type of a
field, and the fault names the first such type with its field and its record. -/
theorem documents_decode_exactly (htext : Toml.parse? text = some t) :
    (∀ records : List Record, (∀ record ∈ records, record.TypesDeclared) →
      WrittenIn (records.map Record.declaration) t → parseDocument text = .ok records) ∧
    (∀ record : Record, record.TypesDeclared → record.declaration.WrittenIn t →
      Record.parseDocument text = .ok record) ∧
    (HasUnknownKey t → parseDocument text = .error .invalid) ∧
    (RecordDeclaration.HasUnknownKey (.table t) → Record.parseDocument text = .error .invalid) ∧
    (∀ ds fault, WrittenIn ds t →
      (parseDocument text = .error fault ↔ FirstUnknownType ds fault)) ∧
    ∀ (d : RecordDeclaration) fault, d.WrittenIn t →
      (Record.parseDocument text = .error fault ↔ FirstUnknownType [d] fault) := by
  refine ⟨?_, ?_, ?_, ?_, ?_, ?_⟩
  · intro records htypes h
    rw [parseDocument_of_writtenIn htext h, RecordDeclaration.resolveAll_eq_ok_iff,
      List.forall₂_map_left_iff, List.forall₂_same]
    exact fun record hrecord => record.declares_declaration (htypes record hrecord)
  · intro record htypes h
    rw [recordDocument_of_writtenIn htext h, RecordDeclaration.resolve_eq_ok_iff]
    exact record.declares_declaration htypes
  · intro h
    simp only [parseDocument, htext, ofTable, declarations?_of_hasUnknownKey h]
  · intro h
    have hnone : RecordDeclaration.ofTable? t = none :=
      RecordDeclaration.ofValue?_of_hasUnknownKey h
    simp only [Record.parseDocument, htext, Record.ofTable, hnone]
  · intro ds fault h
    rw [parseDocument_of_writtenIn htext h, RecordDeclaration.resolveAll_eq_error_iff]
  · intro d fault h
    rw [recordDocument_of_writtenIn htext h, ← RecordDeclaration.resolveAll_eq_error_iff]
    simp [RecordDeclaration.resolveAll, bind_eq_error_iff]

/-- A document of one record with one field, whose second member is left open. -/
def tableOf (member : String × Toml.Value) : Toml.Table :=
  [("records", .array [.table [("name", .string "A"),
    ("fields", .array [.table [("name", .string "x"), member]])]])]

theorem tableOf_writtenIn (type : String) :
    WrittenIn [⟨"A", [⟨"x", type⟩]⟩] (tableOf ("type", .string type)) :=
  .full (.cons (.table (.full (.cons (.table (.refl _)) .nil) (.refl _))) .nil)

/-- The second member is a type, a key that is misspelled, and a text that is no type. -/
theorem documents_decode_exactly_at_tableOf :
    parseDocument "[[records]]\nname='A'\n[[records.fields]]\nname='x'\ntype='char*'" =
        .ok [⟨"A", [⟨"x", .pointer .string⟩]⟩] ∧
      parseDocument "[[records]]\nname='A'\n[[records.fields]]\nname='x'\ntyp='int'" =
        .error .invalid ∧
      parseDocument "[[records]]\nname='A'\n[[records.fields]]\nname='x'\ntype='string'" =
        .error (.unknownType "A" "x" "string" (.unreadable (.unknownWord "string"))) := by
  have htype : Toml.parse?
      "[[records]]\nname='A'\n[[records.fields]]\nname='x'\ntype='char*'" =
        some (tableOf ("type", .string "char*")) := by cbv
  have hmisspelled : Toml.parse?
      "[[records]]\nname='A'\n[[records.fields]]\nname='x'\ntyp='int'" =
        some (tableOf ("typ", .string "int")) := by cbv
  have hunknown : Toml.parse?
      "[[records]]\nname='A'\n[[records.fields]]\nname='x'\ntype='string'" =
        some (tableOf ("type", .string "string")) := by cbv
  refine ⟨(documents_decode_exactly htype).1 _ ?_ ?_,
    (documents_decode_exactly hmisspelled).2.2.1 ?_,
    ((documents_decode_exactly hunknown).2.2.2.2.1 _ _ (tableOf_writtenIn "string")).mpr ?_⟩
  · simp only [List.forall_mem_singleton, Record.TypesDeclared]
    exact ⟨"char*", by decide⟩
  · exact tableOf_writtenIn "char*"
  · refine .record rfl (List.mem_singleton_self _) (.field rfl (List.mem_singleton_self _) ?_)
    exact ⟨("typ", .string "int"), by simp, by decide⟩
  · exact @FirstUnknownType.mk _ "A" ⟨"x", "string"⟩ [] [] _ rfl (by simp) (by decide)

end Schema

end Boilerplate
