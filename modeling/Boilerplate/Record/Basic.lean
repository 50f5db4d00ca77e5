import Boilerplate.Digest
import Boilerplate.FieldType
import Boilerplate.Identifier

/-!
# Records

A record has a name and a list of named, typed fields, in the order in which they were declared.
Code can be generated from it once its names are in order: the name of the record and those of its
fields have to be identifiers, and no two fields share a name.

## Main definitions

* `Field`, `Record` — a field and a record
* `Record.canonical` — a record on one line; its digest identifies what was generated
* `Record.Fault` — why no code can be generated from a record, with its wording
* `Record.fault?` — the first fault of a record, in declared order
-/

namespace Boilerplate

/-- A named and typed field. -/
structure Field where
  name : String
  type : FieldType
  deriving DecidableEq, Repr

/-- A record type, with its fields in declared order. -/
structure Record where
  name : String
  fields : List Field := []
  deriving DecidableEq, Repr

/-- A field as the canonical line of a record shows it. -/
def Field.canonical (field : Field) : String :=
  " " ++ field.name ++ ": " ++ field.type.spelling

namespace Record

/-- A record with one more field at its end. -/
def addField (record : Record) (field : Field) : Record :=
  { record with fields := record.fields ++ [field] }

/-- A record on one line: its name, and the names and types of its fields between braces. -/
def canonical (record : Record) : String :=
  record.name ++ " \x7b" ++ ",".intercalate (record.fields.map Field.canonical) ++ " \x7d"

/-- The digest of the canonical line. -/
def digest (record : Record) : Digest := .ofText record.canonical

/-- Why no code can be generated from a record. -/
inductive Fault
  | badName (record : String) (cause : Identifier.Fault)
  | unnamedField (record : String) (index : Nat)
  | badFieldName (record field : String) (cause : Identifier.Fault)
  | repeatedField (record field : String)
  deriving DecidableEq, Repr

/-- The wording of a fault. -/
def Fault.message : Fault → String
  | badName record cause => "invalid record name '" ++ record ++ "': " ++ cause.reason
  | unnamedField record index =>
    "record '" ++ record ++ "': field #" ++ toString index ++ " has an empty name"
  | badFieldName record field cause =>
    "record '" ++ record ++ "': invalid field name '" ++ field ++ "': " ++ cause.reason
  | repeatedField record field =>
    "record '" ++ record ++ "': duplicate field '" ++ field ++ "'"

/-- The fault in the name of a field that comes after fields of the given names, if it has one. -/
def fieldFault? (record : String) (earlier : List String) (name : String) : Option Fault :=
  if name = "" then some (.unnamedField record earlier.length)
  else match Identifier.fault? name with
    | some cause => some (.badFieldName record name cause)
    | none => if name ∈ earlier then some (.repeatedField record name) else none

/-- The first fault in the names of fields that come after fields of the given names. -/
def fieldsFault? (record : String) (earlier : List String) : List Field → Option Fault
  | [] => none
  | field :: rest =>
    fieldFault? record earlier field.name <|>
      fieldsFault? record (earlier ++ [field.name]) rest

/-- The first fault of a record: in its own name, or else in the names of its fields. -/
def fault? (record : Record) : Option Fault :=
  match Identifier.fault? record.name with
  | some cause => some (.badName record.name cause)
  | none => fieldsFault? record.name [] record.fields

@[simp] theorem fields_addField (record : Record) (field : Field) :
    (record.addField field).fields = record.fields ++ [field] := rfl

@[simp] theorem name_addField (record : Record) (field : Field) :
    (record.addField field).name = record.name := rfl

/-- The faults of a list of fields are those of its front, and then those of its back. -/
theorem fieldsFault?_append (record : String) (earlier : List String) (front back : List Field) :
    fieldsFault? record earlier (front ++ back) =
      (fieldsFault? record earlier front <|>
        fieldsFault? record (earlier ++ front.map Field.name) back) := by
  induction front generalizing earlier with
  | nil => simp [fieldsFault?]
  | cons field rest ih => simp [fieldsFault?, ih, Option.orElse_eq_orElse, Option.orElse_eq_or,
      Option.or_assoc, List.append_assoc]

end Record

end Boilerplate
