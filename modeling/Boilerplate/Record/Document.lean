import Boilerplate.Record.Basic
import Boilerplate.Toml.Document

/-!
# Record documents

Records may be declared in a TOML document, either one record at its top or several in an array. A
field is declared by its name and the text of its type. A record or a field is a table of its
members; it may also be an array that lists them in order, and then anything beyond them is
ignored. A table must have no other keys.

A document is first checked for its shape as a whole, and only then are the types of the fields
read.

## Main definitions

* `FieldDeclaration`, `RecordDeclaration` — a field and a record whose types have not been read
* `RecordDeclaration.resolve` — the record that is declared
* `Record.parseDocument` — the record at the top of a document
* `Schema.parseDocument` — the records in a document
-/

namespace Boilerplate

/-- A field whose type has not been read. -/
structure FieldDeclaration where
  name : String
  type : String
  deriving DecidableEq, Repr

/-- A record whose types have not been read. -/
structure RecordDeclaration where
  name : String
  fields : List FieldDeclaration := []
  deriving DecidableEq, Repr

/-- Why a document declares no records. -/
inductive Record.DocumentFault
  | invalid
  | unknownType (record field type : String) (cause : FieldType.Fault)
  deriving DecidableEq, Repr

/-- The wording of a fault. -/
def Record.DocumentFault.message : Record.DocumentFault → String
  | invalid => "invalid document"
  | unknownType record field type cause =>
    "record '" ++ record ++ "': field '" ++ field ++ "' has unknown type '" ++ type ++ "': " ++
      cause.message

/-- The field that a value declares. -/
def FieldDeclaration.ofValue? : Toml.Value → Option FieldDeclaration
  | .table t =>
    if Toml.Table.onlyHas t ["name", "type"] then do
      let name ← Toml.Table.decode? t "name" Toml.Value.string?
      let type ← Toml.Table.decode? t "type" Toml.Value.string?
      return ⟨name, type⟩
    else none
  | .array (name :: type :: _) => return ⟨← name.string?, ← type.string?⟩
  | _ => none

namespace RecordDeclaration

/-- The fields that an array declares. -/
def fieldsOf? (value : Toml.Value) : Option (List FieldDeclaration) :=
  value.array? >>= List.mapM FieldDeclaration.ofValue?

/-- The record that a table declares. -/
def ofTable? (t : Toml.Table) : Option RecordDeclaration :=
  if Toml.Table.onlyHas t ["name", "fields"] then do
    let name ← Toml.Table.decode? t "name" Toml.Value.string?
    let fields ← Toml.Table.decodeOr t "fields" fieldsOf? []
    return ⟨name, fields⟩
  else none

/-- The record that a value declares. -/
def ofValue? : Toml.Value → Option RecordDeclaration
  | .table t => ofTable? t
  | .array [name] => return ⟨← name.string?, []⟩
  | .array (name :: fields :: _) => return ⟨← name.string?, ← fieldsOf? fields⟩
  | _ => none

/-- The fields that are declared in a record of the given name, or the first one of unknown type.
-/
def resolveFields (record : String) :
    List FieldDeclaration → Except Record.DocumentFault (List Field)
  | [] => .ok []
  | field :: rest =>
    match FieldType.parse field.type with
    | .error cause => .error (.unknownType record field.name field.type cause)
    | .ok type => (resolveFields record rest).map (⟨field.name, type⟩ :: ·)

/-- The record that is declared. Only the types are looked at, not the names. -/
def resolve (declaration : RecordDeclaration) : Except Record.DocumentFault Record :=
  (resolveFields declaration.name declaration.fields).map (⟨declaration.name, ·⟩)

/-- The records that are declared, or the first fault in any of them. -/
def resolveAll : List RecordDeclaration → Except Record.DocumentFault (List Record)
  | [] => .ok []
  | declaration :: rest => do
    let record ← declaration.resolve
    let records ← resolveAll rest
    return record :: records

end RecordDeclaration

/-- The record in a table. -/
def Record.ofTable (t : Toml.Table) : Except Record.DocumentFault Record :=
  match RecordDeclaration.ofTable? t with
  | none => .error .invalid
  | some declaration => declaration.resolve

/-- The record at the top of a document. -/
def Record.parseDocument (text : String) : Except Record.DocumentFault Record :=
  match Toml.parse? text with
  | none => .error .invalid
  | some t => Record.ofTable t

namespace Schema

/-- The records that a table declares in its only key. -/
def declarations? (t : Toml.Table) : Option (List RecordDeclaration) :=
  if Toml.Table.onlyHas t ["records"] then
    Toml.Table.decodeOr t "records"
      (fun value => value.array? >>= List.mapM RecordDeclaration.ofValue?) []
  else none

/-- The records in a table. -/
def ofTable (t : Toml.Table) : Except Record.DocumentFault (List Record) :=
  match declarations? t with
  | none => .error .invalid
  | some declarations => RecordDeclaration.resolveAll declarations

/-- The records in a document. -/
def parseDocument (text : String) : Except Record.DocumentFault (List Record) :=
  match Toml.parse? text with
  | none => .error .invalid
  | some t => ofTable t

end Schema

end Boilerplate
