import Boilerplate.Record.Checked

/-!
# Schemas

A schema is a list of records whose code goes into one program. Beyond each record being in order
on its own, the records must differ in their names, in the files that they are written to, and in
the names of the functions that they generate. Generation is all or nothing.

## Main definitions

* `Schema.Fault` — why no code can be generated from a schema, with its wording
* `Schema.Output` — what a record puts into the program: a file and functions
* `Schema.firstClash?` — the first key that was already taken, with both owners
* `Schema.generate` — all records of a schema, checked
-/

namespace Boilerplate.Schema

/-- Why no code can be generated from a schema. -/
inductive Fault
  | record (cause : Record.Fault)
  | repeatedRecord (name : String)
  | sharedFile (first second file : String)
  | sharedFunction (first second function : String)
  deriving DecidableEq, Repr

/-- The wording of a fault. -/
def Fault.message : Fault → String
  | record cause => cause.message
  | repeatedRecord name => "duplicate record '" ++ name ++ "'"
  | sharedFile first second file =>
    "records '" ++ first ++ "' and '" ++ second ++ "' both map to '" ++ file ++ "'"
  | sharedFunction first second function =>
    "records '" ++ first ++ "' and '" ++ second ++ "' both generate '" ++ function ++ "'"

/-- Something that only one record of a schema may put into the program. -/
inductive Output
  | file (name : String)
  | function (name : String)
  deriving DecidableEq, Repr

/-- What a record puts into the program: its header, and then its functions. -/
def outputs (unit : Record.Checked) : List Output :=
  .file unit.headerName :: unit.accessors.map fun a => .function a.name

/-- Everything that a list of records puts into the program, each piece with the name of the
record that owns it. -/
def ownedOutputs (units : List Record.Checked) : List (Output × String) :=
  units.flatMap fun unit => (outputs unit).map (·, unit.record.name)

/-- The first key of a list that is already taken, by a pair of the first argument or by an
earlier pair of the list, with the earlier and the later owner. -/
def firstClash? {α β : Type} [BEq α] (taken : List (α × β)) : List (α × β) → Option (α × β × β)
  | [] => none
  | (key, owner) :: rest =>
    match taken.lookup key with
    | some first => some (key, first, owner)
    | none => firstClash? ((key, owner) :: taken) rest

/-- The first name of a list that stands in it earlier as well. -/
def firstRepeat? (names : List String) : Option String :=
  (firstClash? [] (names.map (·, ()))).map Prod.fst

/-- Checks the records of a list one after the other. -/
def checkAll : List Record → Except Record.Fault (List Record.Checked)
  | [] => .ok []
  | record :: rest => do
    let unit ← record.check
    let units ← checkAll rest
    return unit :: units

/-- The records of a schema, all of them checked, in the order of the schema. The names of the
records are compared first; then each record is checked; and last, what they put into the program.
-/
def generate (records : List Record) : Except Fault (List Record.Checked) :=
  match firstRepeat? (records.map Record.name) with
  | some name => .error (.repeatedRecord name)
  | none =>
    match checkAll records with
    | .error cause => .error (.record cause)
    | .ok units =>
      match firstClash? [] (ownedOutputs units) with
      | some (.file file, first, second) => .error (.sharedFile first second file)
      | some (.function function, first, second) => .error (.sharedFunction first second function)
      | none => .ok units

end Boilerplate.Schema
