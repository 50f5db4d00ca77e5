import Boilerplate.Record.Basic

/-!
# Accessors

Each field of a record gets two functions: a getter that returns it and a setter that replaces it.
Both take a pointer to the record first. Arithmetic values are copied in and out; a pointer is
handed out and stored as it is, and a note says that nothing is freed on the way.

## Main definitions

* `Accessor` — one function, with its name, parameters, result and note
* `Accessor.body` — what it does
* `Accessor.prototype`, `Accessor.statement` — its C text
* `Accessor.ofField` — the getter and the setter of a field
-/

namespace Boilerplate

/-- Whether an accessor reads its field or replaces it. -/
inductive Accessor.Kind | getter | setter
  deriving DecidableEq, Repr

/-- The verb in the names of functions of a kind. -/
def Accessor.Kind.verb : Accessor.Kind → String
  | getter => "get"
  | setter => "set"

/-- What the functions of a kind do with the ownership of a pointer. -/
def Accessor.Kind.note : Accessor.Kind → String
  | getter =>
    "Returns the stored pointer. Ownership is not transferred; the caller must not free it."
  | setter =>
    "Stores the pointer as-is. The previous value is replaced, not freed; " ++
      "releasing it is the caller's responsibility."

/-- What the body of an accessor does: it returns the field, or stores the value that it was given
in the field. -/
inductive Accessor.Body | returnField | storeField
  deriving DecidableEq, Repr

/-- A function that reads or replaces one field of a record. -/
structure Accessor where
  kind : Accessor.Kind
  /-- The name of the record type. -/
  record : String
  /-- The name of the field. -/
  field : String
  /-- The C type of the field. -/
  type : CType
  deriving DecidableEq, Repr

namespace Accessor

/-- The name of the function of a kind for a field of a record. -/
def functionName (record : String) (kind : Kind) (field : String) : String :=
  record ++ "_" ++ kind.verb ++ "_" ++ field

/-- The name of an accessor. -/
def name (a : Accessor) : String := functionName a.record a.kind a.field

/-- The name of the parameter that is the record. -/
def receiver : String := "obj"

/-- The name of the parameter that is the new value. -/
def value : String := "value"

/-- The names and types of the parameters: the record, and for a setter the new value. -/
def parameters (a : Accessor) : List (String × CType) :=
  match a.kind with
  | .getter => [(receiver, .pointer (.named a.record))]
  | .setter => [(receiver, .pointer (.named a.record)), (value, a.type)]

/-- The type of the result. -/
def result (a : Accessor) : CType :=
  match a.kind with
  | .getter => a.type
  | .setter => .void

/-- What a caller must know about the ownership of a pointer; other values need no note. -/
def note? (a : Accessor) : Option String := if a.type.isPointer then some a.kind.note else none

/-- The C prototype, without a semicolon. -/
def prototype (a : Accessor) : String :=
  a.result.spelling ++ " " ++ a.name ++ "(" ++
    ", ".intercalate (a.parameters.map fun (name, type) => type.spelling ++ " " ++ name) ++ ")"

/-- What the function does with its field. -/
def body (a : Accessor) : Body :=
  match a.kind with
  | .getter => .returnField
  | .setter => .storeField

/-- The one statement of the body. -/
def statement (a : Accessor) : String :=
  match a.body with
  | .returnField => "return " ++ receiver ++ "->" ++ a.field ++ ";"
  | .storeField => receiver ++ "->" ++ a.field ++ " = " ++ value ++ ";"

/-- The getter and the setter of a field. -/
def ofField (record : String) (field : Field) : List Accessor :=
  [⟨.getter, record, field.name, field.type.cType⟩, ⟨.setter, record, field.name, field.type.cType⟩]

end Accessor

end Boilerplate
