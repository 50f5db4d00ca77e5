import Boilerplate.CType.Parser

/-!
# Types of fields

A record stores arithmetic values and bare pointers. A pointer may lead to a string, to a string
that is only borrowed, to an arithmetic value, or to something that the record knows nothing
about. No other type can be stored: a constant field could not be set, and whole structures are
not copied.

## Main definitions

* `FieldType` — the types that can be stored, with their C type `FieldType.cType`
* `FieldType.ofCType` — the field type that a C type stands for, or why it stands for none
* `FieldType.parse` — the field type that a text declares
-/

namespace Boilerplate

/-- What a pointer in a record leads to. -/
inductive Pointee
  | string
  | borrowedString
  | handle
  | scalar (kind : Scalar)
  deriving DecidableEq, Repr

/-- The type of a field: an arithmetic value, or a pointer. -/
inductive FieldType
  | scalar (kind : Scalar)
  | pointer (target : Pointee)
  deriving DecidableEq, Repr

/-- The C type of a pointer to this. -/
def Pointee.pointerType : Pointee → CType
  | string => .pointer (.scalar .char)
  | borrowedString => .pointer (.const (.scalar .char))
  | handle => .pointer .void
  | scalar kind => .pointer (.scalar kind)

namespace FieldType

/-- The C type of a field. -/
def cType : FieldType → CType
  | scalar kind => .scalar kind
  | pointer target => target.pointerType

/-- How the type of a field is written in generated code. -/
def spelling (t : FieldType) : String := t.cType.spelling

/-- Whether a field holds a pointer. -/
def isPointer : FieldType → Bool
  | scalar _ => false
  | pointer _ => true

/-- Why a declared type is not the type of a field. -/
inductive Fault
  | unreadable (cause : CType.Fault)
  | constant
  | void
  | aggregate
  | pointee (target : CType)
  | unsupported (type : CType)
  deriving DecidableEq, Repr

/-- The wording of a fault. -/
def Fault.reason : Fault → String
  | unreadable cause => cause.reason
  | constant => "const-qualified fields cannot have a setter"
  | void => "void is not a storable field type"
  | aggregate => "aggregate fields are not supported"
  | pointee target => "unsupported pointee '" ++ target.spelling ++ "'"
  | unsupported type => "unsupported type '" ++ type.spelling ++ "'"

/-- The full message about a declared type that has a fault. -/
def Fault.message (fault : Fault) : String := "invalid C type: " ++ fault.reason

/-- The field type that a C type stands for, or why it stands for none. A pointer to `char` is a
string, although `char` is arithmetic too. -/
def ofCType : CType → Except Fault FieldType
  | .pointer (.scalar .char) => .ok (.pointer .string)
  | .pointer (.const (.scalar .char)) => .ok (.pointer .borrowedString)
  | .pointer .void => .ok (.pointer .handle)
  | .pointer target =>
    match target.scalar? with
    | some kind => .ok (.pointer (.scalar kind))
    | none => .error (.pointee target)
  | .const _ => .error .constant
  | .void => .error .void
  | .struct _ => .error .aggregate
  | .named _ => .error .aggregate
  | t =>
    match t.scalar? with
    | some kind => .ok (.scalar kind)
    | none => .error (.unsupported t)

/-- The field type that a text declares. -/
def parse (input : String) : Except Fault FieldType :=
  match CType.parse input with
  | .error cause => .error (.unreadable cause)
  | .ok t => ofCType t

/-- The type that a field has in C is a pointer exactly for pointer fields. -/
@[simp] theorem isPointer_cType (t : FieldType) : t.cType.isPointer = t.isPointer := by
  rcases t with kind | (_ | _ | _ | kind) <;> rfl

/-- A field type is found again from its C type, up to the two names of a pointer to `char`. -/
theorem cType_of_ofCType {c : CType} {t : FieldType} (h : ofCType c = .ok t) : t.cType = c := by
  revert h
  -- What remains are the branches that succeed.
  fun_cases ofCType c <;> intro h <;> cases h
  case case1 | case2 | case3 => rfl
  case case4 | case10 =>
    rename CType.scalar? _ = some _ => hkind
    rw [CType.scalar?_eq_some_iff.mp hkind]
    rfl

end FieldType

end Boilerplate
