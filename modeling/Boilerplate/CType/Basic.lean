/-!
# C types

The types that a field declaration can speak of: `void`, the arithmetic types, structures and type
names, and pointers to and constant versions of any of these. Function types and arrays are not
among them.

## Main definitions

* `Scalar` — the arithmetic types, each with its C spelling
* `CType` — all types, with their spelling `CType.spelling`
* `CType.stripConst` — a type without the qualifiers at its outside
* `CType.header?` — the system header that must be included before a type can be named
-/

namespace Boilerplate

/-- A header of the C library that declares the name of a type. -/
inductive SystemHeader | stdbool | stddef | stdint
  deriving DecidableEq, Repr

/-- The file name of a system header. -/
def SystemHeader.fileName : SystemHeader → String
  | stdbool => "stdbool.h"
  | stddef => "stddef.h"
  | stdint => "stdint.h"

/-- An arithmetic type of C. -/
inductive Scalar
  | char | signedChar | unsignedChar
  | short | unsignedShort
  | int | unsignedInt
  | long | unsignedLong
  | longLong | unsignedLongLong
  | float | double | longDouble
  | int8 | int16 | int32 | int64
  | uint8 | uint16 | uint32 | uint64
  | size
  | bool
  deriving DecidableEq, Repr

namespace Scalar

/-- How an arithmetic type is written in generated code. -/
def spelling : Scalar → String
  | char => "char"
  | signedChar => "signed char"
  | unsignedChar => "unsigned char"
  | short => "short"
  | unsignedShort => "unsigned short"
  | int => "int"
  | unsignedInt => "unsigned int"
  | long => "long"
  | unsignedLong => "unsigned long"
  | longLong => "long long"
  | unsignedLongLong => "unsigned long long"
  | float => "float"
  | double => "double"
  | longDouble => "long double"
  | int8 => "int8_t"
  | int16 => "int16_t"
  | int32 => "int32_t"
  | int64 => "int64_t"
  | uint8 => "uint8_t"
  | uint16 => "uint16_t"
  | uint32 => "uint32_t"
  | uint64 => "uint64_t"
  | size => "size_t"
  | bool => "bool"

/-- The system header that declares the spelling of an arithmetic type; the keywords of the
language need none. -/
def header? : Scalar → Option SystemHeader
  | int8 | int16 | int32 | int64 | uint8 | uint16 | uint32 | uint64 => some .stdint
  | size => some .stddef
  | bool => some .stdbool
  | _ => none

end Scalar

/-- A type of C. A `struct` is named by its tag, and `named` is a name that a type definition
gave. -/
inductive CType
  | void
  | scalar (kind : Scalar)
  | pointer (target : CType)
  | const (base : CType)
  | struct (tag : String)
  | named (name : String)
  deriving DecidableEq, Repr

namespace CType

/-- How a type is written in generated code: the star of a pointer follows its target directly,
and a qualifier stands before what it qualifies. -/
def spelling : CType → String
  | void => "void"
  | scalar kind => kind.spelling
  | pointer target => target.spelling ++ "*"
  | const base => "const " ++ base.spelling
  | struct tag => "struct " ++ tag
  | named name => name

/-- A type without the qualifiers at its outside. -/
def stripConst : CType → CType
  | const base => base.stripConst
  | t => t

/-- The arithmetic type that a type is, if it is one and carries no qualifier. -/
def scalar? : CType → Option Scalar
  | scalar kind => some kind
  | _ => none

/-- Whether a type is arithmetic, qualified or not. -/
def isArithmetic (t : CType) : Bool := t.stripConst.scalar?.isSome

/-- Whether a type is a pointer, unqualified. -/
def isPointer : CType → Bool
  | pointer _ => true
  | _ => false

/-- The system header that must be included before a type can be named: that of the arithmetic
type at its core, if there is one. -/
def header? : CType → Option SystemHeader
  | scalar kind => kind.header?
  | pointer target => target.header?
  | const base => base.header?
  | _ => none

/-- Whether naming a type takes a system header. -/
def needs (t : CType) (header : SystemHeader) : Bool := t.header? == some header

theorem scalar?_eq_some_iff {t : CType} {kind : Scalar} :
    t.scalar? = some kind ↔ t = scalar kind := by
  cases t <;> simp [scalar?]

end CType

end Boilerplate
