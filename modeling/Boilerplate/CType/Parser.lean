import Boilerplate.CType.Basic
import Boilerplate.CType.Token

/-!
# Reading a declared type

A declared type is an optional `const`, then the words that name a type, and then stars and
further `const`s in any order. A `const` that follows the name of the type is dropped. Behind a
star nothing is lost with it, since a pointer that is constant is stored like any other.

## Main definitions

* `CType.Fault` — why a text declares no type, with its wording `CType.Fault.reason`
* `CType.specifier` — reads the words that name a type
* `CType.qualified` — the same after an optional `const`
* `CType.suffix` — applies the stars that follow
* `CType.parse` — the type that a text declares
-/

namespace Boilerplate.CType

/-- Why a text declares no type. -/
inductive Fault
  | empty
  | endsAfterConst
  | missingTag
  | unknownWord (word : String)
  | unexpected (token : String) (input : String)
  deriving DecidableEq, Repr

/-- The wording of a fault. -/
def Fault.reason : Fault → String
  | empty => "empty type"
  | endsAfterConst => "expected type after 'const'"
  | missingTag => "expected struct name"
  | unknownWord word => "unknown type '" ++ word ++ "'"
  | unexpected token input => "unexpected token '" ++ token ++ "' in '" ++ input ++ "'"

/-- The full message about a text that has a fault. -/
def Fault.message (fault : Fault) : String := "invalid C type: " ++ fault.reason

/-- The types that a single word names. -/
def ofWord? : String → Option CType
  | "void" => some .void
  | "char" => some (.scalar .char)
  | "short" => some (.scalar .short)
  | "int" => some (.scalar .int)
  | "long" => some (.scalar .long)
  | "float" => some (.scalar .float)
  | "double" => some (.scalar .double)
  | "_Bool" => some (.scalar .bool)
  | "bool" => some (.scalar .bool)
  | "size_t" => some (.scalar .size)
  | "int8_t" => some (.scalar .int8)
  | "int16_t" => some (.scalar .int16)
  | "int32_t" => some (.scalar .int32)
  | "int64_t" => some (.scalar .int64)
  | "uint8_t" => some (.scalar .uint8)
  | "uint16_t" => some (.scalar .uint16)
  | "uint32_t" => some (.scalar .uint32)
  | "uint64_t" => some (.scalar .uint64)
  | _ => none

/-- The integer type after the word `unsigned`; nothing more means `unsigned int`. -/
def afterUnsigned : List Token → Scalar × List Token
  | .word "char" :: rest => (.unsignedChar, rest)
  | .word "short" :: rest => (.unsignedShort, rest)
  | .word "int" :: rest => (.unsignedInt, rest)
  | .word "long" :: .word "long" :: rest => (.unsignedLongLong, rest)
  | .word "long" :: rest => (.unsignedLong, rest)
  | rest => (.unsignedInt, rest)

/-- The integer type after the word `signed`; nothing more means `int`. -/
def afterSigned : List Token → Scalar × List Token
  | .word "char" :: rest => (.signedChar, rest)
  | .word "short" :: rest => (.short, rest)
  | .word "int" :: rest => (.int, rest)
  | .word "long" :: .word "long" :: rest => (.longLong, rest)
  | .word "long" :: rest => (.long, rest)
  | rest => (.int, rest)

/-- Reads the words that name a type, as many of them as belong together, and returns the tokens
that follow. -/
def specifier : List Token → Except Fault (CType × List Token)
  | [] => .error .empty
  | .star :: _ => .error (.unknownWord "*")
  | .word "struct" :: .word tag :: rest => .ok (.struct tag, rest)
  | .word "struct" :: _ => .error .missingTag
  | .word "unsigned" :: rest => .ok (.scalar (afterUnsigned rest).1, (afterUnsigned rest).2)
  | .word "signed" :: rest => .ok (.scalar (afterSigned rest).1, (afterSigned rest).2)
  | .word "long" :: .word "long" :: rest => .ok (.scalar .longLong, rest)
  | .word "long" :: .word "double" :: rest => .ok (.scalar .longDouble, rest)
  | .word w :: rest =>
    match ofWord? w with
    | some t => .ok (t, rest)
    | none => .error (.unknownWord w)

/-- Reads an optional `const` and the words that name a type. -/
def qualified : List Token → Except Fault (CType × List Token)
  | [.word "const"] => .error .endsAfterConst
  | .word "const" :: rest => (specifier rest).map fun (t, rest') => (.const t, rest')
  | ts => specifier ts

/-- Applies the stars after a type to it. Only stars and `const` may stand there. -/
def suffix (input : String) (t : CType) : List Token → Except Fault CType
  | [] => .ok t
  | .star :: rest => suffix input (.pointer t) rest
  | .word "const" :: rest => suffix input t rest
  | .word w :: _ => .error (.unexpected w (Text.trim input))

/-- The type that a sequence of tokens declares; the text they come from is quoted in faults. -/
def ofTokens (input : String) (ts : List Token) : Except Fault CType := do
  let (t, rest) ← qualified ts
  suffix input t rest

/-- The type that a text declares. -/
def parse (input : String) : Except Fault CType := ofTokens input (Token.ofText input)

end Boilerplate.CType
