/-!
# C identifiers

The names of records, fields and configuration symbols end up as identifiers of a C program, or as
parts of one. This module says which names may be used, and for every other name it gives the
first reason why not.

Two rules are kept apart. A name has the *spelling* of an identifier when it starts with a letter
or an underscore and goes on with letters, digits and underscores, all of them of ASCII. A name
that the generated code declares must moreover be free: neither a keyword, nor reserved for the
implementation, nor declared by one of the headers that generated code includes.

## Main definitions

* `Identifier.Fault` — why a name cannot be used, with its wording `Identifier.Fault.reason`
* `Identifier.spellingFault?` — the first fault in the spelling of a name
* `Identifier.fault?` — the first fault of a name that is to be declared
* `Identifier.macroCase` — a name in the capitals of a macro
-/

namespace Boilerplate.Identifier

/-- Why a name cannot be used as an identifier. -/
inductive Fault
  | empty
  | badStart
  | badCharacter (c : Char)
  | reservedWord
  | reservedForImplementation
  | standardName
  deriving DecidableEq, Repr

/-- The wording of a fault. -/
def Fault.reason : Fault → String
  | empty => "empty"
  | badStart => "must start with a letter or '_'"
  | badCharacter c => "unexpected character '" ++ c.toString ++ "'"
  | reservedWord => "reserved word"
  | reservedForImplementation => "reserved for the implementation"
  | standardName => "declared by a standard header"

/-- The full message about a name that has a fault. -/
def Fault.message (name : String) (fault : Fault) : String :=
  "invalid identifier '" ++ name ++ "': " ++ fault.reason

/-- The keywords of C11, and `bool`. -/
def reservedWords : List String :=
  ["auto", "bool", "break", "case", "char", "const", "continue", "default", "do", "double",
    "else", "enum", "extern", "float", "for", "goto", "if", "inline", "int", "long",
    "register", "restrict", "return", "short", "signed", "sizeof", "static", "struct",
    "switch", "typedef", "union", "unsigned", "void", "volatile", "while", "_Alignas",
    "_Alignof", "_Atomic", "_Bool", "_Complex", "_Generic", "_Imaginary", "_Noreturn",
    "_Static_assert", "_Thread_local"]

/-- The names that `stddef.h`, `stdbool.h` and `stdint.h` declare. -/
def standardNames : List String :=
  ["size_t", "ptrdiff_t", "wchar_t", "max_align_t", "offsetof", "NULL", "true", "false",
    "int8_t", "int16_t", "int32_t", "int64_t", "uint8_t", "uint16_t", "uint32_t", "uint64_t",
    "intptr_t", "uintptr_t", "intmax_t", "uintmax_t"]

/-- An identifier may start with a letter of ASCII or an underscore. -/
def isStart (c : Char) : Bool := c.isAlpha || c == '_'

/-- An identifier goes on with letters and digits of ASCII, and underscores. -/
def isPart (c : Char) : Bool := c.isAlphanum || c == '_'

/-- The first fault in the spelling of a name, if it has one. -/
def spellingFault? (name : String) : Option Fault :=
  match name.toList with
  | [] => some .empty
  | c :: rest =>
    if isStart c then (rest.find? fun d => !isPart d).map .badCharacter else some .badStart

/-- Names that start with an underscore and then a second one, or a capital, belong to the
implementation of the language. -/
def isImplementationName (name : String) : Bool :=
  match name.toList with
  | '_' :: c :: _ => c == '_' || c.isUpper
  | _ => false

/-- The first fault of a name that is to be declared, if it has one. -/
def fault? (name : String) : Option Fault :=
  spellingFault? name <|>
    if name ∈ reservedWords then some .reservedWord
    else if isImplementationName name then some .reservedForImplementation
    else if name ∈ standardNames then some .standardName
    else none

/-- Whether a name may be declared by generated code. -/
def isIdentifier (name : String) : Bool := (fault? name).isNone

/-- What a character becomes in a macro: letters turn into capitals, digits stay, and anything
else turns into an underscore. -/
def macroChar (c : Char) : Char := if c.isAlphanum then c.toUpper else '_'

/-- A name in the capitals of a macro. -/
def macroCase (name : String) : String := String.ofList (name.toList.map macroChar)

@[simp] theorem toList_macroCase (name : String) :
    (macroCase name).toList = name.toList.map macroChar := by
  simp [macroCase]

end Boilerplate.Identifier
