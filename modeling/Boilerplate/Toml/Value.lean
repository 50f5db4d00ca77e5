/-!
# TOML values

A document in TOML is a tree: a table of keys and values, some of which are tables or arrays
again. The order of the keys of a table carries no meaning, while that of the elements of an array
does.

Numbers with a fraction and moments in time are kept as they are written. Nothing in this library
reads them, but a document that holds them is a document all the same.

## Main definitions

* `Toml.Value` — a value, with views such as `Toml.Value.string?`
* `Toml.Table` — the entries of a table
-/

namespace Boilerplate.Toml

/-- A value of a document. -/
inductive Value
  | string (text : String)
  | integer (number : Int)
  | float (text : String)
  | boolean (truth : Bool)
  | moment (text : String)
  | array (items : List Value)
  | table (entries : List (String × Value))
  deriving Repr, Inhabited

/-- The entries of a table, no two of them under the same key. -/
abbrev Table := List (String × Value)

namespace Value

/-- The text of a string. -/
def string? : Value → Option String
  | string text => some text
  | _ => none

/-- The truth value of a boolean. -/
def boolean? : Value → Option Bool
  | boolean truth => some truth
  | _ => none

/-- An integer that is not negative. -/
def natural? : Value → Option Nat
  | integer (.ofNat n) => some n
  | _ => none

/-- The items of an array. -/
def array? : Value → Option (List Value)
  | array items => some items
  | _ => none

/-- Whether a value is a table or an array without members. -/
def isEmpty : Value → Bool
  | array [] => true
  | table [] => true
  | _ => false

end Value

namespace Table

/-- Whether every key of a table is one of the given ones. -/
def onlyHas (t : Table) (keys : List String) : Bool := t.all fun entry => keys.contains entry.1

/-- Decodes the value under a key, or gives the default if the key is absent. A value that cannot
be decoded is a fault, even though the key is optional. -/
def decodeOr {α : Type} (t : Table) (key : String) (decode : Value → Option α) (default : α) :
    Option α :=
  match t.lookup key with
  | none => some default
  | some value => decode value

/-- Decodes the value under a key that must be there. -/
def decode? {α : Type} (t : Table) (key : String) (decode : Value → Option α) : Option α :=
  t.lookup key >>= decode

end Table

end Boilerplate.Toml
