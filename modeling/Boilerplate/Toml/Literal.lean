import Boilerplate.Toml.Moment
import Boilerplate.Toml.Number
import Boilerplate.Toml.Reader
import Boilerplate.Toml.Tree

/-!
# Values in TOML

A value is a quoted string, a word, an array in brackets or an inline table in braces. An array
may go over several lines, hold comments, and end with a comma; an inline table may do none of
this, but its keys may be dotted. Brackets and braces may be nested only to a limited depth.

## Main definitions

* `Toml.Value.ofWord?` — the value that a word stands for
* `Toml.Reader.array`, `Toml.Reader.inlineTable` — readers for arrays and inline tables, given one
  for their items
* `Toml.Reader.value` — reads a value
-/

namespace Boilerplate.Toml

/-- The value that a word stands for. -/
def Value.ofWord? (cs : List Char) : Option Value :=
  if cs = ['t', 'r', 'u', 'e'] then some (.boolean true)
  else if cs = ['f', 'a', 'l', 's', 'e'] then some (.boolean false)
  else match Number.integer? cs with
    | some n => some (.integer n)
    | none =>
      if Number.isFloat cs then some (.float (String.ofList cs))
      else if Moment.isMoment cs then some (.moment (String.ofList cs))
      else none

namespace Reader

/-- Whether a character belongs to a word: it is not a blank, a line break, or one of the marks
that may follow a value. -/
def isWordPart (c : Char) : Bool :=
  !([' ', '\t', '\n', '\r', ',', ']', '}', '#'].contains c)

/-- Whether a text goes on with a blank and a digit, as a time does after its date. -/
def continuesWithTime : List Char → Bool
  | ' ' :: c :: _ => c.isDigit
  | _ => false

/-- Reads a word. A date may be separated from its time by one blank. -/
def word : Reader (List Char) := do
  let first ← takeAll isWordPart
  if Moment.isDate first && continuesWithTime (← get) then
    expect ' '
    return first ++ ' ' :: (← takeAll isWordPart)
  else return first

/-- Reads a quoted string or a word. -/
def simpleValue : Reader Value := do
  match ← next? with
  | some '"' | some '\'' => return .string (← quoted)
  | _ => Value.ofWord? (← word)

/-- Reads the items of an array up to its closing bracket, of which there may be no more than the
given number. -/
def items (item : Reader Value) : Nat → Reader (List Value)
  | 0 => failure
  | room + 1 => do
    filler
    if (← next?) = some ']' then
      expect ']'
      return []
    else
      let value ← item
      filler
      if (← next?) = some ',' then
        expect ','
        return value :: (← items item room)
      else
        expect ']'
        return [value]

/-- Reads an array. It cannot have more items than the text has characters. -/
def array (item : Reader Value) : Reader Value := do
  expect '['
  return .array (← items item (← get).length)

/-- Reads the assignments of an inline table up to its closing brace, of which there may be no
more than the given number, and adds them to a table. -/
def members (item : Reader Value) : Nat → Tree.Entries → Reader Tree.Entries
  | 0, _ => failure
  | room + 1, entries => do
    let keys ← path
    expect '='
    blanks
    let value ← item
    let entries ← Tree.assign value keys entries
    blanks
    if (← next?) = some ',' then
      expect ','
      members item room entries
    else
      expect '}'
      return entries

/-- Reads an inline table. It cannot have more assignments than the text has characters. -/
def inlineTable (item : Reader Value) : Reader Value := do
  expect '{'
  blanks
  if (← next?) = some '}' then
    expect '}'
    return .table []
  else return .table (Tree.freezeEntries (← members item (← get).length []))

/-- Reads a value that is nested at most to the given depth. -/
def nested : Nat → Reader Value
  | 0 => simpleValue
  | depth + 1 => do
    match ← next? with
    | some '[' => array (nested depth)
    | some '{' => inlineTable (nested depth)
    | _ => simpleValue

/-- Reads a value. -/
def value : Reader Value := nested limit

end Reader

end Boilerplate.Toml
