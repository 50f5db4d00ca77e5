import Boilerplate.Toml.Value

/-!
# Tables under construction

The tables of a document are put together piece by piece: a header opens a table, and assignments
fill it, possibly through tables that a dotted key creates on the way. What may still be added to
a table depends on how it came to be, so while a document is read each table remembers that.

* A table is *declared* by a header of its own. No second header may open it.
* A table is *implied* by the header of one of its subtables. A header may still open it.
* A table is *dotted* if a dotted key of an assignment created it. Later dotted keys may add to
  it.

Values that stand to the right of an equals sign are complete, inline tables and arrays among
them: nothing can be added to them.

## Main definitions

* `Toml.Tree` — a value, a table or an array of tables under construction
* `Toml.Tree.assign` — the assignment of a value to a dotted key
* `Toml.Tree.alterAt` — changes the table that a header names
* `Toml.Tree.freeze` — the value that was constructed
-/

namespace Boilerplate.Toml

/-- How a table came to be. -/
inductive Origin | declared | implied | dotted
  deriving DecidableEq, Repr

/-- A part of a document under construction. Of an array of tables only the latest table can still
grow. -/
inductive Tree
  | leaf (value : Value)
  | table (origin : Origin) (entries : List (String × Tree))
  | tables (earlier : List Value) (latest : List (String × Tree))

namespace Tree

/-- The entries of a table under construction. -/
abbrev Entries := List (String × Tree)

mutual

/-- The value that was constructed. -/
def freeze : Tree → Value
  | leaf value => value
  | table _ entries => .table (freezeEntries entries)
  | tables earlier latest => .array (earlier ++ [.table (freezeEntries latest)])

/-- The table that was constructed. -/
def freezeEntries : List (String × Tree) → Table
  | [] => []
  | (key, tree) :: rest => (key, tree.freeze) :: freezeEntries rest

end

/-- Changes what stands under a key, or puts something under a key that is absent. The change may
be refused. -/
def alter (key : String) (change : Option Tree → Option Tree) : Entries → Option Entries
  | [] => (change none).map fun tree => [(key, tree)]
  | (key', tree) :: rest =>
    if key' = key then (change (some tree)).map fun tree' => (key, tree') :: rest
    else (alter key change rest).map ((key', tree) :: ·)

/-- Steps into the table under a key of a header, which is created if there is none. -/
def enter (change : Entries → Option Entries) : Option Tree → Option Tree
  | none => (change []).map (table .implied)
  | some (table origin entries) => (change entries).map (table origin)
  | some (tables earlier latest) => (change latest).map (tables earlier)
  | some (leaf _) => none

/-- Changes what a header names by a dotted key. -/
def alterAt (change : Option Tree → Option Tree) : List String → Entries → Option Entries
  | [], _ => none
  | [key], entries => alter key change entries
  | key :: key' :: path, entries => alter key (enter (alterAt change (key' :: path))) entries

/-- Whether an assignment may pass through a table on the way to a dotted key, of which the given
part still lies ahead. The last table of the way must be one that dotted keys create. -/
def admits : Origin → List String → Bool
  | .dotted, _ => true
  | .implied, ahead => !ahead.isEmpty
  | .declared, _ => false

/-- Steps into the table under a key of an assignment, which is created if there is none. -/
def enterDotted (ahead : List String) (change : Entries → Option Entries) :
    Option Tree → Option Tree
  | none => (change []).map (table .dotted)
  | some (table origin entries) =>
    if admits origin ahead then (change entries).map (table origin) else none
  | some (tables earlier latest) =>
    if ahead.isEmpty then none else (change latest).map (tables earlier)
  | some (leaf _) => none

/-- Places a value, unless something stands there already. -/
def place (value : Value) : Option Tree → Option Tree
  | none => some (leaf value)
  | some _ => none

/-- Assigns a value to a dotted key, which must be new. -/
def assign (value : Value) : List String → Entries → Option Entries
  | [], _ => none
  | [key], entries => alter key (place value) entries
  | key :: key' :: path, entries =>
    alter key (enterDotted path (assign value (key' :: path))) entries

/-- Opens a table by its own header. -/
def declare : Option Tree → Option Tree
  | none => some (table .declared [])
  | some (table .implied entries) => some (table .declared entries)
  | some _ => none

/-- Appends a table to an array of tables. -/
def append : Option Tree → Option Tree
  | none => some (tables [] [])
  | some (tables earlier latest) => some (tables (earlier ++ [.table (freezeEntries latest)]) [])
  | some _ => none

end Tree

end Boilerplate.Toml
