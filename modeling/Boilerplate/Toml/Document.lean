import Boilerplate.Toml.Literal

/-!
# TOML documents

A document is a sequence of lines. A line may open a table by a header, append a table to an array
by a header in double brackets, assign a value to a key of the table that was opened last, or hold
nothing but a comment. The statements are read first; then they are carried out on an empty
document, and the first one that contradicts those before it makes the whole document invalid.

## Main definitions

* `Toml.Statement` — what a line does
* `Toml.Draft` — a document under construction, and the table that assignments go to
* `Toml.parse?` — the table that a text stands for
-/

namespace Boilerplate.Toml

/-- What a line of a document does. -/
inductive Statement
  | header (path : List String)
  | element (path : List String)
  | assignment (path : List String) (value : Value)

namespace Reader

/-- Reads a header in single brackets. -/
def header : Reader Statement := do
  expect '['
  let keys ← path
  expect ']'
  return .header keys

/-- Reads a header in double brackets. -/
def element : Reader Statement := do
  expect '['
  expect '['
  let keys ← path
  expect ']'
  expect ']'
  return .element keys

/-- Reads an assignment. -/
def assignment : Reader Statement := do
  let keys ← path
  expect '='
  blanks
  return .assignment keys (← value)

/-- Reads the statement on a line, if there is one. -/
def statement : Reader (Option Statement) := do
  blanks
  match ← get with
  | [] => return none
  | '\n' :: _ => return none
  | '\r' :: _ => return none
  | '#' :: _ => return none
  | '[' :: '[' :: _ => return some (← element)
  | '[' :: _ => return some (← header)
  | _ => return some (← assignment)

/-- Reads the statements of a text, which may have no more than the given number of lines. -/
def statements : Nat → Reader (List Statement)
  | 0 => failure
  | room + 1 => do
    if (← get).isEmpty then return []
    else
      let first ← statement
      lineEnd
      let rest ← statements room
      return first.toList ++ rest

end Reader

/-- A document under construction, and the path of the table that assignments go to. -/
structure Draft where
  root : Tree.Entries := []
  current : List String := []

namespace Draft

/-- Changes the table that assignments go to. -/
def alterCurrent (draft : Draft) (change : Tree.Entries → Option Tree.Entries) : Option Draft :=
  match draft.current with
  | [] => (change draft.root).map fun root => { draft with root }
  | path =>
    (Tree.alterAt (Tree.enter change) path draft.root).map fun root => { draft with root }

/-- Carries out a statement, unless it contradicts those before it. -/
def apply (draft : Draft) : Statement → Option Draft
  | .header path => (Tree.alterAt Tree.declare path draft.root).map (⟨·, path⟩)
  | .element path => (Tree.alterAt Tree.append path draft.root).map (⟨·, path⟩)
  | .assignment path value => draft.alterCurrent (Tree.assign value path)

end Draft

/-- A text without the byte order mark that it may start with. -/
def dropMark : List Char → List Char
  | '\uFEFF' :: rest => rest
  | cs => cs

/-- The table that statements construct, unless one contradicts those before it. -/
def ofStatements? (statements : List Statement) : Option Table :=
  (statements.foldlM Draft.apply {}).map fun draft => Tree.freezeEntries draft.root

/-- The table that a text stands for, unless the text is no document. A text has at most one line
more than it has characters. -/
def parse? (text : String) : Option Table := do
  let cs := dropMark text.toList
  let (statements, _) ← (Reader.statements (cs.length + 1)).run cs
  ofStatements? statements

end Boilerplate.Toml
