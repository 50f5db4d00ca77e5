import Boilerplate.Frame
import Boilerplate.Record.Checked

/-!
# The C code of a record

A record turns into two files. The header defines the type and declares the accessors; the source
file defines them. Both are lists of lines until the very end.

## Main definitions

* `Record.Checked.header` — the header of a record
* `Record.Checked.source` — the source file of a record
-/

namespace Boilerplate.Record.Checked

/-- The comment in front of an accessor, if it has a note. -/
def noteLines (a : Accessor) : List String :=
  match a.note? with
  | some note => ["/* " ++ note ++ " */"]
  | none => []

/-- The system headers that the types of the fields need, in a fixed order. -/
def systemHeaders (unit : Checked) : List SystemHeader :=
  [SystemHeader.stdbool, .stddef, .stdint].filter fun header =>
    unit.record.fields.any fun field => field.type.cType.needs header

/-- The lines that include the system headers, and a blank line after them. -/
def includeLines (unit : Checked) : List String :=
  match unit.systemHeaders with
  | [] => []
  | headers => headers.map (fun header => "#include <" ++ header.fileName ++ ">") ++ [""]

/-- The line that defines a member of the structure. -/
def memberLine (style : Style) (field : Field) : String :=
  style.indentation ++ field.type.spelling ++ " " ++ field.name ++ ";"

/-- The lines that define the type. Without fields it is only declared. -/
def typeLines (unit : Checked) (style : Style) : List String :=
  if unit.isIncomplete then
    ["typedef struct " ++ unit.record.name ++ " " ++ unit.record.name ++ ";"]
  else
    ["typedef struct " ++ unit.record.name ++ " \x7b"] ++
      unit.record.fields.map (memberLine style) ++ ["\x7d " ++ unit.record.name ++ ";"]

/-- The lines that declare an accessor. A blank line stands before each getter, so that the two
accessors of a field stay together. -/
def declarationLines (a : Accessor) : List String :=
  (if a.kind = .getter then [""] else []) ++ noteLines a ++ [a.prototype ++ ";"]

/-- The lines that define an accessor, a blank line first. -/
def definitionLines (style : Style) (a : Accessor) : List String :=
  [""] ++ noteLines a ++ [a.prototype ++ " \x7b", style.indentation ++ a.statement, "\x7d"]

/-- The banner of both files. -/
def banner (unit : Checked) (style : Style) : List String :=
  Frame.banner ("record " ++ unit.record.name) unit.record.digest style

/-- The lines of the header. -/
def headerLines (unit : Checked) (style : Style) : List String :=
  unit.banner style ++ Frame.guarded (Frame.includeGuard unit.headerName style)
    (unit.includeLines ++ unit.typeLines style ++ unit.accessors.flatMap declarationLines)

/-- The lines of the source file. -/
def sourceLines (unit : Checked) (style : Style) : List String :=
  unit.banner style ++ ["#include \"" ++ unit.headerName ++ "\""] ++
    unit.accessors.flatMap (definitionLines style)

/-- The header of a record: the type and the prototypes of its accessors. -/
def header (unit : Checked) (style : Style) : String := Text.unlines (unit.headerLines style)

/-- The source file of a record: the definitions of its accessors. -/
def source (unit : Checked) (style : Style) : String := Text.unlines (unit.sourceLines style)

end Boilerplate.Record.Checked
