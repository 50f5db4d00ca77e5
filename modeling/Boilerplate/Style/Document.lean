import Boilerplate.Style
import Boilerplate.Toml.Document

/-!
# Style documents

A style may be written as a TOML document. All keys are optional, and other keys are ignored,
whatever their values.

## Main definitions

* `Style.ofTable?` — the style in a table
* `Style.parse?` — the style in a document
-/

namespace Boilerplate

/-- The spelling of false symbols that a name stands for. -/
def Negatives.ofName? : String → Option Negatives
  | "undef" => some .undefined
  | "zero" => some .zero
  | _ => none

/-- The spelling of false symbols that a value stands for: its name, or a table whose only key is
the name, with nothing under it. -/
def Negatives.ofValue? : Toml.Value → Option Negatives
  | .string name => ofName? name
  | .table [(name, value)] => if value.isEmpty then ofName? name else none
  | _ => none

namespace Style

/-- The style in a table. -/
def ofTable? (t : Toml.Table) : Option Style := do
  let guardPrefix ← Toml.Table.decodeOr t "guard-prefix" Toml.Value.string? ""
  let banner ← Toml.Table.decodeOr t "banner" Toml.Value.boolean? true
  let negatives ← Toml.Table.decodeOr t "negative-style" Negatives.ofValue? .undefined
  let indent ← Toml.Table.decodeOr t "indent" Toml.Value.natural? 4
  return ⟨guardPrefix, banner, negatives, indent⟩

/-- The style in a document, unless the document is invalid. -/
def parse? (text : String) : Option Style := Toml.parse? text >>= ofTable?

end Style

end Boilerplate
