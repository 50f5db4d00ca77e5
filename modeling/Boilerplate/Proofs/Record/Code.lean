import Boilerplate.Proofs.Identifier.Macro
import Boilerplate.Proofs.Record
import Boilerplate.Record.Code

/-!
# What the lines of a record are written with

Every line that is generated from a record, its guard apart, is made of names, types, and the signs
between them. The names are identifiers, so what a line can hold is known from its signs. In
particular lines of code hold nothing that starts or ends a comment, only the heads of functions
hold parentheses, and no line breaks into two.

## Main definitions

* `Text.WrittenWith` — texts that consist of the characters of identifiers and of given signs

## Main results

* `Accessor.prototype_getter`, `Accessor.prototype_setter`, `Accessor.statement_getter`,
  `Accessor.statement_setter` — prototypes and statements in full
* `Record.Checked.mem_accessors_iff` — the accessors of a record are those of its fields
* `Record.Checked.writtenWith_prototype`, `writtenWith_statement`,
  `writtenWith_of_mem_includeLines`, `writtenWith_of_mem_typeLines` — the signs of lines of code
-/

namespace Boilerplate

namespace Text

/-- Whether a text consists of the characters of identifiers and of the given signs. -/
def WrittenWith (signs text : String) : Prop :=
  ∀ c ∈ text.toList, Identifier.isPart c = true ∨ c ∈ signs.toList

instance (signs text : String) : Decidable (WrittenWith signs text) :=
  decidable_of_iff (text.toList.all fun c => Identifier.isPart c || signs.toList.contains c)
    (by simp [WrittenWith])

variable {signs more s t : String} {c : Char}

theorem writtenWith_append :
    WrittenWith signs (s ++ t) ↔ WrittenWith signs s ∧ WrittenWith signs t := by
  simp only [WrittenWith, String.toList_append, List.forall_mem_append]

/-- Identifiers need no signs. -/
theorem writtenWith_of_fault? (h : Identifier.fault? s = none) : WrittenWith signs s :=
  fun _ hc => .inl (Identifier.isPart_of_mem h hc)

theorem WrittenWith.mono (h : WrittenWith signs s) (hmore : signs.toList ⊆ more.toList) :
    WrittenWith more s :=
  fun c hc => (h c hc).imp_right fun hsign => hmore hsign

/-- A sign that is not among the given ones does not occur. -/
theorem WrittenWith.not_mem (h : WrittenWith signs s) (hpart : Identifier.isPart c = false)
    (hsign : c ∉ signs.toList) : c ∉ s.toList := by
  intro hc
  rcases h c hc with hc | hc
  · rw [hpart] at hc
    exact Bool.noConfusion hc
  · exact hsign hc

end Text

open Text (WrittenWith)

/-- The blanks in front of a line are signs, however many they are. -/
theorem Style.writtenWith_indentation (style : Style) : WrittenWith " " style.indentation := by
  intro c hc
  rw [indentation, String.toList_ofList] at hc
  rw [List.eq_of_mem_replicate hc]
  decide

theorem Scalar.writtenWith_spelling (kind : Scalar) : WrittenWith " *" kind.spelling := by
  cases kind <;> decide

theorem FieldType.writtenWith_spelling (t : FieldType) : WrittenWith " *" t.spelling := by
  rcases t with kind | (_ | _ | _ | kind)
  · exact kind.writtenWith_spelling
  · decide
  · decide
  · decide
  · exact Text.writtenWith_append.mpr ⟨kind.writtenWith_spelling, by decide⟩

namespace Accessor

theorem prototype_getter (record field : String) (type : CType) :
    prototype ⟨.getter, record, field, type⟩ =
      type.spelling ++ " " ++ record ++ "_get_" ++ field ++ "(" ++ record ++ "* obj)" := by
  simp [prototype, result, name, functionName, Kind.verb, parameters, CType.spelling, receiver,
    ← String.toList_inj]

theorem prototype_setter (record field : String) (type : CType) :
    prototype ⟨.setter, record, field, type⟩ =
      "void " ++ record ++ "_set_" ++ field ++ "(" ++ record ++ "* obj, " ++ type.spelling ++
        " value)" := by
  simp [prototype, result, name, functionName, Kind.verb, parameters, CType.spelling, receiver,
    value, ← String.toList_inj]

theorem statement_getter (record field : String) (type : CType) :
    statement ⟨.getter, record, field, type⟩ = "return obj->" ++ field ++ ";" := by
  simp [statement, body, receiver]

theorem statement_setter (record field : String) (type : CType) :
    statement ⟨.setter, record, field, type⟩ = "obj->" ++ field ++ " = value;" := by
  simp [statement, body, receiver, value, ← String.toList_inj]

end Accessor

namespace Record.Checked

variable {unit : Checked} {style : Style} {a : Accessor} {line : String}

/-- The accessors of a record are the two of each of its fields. -/
theorem mem_accessors_iff :
    a ∈ unit.accessors ↔ ∃ field ∈ unit.record.fields, ∃ kind,
      a = ⟨kind, unit.record.name, field.name, field.type.cType⟩ := by
  rw [accessors, List.mem_flatMap]
  refine exists_congr fun field => and_congr_right fun _ => ?_
  constructor
  · intro h
    rcases List.mem_pair.mp h with rfl | rfl
    · exact ⟨.getter, rfl⟩
    · exact ⟨.setter, rfl⟩
  · rintro ⟨kind, rfl⟩
    cases kind <;> simp [Accessor.ofField]

theorem writtenWith_name (unit : Checked) (signs : String) :
    WrittenWith signs unit.record.name :=
  Text.writtenWith_of_fault? unit.name_faultless

theorem writtenWith_fieldName (unit : Checked) (signs : String) {field : Field}
    (hfield : field ∈ unit.record.fields) : WrittenWith signs field.name :=
  Text.writtenWith_of_fault? (unit.field_faultless hfield)

theorem writtenWith_prototype (ha : a ∈ unit.accessors) : WrittenWith " *()," a.prototype := by
  obtain ⟨field, hfield, kind, rfl⟩ := mem_accessors_iff.mp ha
  have htype : WrittenWith " *()," field.type.cType.spelling :=
    field.type.writtenWith_spelling.mono (by decide)
  cases kind with
  | getter =>
    rw [Accessor.prototype_getter]
    simp +decide only [Text.writtenWith_append, htype, unit.writtenWith_name,
      unit.writtenWith_fieldName _ hfield, and_self]
  | setter =>
    rw [Accessor.prototype_setter]
    simp +decide only [Text.writtenWith_append, htype, unit.writtenWith_name,
      unit.writtenWith_fieldName _ hfield, and_self]

theorem writtenWith_statement (ha : a ∈ unit.accessors) : WrittenWith " ->=;" a.statement := by
  obtain ⟨field, hfield, kind, rfl⟩ := mem_accessors_iff.mp ha
  cases kind <;>
    simp +decide only [Accessor.statement_getter, Accessor.statement_setter,
      Text.writtenWith_append, unit.writtenWith_fieldName _ hfield, and_self]

theorem writtenWith_headerName (unit : Checked) : WrittenWith "." unit.headerName := by
  refine Text.writtenWith_append.mpr ⟨fun c hc => ?_, by decide⟩
  rw [lowerCase, String.toList_ofList] at hc
  obtain ⟨d, hd, rfl⟩ := List.mem_map.mp hc
  exact .inl (Identifier.isPart_toLower (Identifier.isPart_of_mem unit.name_faultless hd))

theorem writtenWith_of_mem_includeLines (h : line ∈ unit.includeLines) :
    WrittenWith " #<>." line := by
  unfold includeLines at h
  split at h
  · simp at h
  · rcases List.mem_append.mp h with h | h
    · obtain ⟨header, -, rfl⟩ := List.mem_map.mp h
      cases header <;> decide
    · rw [List.mem_singleton.mp h]
      decide

theorem writtenWith_memberLine (unit : Checked) (style : Style) {field : Field}
    (hfield : field ∈ unit.record.fields) : WrittenWith " *;" (memberLine style field) := by
  have hindentation : WrittenWith " *;" style.indentation :=
    style.writtenWith_indentation.mono (by decide)
  have htype : WrittenWith " *;" field.type.spelling :=
    field.type.writtenWith_spelling.mono (by decide)
  simp +decide only [memberLine, Text.writtenWith_append, hindentation, htype,
    unit.writtenWith_fieldName _ hfield, and_self]

theorem writtenWith_of_mem_typeLines (h : line ∈ unit.typeLines style) :
    WrittenWith " *;\x7b\x7d" line := by
  unfold typeLines at h
  split at h
  · rw [List.mem_singleton.mp h]
    simp +decide only [Text.writtenWith_append, unit.writtenWith_name, and_self]
  · simp only [List.mem_append, List.mem_singleton] at h
    rcases h with (rfl | h) | rfl
    · simp +decide only [Text.writtenWith_append, unit.writtenWith_name, and_self]
    · obtain ⟨field, hfield, rfl⟩ := List.mem_map.mp h
      exact (unit.writtenWith_memberLine style hfield).mono (by decide)
    · simp +decide only [Text.writtenWith_append, unit.writtenWith_name, and_self]

end Record.Checked

end Boilerplate
