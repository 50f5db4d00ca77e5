import Boilerplate.Proofs.Record.Prototypes

/-!
# What a header includes

The types of a header are written by one function, and the system headers that they need are found
by another, which never looks at what is written. Here the two are compared word by word. A word of
a type is a keyword of the language, which is always known, or it is declared by one of three system
headers, and then the type needs that header. Pointers add no word, and `const` is a keyword.

The lines of a header that include something are read off its text. They are those of the system
headers that some field needs, so everything that the types of the fields are named by is known.

## Main definitions

* `Identifier.wordsOf` — the words of a text
* `CType.keywords`, `SystemHeader.typeNames` — the words by which types are named
* `CType.IsBuiltIn` — the types that are named by such words alone
* `SystemHeader.isNamedIn` — whether a text names a type that a system header declares

## Main results

* `CType.needs_eq_isNamedIn` — a type needs the headers that declare its words
* `CType.mem_keywords_or_mem_typeNames` — the words of types
* `Record.Checked.filter_isSystemInclude_header` — the lines of a header that include something
* `Record.Checked.header_includes` — they cover what the types are named by
-/

namespace Boilerplate

/-! ### Words -/

namespace Identifier

/-- The words of a text: its longest runs of characters that can stand in identifiers. -/
def wordsOf (text : String) : List String :=
  ((text.toList.splitOnP fun c => !isPart c).filter (!·.isEmpty)).map String.ofList

/-- A character that can stand in no identifier ends the words before it. -/
theorem wordsOf_eq_append {text front back : String} {c : Char}
    (h : text.toList = front.toList ++ c :: back.toList) (hc : isPart c = false) :
    wordsOf text = wordsOf front ++ wordsOf back := by
  have hsplit : (front.toList ++ c :: back.toList).splitOnP (fun d => !isPart d) =
      front.toList.splitOnP (fun d => !isPart d) ++ back.toList.splitOnP (fun d => !isPart d) :=
    List.splitOnP_append_cons front.toList back.toList (by simp [hc])
  rw [wordsOf, h, hsplit, List.filter_append, List.map_append]
  rfl

end Identifier

open Identifier (wordsOf)

namespace SystemHeader

/-- The names of types that a system header declares, of those that fields may have. -/
def typeNames : SystemHeader → List String
  | stdbool => ["bool"]
  | stddef => ["size_t"]
  | stdint => ["int8_t", "int16_t", "int32_t", "int64_t",
      "uint8_t", "uint16_t", "uint32_t", "uint64_t"]

/-- Whether some word of a text is the name of a type that a system header declares. -/
def isNamedIn (header : SystemHeader) (text : String) : Bool :=
  (wordsOf text).any header.typeNames.contains

/-- The line that includes a system header. -/
def includeLine (header : SystemHeader) : String := "#include <" ++ header.fileName ++ ">"

end SystemHeader

namespace CType

variable {t : CType} {word : String}

/-- The keywords by which types are named. -/
def keywords : List String :=
  ["void", "char", "short", "int", "long", "float", "double", "signed", "unsigned", "const"]

/-- Whether a type is built from `void` and arithmetic types, by pointers and qualifiers. -/
def IsBuiltIn : CType → Prop
  | void => True
  | scalar _ => True
  | pointer target => target.IsBuiltIn
  | const base => base.IsBuiltIn
  | struct _ => False
  | named _ => False

theorem wordsOf_pointer (t : CType) : wordsOf (pointer t).spelling = wordsOf t.spelling := by
  have hspelling : (pointer t).spelling.toList = t.spelling.toList ++ '*' :: "".toList := by
    simp [spelling]
  have hempty : wordsOf "" = [] := by decide
  rw [Identifier.wordsOf_eq_append hspelling (by decide), hempty, List.append_nil]

theorem wordsOf_const (t : CType) : wordsOf (const t).spelling = "const" :: wordsOf t.spelling := by
  have hspelling : (const t).spelling.toList = "const".toList ++ ' ' :: t.spelling.toList := by
    simp [spelling]
  have hconst : wordsOf "const" = ["const"] := by decide
  rw [Identifier.wordsOf_eq_append hspelling (by decide), hconst, List.singleton_append]

/-- A type needs exactly the system headers that declare a word of it. -/
theorem needs_eq_isNamedIn (ht : t.IsBuiltIn) (header : SystemHeader) :
    t.needs header = header.isNamedIn t.spelling := by
  induction t with
  | void => cases header <;> decide
  | scalar kind => cases kind <;> cases header <;> decide
  | pointer target ih =>
    rw [SystemHeader.isNamedIn, wordsOf_pointer]
    exact ih ht
  | const base ih =>
    -- No header declares the word that the qualifier adds.
    have hconst : header.typeNames.contains "const" = false := by cases header <;> decide
    rw [SystemHeader.isNamedIn, wordsOf_const, List.any_cons, hconst, Bool.false_or]
    exact ih ht
  | struct _ => exact ht.elim
  | named _ => exact ht.elim

/-- The words of an arithmetic type are keywords, or else the one name that its header declares. -/
theorem mem_of_mem_wordsOf_scalar (kind : Scalar) : ∀ word ∈ wordsOf kind.spelling,
    word ∈ kind.header?.elim keywords SystemHeader.typeNames := by
  cases kind <;> decide

/-- A word of a type is a keyword, or else some system header declares it. -/
theorem mem_keywords_or_mem_typeNames (ht : t.IsBuiltIn) (hword : word ∈ wordsOf t.spelling) :
    word ∈ keywords ∨ ∃ header : SystemHeader, word ∈ header.typeNames := by
  induction t with
  | void =>
    have hvoid : wordsOf void.spelling = ["void"] := by decide
    rw [hvoid, List.mem_singleton] at hword
    exact .inl (hword ▸ List.mem_cons_self)
  | scalar kind =>
    have hmem := mem_of_mem_wordsOf_scalar kind word hword
    cases hheader : kind.header? with
    | none => exact .inl (by simpa [hheader] using hmem)
    | some header => exact .inr ⟨header, by simpa [hheader] using hmem⟩
  | pointer target ih =>
    rw [wordsOf_pointer] at hword
    exact ih ht hword
  | const base ih =>
    rw [wordsOf_const] at hword
    rcases List.mem_cons.mp hword with rfl | hword
    · exact .inl (by decide)
    · exact ih ht hword
  | struct _ => exact ht.elim
  | named _ => exact ht.elim

end CType

namespace FieldType

theorem isBuiltIn_cType (t : FieldType) : t.cType.IsBuiltIn := by
  rcases t with kind | (_ | _ | _ | kind) <;> trivial

/-- The type of a field needs exactly the system headers that declare a word of it. -/
theorem needs_cType (t : FieldType) (header : SystemHeader) :
    t.cType.needs header = header.isNamedIn t.spelling :=
  CType.needs_eq_isNamedIn t.isBuiltIn_cType header

end FieldType

/-! ### Lines -/

namespace Record.Checked

open Text (WrittenWith lines)

variable {unit : Checked} {style : Style} {a : Accessor} {line : String} {group : List String}

/-- Whether a line includes a header of the system. -/
def isSystemInclude (line : String) : Bool := "#include <".toList.isPrefixOf line.toList

theorem isSystemInclude_includeLine (header : SystemHeader) :
    isSystemInclude header.includeLine = true := by
  simp [isSystemInclude, SystemHeader.includeLine]

/-- A line without the sign of directives includes nothing. -/
theorem isSystemInclude_eq_false_of_not_mem (h : '#' ∉ line.toList) :
    isSystemInclude line = false := by
  rw [Bool.eq_false_iff]
  intro hinclude
  exact h ((List.isPrefixOf_iff_prefix.mp hinclude).subset (by simp))

/-- Whatever a guard starts with, its lines include nothing. -/
theorem filter_isSystemInclude_guard (guardName : String) :
    ["#ifndef " ++ guardName, "#define " ++ guardName, ""].filter isSystemInclude = [] ∧
      ["", "#endif /* " ++ guardName ++ " */"].filter isSystemInclude = [] := by
  simp [isSystemInclude]

theorem filter_isSystemInclude_eq_nil (h : ∀ line ∈ group, '#' ∉ line.toList) :
    group.filter isSystemInclude = [] := by
  rw [List.filter_eq_nil_iff]
  intro line hline
  rw [isSystemInclude_eq_false_of_not_mem (h line hline)]
  exact Bool.false_ne_true

/-- The lines that include the system headers are what they are meant to be, and the blank line
after them includes nothing. -/
theorem filter_isSystemInclude_includeLines (unit : Checked) :
    unit.includeLines.filter isSystemInclude = unit.systemHeaders.map SystemHeader.includeLine := by
  have hheaders (headers : List SystemHeader) :
      (headers.map SystemHeader.includeLine ++ [""]).filter isSystemInclude =
        headers.map SystemHeader.includeLine := by
    have hall : ∀ line ∈ headers.map SystemHeader.includeLine, isSystemInclude line = true := by
      rw [List.forall_mem_map]
      exact fun header _ => isSystemInclude_includeLine header
    rw [List.filter_append, List.filter_eq_self.mpr hall]
    exact List.append_nil _
  unfold includeLines
  split
  · rename_i hnone
    rw [hnone]
    rfl
  · exact hheaders unit.systemHeaders

/-- The lines of a header that include something are those of the headers that a field needs. -/
theorem filter_isSystemInclude_headerLines (unit : Checked) (style : Style) :
    (unit.headerLines style).filter isSystemInclude =
      unit.systemHeaders.map SystemHeader.includeLine := by
  obtain ⟨hstart, hend⟩ :=
    filter_isSystemInclude_guard (Frame.includeGuard unit.headerName style)
  have hbanner : (unit.banner style).filter isSystemInclude = [] :=
    filter_isSystemInclude_eq_nil fun _ h =>
      (writtenWith_of_mem_banner h).not_mem rfl (by decide)
  have htype : (unit.typeLines style).filter isSystemInclude = [] :=
    filter_isSystemInclude_eq_nil fun _ h =>
      (writtenWith_of_mem_typeLines h).not_mem rfl (by decide)
  have haccessors : (unit.accessors.flatMap declarationLines).filter isSystemInclude = [] := by
    apply filter_isSystemInclude_eq_nil
    intro line hline
    obtain ⟨a, ha, hline⟩ := List.mem_flatMap.mp hline
    exact (writtenWith_of_mem_declarationLines ha hline).not_mem rfl (by decide)
  rw [headerLines, Frame.guarded]
  simp only [List.filter_append, hbanner, hstart, hend, htype, haccessors,
    filter_isSystemInclude_includeLines, List.nil_append, List.append_nil]

theorem filter_isSystemInclude_header (unit : Checked) (hstart : '\n' ∉ style.guardPrefix.toList) :
    (lines (unit.header style)).filter isSystemInclude =
      unit.systemHeaders.map SystemHeader.includeLine := by
  -- Behind the last line feed of the text there is an empty line.
  rw [lines_header hstart, List.filter_append, filter_isSystemInclude_headerLines]
  exact List.append_nil _

/-- The headers that the fields need are those that declare a word of their types. -/
theorem systemHeaders_eq (unit : Checked) :
    unit.systemHeaders = [SystemHeader.stdbool, .stddef, .stdint].filter fun header =>
      unit.record.fields.any fun field => header.isNamedIn field.type.spelling := by
  simp only [systemHeaders, FieldType.needs_cType]

/-- Whatever the guards start with, as long as it is a single line, the lines of a header that
include something are in a fixed order, each at most once, those of the system headers that declare
a word of the type of a field. Every word of these types is a keyword, or it is declared by a system
header that is included. -/
theorem header_includes (unit : Checked) (hstart : '\n' ∉ style.guardPrefix.toList) :
    (lines (unit.header style)).filter isSystemInclude =
        ([SystemHeader.stdbool, .stddef, .stdint].filter fun header =>
          unit.record.fields.any fun field => header.isNamedIn field.type.spelling).map
            SystemHeader.includeLine ∧
      ∀ field ∈ unit.record.fields, ∀ word ∈ wordsOf field.type.spelling,
        word ∈ CType.keywords ∨ ∃ header : SystemHeader, word ∈ header.typeNames ∧
          header.includeLine ∈ lines (unit.header style) := by
  have hincludes := unit.filter_isSystemInclude_header hstart
  refine ⟨by rw [hincludes, systemHeaders_eq], ?_⟩
  intro field hfield word hword
  apply (CType.mem_keywords_or_mem_typeNames field.type.isBuiltIn_cType hword).imp_right
  intro ⟨header, hname⟩
  -- The field names the header, so the header is among those that are included.
  have hnamed : header.isNamedIn field.type.spelling = true :=
    List.any_eq_true.mpr ⟨word, hword, List.contains_iff_mem.mpr hname⟩
  have hheader : header ∈ unit.systemHeaders := by
    rw [systemHeaders_eq, List.mem_filter]
    exact ⟨by cases header <;> decide, List.any_eq_true.mpr ⟨field, hfield, hnamed⟩⟩
  have hline : header.includeLine ∈ (lines (unit.header style)).filter isSystemInclude :=
    hincludes ▸ List.mem_map_of_mem hheader
  exact ⟨header, hname, List.mem_of_mem_filter hline⟩

/-- A record with two fields that need the same header, one of them through a pointer. -/
def sized : Checked :=
  ⟨⟨"Block", [⟨"size", .scalar .size⟩, ⟨"used", .pointer (.scalar .size)⟩,
    ⟨"dirty", .scalar .bool⟩, ⟨"name", .pointer .borrowedString⟩]⟩, by decide⟩

/-- A style whose guards start like a line that includes a system header. -/
def misleading : Style := { guardPrefix := "#include <stdint.h>" }

/-- The header of that record includes two system headers once each, and none for the guard. -/
theorem header_includes_at_sized :
    '\n' ∉ misleading.guardPrefix.toList ∧
      (lines (sized.header misleading)).filter isSystemInclude =
        ["#include <stdbool.h>", "#include <stddef.h>"] := by
  have hstart : '\n' ∉ misleading.guardPrefix.toList := by decide
  have hnamed : ([SystemHeader.stdbool, .stddef, .stdint].filter fun header =>
      sized.record.fields.any fun field => header.isNamedIn field.type.spelling) =
        [.stdbool, .stddef] := by decide
  have hincludes := (sized.header_includes hstart).1
  rw [hnamed] at hincludes
  exact ⟨hstart, hincludes⟩

end Record.Checked

end Boilerplate
